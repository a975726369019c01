import VortexSim.Isa.Types

/-!
# Instruction effects

An evaluator changes nothing.  It returns an `InstructionEffects`, the description of
what the owners of registers, control state, memory and synchronisation are asked to do.
A pointer of the source is an `Option` here and a slice is a `List`.
-/

namespace VortexSim

/-! ## Inputs of the evaluators -/

/-- An optional view of the memory range that an access must stay in. -/
structure AddressBounds where
  base : Word
  size : BitVec 64
  deriving Repr, DecidableEq

/-- The end of the range.  A sum over 64 bits wraps. -/
def AddressBounds.stop (b : AddressBounds) : BitVec 64 := b.base.setWidth 64 + b.size

/-- The range ends in the address space. -/
def AddressBounds.valid (b : AddressBounds) : Bool :=
  decide (b.stop.toNat ≤ 2 ^ 32)

/-- The `width` bytes from `address` on lie in the range. -/
def AddressBounds.contains (b : AddressBounds) (address : Word) (width : Nat) : Bool :=
  let start := address.toNat
  let stop := start + width
  decide (stop ≤ 2 ^ 32) && decide (b.base.toNat ≤ start) && decide (stop ≤ b.stop.toNat)

/-- What the integer evaluator sees of a warp. -/
structure IntegerInput where
  pc : Word
  activeMask : LaneMask
  rs1 : LaneValues
  rs2 : LaneValues
  bounds : Option AddressBounds

/-- What the float evaluator sees of a warp. -/
structure FloatInput where
  pc : Word
  activeMask : LaneMask
  rs1 : LaneValues
  rs2 : LaneValues
  rs3 : LaneValues
  frm : RoundingMode
  bounds : Option AddressBounds

/-- The one stack row a JOIN addresses. -/
structure DivergenceRecordView where
  valid : Bool := false
  pointer : Nat := 0
  originalMask : LaneMask := 0#8
  nextPC : Word := 0#32
  elseVisited : Bool := false
  deriving Repr, DecidableEq

/-- What a custom instruction sees of the divergence stack. -/
structure DivergenceView where
  writePointer : Nat := 0
  record : DivergenceRecordView := {}
  deriving Repr, DecidableEq

/-- What the custom evaluator sees of a warp. -/
structure CustomInput where
  pc : Word
  activeMask : LaneMask
  rs1 : LaneValues
  rs2 : LaneValues
  rs3 : LaneValues
  warpID : Nat
  mscratch : Word
  divergence : DivergenceView
  barrierPhase : Bool
  pendingPriorWork : Bool
  pendingLSU : Bool
  bounds : Option AddressBounds

/-! ## Register, control and memory effects -/

/-- One masked register write.  Byte mask zero stands for the full word. -/
structure RegisterWriteEffect where
  byteMask : BitVec 8 := 0#8
  destination : Register
  mask : LaneMask
  values : LaneValues
  deriving DecidableEq

/-- Why the PC changes. -/
inductive PCReason where
  | sequential
  | branch
  | jump
  | trap
  | trapReturn
  | reconverge
  | unknown (raw : Nat)
  deriving Repr, DecidableEq

/-- The next PC with the choice behind it. -/
structure ControlEffect where
  reason : PCReason
  currentPC : Word
  nextPC : Word
  target : Word := 0#32
  taken : Bool := false
  decisionLane : Nat := 0
  deriving Repr, DecidableEq

/-- The faults of an access or a jump. -/
inductive FaultKind where
  | none
  | instructionAddressMisaligned
  | loadAddressMisaligned
  | storeAddressMisaligned
  | loadAccess
  | storeAccess
  | unknown (raw : Nat)
  deriving Repr, DecidableEq

/-- What a fault comes from. -/
inductive FaultReason where
  | none
  | alignment
  | bounds
  | memoryService
  deriving Repr, DecidableEq

/-- A fault of one lane. -/
structure FaultEffect where
  kind : FaultKind
  reason : FaultReason
  lane : Nat
  address : Word
  width : Nat
  deriving Repr, DecidableEq

/-- The access of one lane. -/
structure MemoryRequest where
  lane : Nat
  kind : MemoryKind
  address : Word
  alignedAddress : Word
  width : Nat
  signed : Bool := false
  byteMask : BitVec 8
  storeData : Word := 0#32
  deriving Repr, DecidableEq

/-- The answer to one request. -/
structure MemoryResponse where
  request : MemoryRequest
  data : Word := 0#32
  fault : FaultKind := .none
  reason : FaultReason := .none
  deriving Repr, DecidableEq

/-- The I/O/R/W sets of a fence. -/
structure OrderingEffect where
  predecessor : BitVec 8
  successor : BitVec 8
  deriving Repr, DecidableEq

/-- Sticky accumulation of exception flags. -/
structure FFlagsEffect where
  accumulate : BitVec 8
  deriving Repr, DecidableEq

/-! ## CSR and trap effects -/

/-- The owner of a CSR. -/
inductive CSRScope where
  | constant
  | lane
  | warp
  | cta
  | core
  | counter
  deriving Repr, DecidableEq

/-- The constant of the source. -/
def CSRScope.raw : CSRScope → Nat
  | .constant => 0
  | .lane => 1
  | .warp => 2
  | .cta => 3
  | .core => 4
  | .counter => 5

/-- A CSR read with the values it showed. -/
structure CSRReadEffect where
  address : Nat
  scope : CSRScope
  values : LaneValues
  deriving DecidableEq

/-- A CSR write with the value it replaces. -/
structure CSRWriteEffect where
  address : Nat
  scope : CSRScope
  warpID : Nat
  oldValue : Word
  value : Word
  writeMask : Word
  ignored : Bool
  deriving Repr, DecidableEq

/-- The write goes to the storage of the warp, or nowhere. -/
def CSRWriteEffect.isLocal (write : CSRWriteEffect) : Bool :=
  decide (write.scope = .warp) || (decide (write.scope = .constant) && write.ignored)

/-- Entry or return. -/
inductive TrapKind where
  | enter
  | return
  | unknown (raw : Nat)
  deriving Repr, DecidableEq

/-- A trap with the masks it saves or restores. -/
structure TrapEffect where
  kind : TrapKind
  cause : Word := 0#32
  epc : Word
  vector : Word := 0#32
  saveThreadMask : LaneMask := 0#8
  restoreThreadMask : LaneMask := 0#8
  restoresThreadMask : Bool := false
  deriving Repr, DecidableEq

/-! ## Warp, divergence and barrier effects -/

/-- The instruction behind a mask replacement. -/
inductive WarpMaskReason where
  | tmc
  | predicate
  | split
  | join
  | unknown (raw : Nat)
  deriving Repr, DecidableEq

/-- A new thread mask. -/
structure WarpMaskEffect where
  warpID : Nat
  reason : WarpMaskReason
  mask : LaneMask
  active : Bool
  deriving Repr, DecidableEq

/-- A request to start other warps. -/
structure WarpSpawnEffect where
  sourceWarp : Nat
  requestedCount : Nat
  targets : WarpMask
  targetPC : Word
  initialLaneMask : LaneMask
  copyMScratch : Bool
  mscratch : Word
  requiresSingleActiveWarp : Bool
  releaseSourceAfterApply : Bool
  deriving Repr, DecidableEq

/-- The two instructions on the stack. -/
inductive DivergenceAction where
  | split
  | join
  | unknown (raw : Nat)
  deriving Repr, DecidableEq

/-- What a SPLIT or JOIN does to the divergence stack. -/
structure DivergenceEffect where
  action : DivergenceAction
  warpID : Nat
  stackPointer : Nat
  divergent : Bool := false
  originalMask : LaneMask
  executeMask : LaneMask := 0#8
  deferredMask : LaneMask := 0#8
  reconvergencePC : Word := 0#32
  push : Bool := false
  markElseVisited : Bool := false
  pop : Bool := false
  deriving Repr, DecidableEq

/-- What a warp waits for. -/
inductive WarpDrainKind where
  | priorInstructions
  | lsu
  | unknown (raw : Nat)
  deriving Repr, DecidableEq

/-- A wait for work under way. -/
structure WarpDrainEffect where
  warpID : Nat
  kind : WarpDrainKind
  wait : Bool
  releaseAfterDrain : Bool
  deriving Repr, DecidableEq

/-- A request to a barrier coordinator. -/
structure BarrierEffect where
  warpID : Nat
  addressWarp : Nat
  id : Nat
  kind : BarrierKind
  isGlobal : Bool := false
  sync : Bool := false
  arrive : Bool := false
  wait : Bool := false
  releaseByCoordinator : Bool := false
  event : Bool := false
  expectCount : Nat := 0
  participantCount : Nat := 0
  sizeMinusOne : Nat := 0
  phase : Bool := false
  drainLSU : Bool := false
  deriving Repr, DecidableEq

/-- The access of one element of a packed load. -/
structure PackedLoadRequest where
  lane : Nat
  element : Nat
  address : Word
  alignedAddress : Word
  width : Nat
  deriving Repr, DecidableEq

/-- The answer to one element. -/
structure PackedLoadResponse where
  request : PackedLoadRequest
  data : Word := 0#32
  fault : FaultKind := .none
  reason : FaultReason := .none
  deriving Repr, DecidableEq

/-- Everything one instruction asks its owners to do. -/
structure InstructionEffects where
  registerWrites : List RegisterWriteEffect := []
  control : Option ControlEffect := none
  memoryRequests : List MemoryRequest := []
  ordering : Option OrderingEffect := none
  fflags : Option FFlagsEffect := none
  csrReads : List CSRReadEffect := []
  csrWrites : List CSRWriteEffect := []
  trap : Option TrapEffect := none
  warpMasks : List WarpMaskEffect := []
  warpSpawn : Option WarpSpawnEffect := none
  divergence : Option DivergenceEffect := none
  warpDrains : List WarpDrainEffect := []
  barriers : List BarrierEffect := []
  packedLoads : List PackedLoadRequest := []
  faults : List FaultEffect := []
  deriving DecidableEq

end VortexSim
