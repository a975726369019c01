import VortexSim.Lib.Checked
import VortexSim.Isa.Effects

/-!
# The architectural state of one warp

`WarpState` is the sole owner of the lane and warp scoped state: PC, active mask,
lifecycle, FCSR, trap CSRs, the divergence stack and both register files of the four
lanes.  This module has its constructor `newWarp`, its setters and its readers.  The
effect pipeline that changes it instruction by instruction is in `State.Apply`.

A method of the source that mutates the receiver returns the new state, and a method that
fails returns the error and no state.
-/

namespace VortexSim

open Checked

/-- `FrozenDivergenceDepth`: rows of the divergence stack. -/
abbrev frozenDivergenceDepth : Nat := 3

instance : NeZero frozenDivergenceDepth := ⟨by decide⟩

/-! ## State -/

/-- Whether a warp runs. -/
inductive WarpLifecycle where
  | inactive
  | running
  | unknown (raw : Nat)
  deriving Repr, DecidableEq

/-- The lifecycle an active flag stands for. -/
def lifecycleFor (active : Bool) : WarpLifecycle :=
  if active then .running else .inactive

/-- The CSRs of traps. -/
structure TrapCSRState where
  mstatus : Word := 0#32
  mtvec : Word := 0#32
  mscratch : Word := 0#32
  mepc : Word := 0#32
  mcause : Word := 0#32
  mtval : Word := 0#32
  deriving Repr, DecidableEq

/-- The registers of one lane. -/
structure LaneState where
  gpr : Fin frozenRegisterCount → Word := fun _ => 0#32
  fpr : Fin frozenRegisterCount → Word := fun _ => 0#32
  deriving DecidableEq

/-- The index of a register in its array.  The source indexes only after validation. -/
def regIndex (index : Nat) : Fin frozenRegisterCount := Fin.ofNat frozenRegisterCount index

/-- A row of the divergence stack. -/
structure DivergenceRecord where
  valid : Bool := false
  originalMask : LaneMask := 0#8
  nextPC : Word := 0#32
  elseVisited : Bool := false
  deriving Repr, DecidableEq

/-- The stack of open SPLITs. -/
structure DivergenceState where
  writePointer : Nat := 0
  records : Fin frozenDivergenceDepth → DivergenceRecord := fun _ => {}
  deriving DecidableEq

variable (d : DivergenceState) (pointer : Nat)

/-- The row at a pointer, the empty row above the capacity. -/
def DivergenceState.row : DivergenceRecord :=
  if h : pointer < frozenDivergenceDepth then d.records ⟨pointer, h⟩ else {}

/-- Replace the row at a pointer. -/
def DivergenceState.setRow (record : DivergenceRecord) : DivergenceState :=
  { d with records := fun i => if i.val = pointer then record else d.records i }

/-- Push a row at a pointer. -/
def DivergenceState.push (record : DivergenceRecord) : DivergenceState :=
  { d.setRow pointer record with writePointer := d.writePointer + 1 }

/-- Mark the row at a pointer as visited by its deferred lanes. -/
def DivergenceState.visitElse : DivergenceState :=
  d.setRow pointer { d.row pointer with elseVisited := true }

/-- Clear the row at a pointer and lower the write pointer. -/
def DivergenceState.pop : DivergenceState :=
  { d.setRow pointer {} with writePointer := d.writePointer - 1 }

/-- The architectural state of one warp. -/
structure WarpState where
  id : Nat
  pc : Word
  activeMask : LaneMask
  lifecycle : WarpLifecycle
  savedThreadMask : LaneMask
  fcsr : BitVec 8
  trapCSRs : TrapCSRState
  divergence : DivergenceState
  lanes : Lane → LaneState
  deriving DecidableEq

/-! ## Construction -/

/-- The sizes that a warp is built for. -/
structure Topology where
  laneCount : Nat
  warpCount : Nat
  coreCount : Nat
  registerCount : Nat
  divergenceDepth : Nat
  deriving Repr, DecidableEq

/-- The text of a topology, as `%+v` writes it. -/
instance : ToString Topology where
  toString t := s!"\x7bLaneCount:{t.laneCount} WarpCount:{t.warpCount} CoreCount:{t.coreCount}" ++
    s!" RegisterCount:{t.registerCount} DivergenceDepth:{t.divergenceDepth}\x7d"

/-- The only topology the package accepts. -/
def frozenTopology : Topology where
  laneCount := frozenLaneCount
  warpCount := frozenWarpCount
  coreCount := 1
  registerCount := frozenRegisterCount
  divergenceDepth := frozenDivergenceDepth

/-- Registers of a lane to start with. -/
structure LaneInitial where
  id : Nat
  gpr : Fin frozenRegisterCount → Word
  fpr : Fin frozenRegisterCount → Word

/-- A row to start with. -/
structure DivergenceRecordInitial where
  pointer : Nat
  originalMask : LaneMask
  nextPC : Word
  elseVisited : Bool

/-- A stack to start with. -/
structure DivergenceInitial where
  writePointer : Nat := 0
  records : List DivergenceRecordInitial := []

/-- What `newWarp` is given. -/
structure WarpInitial where
  topology : Topology
  warpID : Nat
  pc : Word
  activeMask : LaneMask
  lifecycle : WarpLifecycle
  savedThreadMask : LaneMask
  fcsr : Word
  trapCSRs : TrapCSRState
  divergence : DivergenceInitial
  lanes : List LaneInitial

/-- A PC or a jump target that is not a multiple of four. -/
def misaligned (pc : Word) : Prop := pc &&& 3#32 ≠ 0#32

instance (pc : Word) : Decidable (misaligned pc) := inferInstanceAs (Decidable (_ ≠ _))

theorem misaligned_iff (pc : Word) : misaligned pc ↔ pc.toNat % 4 ≠ 0 := by
  have hlow : (pc &&& 3#32).toNat = pc.toNat % 4 := by
    exact Nat.and_two_pow_sub_one_eq_mod pc.toNat 2
  rw [misaligned, ← hlow, ne_eq, ← BitVec.toNat_inj]
  rfl

def validateLifecycle (lifecycle : WarpLifecycle) (mask : LaneMask) : Except Error Unit :=
  match lifecycle with
  | .inactive =>
    rejectIf (mask ≠ 0#8) (.text s!"state: inactive warp has nonzero active mask {hex mask.toNat}")
  | .running =>
    rejectIf (mask = 0#8) (.text "state: running warp has an empty active mask")
  | .unknown raw => .error (.text s!"state: unknown warp lifecycle {raw}")

/-- Install one initial row, refusing a row outside the live prefix or a second one. -/
def makeDivergenceRow (writePointer : Nat) (result : DivergenceState)
    (record : DivergenceRecordInitial) : Except Error DivergenceState := do
  rejectIf (writePointer ≤ record.pointer ∨ frozenDivergenceDepth ≤ record.pointer ∨
      (result.row record.pointer).valid = true)
    (.text (s!"state: divergence record pointer {record.pointer}" ++
      " is out of the live prefix or duplicated"))
  rejectIf (¬ record.originalMask.Valid ∨ record.originalMask = 0#8)
    (.text (s!"state: divergence record {record.pointer} has invalid original mask " ++
      hex record.originalMask.toNat))
  rejectIf (misaligned record.nextPC)
    (.text (s!"state: divergence record {record.pointer} PC {hex record.nextPC.toNat}" ++
      " is not four-byte aligned"))
  pure (result.setRow record.pointer
    { valid := true, originalMask := record.originalMask
      nextPC := record.nextPC, elseVisited := record.elseVisited })

/-- The stack from its rows. -/
def makeDivergence (initial : DivergenceInitial) : Except Error DivergenceState := do
  rejectIf (frozenDivergenceDepth < initial.writePointer)
    (.text (s!"state: divergence write pointer {initial.writePointer}" ++
      s!" exceeds full pointer {frozenDivergenceDepth}"))
  rejectIf (initial.records.length ≠ initial.writePointer)
    (.text (s!"state: divergence pointer {initial.writePointer} requires" ++
      s!" {initial.writePointer} live records, got {initial.records.length}"))
  let result ← foldEach (fun _ => makeDivergenceRow initial.writePointer) 0
    { writePointer := initial.writePointer } initial.records
  each (fun _ pointer => rejectIf ((result.row pointer).valid = false)
      (.text s!"state: divergence live prefix is missing record {pointer}"))
    0 (List.range initial.writePointer)
  pure result

/-- The lanes installed so far, with the identities already seen. -/
structure LaneLoad where
  seen : Lane → Bool := fun _ => false
  lanes : Lane → LaneState := fun _ => {}

/-- Load the registers of a lane. -/
def loadLane (load : LaneLoad) (lane : LaneInitial) : Except Error LaneLoad :=
  if h : lane.id < frozenLaneCount then do
    rejectIf (load.seen ⟨lane.id, h⟩ = true)
      (.text s!"state: lane id {lane.id} is out of range or duplicated")
    rejectIf (lane.gpr 0 ≠ 0#32)
      (.text (s!"state: lane {lane.id} initializes integer x0 to nonzero value " ++
        hex (lane.gpr 0).toNat))
    pure { seen := Function.update load.seen ⟨lane.id, h⟩ true
           lanes := Function.update load.lanes ⟨lane.id, h⟩ { gpr := lane.gpr, fpr := lane.fpr } }
  else .error (.text s!"state: lane id {lane.id} is out of range or duplicated")

/-- `NewWarp`: validate and copy a complete initial state. -/
def newWarp (initial : WarpInitial) : Except Error WarpState := do
  rejectIf (initial.topology ≠ frozenTopology)
    (.text (s!"state: topology {initial.topology} does not match frozen topology" ++
      s!" {frozenTopology}"))
  rejectIf (frozenWarpCount ≤ initial.warpID)
    (.text s!"state: warp id {initial.warpID} exceeds frozen warp count")
  rejectIf (misaligned initial.pc)
    (.text s!"state: PC {hex initial.pc.toNat} is not four-byte aligned")
  rejectIf (¬ initial.activeMask.Valid ∨ ¬ initial.savedThreadMask.Valid)
    (.text "state: lane mask exceeds frozen lane count")
  validateLifecycle initial.lifecycle initial.activeMask
  rejectIf (initial.fcsr &&& ~~~0xff#32 ≠ 0#32)
    (.text s!"state: FCSR {hex initial.fcsr.toNat} exceeds the frozen eight-bit storage")
  rejectIf (initial.lanes.length ≠ frozenLaneCount)
    (.text s!"state: got {initial.lanes.length} lane initializers, want {frozenLaneCount}")
  let divergence ← makeDivergence initial.divergence
  let load ← foldEach (fun _ => loadLane) 0 {} initial.lanes
  pure {
    id := initial.warpID, pc := initial.pc, activeMask := initial.activeMask
    lifecycle := initial.lifecycle, savedThreadMask := initial.savedThreadMask
    fcsr := initial.fcsr.setWidth 8, trapCSRs := initial.trapCSRs
    divergence := divergence, lanes := load.lanes }

/-! ## Registers -/

def validateRegister (register : Register) : Except String Unit := do
  rejectIf (frozenRegisterCount ≤ register.index)
    s!"state: register index {register.index} exceeds architectural register count"
  match register.file with
  | .integer | .float => pure ()
  | .unknown raw => .error s!"state: unknown register namespace {raw}"

/-- All lanes of one register.  Integer register zero reads as zero. -/
def WarpState.readRegister (w : WarpState) (register : Register) : LaneValues := fun lane =>
  if register.file = .integer then
    if register.index ≠ 0 then (w.lanes lane).gpr (regIndex register.index) else 0#32
  else (w.lanes lane).fpr (regIndex register.index)

/-- Replace a register in one lane. -/
def LaneState.set (l : LaneState) (register : Register) (value : Word) : LaneState :=
  if register.file = .integer then
    { l with gpr := Function.update l.gpr (regIndex register.index) value }
  else { l with fpr := Function.update l.fpr (regIndex register.index) value }

/-- The array entry of a register in one lane. -/
def LaneState.get (l : LaneState) (register : Register) : Word :=
  if register.file = .integer then l.gpr (regIndex register.index)
  else l.fpr (regIndex register.index)

namespace WarpState

variable (w : WarpState)

/-- Change the lanes a mask selects. -/
def mapLanes (mask : LaneMask) (f : Lane → LaneState → LaneState) : WarpState :=
  { w with lanes := fun lane => if mask.active lane then f lane (w.lanes lane) else w.lanes lane }

def writeRegister (register : Register) (mask : LaneMask) (values : LaneValues) :
    Except Error WarpState := do
  (validateRegister register).mapError .text
  rejectIf (¬ mask.Valid)
    (.text s!"state: register write mask {hex mask.toNat} exceeds frozen lanes")
  if register.file = .integer ∧ register.index = 0 then pure w
  else pure (w.mapLanes mask fun lane l => l.set register (values lane))

/-! ## Setters -/

def setPC (pc : Word) : Except Error WarpState := do
  rejectIf (misaligned pc) (.text s!"state: PC {hex pc.toNat} is not four-byte aligned")
  pure { w with pc := pc }

def setActiveMask (mask : LaneMask) (lifecycle : WarpLifecycle) : Except Error WarpState := do
  rejectIf (¬ mask.Valid) (.text s!"state: active mask {hex mask.toNat} exceeds frozen lanes")
  validateLifecycle lifecycle mask
  pure { w with activeMask := mask, lifecycle := lifecycle }

def setSavedThreadMask (mask : LaneMask) : Except Error WarpState := do
  rejectIf (¬ mask.Valid) (.text s!"state: saved thread mask {hex mask.toNat} exceeds frozen lanes")
  pure { w with savedThreadMask := mask }

def setFCSR (value : Word) : Except Error WarpState := do
  rejectIf (value &&& ~~~0xff#32 ≠ 0#32)
    (.text s!"state: FCSR {hex value.toNat} exceeds the frozen eight-bit storage")
  pure { w with fcsr := value.setWidth 8 }

def setTrapCSRs (value : TrapCSRState) : WarpState := { w with trapCSRs := value }

def setDivergence (initial : DivergenceInitial) : Except Error WarpState := do
  let value ← makeDivergence initial
  pure { w with divergence := value }

end WarpState

end VortexSim
