import VortexSim.Lib.Checked
import VortexSim.Isa.Csr

/-!
# Integer evaluator

`evaluateInteger` computes the effects of an RV32I, RV32M, Zicond or fence instruction,
`evaluateMemory` the request side of a load or store and `completeMemory` its response
side.  None of them changes any state.
-/

namespace VortexSim

open Checked

/-- An error of the evaluators. -/
def evalError (decoded : Decoded) (problem : String) : Error :=
  .evaluation decoded.name problem

/-- On to the next instruction. -/
def sequentialControl (pc : Word) : ControlEffect :=
  { reason := .sequential, currentPC := pc, nextPC := pc + 4#32 }

/-- The first destination receives the values, unless there is nothing to write. -/
def appendRegisterWrite (effects : InstructionEffects) (decoded : Decoded) (mask : LaneMask)
    (values : LaneValues) : InstructionEffects :=
  match decoded.destinations with
  | [] => effects
  | destination :: _ =>
    if mask = 0#8 then effects
    else if destination.file = .integer ∧ destination.index = 0 then effects
    else
      { effects with
        registerWrites := effects.registerWrites ++ [{ destination, mask, values }] }

/-- The decision lane of a warp-wide choice: the highest active one. -/
def highestActiveLane (mask : LaneMask) : Option Lane :=
  ([3, 2, 1, 0] : List Lane).find? fun lane : Lane => mask.active lane

/-- A flag as a register value. -/
def boolWord (value : Bool) : Word := if value then 1#32 else 0#32

/-! ## Arithmetic -/

/-- The high word of a signed product. -/
def highSignedSigned (a b : Word) : Word :=
  ((a.signExtend 64 * b.signExtend 64) >>> 32).setWidth 32

/-- The high word of a product with an unsigned factor. -/
def highSignedUnsigned (a b : Word) : Word :=
  ((a.signExtend 64 * b.setWidth 64) >>> 32).setWidth 32

/-- DIV. -/
def divideSigned (a b : Word) : Word :=
  if b = 0#32 then 0xffffffff#32
  else if a = 0x80000000#32 ∧ b = 0xffffffff#32 then a
  else a.sdiv b

/-- DIVU. -/
def divideUnsigned (a b : Word) : Word :=
  if b = 0#32 then 0xffffffff#32 else a / b

/-- REM. -/
def remainderSigned (a b : Word) : Word :=
  if b = 0#32 then a
  else if a = 0x80000000#32 ∧ b = 0xffffffff#32 then 0#32
  else a.srem b

/-- REMU. -/
def remainderUnsigned (a b : Word) : Word :=
  if b = 0#32 then a else a % b

/-- One lane of an arithmetic instruction, `none` for a name without such semantics. -/
def aluLane (name : Mnemonic) (pc a b imm : Word) : Option Word :=
  match name with
  | .lui => some imm
  | .auipc => some (pc + imm)
  | .addi => some (a + imm)
  | .slti => some (boolWord (a.slt imm))
  | .sltiu => some (boolWord (a.ult imm))
  | .xori => some (a ^^^ imm)
  | .ori => some (a ||| imm)
  | .andi => some (a &&& imm)
  | .slli => some (a <<< (imm &&& 31#32))
  | .srli => some (a >>> (imm &&& 31#32))
  | .srai => some (a.sshiftRight (imm &&& 31#32).toNat)
  | .add => some (a + b)
  | .sub => some (a - b)
  | .sll => some (a <<< (b &&& 31#32))
  | .slt => some (boolWord (a.slt b))
  | .sltu => some (boolWord (a.ult b))
  | .xor => some (a ^^^ b)
  | .srl => some (a >>> (b &&& 31#32))
  | .sra => some (a.sshiftRight (b &&& 31#32).toNat)
  | .or => some (a ||| b)
  | .and => some (a &&& b)
  | .mul => some ((a.setWidth 64 * b.setWidth 64).setWidth 32)
  | .mulh => some (highSignedSigned a b)
  | .mulhsu => some (highSignedUnsigned a b)
  | .mulhu => some (((a.setWidth 64 * b.setWidth 64) >>> 32).setWidth 32)
  | .div => some (divideSigned a b)
  | .divu => some (divideUnsigned a b)
  | .rem => some (remainderSigned a b)
  | .remu => some (remainderUnsigned a b)
  | .czeroEqz => some (if b ≠ 0#32 then a else 0#32)
  | .czeroNez => some (if b = 0#32 then a else 0#32)
  | _ => none

variable (decoded : Decoded) (input : IntegerInput)

/-- The result of every active lane, and whether each of them was known. -/
def evaluateALULanes : LaneValues × Bool :=
  let laneResult (lane : Lane) : Option Word :=
    aluLane decoded.name input.pc (input.rs1 lane) (input.rs2 lane) decoded.immediate
  (fun lane => if input.activeMask.active lane then (laneResult lane).getD 0#32 else 0#32,
    (List.finRange frozenLaneCount).all fun lane : Lane =>
      !input.activeMask.active lane || (laneResult lane).isSome)

/-! ## Branches and jumps -/

/-- The condition of a branch, `none` for another name. -/
def branchTaken (name : Mnemonic) (a b : Word) : Option Bool :=
  match name with
  | .beq => some (a == b)
  | .bne => some (a != b)
  | .blt => some (a.slt b)
  | .bge => some (!a.slt b)
  | .bltu => some (a.ult b)
  | .bgeu => some (!a.ult b)
  | _ => none

/-- The fault of a jump to an address that is not aligned. -/
def misalignedTarget (lane : Lane) (target : Word) : InstructionEffects :=
  { faults := [{ kind := .instructionAddressMisaligned, reason := .alignment, lane := lane.val,
                 address := target, width := 4 }] }

/-- JAL adds to the PC, JALR to a register. -/
def jumpTarget (lane : Lane) : Word :=
  if decoded.name = .jal then input.pc + decoded.immediate
  else (input.rs1 lane + decoded.immediate) &&& ~~~1#32

/-- A jump stores the address after it. -/
def evaluateJump (lane : Lane) : InstructionEffects :=
  let target := jumpTarget decoded input lane
  if target &&& 3#32 ≠ 0#32 then misalignedTarget lane target
  else
    { appendRegisterWrite {} decoded input.activeMask (filledValues (input.pc + 4#32)) with
      control := some { reason := .jump, currentPC := input.pc, nextPC := target, target,
                        taken := true, decisionLane := lane.val } }

/-- A branch of the whole warp, decided by one lane. -/
def evaluateBranch (lane : Lane) : Except Error InstructionEffects :=
  let target := input.pc + decoded.immediate
  match branchTaken decoded.name (input.rs1 lane) (input.rs2 lane) with
  | none => .error (evalError decoded "unknown branch operation")
  | some true =>
    if target &&& 3#32 ≠ 0#32 then .ok (misalignedTarget lane target)
    else
      .ok { control := some { reason := .branch, currentPC := input.pc, nextPC := target, target,
                              taken := true, decisionLane := lane.val } }
  | some false =>
    .ok { control := some { reason := .branch, currentPC := input.pc, nextPC := input.pc + 4#32,
                            target, taken := false, decisionLane := lane.val } }

/-- Branches and jumps follow the highest active lane. -/
def evaluateControl : Except Error InstructionEffects :=
  match highestActiveLane input.activeMask with
  | none => .error (evalError decoded "control instruction requires an active lane")
  | some lane =>
    if decoded.control = .jump then .ok (evaluateJump decoded input lane)
    else evaluateBranch decoded input lane

/-! ## Memory requests -/

/-- The access leaves the memory view, where there is one. -/
def outOfBounds (bounds : Option AddressBounds) (address : Word) (width : Nat) : Bool :=
  match bounds with
  | none => false
  | some bounds => !bounds.contains address width

/-- The request of one active lane, or its fault. -/
def memoryLane (lane : Lane) : Except FaultEffect MemoryRequest :=
  let address := input.rs1 lane + decoded.immediate
  let width := decoded.memory.bytes
  if address.toNat % width ≠ 0 then
    .error { kind := if decoded.memory.kind = .store then .storeAddressMisaligned
                     else .loadAddressMisaligned,
             reason := .alignment, lane := lane.val, address, width }
  else if outOfBounds input.bounds address width then
    .error { kind := if decoded.memory.kind = .store then .storeAccess else .loadAccess,
             reason := .bounds, lane := lane.val, address, width }
  else
    let laneOffset := (address &&& 3#32).toNat
    .ok { lane := lane.val, kind := decoded.memory.kind, address,
          alignedAddress := address &&& ~~~3#32, width, signed := decoded.memory.signed,
          byteMask := BitVec.ofNat 8 (2 ^ width - 1) <<< laneOffset,
          storeData := if decoded.memory.kind = .store then input.rs2 lane <<< (8 * laneOffset)
                       else 0#32 }

/-- The active lanes in ascending order. -/
def LaneMask.lanes (mask : LaneMask) : List Lane :=
  (List.finRange frozenLaneCount).filter fun lane : Lane => mask.active lane

/-- The faults among per-access outcomes. -/
def faultsOf {ρ : Type} (outcomes : List (Except FaultEffect ρ)) : List FaultEffect :=
  outcomes.filterMap fun outcome =>
    match outcome with
    | .error fault => some fault
    | .ok _ => none

/-- The requests among per-access outcomes. -/
def requestsOf {ρ : Type} (outcomes : List (Except FaultEffect ρ)) : List ρ :=
  outcomes.filterMap fun outcome =>
    match outcome with
    | .error _ => none
    | .ok request => some request

/-- A fault in any lane suppresses every request. -/
def evaluateMemory : Except Error InstructionEffects :=
  if decoded.memory.bytes ≠ 1 ∧ decoded.memory.bytes ≠ 2 ∧ decoded.memory.bytes ≠ 4 then
    .error (evalError decoded "unsupported integer memory width")
  else
    let outcomes := input.activeMask.lanes.map (memoryLane decoded input)
    if faultsOf outcomes ≠ [] then .ok { faults := faultsOf outcomes }
    else .ok { memoryRequests := requestsOf outcomes }

/-! ## Memory responses -/

/-- A loaded value in a register. -/
def extendLoad (value : Word) (width : Nat) (signed : Bool) : Word :=
  match width with
  | 1 => if signed then (value.setWidth 8).signExtend 32 else value &&& 0xff#32
  | 2 => if signed then (value.setWidth 16).signExtend 32 else value &&& 0xffff#32
  | _ => value

/-- What the response loop has collected. -/
structure ResponseScan where
  faults : List FaultEffect := []
  values : LaneValues := fun _ => 0#32
  mask : LaneMask := 0#8
  seen : LaneMask := 0#8

/-- The reason of a fault response: an unset one is the memory service. -/
def serviceReason (reason : FaultReason) : FaultReason :=
  if reason = .none then .memoryService else reason

/-- A fault answers a load with a load access fault and a store with a store access fault. -/
def incompatibleFault (kind : MemoryKind) (fault : FaultKind) : Bool :=
  (decide (kind = .load) && decide (fault ≠ .loadAccess)) ||
    (decide (kind = .store) && decide (fault ≠ .storeAccess))

/-- One response, checked against the instruction. -/
def scanResponse (scan : ResponseScan) (response : MemoryResponse) : Except Error ResponseScan :=
  let request := response.request
  if h : request.lane < frozenLaneCount then do
    rejectIf (scan.seen.active request.lane)
      (evalError decoded "duplicate or invalid memory response lane")
    rejectIf (request.kind ≠ decoded.memory.kind ∨ request.width ≠ decoded.memory.bytes ∨
        request.signed ≠ decoded.memory.signed)
      (evalError decoded "memory response does not match decoded operation")
    let scan := { scan with seen := scan.seen ||| 1#8 <<< request.lane }
    if response.fault ≠ .none then do
      rejectIf (incompatibleFault decoded.memory.kind response.fault)
        (evalError decoded "memory response has incompatible fault kind")
      pure { scan with
        faults := scan.faults ++
          [{ kind := response.fault, reason := serviceReason response.reason,
             lane := request.lane, address := request.address, width := request.width }] }
    else if decoded.memory.kind = .load then
      pure { scan with
        values := Function.update scan.values ⟨request.lane, h⟩
          (extendLoad response.data request.width request.signed)
        mask := scan.mask ||| 1#8 <<< request.lane }
    else pure scan
  else .error (evalError decoded "duplicate or invalid memory response lane")

/-- `CompleteMemory`. -/
def completeMemory (pc : Word) (expected : LaneMask) (responses : List MemoryResponse) :
    Except Error InstructionEffects := do
  rejectIf (decoded.memory.kind ≠ .load ∧ decoded.memory.kind ≠ .store)
    (evalError decoded "instruction has no completable memory effect")
  rejectIf (¬ expected.Valid)
    (evalError decoded "expected memory lane mask exceeds four frozen lanes")
  let scan ← foldEach (fun _ => scanResponse decoded) 0 {} responses
  rejectIf (scan.seen ≠ expected)
    (evalError decoded "memory responses do not cover the expected lane mask")
  if scan.faults ≠ [] then pure { faults := scan.faults }
  else if decoded.memory.kind = .load then
    pure { appendRegisterWrite {} decoded scan.mask scan.values with
      control := some (sequentialControl pc) }
  else pure { control := some (sequentialControl pc) }

/-! ## The evaluator -/

/-- The categories of this evaluator. -/
def integerMilestoneInstruction : Bool :=
  decide (decoded.category = .rv32i) || decide (decoded.category = .rv32m) ||
    decide (decoded.category = .zicond) || decide (decoded.category = .fence)

/-- A bounds view is absent or does not wrap. -/
def boundsValid (bounds : Option AddressBounds) : Bool :=
  match bounds with
  | none => true
  | some bounds => bounds.valid

/-- `EvaluateInteger`. -/
def evaluateInteger : Except Error InstructionEffects := do
  rejectIf (¬ input.activeMask.Valid) (evalError decoded "active mask exceeds four frozen lanes")
  rejectIf (boundsValid input.bounds = false) (evalError decoded "invalid memory bounds view")
  rejectIf (integerMilestoneInstruction decoded = false)
    (evalError decoded "instruction is outside the integer/memory milestone")
  if decoded.memory.kind = .fence then
    pure { ordering := some { predecessor := ((decoded.word >>> 24) &&& 0xf#32).setWidth 8
                              successor := ((decoded.word >>> 20) &&& 0xf#32).setWidth 8 }
           control := some (sequentialControl input.pc) }
  else if decoded.memory.kind = .load ∨ decoded.memory.kind = .store then
    evaluateMemory decoded input
  else if decoded.control = .branch ∨ decoded.control = .jump then
    evaluateControl decoded input
  else do
    let lanes := evaluateALULanes decoded input
    rejectIf (lanes.2 = false) (evalError decoded "missing integer functional semantics")
    pure (appendRegisterWrite { control := some (sequentialControl input.pc) } decoded
      input.activeMask lanes.1)

end VortexSim
