import VortexSim.Isa.Integer

/-!
# Evaluator of the custom instructions

Cross-lane exchange, warp control (thread masks, spawn, divergence, barriers, drains) and
packed loads.
-/

namespace VortexSim

open Checked

/-- The mask of the lanes that satisfy `p`, built lane by lane. -/
def laneMaskOf (p : Lane → Bool) : LaneMask :=
  (List.finRange frozenLaneCount).foldl
    (fun mask lane => if p lane then mask ||| 1#8 <<< lane.val else mask) 0#8

/-- The number of active lanes. -/
def popCount (mask : LaneMask) : Nat :=
  (List.finRange frozenLaneCount).countP fun lane : Lane => mask.active lane

/-- The decision lane, zero when no lane is active. -/
def decisionLane (mask : LaneMask) : Lane := (highestActiveLane mask).getD 0

/-! ## Cross-lane instructions -/

/-- The result of a vote over bit zero of `rs1` in the active lanes. -/
def voteValue (name : Mnemonic) (input : CustomInput) : Word :=
  let trueMask := laneMaskOf fun lane =>
    input.activeMask.active lane && input.rs1 lane &&& 1#32 != 0#32
  let falseMask := laneMaskOf fun lane =>
    input.activeMask.active lane && !(input.rs1 lane &&& 1#32 != 0#32)
  match name with
  | .voteAll => boolWord (falseMask == 0#8)
  | .voteAny => boolWord (trueMask != 0#8)
  | .voteUni => boolWord (trueMask == 0#8 || falseMask == 0#8)
  | .voteBallot => trueMask.setWidth 32
  | _ => 0#32

/-- The lane a shuffle reads from, before the activity of that lane is looked at. -/
def shuffleTarget (name : Mnemonic) (lane : Nat) (control : Word) : Nat :=
  let bval := (control &&& 3#32).toNat
  let cval := ((control >>> 6) &&& 3#32).toNat
  let mask := ((control >>> 12) &&& 3#32).toNat
  let minLane := lane &&& mask
  let maxLane := minLane ||| (cval &&& (3 ^^^ mask))
  match name with
  | .shflUp => if bval ≤ lane ∧ minLane ≤ lane - bval then lane - bval else lane
  | .shflDown => if lane + bval ≤ maxLane then lane + bval else lane
  | .shflBfly => if lane ^^^ bval ≤ maxLane then lane ^^^ bval else lane
  | .shflIdx =>
    let candidate := minLane ||| (bval &&& (3 ^^^ mask))
    if candidate ≤ maxLane then candidate else lane
  | _ => lane

/-- A shuffle reads its own lane where the source lane is not active. -/
def shuffleLane (name : Mnemonic) (input : CustomInput) (lane : Lane) : Word :=
  if input.activeMask.active lane then
    let target := shuffleTarget name lane.val (input.rs2 lane)
    if h : target < frozenLaneCount then
      if input.activeMask.active target then input.rs1 ⟨target, h⟩ else input.rs1 lane
    else input.rs1 lane
  else 0#32

variable (decoded : Decoded) (input : CustomInput) (lane : Lane)

/-- The three operands of the source lane, spread over the lanes after it. -/
def gatherLane (sourceOffset : Fin 4) (lane : Lane) : Word :=
  let source : Lane :=
    if input.activeMask.active sourceOffset then sourceOffset else decisionLane input.activeMask
  match (lane - sourceOffset : Fin 4) with
  | 0 => 0#32
  | 1 => input.rs1 source
  | 2 => input.rs2 source
  | 3 => input.rs3 source

/-- Votes, shuffles and WGATHER. -/
def evaluateCrossLane : Except Error InstructionEffects :=
  let effects : InstructionEffects := { control := some (sequentialControl input.pc) }
  match decoded.name with
  | .voteAll | .voteAny | .voteUni | .voteBallot =>
    .ok (appendRegisterWrite effects decoded input.activeMask
      (filledValues (voteValue decoded.name input)))
  | .shflUp | .shflDown | .shflBfly | .shflIdx =>
    .ok (appendRegisterWrite effects decoded input.activeMask (shuffleLane decoded.name input))
  | .wgather =>
    let sourceOffset := Fin.ofNat 4 decoded.gatherSourceLane
    .ok (appendRegisterWrite effects decoded (allLanes &&& ~~~(1#8 <<< sourceOffset.val))
      (gatherLane input sourceOffset))
  | _ => .error (evalError decoded "missing cross-lane functional semantics")

/-! ## Warp control -/

/-- The active lanes whose condition bit differs from the negation flag. -/
def conditionMask : LaneMask :=
  laneMaskOf fun lane => input.activeMask.active lane &&
    ((input.rs1 lane &&& 1#32 != 0#32) != decoded.conditionNegated)

/-- The low four bits of a lane's operand, read as a mask. -/
def operandMask (values : LaneValues) (lane : Lane) : LaneMask :=
  (values lane).setWidth 8 &&& allLanes

/-- A mask replacement for the warp. -/
def maskEffect (reason : WarpMaskReason) (mask : LaneMask) : WarpMaskEffect :=
  { warpID := input.warpID, reason, mask, active := decide (mask ≠ 0#8) }

/-- TMC takes the new mask from the decision lane. -/
def evaluateTMC : InstructionEffects :=
  { control := some (sequentialControl input.pc)
    warpMasks := [maskEffect input .tmc (operandMask input.rs1 lane)] }

/-- PRED keeps the lanes that satisfy the condition, or takes the mask of `rs2` if none does. -/
def evaluatePredicate : InstructionEffects :=
  let selected := conditionMask decoded input
  { control := some (sequentialControl input.pc)
    warpMasks := [maskEffect input .predicate
      (if selected = 0#8 then operandMask input.rs2 lane else selected)] }

/-- The warps below `count` other than the source. -/
def spawnTargetMask (count source : Nat) : WarpMask :=
  (List.range frozenWarpCount).foldl
    (fun targets warp => if warp < count ∧ warp ≠ source then targets ||| 1#8 <<< warp else targets)
    0#8

/-- WSPAWN asks for the warps below a count to start with lane zero. -/
def evaluateWarpSpawn : InstructionEffects :=
  let count := (input.rs1 lane &&& 7#32).toNat
  { control := some (sequentialControl input.pc)
    warpSpawn := some
      { sourceWarp := input.warpID, requestedCount := count
        targets := spawnTargetMask count input.warpID, targetPC := input.rs2 lane
        initialLaneMask := 1#8, copyMScratch := true, mscratch := input.mscratch
        requiresSingleActiveWarp := true, releaseSourceAfterApply := true } }

/-- The two sides of a split in execution order: the side with fewer lanes first. -/
def splitSides : LaneMask × LaneMask :=
  let thenMask := conditionMask decoded input
  let elseMask := input.activeMask &&& ~~~thenMask
  if popCount elseMask < popCount thenMask then (elseMask, thenMask) else (thenMask, elseMask)

/-- Both sides of the split have a lane. -/
def splitDivergent : Bool :=
  let thenMask := conditionMask decoded input
  decide (thenMask ≠ 0#8) && decide (input.activeMask &&& ~~~thenMask ≠ 0#8)

/-- SPLIT returns the row it uses, and pushes when both sides have a lane. -/
def evaluateSplit : InstructionEffects :=
  let sides := splitSides decoded input
  let divergent := splitDivergent decoded input
  appendRegisterWrite
    { control := some (sequentialControl input.pc)
      divergence := some
        { action := .split, warpID := input.warpID
          stackPointer := input.divergence.writePointer, divergent
          originalMask := input.activeMask, executeMask := sides.1, deferredMask := sides.2
          reconvergencePC := input.pc + 4#32, push := divergent }
      warpMasks :=
        if divergent then
          [{ warpID := input.warpID, reason := .split, mask := sides.1, active := true }]
        else [] }
    decoded input.activeMask (filledValues (BitVec.ofNat 32 input.divergence.writePointer))

/-- A JOIN that addresses a pushed record: the first visit switches to the other side,
the second one restores the mask and pops. -/
def evaluateDivergentJoin (pointer : Nat) : InstructionEffects :=
  let record := input.divergence.record
  if record.elseVisited then
    { control := some (sequentialControl input.pc)
      divergence := some
        { action := .join, warpID := input.warpID, stackPointer := pointer, divergent := true
          originalMask := record.originalMask, executeMask := record.originalMask
          reconvergencePC := record.nextPC, pop := true }
      warpMasks := [maskEffect input .join record.originalMask] }
  else
    let elseMask := record.originalMask &&& ~~~input.activeMask
    { control := some
        { reason := .reconverge, currentPC := input.pc, nextPC := record.nextPC
          target := record.nextPC, taken := true, decisionLane := lane.val }
      divergence := some
        { action := .join, warpID := input.warpID, stackPointer := pointer, divergent := true
          originalMask := record.originalMask, executeMask := elseMask
          reconvergencePC := record.nextPC, markElseVisited := true }
      warpMasks := [maskEffect input .join elseMask] }

/-- The row a JOIN addresses, from the decision lane. -/
def joinPointer : Nat := (input.rs1 lane &&& 3#32).toNat

/-- JOIN at the free row does nothing; another one needs the view of its row. -/
def evaluateJoin : Except Error InstructionEffects :=
  let pointer := joinPointer input lane
  let record := input.divergence.record
  if pointer = input.divergence.writePointer then
    .ok { control := some (sequentialControl input.pc)
          divergence := some
            { action := .join, warpID := input.warpID, stackPointer := pointer
              originalMask := input.activeMask } }
  else do
    rejectIf (record.valid = false ∨ record.pointer ≠ pointer ∨ ¬ record.originalMask.Valid)
      (evalError decoded "JOIN requires the addressed divergence record view")
    pure (evaluateDivergentJoin input lane pointer)

/-- The request of a barrier instruction.  An arrival with the top bit of `rs2` attaches
events instead of arriving: phase one, with a count of thirty-two for an encoded zero. -/
def barrierRequest (rs1 rs2 : Word) : BarrierEffect :=
  let kind := decoded.barrier
  let attach : Bool := decide (kind = .arrive) && rs2 >>> 31 != 0#32
  let count := (rs2 &&& 0x1f#32).toNat
  { warpID := input.warpID, addressWarp := (rs1 &&& 3#32).toNat
    id := ((rs1 >>> 8) &&& 7#32).toNat, kind, isGlobal := rs1 >>> 31 != 0#32
    sync := decide (kind = .sync)
    arrive := (decide (kind = .sync) || decide (kind = .arrive)) && !attach
    wait := decide (kind = .sync) || decide (kind = .wait)
    releaseByCoordinator := decide (kind = .sync) || decide (kind = .wait)
    event := attach
    expectCount := if attach then (if count = 0 then 32 else count) else 0
    participantCount := count, sizeMinusOne := ((rs2 - 1#32) &&& 0x1f#32).toNat
    phase := attach || rs2 &&& 1#32 != 0#32, drainLSU := true }

/-- A barrier waits for the loads and stores of the warp before it goes to its coordinator. -/
def evaluateBarrier : InstructionEffects :=
  if input.pendingLSU then
    { warpDrains := [{ warpID := input.warpID, kind := .lsu, wait := true,
                       releaseAfterDrain := false }] }
  else
    let effects : InstructionEffects :=
      { control := some (sequentialControl input.pc)
        warpDrains := [{ warpID := input.warpID, kind := .lsu, wait := false,
                         releaseAfterDrain := false }]
        barriers := [barrierRequest decoded input (input.rs1 lane) (input.rs2 lane)] }
    if decoded.barrier = .arrive then
      appendRegisterWrite effects decoded input.activeMask
        (filledValues (boolWord input.barrierPhase))
    else effects

/-- WSYNC waits for the earlier instructions of the warp. -/
def evaluateWarpSync : InstructionEffects :=
  { control := if input.pendingPriorWork then none else some (sequentialControl input.pc)
    warpDrains := [{ warpID := input.warpID, kind := .priorInstructions,
                     wait := input.pendingPriorWork, releaseAfterDrain := true }] }

/-- Thread masks, spawn, divergence, barriers and drains. -/
def evaluateWarpControl : Except Error InstructionEffects :=
  let lane := decisionLane input.activeMask
  match decoded.name with
  | .tmc => .ok (evaluateTMC input lane)
  | .pred => .ok (evaluatePredicate decoded input lane)
  | .wspawn => .ok (evaluateWarpSpawn input lane)
  | .split => do
      rejectIf (4 ≤ input.divergence.writePointer)
        (evalError decoded "divergence write pointer exceeds frozen encoding")
      pure (evaluateSplit decoded input)
  | .join => evaluateJoin decoded input lane
  | .bar | .barArrive | .barWait => .ok (evaluateBarrier decoded input lane)
  | .wsync => .ok (evaluateWarpSync input)
  | _ => .error (evalError decoded "missing custom control functional semantics")

/-! ## Packed loads -/

/-- Four bytes or two half-words of a floating-point destination. -/
def packedShape : Bool :=
  decide (decoded.memory.kind = .load) && decoded.memory.float &&
    ((decide (decoded.memory.bytes = 1) && decide (decoded.memory.packed = 4)) ||
      (decide (decoded.memory.bytes = 2) && decide (decoded.memory.packed = 2)))

/-- The access of one element: `rs2` is the stride. -/
def packedElement (element : Nat) : Except FaultEffect PackedLoadRequest :=
  let address := input.rs1 lane + BitVec.ofNat 32 element * input.rs2 lane
  let width := decoded.memory.bytes
  if address.toNat % width ≠ 0 then
    .error { kind := .loadAddressMisaligned, reason := .alignment, lane := lane.val,
             address, width }
  else if outOfBounds input.bounds address width then
    .error { kind := .loadAccess, reason := .bounds, lane := lane.val, address, width }
  else .ok { lane := lane.val, element, address, alignedAddress := address &&& ~~~3#32, width }

/-- The requests of a packed load, or its faults if there are any. -/
def evaluatePackedLoad : Except Error InstructionEffects := do
  rejectIf (packedShape decoded = false) (evalError decoded "invalid packed-load metadata")
  let outcomes := input.activeMask.lanes.flatMap fun lane =>
    (List.range decoded.memory.packed).map (packedElement decoded input lane)
  if faultsOf outcomes ≠ [] then pure { faults := faultsOf outcomes }
  else pure { packedLoads := requestsOf outcomes }

/-- What the loop over packed responses has collected. -/
structure PackedScan where
  faults : List FaultEffect := []
  values : LaneValues := fun _ => 0#32
  seen : List (Nat × Nat) := []

/-- One response, checked and merged into the values of its lane. -/
def scanPackedResponse (scan : PackedScan) (response : PackedLoadResponse) :
    Except Error PackedScan :=
  let request := response.request
  if h : request.lane < frozenLaneCount then do
    rejectIf (decoded.memory.packed ≤ request.element ∨
        (request.lane, request.element) ∈ scan.seen ∨ request.width ≠ decoded.memory.bytes)
      (evalError decoded "duplicate or invalid packed-load response")
    let scan := { scan with seen := (request.lane, request.element) :: scan.seen }
    if response.fault ≠ .none then do
      rejectIf (response.fault ≠ .loadAccess)
        (evalError decoded "packed-load response has incompatible fault kind")
      pure { scan with
        faults := scan.faults ++
          [{ kind := .loadAccess, reason := serviceReason response.reason, lane := request.lane,
             address := request.address, width := request.width }] }
    else
      let mask : Word := if request.width = 2 then 0xffff#32 else 0xff#32
      let lane : Lane := ⟨request.lane, h⟩
      pure { scan with
        values := Function.update scan.values lane (scan.values lane |||
            (response.data &&& mask) <<< (8 * request.width * request.element)) }
  else .error (evalError decoded "duplicate or invalid packed-load response")

/-- Exactly the expected lane/element pairs have answered. -/
def packedCovered (expected : LaneMask) (part : Option Nat) (seen : List (Nat × Nat)) : Bool :=
  (List.range frozenLaneCount).all fun lane =>
    (List.range decoded.memory.packed).all fun element =>
      decide ((lane, element) ∈ seen) ==
        (expected.active lane && (part.isNone || part == some element))

/-- One response set, for the whole instruction or for one element of it. -/
def completePackedLoadWith (pc : Word) (expected : LaneMask) (responses : List PackedLoadResponse)
    (part : Option Nat) : Except Error InstructionEffects := do
  rejectIf (decoded.category ≠ .custom ∨ packedShape decoded = false)
    (evalError decoded "instruction has no completable packed load")
  rejectIf (¬ expected.Valid)
    (evalError decoded "expected packed-load mask exceeds four frozen lanes")
  let scan ← foldEach (fun _ => scanPackedResponse decoded) 0 {} responses
  rejectIf (packedCovered decoded expected part scan.seen = false)
    (evalError decoded "packed-load responses do not cover the expected lane/element set")
  if scan.faults ≠ [] then pure { faults := scan.faults }
  else
    let effects := appendRegisterWrite { control := some (sequentialControl pc) } decoded expected
      scan.values
    match part with
    | none => pure effects
    | some element =>
      let byteMask := BitVec.ofNat 8 (2 ^ decoded.memory.bytes - 1) <<<
        (decoded.memory.bytes * element)
      pure { effects with
        control := none
        registerWrites := effects.registerWrites.map fun write => { write with byteMask } }

/-- All elements at once. -/
def completePackedLoad (pc : Word) (expected : LaneMask) (responses : List PackedLoadResponse) :
    Except Error InstructionEffects :=
  completePackedLoadWith decoded pc expected responses none

/-- One element on its own. -/
def completePackedLoadPart (pc : Word) (expected : LaneMask) (element : Nat)
    (responses : List PackedLoadResponse) : Except Error InstructionEffects := do
  rejectIf (decoded.memory.packed ≤ element) (evalError decoded "invalid packed-load element")
  completePackedLoadWith decoded pc expected responses (some element)

/-! ## The evaluator -/

/-- `EvaluateCustom`. -/
def evaluateCustom : Except Error InstructionEffects := do
  rejectIf (decoded.category ≠ .custom)
    (evalError decoded "instruction is outside the Vortex custom milestone")
  rejectIf (¬ input.activeMask.Valid) (evalError decoded "active mask exceeds four frozen lanes")
  rejectIf (frozenWarpCount ≤ input.warpID) (evalError decoded "warp id exceeds frozen warp count")
  rejectIf (boundsValid input.bounds = false) (evalError decoded "invalid memory bounds view")
  match decoded.name with
  | .voteAll | .voteAny | .voteUni | .voteBallot | .shflUp | .shflDown | .shflBfly | .shflIdx
  | .wgather => evaluateCrossLane decoded input
  | .vxPacklbF | .vxPacklhF => evaluatePackedLoad decoded input
  | _ => evaluateWarpControl decoded input

end VortexSim
