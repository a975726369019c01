import VortexSim.Isa.Masks
import VortexSim.State.View

/-!
# Evaluation looks at active lanes

Many instructions read lanes other than the one they write: votes, shuffles, gathers, branches
and warp control take the value of some lane for the whole warp.  Every such choice falls on an
active lane.  So an evaluator gives the same effects on operands that agree in the active lanes.
The exception is a CSR instruction with a register source, which reads lane zero.
-/

namespace VortexSim

open Checked

/-- Two lane vectors with the same values in the lanes of a mask. -/
def LaneMask.Agree (m : LaneMask) (a b : LaneValues) : Prop :=
  ∀ lane : Lane, m.active lane = true → a lane = b lane

/-! ## Integer instructions -/

section Integer

variable {d : Decoded} {input : IntegerInput} {a b : LaneValues}
  (ha : input.activeMask.Agree input.rs1 a) (hb : input.activeMask.Agree input.rs2 b)

include ha

theorem evaluateJump_agree {lane : Lane} (hl : input.activeMask.active lane = true) :
    evaluateJump d { input with rs1 := a, rs2 := b } lane = evaluateJump d input lane := by
  have htarget : jumpTarget d { input with rs1 := a, rs2 := b } lane = jumpTarget d input lane := by
    unfold jumpTarget
    rw [ha lane hl]
  unfold evaluateJump
  rw [htarget]

include hb

theorem evaluateALULanes_agree :
    evaluateALULanes d { input with rs1 := a, rs2 := b } = evaluateALULanes d input := by
  unfold evaluateALULanes
  refine Prod.ext (funext fun lane => ?_) ?_
  · dsimp only
    cases hl : input.activeMask.active lane with
    | true => rw [ha lane hl, hb lane hl]
    | false => rfl
  · dsimp only
    refine congrArg (List.all _) (funext fun lane => ?_)
    cases hl : input.activeMask.active lane with
    | true => rw [ha lane hl, hb lane hl]
    | false => rfl

theorem evaluateControl_agree :
    evaluateControl d { input with rs1 := a, rs2 := b } = evaluateControl d input := by
  unfold evaluateControl
  cases hlane : highestActiveLane input.activeMask with
  | none => rfl
  | some lane =>
    have hactive := highestActiveLane_active hlane
    have hbranch : evaluateBranch d { input with rs1 := a, rs2 := b } lane =
        evaluateBranch d input lane := by
      unfold evaluateBranch
      rw [ha lane hactive, hb lane hactive]
    dsimp only
    rw [evaluateJump_agree ha hactive, hbranch]

theorem memoryLane_agree {lane : Lane} (hl : input.activeMask.active lane = true) :
    memoryLane d { input with rs1 := a, rs2 := b } lane = memoryLane d input lane := by
  unfold memoryLane
  rw [ha lane hl, hb lane hl]

theorem evaluateMemory_agree :
    evaluateMemory d { input with rs1 := a, rs2 := b } = evaluateMemory d input := by
  have hlanes : input.activeMask.lanes.map (memoryLane d { input with rs1 := a, rs2 := b }) =
      input.activeMask.lanes.map (memoryLane d input) :=
    List.map_congr_left fun lane hl => memoryLane_agree ha hb (LaneMask.mem_lanes.mp hl)
  unfold evaluateMemory
  rw [hlanes]

variable (input) in
theorem evaluateInteger_agree :
    evaluateInteger d { input with rs1 := a, rs2 := b } = evaluateInteger d input := by
  unfold evaluateInteger
  rw [evaluateMemory_agree ha hb, evaluateControl_agree ha hb, evaluateALULanes_agree ha hb]

end Integer

/-! ## Floating-point instructions -/

section Float

variable (sf : SoftFloat) {d : Decoded} {input : FloatInput} {a b c : LaneValues}
  (ha : input.activeMask.Agree input.rs1 a) (hb : input.activeMask.Agree input.rs2 b)
  (hc : input.activeMask.Agree input.rs3 c)

include ha hb hc

theorem floatLanes_agree (rounding : FloatRounding) :
    floatLanes sf d { input with rs1 := a, rs2 := b, rs3 := c } rounding =
      floatLanes sf d input rounding := by
  refine foldEach_congr (fun _ acc lane hl => ?_) 0 _
  have hactive := LaneMask.mem_lanes.mp hl
  unfold floatLaneStep
  rw [ha lane hactive, hb lane hactive, hc lane hactive]

variable (input) in
theorem evaluateFloat_agree :
    evaluateFloat sf d { input with rs1 := a, rs2 := b, rs3 := c } = evaluateFloat sf d input := by
  have hmemory := @evaluateMemory_agree d
    ⟨input.pc, input.activeMask, input.rs1, input.rs2, input.bounds⟩ a b ha hb
  unfold evaluateFloat
  simp only [floatLanes_agree sf ha hb hc]
  rw [hmemory]

end Float

/-! ## Custom instructions -/

section Custom

variable {d : Decoded} {input : CustomInput} {a b c : LaneValues}

/-- A test of the active lanes. -/
theorem LaneMask.Agree.test {m : LaneMask} (h : m.Agree a b) (p : Word → Bool) :
    (laneMaskOf fun lane => m.active lane && p (a lane)) =
      laneMaskOf fun lane => m.active lane && p (b lane) := by
  refine congrArg laneMaskOf (funext fun lane => ?_)
  cases hl : m.active lane with
  | true => rw [h lane hl]
  | false => rfl

variable (ha : input.activeMask.Agree input.rs1 a) (hb : input.activeMask.Agree input.rs2 b)
  (hc : input.activeMask.Agree input.rs3 c)
  (hlane : input.activeMask.active (decisionLane input.activeMask) = true)

include ha

theorem voteValue_agree (name : Mnemonic) :
    voteValue name { input with rs1 := a, rs2 := b, rs3 := c } = voteValue name input := by
  have htrue := ha.test fun v => v &&& 1#32 != 0#32
  have hfalse := ha.test fun v => !(v &&& 1#32 != 0#32)
  unfold voteValue
  rw [htrue, hfalse]

theorem conditionMask_agree :
    conditionMask d { input with rs1 := a, rs2 := b, rs3 := c } = conditionMask d input :=
  (ha.test fun v => (v &&& 1#32 != 0#32) != d.conditionNegated).symm

theorem evaluateSplit_agree :
    evaluateSplit d { input with rs1 := a, rs2 := b, rs3 := c } = evaluateSplit d input := by
  unfold evaluateSplit splitSides splitDivergent
  rw [conditionMask_agree ha]

include hb

theorem shuffleLane_agree (name : Mnemonic) :
    shuffleLane name { input with rs1 := a, rs2 := b, rs3 := c } = shuffleLane name input := by
  funext lane
  unfold shuffleLane
  dsimp only
  cases hl : input.activeMask.active lane with
  | false => rfl
  | true =>
    -- the target is read only when it is active, and the own lane otherwise
    rw [← hb lane hl, ← ha lane hl]
    refine dite_congr rfl (fun ht => ?_) fun _ => rfl
    cases htarget : input.activeMask.active (shuffleTarget name lane.val (input.rs2 lane)) with
    | false => rfl
    | true => rw [ha ⟨_, ht⟩ htarget]

theorem packedElement_agree {lane : Lane} (hl : input.activeMask.active lane = true) :
    packedElement d { input with rs1 := a, rs2 := b, rs3 := c } lane =
      packedElement d input lane := by
  funext element
  unfold packedElement
  rw [ha lane hl, hb lane hl]

theorem evaluatePackedLoad_agree :
    evaluatePackedLoad d { input with rs1 := a, rs2 := b, rs3 := c } =
      evaluatePackedLoad d input := by
  have hlanes : (input.activeMask.lanes.flatMap fun lane => (List.range d.memory.packed).map
        (packedElement d { input with rs1 := a, rs2 := b, rs3 := c } lane)) =
      input.activeMask.lanes.flatMap fun lane => (List.range d.memory.packed).map
        (packedElement d input lane) :=
    List.flatMap_congr fun lane hl => by
      rw [packedElement_agree ha hb (LaneMask.mem_lanes.mp hl)]
  unfold evaluatePackedLoad
  rw [hlanes]

include hlane

theorem evaluateWarpControl_agree :
    evaluateWarpControl d { input with rs1 := a, rs2 := b, rs3 := c } =
      evaluateWarpControl d input := by
  have h1 := ha _ hlane
  have h2 := hb _ hlane
  unfold evaluateWarpControl evaluateTMC evaluatePredicate evaluateWarpSpawn evaluateJoin
    joinPointer
    evaluateBarrier operandMask
  simp only [conditionMask_agree ha, evaluateSplit_agree ha, h1, h2]
  rfl

include hc

theorem gatherLane_agree (offset : Fin 4) :
    gatherLane { input with rs1 := a, rs2 := b, rs3 := c } offset = gatherLane input offset := by
  have hsource : input.activeMask.active ((if input.activeMask.active offset then offset
      else decisionLane input.activeMask : Lane)) = true := by
    split
    · assumption
    · exact hlane
  funext lane
  unfold gatherLane
  dsimp only
  rw [ha _ hsource, hb _ hsource, hc _ hsource]

theorem evaluateCrossLane_agree :
    evaluateCrossLane d { input with rs1 := a, rs2 := b, rs3 := c } =
      evaluateCrossLane d input := by
  unfold evaluateCrossLane
  simp only [voteValue_agree ha, shuffleLane_agree ha hb, gatherLane_agree ha hb hc hlane]

variable (input) in
theorem evaluateCustom_agree :
    evaluateCustom d { input with rs1 := a, rs2 := b, rs3 := c } = evaluateCustom d input := by
  unfold evaluateCustom
  rw [evaluateCrossLane_agree ha hb hc hlane, evaluatePackedLoad_agree ha hb,
    evaluateWarpControl_agree ha hb hlane]

end Custom

/-! ## System instructions -/

/-- A CSR instruction whose operand is a register. -/
def Decoded.registerCSR (d : Decoded) : Prop := d.csr ≠ .none ∧ d.csrImmediate = false

theorem evaluateSystem_agree (h : ¬ d.registerCSR) (input : SystemInput) (a : LaneValues) :
    evaluateSystem d { input with rs1 := a } = evaluateSystem d input := by
  by_cases hcsr : d.csr = .none
  · unfold evaluateSystem
    rw [if_neg (not_not.mpr hcsr), if_neg (not_not.mpr hcsr)]
    rfl
  · have himm : d.csrImmediate = true := by
      cases himm : d.csrImmediate with
      | true => rfl
      | false => exact absurd ⟨hcsr, himm⟩ h
    have hsource : csrSource d { input with rs1 := a } = csrSource d input := by
      unfold csrSource
      rw [himm]
      rfl
    unfold evaluateSystem evaluateCSR csrWriteEffect
    rw [hsource]
    rfl

/-! ## The warp -/

/-- Two states that differ at most in the registers of the lanes outside a mask. -/
structure WarpState.AgreeOn (mask : LaneMask) (w w' : WarpState) : Prop where
  others : { w with lanes := w'.lanes } = w'
  lanes : ∀ lane : Lane, mask.active lane = true → w.lanes lane = w'.lanes lane

namespace WarpState

variable {w w' : WarpState} {d : Decoded}

theorem AgreeOn.operands (h : w.AgreeOn mask w') (d : Decoded) (position : Fin 3) :
    mask.Agree (w.operands d position) (w'.operands d position) := by
  intro lane hl
  unfold WarpState.operands
  cases d.sources[position.val]? with
  | none => rfl
  | some register =>
    dsimp only
    unfold readRegister
    rw [h.lanes lane hl]

/-- The custom view takes the row and the phase that the decision lane addresses. -/
theorem customInput_agree (h : ∀ p, w.activeMask.Agree (src p) (src' p))
    (hlane : w.activeMask.active (decisionLane w.activeMask) = true) (context : ReadContext)
    (bounds : Option AddressBounds) (lanes : Lane → LaneState) :
    ({ w with lanes } : WarpState).customInput d context bounds src' =
      { w.customInput d context bounds src with rs1 := src' 0, rs2 := src' 1, rs3 := src' 2 } := by
  unfold customInput divergenceView barrierPhaseFor
  rw [← h 0 _ hlane]

/-- The check of the sources does not look at the state. -/
theorem sourceValues_check (w w' : WarpState) (d : Decoded) (next : Except Error β) :
    (w'.sourceValues d >>= fun _ => next) = (w.sourceValues d >>= fun _ => next) := by
  unfold sourceValues
  simp only [bind_assoc, pure_bind]

theorem evaluateOperands_agree (sf : SoftFloat) (h : ∀ p, w.activeMask.Agree (src p) (src' p))
    (hd : ¬ d.registerCSR) (hlane : w.activeMask.active (decisionLane w.activeMask) = true)
    (context : ReadContext) (lanes : Lane → LaneState) :
    ({ w with lanes } : WarpState).evaluateOperands sf d context src' =
      w.evaluateOperands sf d context src := by
  have hinteger (bounds : Option AddressBounds) :
      evaluateInteger d (({ w with lanes } : WarpState).integerInput bounds src') =
        evaluateInteger d (w.integerInput bounds src) :=
    evaluateInteger_agree (w.integerInput bounds src) (h 0) (h 1)
  have hfloat (bounds : Option AddressBounds) :
      evaluateFloat sf d (({ w with lanes } : WarpState).floatInput bounds src') =
        evaluateFloat sf d (w.floatInput bounds src) :=
    evaluateFloat_agree sf (w.floatInput bounds src) (h 0) (h 1) (h 2)
  have hcustom (bounds : Option AddressBounds) :
      evaluateCustom d (({ w with lanes } : WarpState).customInput d context bounds src') =
        evaluateCustom d (w.customInput d context bounds src) := by
    rw [customInput_agree h hlane]
    exact evaluateCustom_agree (w.customInput d context bounds src) (h 0) (h 1) (h 2) hlane
  have hsystem : evaluateSystem d (({ w with lanes } : WarpState).systemInput context src') =
      evaluateSystem d (w.systemInput context src) :=
    evaluateSystem_agree hd (w.systemInput context src) _
  unfold evaluateOperands
  simp only [sourceValues_check w { w with lanes }, hinteger, hfloat, hcustom, hsystem]

theorem evaluate_agree (sf : SoftFloat) (h : w.AgreeOn w.activeMask w') (hd : ¬ d.registerCSR)
    (hlane : w.activeMask.active (decisionLane w.activeMask) = true) (context : ReadContext) :
    w'.evaluate sf d context = w.evaluate sf d context := by
  have hsources := h.operands d
  rw [← h.others] at hsources ⊢
  unfold evaluate sourceValues
  simp only [bind_assoc, pure_bind]
  rw [evaluateOperands_agree sf hsources hd hlane]

end WarpState

end VortexSim
