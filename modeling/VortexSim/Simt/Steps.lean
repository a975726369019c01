import VortexSim.Simt.Program
import VortexSim.State.CustomAcceptance

/-!
# Steps of a structured program

What one fetched instruction does to PC, mask, stack and registers: an ordinary
instruction, a branch, a jump, a SPLIT and the three uses of a JOIN.

Every row of the stack has a lane waiting on its other side, so the write pointer and the
number of active lanes together never exceed four.  This bound is part of `Ready`, the
state between two instructions.
-/

namespace VortexSim

open Checked

/-! ## Addresses -/

theorem pcAfter_zero (pc : Word) : pcAfter pc 0 = pc := by
  simp [pcAfter]

theorem pcAfter_one (pc : Word) : pcAfter pc 1 = pc + 4#32 := rfl

theorem pcAfter_add (pc : Word) (m n : Nat) : pcAfter (pcAfter pc m) n = pcAfter pc (m + n) := by
  unfold pcAfter
  rw [BitVec.add_assoc, ← BitVec.ofNat_add, Nat.mul_add]

/-! ## States between instructions -/

/-- A running warp whose stack has room for every divergence its lanes can still make. -/
structure Ready (w : WarpState) : Prop where
  wf : w.WF
  running : w.activeMask ≠ 0#8
  room : w.divergence.writePointer + popCount w.activeMask ≤ 4

/-- Mask and stack are the same. -/
structure SameRegion (w w' : WarpState) : Prop where
  activeMask : w'.activeMask = w.activeMask
  divergence : w'.divergence = w.divergence

/-- Register `r` has the same value in every lane. -/
def KeepsRegister (r : Register) (w w' : WarpState) : Prop :=
  ∀ lane, (w'.lanes lane).get r = (w.lanes lane).get r

theorem KeepsRegister.trans (h : KeepsRegister r a b) (k : KeepsRegister r b c) :
    KeepsRegister r a c :=
  fun lane => (k lane).trans (h lane)

theorem SameRegion.trans (h : SameRegion a b) (k : SameRegion b c) : SameRegion a c :=
  ⟨k.activeMask.trans h.activeMask, k.divergence.trans h.divergence⟩

theorem Ready.of_same (h : Ready w) (hs : SameRegion w w') (hw : w'.WF) : Ready w' where
  wf := hw
  running := by rw [hs.activeMask]; exact h.running
  room := by rw [hs.activeMask, hs.divergence]; exact h.room

/-! ## Evaluation of control instructions -/

section

variable {ctx : ReadContext}

/-- A context the views accept, with no older work pending. -/
structure ReadContext.Ready (ctx : ReadContext) : Prop where
  valid : validateContext ctx = .ok ctx.bounds
  lsu : ctx.pendingLSU = false
  prior : ctx.pendingPriorWork = false

theorem ReadContext.Ready.bounds (h : ctx.Ready) : boundsValid ctx.bounds = true := by
  have hv := h.valid
  simp only [ok_iff, validateContext, Bool.not_eq_false] at hv
  exact hv.2.2.2.1

/-- The registers of a decoded instruction can be read. -/
theorem sourceValues_decoded (w : WarpState) (h : decode word = .ok d) :
    w.sourceValues d = .ok (w.operands d) := by
  obtain ⟨hlen, harch⟩ := decode_sources h
  unfold WarpState.sourceValues
  rw [rejectIf_of_not (Nat.not_lt.mpr hlen), ok_bind, bind_eq_ok]
  refine ⟨(), (each_eq_ok_iff ?_ 0 d.sources).mpr harch, rfl⟩
  intro i r
  rw [mapError_eq_ok, validateRegister_eq_ok]
  exact Iff.rfl

theorem evaluate_custom (w : WarpState) (h : decode word = .ok d) (hctx : ctx.Ready)
    (hcat : d.category = .custom) :
    w.evaluate sf d ctx = evaluateCustom d (w.customInput d ctx ctx.bounds (w.operands d)) := by
  unfold WarpState.evaluate WarpState.evaluateOperands
  rw [sourceValues_decoded w h, ok_bind, hcat, hctx.valid]
  rfl

/-- The checks of the custom evaluator pass on a well-formed warp. -/
theorem evaluateCustom_control {w : WarpState} (hw : w.WF) (hctx : ctx.Ready)
    (hcat : d.category = .custom) (hn : d.name = .split ∨ d.name = .join) :
    evaluateCustom d (w.customInput d ctx ctx.bounds (w.operands d)) =
      evaluateWarpControl d (w.customInput d ctx ctx.bounds (w.operands d)) := by
  have hactive : ¬ ¬ (w.customInput d ctx ctx.bounds (w.operands d)).activeMask.Valid :=
    not_not.mpr hw.active
  have hid : ¬ frozenWarpCount ≤ (w.customInput d ctx ctx.bounds (w.operands d)).warpID :=
    Nat.not_le.mpr hw.id
  have hbounds : ¬ boundsValid (w.customInput d ctx ctx.bounds (w.operands d)).bounds = false := by
    rw [Bool.not_eq_false]
    exact hctx.bounds
  unfold evaluateCustom
  rw [rejectIf_of_not (not_not.mpr hcat), rejectIf_of_not hactive, rejectIf_of_not hid,
    rejectIf_of_not hbounds]
  simp only [ok_bind]
  rcases hn with hn | hn <;> rw [hn]

/-- No request waits for the memory and no lane faults. -/
structure InstructionEffects.Immediate (e : InstructionEffects) : Prop where
  requests : e.memoryRequests = []
  packed : e.packedLoads = []
  faults : e.faults = []

theorem InstructionEffects.Immediate.complete (h : e.Immediate) (w : WarpState)
    (around : Surroundings) (d : Decoded) : w.complete around d e = .ok e := by
  unfold WarpState.complete
  rw [if_neg (not_not.mpr h.requests), if_neg (not_not.mpr h.packed)]

/-- Executing a word whose effects are accepted applies them. -/
theorem executeWord_eq (hdec : decode word = .ok d) (he : w.evaluate sf d around.context = .ok e)
    (himm : e.Immediate) (hok : BundleOk w e) : w.executeWord sf around word = .ok (w.apply e) := by
  have hs : w.stageEffects e = .ok (w.stageOf e) := stageEffects_eq_ok.mpr ⟨hok, rfl⟩
  unfold WarpState.executeWord
  rw [hdec, ok_bind, he, ok_bind, himm.complete, ok_bind, rejectIf_of_not (not_not.mpr himm.faults),
    ok_bind, hs, ok_bind]
  rfl

end

/-! ## Counting lanes -/

theorem popCount_pos {m : LaneMask} (hv : m.Valid) (h : m ≠ 0#8) : 0 < popCount m := by
  rw [popCount_eq_card, Finset.card_pos, Finset.nonempty_iff_ne_empty]
  exact fun he => h (hv.eq_zero_iff.mpr he)

theorem popCount_le (m : LaneMask) : popCount m ≤ 4 := by
  rw [popCount_eq_card]
  exact m.set.card_le_univ

/-- The sides of a split share out the lanes. -/
theorem Sides.popCount (h : Sides active x y) : popCount x + popCount y = popCount active := by
  simp only [popCount_eq_card]
  rw [← h.cover, LaneMask.set_or]
  exact (Finset.card_union_of_disjoint (BitMask.disjoint_of_and_eq_zero h.disjoint)).symm

/-- The lanes of one side are the active ones that the other side lacks. -/
theorem Sides.rest (h : Sides active x y) : active &&& ~~~x = y := by
  have hdis : Disjoint x.set y.set := BitMask.disjoint_of_and_eq_zero h.disjoint
  have hactive : active.Valid := by
    rw [← h.cover]
    exact LaneMask.valid_iff.mpr ((LaneMask.valid_iff.mp h.left).or (LaneMask.valid_iff.mp h.right))
  refine (hactive.and_left _).eq h.right ?_
  rw [LaneMask.set_diff, ← h.cover, LaneMask.set_or]
  exact Finset.union_sdiff_cancel_left hdis

theorem Sides.active_left (h : Sides active x y) {lane : Lane} (hl : x.active lane = true) :
    active.active lane = true := by
  rw [← LaneMask.mem_set] at hl ⊢
  rw [← h.cover, LaneMask.set_or]
  exact Finset.mem_union_left _ hl

/-! ## SPLIT -/

/-- The row a divergent SPLIT pushes. -/
def splitRow (w : WarpState) : DivergenceRecord :=
  { valid := true, originalMask := w.activeMask, nextPC := w.pc + 4#32 }

section

variable {around : Surroundings} {ctx : ReadContext} {w : WarpState} {d : Decoded}

/-- The custom view of the warp in its surroundings. -/
abbrev WarpState.customView (w : WarpState) (around : Surroundings) (d : Decoded) : CustomInput :=
  w.customInput d around.context around.context.bounds (w.operands d)

theorem evaluateSplit_immediate (d : Decoded) (input : CustomInput) :
    (evaluateSplit d input).Immediate := by
  unfold evaluateSplit
  simp only [appendRegisterWrite_eq]
  split_ifs <;> exact ⟨rfl, rfl, rfl⟩

theorem Ready.split_executes (sf : SoftFloat) (h : Ready w) (hctx : around.context.Ready)
    (hdec : decode word = .ok d) (hn : d.name = .split) :
    w.executeWord sf around word = .ok (w.apply (evaluateSplit d (w.customView around d))) := by
  have hcat := decode_custom hdec (.inr (.inl hn))
  obtain ⟨hsides, hdiv⟩ := splitSides_spec d
    (show (w.customView around d).activeMask.Valid from h.wf.active)
  have heval : w.evaluate sf d around.context = .ok (evaluateSplit d (w.customView around d)) := by
    rw [evaluate_custom w hdec hctx hcat, evaluateCustom_control h.wf hctx hcat (.inl hn)]
    unfold evaluateWarpControl
    have hptr : ¬ 4 ≤ (w.customView around d).divergence.writePointer := by
      rw [customInput_writePointer]
      exact Nat.not_le.mpr (Nat.lt_succ_of_le h.wf.divergence.pointer)
    simp only [hn, rejectIf_of_not hptr, ok_bind]
    rfl
  refine executeWord_eq hdec heval (evaluateSplit_immediate d _)
    ((evaluateSplit_ok_iff h.wf (decode_destinations hdec)).mpr ?_)
  rintro ⟨hd, hfull⟩
  -- both sides have a lane, so at most two rows are in use
  obtain ⟨hx, hy⟩ := hdiv.mp hd
  have hxc := popCount_pos hsides.left hx
  have hyc := popCount_pos hsides.right hy
  have hsum : _ = popCount w.activeMask := hsides.popCount
  have hroom : 3 + popCount w.activeMask ≤ 4 := by
    have := h.room
    rwa [hfull] at this
  omega

theorem split_transfer_uniform (hu : splitDivergent d (w.customInput d ctx bounds src) = false) :
    w.transfer (evaluateSplit d (w.customInput d ctx bounds src)) =
      { w with pc := w.pc + 4#32 } := by
  unfold evaluateSplit
  simp only [appendRegisterWrite_eq, hu]
  rfl

theorem split_transfer_divergent (hu : splitDivergent d (w.customInput d ctx bounds src) = true) :
    w.transfer (evaluateSplit d (w.customInput d ctx bounds src)) = { w with
        pc := w.pc + 4#32
        divergence := w.divergence.push w.divergence.writePointer (splitRow w)
        activeMask := (splitSides d (w.customInput d ctx bounds src)).1
        lifecycle := .running } := by
  unfold evaluateSplit
  simp only [appendRegisterWrite_eq, hu, customInput_writePointer]
  rfl

/-- SPLIT leaves the stack pointer in its destination. -/
theorem split_register (hd : d.destinations = [r]) (hz : ¬ r.isZero) (hmask : w.activeMask ≠ 0#8)
    {lane : Lane} (hl : w.activeMask.active lane = true) :
    ((w.apply (evaluateSplit d (w.customInput d ctx bounds src))).lanes lane).get r =
      BitVec.ofNat 32 w.divergence.writePointer := by
  have hwrite : ∀ values, laneWrite d w.activeMask values =
      [{ destination := r, mask := w.activeMask, values := values }] := by
    intro values
    unfold laneWrite appendRegisterWrite
    rw [hd]
    simp only [hmask, if_false]
    rw [if_neg (show ¬ (r.file = .integer ∧ r.index = 0) from hz)]
    rfl
  rw [WarpState.apply_lanes]
  unfold evaluateSplit
  simp only [appendRegisterWrite_eq, List.nil_append, customInput_writePointer]
  rw [show (w.customInput d ctx bounds src).activeMask = w.activeMask from rfl, hwrite]
  exact w.writeBack_get_self hz rfl hl

theorem split_keeps (hdec : decode word = .ok d) (hq : q.Architectural)
    (hnot : q ∉ d.destinations) :
    KeepsRegister q w (w.apply (evaluateSplit d (w.customInput d ctx bounds src))) := by
  intro lane
  rw [WarpState.apply_lanes]
  unfold evaluateSplit
  simp only [appendRegisterWrite_eq, List.nil_append]
  refine w.writeAll_get_ne ?_ hq ?_ lane
  · intro write hw
    exact decode_destinations hdec _ (laneWrite_mem hw).1
  · intro write hw he
    exact hnot (he ▸ (laneWrite_mem hw).1)

end

/-! ## JOIN -/

section

variable {around : Surroundings} {w : WarpState} {d : Decoded} {r : Register}

/-- The row a JOIN addresses, when its register holds a stack pointer in the active lanes. -/
theorem joinRow_eq (h : Ready w) (hs : d.sources = [r]) (hz : ¬ r.isZero) (hp : pointer < 4)
    (hr : ∀ lane : Lane, w.activeMask.active lane = true →
      (w.lanes lane).get r = BitVec.ofNat 32 pointer) : w.joinRow d = pointer := by
  have hread : w.operands d 0 (decisionLane w.activeMask) = BitVec.ofNat 32 pointer := by
    unfold WarpState.operands
    rw [hs]
    refine (w.readRegister_eq_get hz _).trans ?_
    exact hr _ (decisionLane_active h.wf.active h.running)
  unfold WarpState.joinRow
  rw [hread]
  have hlow : ∀ p < 4, (BitVec.ofNat 32 p &&& 3#32).toNat = p := by decide
  exact hlow pointer hp

/-- JOIN keeps every register. -/
theorem join_keeps (he : e.registerWrites = []) (q : Register) : KeepsRegister q w (w.apply e) := by
  intro lane
  rw [WarpState.apply_lanes, he]
  rfl

theorem evaluateDivergentJoin_immediate (input : CustomInput) (lane : Lane) (pointer : Nat) :
    (evaluateDivergentJoin input lane pointer).Immediate := by
  unfold evaluateDivergentJoin
  dsimp only
  split_ifs <;> exact ⟨rfl, rfl, rfl⟩

section

variable (sf : SoftFloat) (h : Ready w) (hctx : around.context.Ready) (hdec : decode word = .ok d)
  (hn : d.name = .join)
include h hctx hdec hn

theorem evaluate_join : w.evaluate sf d around.context =
      evaluateJoin d (w.customView around d) (decisionLane w.activeMask) := by
  have hcat := decode_custom hdec (.inr (.inr hn))
  rw [evaluate_custom w hdec hctx hcat, evaluateCustom_control h.wf hctx hcat (.inr hn)]
  unfold evaluateWarpControl
  simp only [hn]
  rfl

/-- The JOIN of a uniform region does nothing. -/
theorem join_executes_idle (hrow : w.joinRow d = w.divergence.writePointer) :
    ∃ w', w.executeWord sf around word = .ok w' ∧ SameControl w' { w with pc := w.pc + 4#32 } ∧
      ∀ q, KeepsRegister q w w' := by
  have heval := evaluate_join sf h hctx hdec hn
  unfold evaluateJoin at heval
  simp only [customInput_writePointer] at heval
  rw [joinPointer_eq] at heval
  rw [if_pos hrow] at heval
  have hok := evaluateIdleJoin_ok h.wf
  rw [← hrow] at hok
  refine ⟨_, executeWord_eq hdec heval ⟨rfl, rfl, rfl⟩ hok, (w.apply_sameControl _).trans ?_,
    join_keeps rfl⟩
  exact ⟨rfl, rfl, rfl, rfl, rfl, rfl⟩

/-- The JOIN of an open region acts on its row. -/
theorem join_executes_row (hlt : w.joinRow d < w.divergence.writePointer)
    (hacc : JoinAccepts w (w.joinRow d)) :
    ∃ input : CustomInput, input.pc = w.pc ∧ input.activeMask = w.activeMask ∧
      input.divergence.record = w.divergence.rowView (w.joinRow d) ∧
      w.executeWord sf around word =
        .ok (w.apply (evaluateDivergentJoin input (decisionLane w.activeMask) (w.joinRow d))) := by
  have hlive := h.wf.divergence.row_live hlt
  have hcap : w.joinRow d < frozenDivergenceDepth :=
    Nat.lt_of_lt_of_le hlt h.wf.divergence.pointer
  have hrecord := customInput_record (decode_join_control hdec hn) hcap around.context
    around.context.bounds
  have heval := evaluate_join sf h hctx hdec hn
  unfold evaluateJoin at heval
  simp only [customInput_writePointer] at heval
  rw [joinPointer_eq] at heval
  rw [if_neg (show ¬ w.joinRow d = w.divergence.writePointer from Nat.ne_of_lt hlt), hrecord,
    rejectIf_of_not, ok_bind] at heval
  · refine ⟨_, rfl, rfl, hrecord,
      executeWord_eq hdec heval (evaluateDivergentJoin_immediate _ _ _) ?_⟩
    exact (evaluateDivergentJoin_ok_iff h.wf rfl rfl rfl hrecord
      (decisionLane_active h.wf.active h.running) hlive.valid).mpr hacc
  · simp only [DivergenceState.rowView, not_or, not_not, Bool.not_eq_false]
    exact ⟨hlive.valid, trivial, hlive.mask⟩

/-- The first JOIN of a region goes back to the start of the body with the other lanes. -/
theorem join_switch (hlt : w.joinRow d < w.divergence.writePointer)
    (hv : (w.divergence.row (w.joinRow d)).elseVisited = false)
    (hne : (w.divergence.row (w.joinRow d)).originalMask &&& ~~~w.activeMask ≠ 0#8) :
    ∃ w', w.executeWord sf around word = .ok w' ∧ (∀ q, KeepsRegister q w w') ∧
      w'.pc = (w.divergence.row (w.joinRow d)).nextPC ∧
      w'.activeMask = (w.divergence.row (w.joinRow d)).originalMask &&& ~~~w.activeMask ∧
      w'.divergence = w.divergence.visitElse (w.joinRow d) := by
  have hacc : JoinAccepts w (w.joinRow d) := by
    unfold JoinAccepts
    rw [if_neg (by rw [hv]; simp)]
    exact hne
  obtain ⟨input, hpc, hmask, hrecord, hexec⟩ := join_executes_row sf h hctx hdec hn hlt hacc
  have hvisited : input.divergence.record.elseVisited = false := by rw [hrecord]; exact hv
  unfold evaluateDivergentJoin at hexec
  rw [if_neg (by rw [hvisited]; simp)] at hexec
  have hcontrol := w.apply_sameControl
  refine ⟨_, hexec, join_keeps rfl, (hcontrol _).pc.trans ?_, (hcontrol _).activeMask.trans ?_,
    (hcontrol _).divergence.trans rfl⟩
  · rw [hrecord]
    rfl
  · rw [hrecord, hmask]
    rfl

/-- The second JOIN of a region restores the mask and pops the row. -/
theorem join_pop (htop : w.joinRow d + 1 = w.divergence.writePointer)
    (hv : (w.divergence.row (w.joinRow d)).elseVisited = true) :
    ∃ w', w.executeWord sf around word = .ok w' ∧ (∀ q, KeepsRegister q w w') ∧
      w'.pc = w.pc + 4#32 ∧
      w'.activeMask = (w.divergence.row (w.joinRow d)).originalMask ∧
      w'.divergence = w.divergence.pop (w.joinRow d) := by
  have hacc : JoinAccepts w (w.joinRow d) := by
    unfold JoinAccepts
    rw [if_pos hv]
    exact htop
  have hlt : w.joinRow d < w.divergence.writePointer := htop ▸ Nat.lt_succ_self _
  obtain ⟨input, hpc, hmask, hrecord, hexec⟩ := join_executes_row sf h hctx hdec hn hlt hacc
  have hvisited : input.divergence.record.elseVisited = true := by rw [hrecord]; exact hv
  unfold evaluateDivergentJoin at hexec
  rw [if_pos hvisited] at hexec
  have hcontrol := w.apply_sameControl
  refine ⟨_, hexec, join_keeps rfl, (hcontrol _).pc.trans ?_, (hcontrol _).activeMask.trans ?_,
    (hcontrol _).divergence.trans rfl⟩
  · rw [hpc]
    rfl
  · rw [hrecord]
    rfl

end

end

/-! ## Ordinary instructions -/

/-- The bundle goes on to the next word and writes destinations of the instruction. -/
structure Straight (w : WarpState) (d : Decoded) (e : InstructionEffects) : Prop where
  immediate : e.Immediate
  control : e.control = some (sequentialControl w.pc)
  masks : e.warpMasks = []
  divergence : e.divergence = none
  trap : e.trap = none
  writes : ∀ write ∈ e.registerWrites, write.destination ∈ d.destinations

/-- A straight bundle, or one that the memory or a fault handler has to look at first. -/
def Advances (w : WarpState) (d : Decoded) (e : InstructionEffects) : Prop :=
  Straight w d e ∨ e.memoryRequests ≠ [] ∨ e.packedLoads ≠ [] ∨ e.faults ≠ []

section

variable {ctx : ReadContext} {w : WarpState} {d : Decoded} {e : InstructionEffects}

theorem straight_append (w : WarpState) (d : Decoded) (mask : LaneMask) (values : LaneValues) :
    Straight w d
      (appendRegisterWrite { control := some (sequentialControl w.pc) } d mask values) := by
  rw [appendRegisterWrite_eq]
  exact ⟨⟨rfl, rfl, rfl⟩, rfl, rfl, rfl, rfl, fun write hw => (laneWrite_mem hw).1⟩

/-- Accesses give a request or a fault. -/
theorem accesses_pending (h : outcomes ≠ []) (hf : faultsOf outcomes = []) :
    requestsOf outcomes ≠ [] := by
  match outcomes, h with
  | .error fault :: rest, _ => exact nomatch hf
  | .ok request :: rest, _ => exact List.cons_ne_nil _ _

theorem lanes_ne_nil {mask : LaneMask} (hv : mask.Valid) (h : mask ≠ 0#8) : mask.lanes ≠ [] := by
  have hmem := LaneMask.mem_lanes.mpr (decisionLane_active hv h)
  exact List.ne_nil_of_mem hmem

variable {bounds : Option AddressBounds}

theorem evaluateMemory_advances (hr : Ready w)
    (h : evaluateMemory d (w.integerInput bounds src) = .ok e) : Advances w d e := by
  unfold evaluateMemory at h
  dsimp only at h
  split_ifs at h with hw hf
  · cases h
    exact .inr (.inr (.inr hf))
  · cases h
    refine .inr (.inl (accesses_pending ?_ (not_not.mp hf)))
    exact fun hnil => lanes_ne_nil hr.wf.active hr.running (List.map_eq_nil_iff.mp hnil)

theorem evaluateInteger_advances (hr : Ready w) (hord : d.Ordinary)
    (h : evaluateInteger d (w.integerInput bounds src) = .ok e) : Advances w d e := by
  unfold evaluateInteger at h
  simp only [ok_iff] at h
  obtain ⟨-, -, -, h⟩ := h
  split_ifs at h with hf hm hc
  · cases h
    exact .inl ⟨⟨rfl, rfl, rfl⟩, rfl, rfl, rfl, rfl, by simp⟩
  · exact evaluateMemory_advances hr h
  · rcases hord with hk | hk | hk <;> rw [hk] at hc <;> simp at hc
  · simp only [ok_iff] at h
    obtain ⟨-, rfl⟩ := h
    exact .inl (straight_append _ _ _ _)

theorem evaluateFloat_advances (hr : Ready w)
    (h : evaluateFloat sf d (w.floatInput bounds src) = .ok e) : Advances w d e := by
  unfold evaluateFloat at h
  simp only [ok_iff, not_or, not_not] at h
  obtain ⟨-, -, -, h⟩ := h
  split at h
  · simp only [ok_iff] at h
    exact evaluateMemory_advances hr h.2
  · simp only [bind_eq_ok] at h
    obtain ⟨rounding, -, lanes, -, h⟩ := h
    have hplain := straight_append w d w.activeMask lanes.1
    split_ifs at h
    · obtain rfl := pure_eq_ok.mp h
      exact .inl { hplain with immediate := { hplain.immediate with } }
    · obtain rfl := pure_eq_ok.mp h
      exact .inl hplain

theorem evaluateSystem_straight (hdec : decode word = .ok d) (hord : d.Ordinary)
    (h : evaluateSystem d (w.systemInput ctx src) = .ok e) :
    Straight w d e := by
  have hcat : ∀ entry ∈ catalog, entry.category = .system → entry.csr = .none →
      entry.control = .trap ∨ entry.control = .trapReturn := by decide
  unfold evaluateSystem at h
  simp only [ok_iff, not_not] at h
  obtain ⟨-, -, hsystem, h⟩ := h
  split_ifs at h with hcsr
  · unfold evaluateCSR at h
    split at h
    · cases h
    · simp only [ok_iff, appendRegisterWrite_eq] at h
      obtain ⟨-, h⟩ := h
      split_ifs at h <;> obtain rfl := pure_eq_ok.mp h <;>
        exact ⟨⟨rfl, rfl, rfl⟩, rfl, rfl, rfl, rfl, fun write hw => (laneWrite_mem hw).1⟩
  · obtain ⟨entry, hin, -, rfl⟩ := decode_eq_ok hdec
    have hc : entry.control = .trap ∨ entry.control = .trapReturn :=
      hcat entry hin hsystem (not_not.mp hcsr)
    have hk : entry.control = .none ∨ entry.control = .warpSpawn ∨ entry.control = .warpSync := hord
    grind

theorem evaluateWarpControl_straight (hdec : decode word = .ok d) (hord : d.Ordinary)
    (hctx : ctx.Ready)
    (h : evaluateWarpControl d (w.customInput d ctx bounds src) = .ok e) : Straight w d e := by
  have hcat : ∀ entry ∈ catalog,
      entry.name = .tmc ∨ entry.name = .pred ∨ entry.name = .split ∨ entry.name = .join →
        entry.control ≠ .none ∧ entry.control ≠ .warpSpawn ∧ entry.control ≠ .warpSync := by decide
  have hname : ¬ (d.name = .tmc ∨ d.name = .pred ∨ d.name = .split ∨ d.name = .join) := by
    intro hn
    obtain ⟨entry, hin, -, rfl⟩ := decode_eq_ok hdec
    obtain ⟨h1, h2, h3⟩ := hcat entry hin hn
    rcases hord with hk | hk | hk
    exacts [h1 hk, h2 hk, h3 hk]
  have hlsu : (w.customInput d ctx bounds src).pendingLSU = false := hctx.lsu
  have hprior : (w.customInput d ctx bounds src).pendingPriorWork = false := hctx.prior
  have hbarrier : ∀ lane, 
      Straight w d (evaluateBarrier d (w.customInput d ctx bounds src) lane) := by
    intro lane
    unfold evaluateBarrier
    simp only [hlsu, appendRegisterWrite_eq, List.nil_append, Bool.false_eq_true, if_false]
    split_ifs
    · exact ⟨⟨rfl, rfl, rfl⟩, rfl, rfl, rfl, rfl, fun write hw => (laneWrite_mem hw).1⟩
    · exact ⟨⟨rfl, rfl, rfl⟩, rfl, rfl, rfl, rfl, by simp⟩
  unfold evaluateWarpControl at h
  simp only at h
  split at h
  case h_1 hn | h_2 hn | h_4 hn | h_5 hn => exact absurd hn (by simp_all)
  case h_3 =>
    cases h
    exact ⟨⟨rfl, rfl, rfl⟩, rfl, rfl, rfl, rfl, by simp [evaluateWarpSpawn]⟩
  case h_6 | h_7 | h_8 =>
    cases h
    exact hbarrier _
  case h_9 =>
    cases h
    refine ⟨⟨rfl, rfl, rfl⟩, ?_, rfl, rfl, rfl, by simp [evaluateWarpSync]⟩
    simp only [evaluateWarpSync, hprior, Bool.false_eq_true, if_false]
    rfl
  case h_10 => cases h

theorem evaluatePackedLoad_advances (hr : Ready w)
    (h : evaluatePackedLoad d (w.customInput d ctx bounds src) = .ok e) :
    Advances w d e := by
  unfold evaluatePackedLoad at h
  simp only [ok_iff, Bool.not_eq_false] at h
  obtain ⟨hshape, h⟩ := h
  have hcount : 0 < d.memory.packed := by
    unfold packedShape at hshape
    simp only [Bool.and_eq_true, Bool.or_eq_true, decide_eq_true_eq] at hshape
    omega
  split_ifs at h with hf
  · cases h
    exact .inr (.inr (.inr hf))
  · cases h
    refine .inr (.inr (.inl (accesses_pending ?_ (not_not.mp hf))))
    obtain ⟨lane, hl⟩ := List.exists_mem_of_ne_nil _ (lanes_ne_nil hr.wf.active hr.running)
    exact List.ne_nil_of_mem (List.mem_flatMap.mpr
      ⟨lane, hl, List.mem_map_of_mem (List.mem_range.mpr hcount)⟩)

theorem evaluateCustom_advances (hr : Ready w) (hdec : decode word = .ok d) (hord : d.Ordinary)
    (hctx : ctx.Ready)
    (h : evaluateCustom d (w.customInput d ctx bounds src) = .ok e) : Advances w d e := by
  unfold evaluateCustom at h
  simp only [ok_iff] at h
  obtain ⟨-, -, -, -, h⟩ := h
  split at h
  case h_12 => exact .inl (evaluateWarpControl_straight hdec hord hctx h)
  case h_10 | h_11 => exact evaluatePackedLoad_advances hr h
  all_goals
    unfold evaluateCrossLane at h
    simp only at h
    split at h <;> cases h <;> exact .inl (straight_append _ _ _ _)

/-- An ordinary instruction that evaluates goes on, or waits for the memory. -/
theorem evaluate_advances (hr : Ready w) (hdec : decode word = .ok d) (hord : d.Ordinary)
    (hctx : ctx.Ready) (he : w.evaluate sf d ctx = .ok e) : Advances w d e := by
  unfold WarpState.evaluate at he
  rw [sourceValues_decoded w hdec, ok_bind] at he
  unfold WarpState.evaluateOperands at he
  split at he <;> simp only [bind_eq_ok] at he
  case h_1 | h_2 | h_3 | h_4 =>
    obtain ⟨_, -, bounds, -, he⟩ := he
    exact evaluateInteger_advances hr hord he
  case h_5 =>
    obtain ⟨_, -, bounds, -, he⟩ := he
    exact evaluateFloat_advances hr he
  case h_6 =>
    obtain ⟨_, -, bounds, -, he⟩ := he
    exact .inl (evaluateSystem_straight hdec hord he)
  case h_7 =>
    obtain ⟨bounds, -, he⟩ := he
    exact evaluateCustom_advances hr hdec hord hctx he

/-! ## Completed memory accesses -/

theorem completeMemory_straight (h : VortexSim.completeMemory d w.pc expected responses = .ok e)
    (hf : e.faults = []) : Straight w d e := by
  unfold VortexSim.completeMemory at h
  simp only [ok_iff] at h
  obtain ⟨-, -, scan, -, -, h⟩ := h
  split_ifs at h with hne hload
  · cases h
    exact absurd hf hne
  · cases h
    rw [appendRegisterWrite_eq]
    exact ⟨⟨rfl, rfl, rfl⟩, rfl, rfl, rfl, rfl, fun write hw => (laneWrite_mem hw).1⟩
  · cases h
    exact ⟨⟨rfl, rfl, rfl⟩, rfl, rfl, rfl, rfl, by simp⟩

theorem completePackedLoad_straight (h : w.completePackedLoad d expected responses = .ok e)
    (hf : e.faults = []) : Straight w d e := by
  unfold WarpState.completePackedLoad VortexSim.completePackedLoad completePackedLoadWith at h
  simp only [ok_iff] at h
  obtain ⟨-, -, scan, -, -, h⟩ := h
  split_ifs at h with hne
  · cases h
    exact absurd hf hne
  · cases h
    exact straight_append _ _ _ _

/-- A completed instruction without a fault is straight when it advances. -/
theorem complete_straight (hadv : Advances w d issued) (h : w.complete around d issued = .ok e)
    (hf : e.faults = []) : Straight w d e := by
  unfold WarpState.complete at h
  split_ifs at h with hm hp
  · exact completeMemory_straight (WarpState.completeMemory_eq_ok h) hf
  · exact completePackedLoad_straight h hf
  · cases h
    rcases hadv with hs | hs | hs | hs
    exacts [hs, absurd hs hm, absurd hs hp, absurd hf hs]

end

/-! ## Branches and jumps -/

section

variable {ctx : ReadContext} {w w' : WarpState} {d : Decoded} {e : InstructionEffects}

theorem decode_transfer (hdec : decode word = .ok d)
    (hc : d.control = .branch ∨ d.control = .jump) :
    d.category = .rv32i ∧ d.memory.kind = .none := by
  have hcat : ∀ entry ∈ catalog, entry.control = .branch ∨ entry.control = .jump →
      entry.category = .rv32i ∧ entry.memory.kind = .none := by decide
  obtain ⟨entry, hin, -, rfl⟩ := decode_eq_ok hdec
  exact hcat entry hin hc

theorem decode_jal (hdec : decode word = .ok d) (hn : d.name = .jal) : d.control = .jump := by
  have hcat : ∀ entry ∈ catalog, entry.name = .jal → entry.control = .jump := by decide
  obtain ⟨entry, hin, -, rfl⟩ := decode_eq_ok hdec
  exact hcat entry hin hn

theorem evaluate_transfer (hdec : decode word = .ok d)
    (hc : d.control = .branch ∨ d.control = .jump) (he : w.evaluate sf d ctx = .ok e) :
    ∃ bounds, evaluateControl d (w.integerInput bounds (w.operands d)) = .ok e := by
  obtain ⟨hcat, hmem⟩ := decode_transfer hdec hc
  unfold WarpState.evaluate at he
  rw [sourceValues_decoded w hdec, ok_bind] at he
  unfold WarpState.evaluateOperands at he
  simp only [hcat, bind_eq_ok] at he
  obtain ⟨_, -, bounds, -, he⟩ := he
  unfold evaluateInteger at he
  simp only [ok_iff] at he
  obtain ⟨-, -, -, he⟩ := he
  rw [if_neg (by rw [hmem]; simp), if_neg (by rw [hmem]; simp), if_pos hc] at he
  exact ⟨bounds, he⟩

/-- A branch with an aligned target changes the PC and nothing else. -/
theorem evaluate_branch (hdec : decode word = .ok d) (hc : d.control = .branch)
    (htarget : ¬ misaligned (w.pc + d.immediate)) (he : w.evaluate sf d ctx = .ok e) :
    ∃ c : ControlEffect, e = { control := some c } ∧
      (c.nextPC = w.pc + d.immediate ∨ c.nextPC = w.pc + 4#32) := by
  obtain ⟨bounds, h⟩ := evaluate_transfer hdec (.inl hc) he
  unfold evaluateControl at h
  split at h
  · cases h
  · rw [if_neg (by rw [hc]; simp)] at h
    unfold evaluateBranch at h
    simp only at h
    split at h
    · cases h
    · split_ifs at h with hmis
      · exact absurd hmis htarget
      · cases h
        exact ⟨_, rfl, .inl rfl⟩
    · cases h
      exact ⟨_, rfl, .inr rfl⟩

/-- A JAL with an aligned target goes there and writes its destination. -/
theorem evaluate_jal (hdec : decode word = .ok d) (hn : d.name = .jal)
    (htarget : ¬ misaligned (w.pc + d.immediate)) (he : w.evaluate sf d ctx = .ok e) :
    ∃ (c : ControlEffect) (writes : List RegisterWriteEffect),
      e = { control := some c, registerWrites := writes } ∧ c.nextPC = w.pc + d.immediate ∧
      ∀ write ∈ writes, write.destination ∈ d.destinations := by
  have hc := decode_jal hdec hn
  obtain ⟨bounds, h⟩ := evaluate_transfer hdec (.inr hc) he
  unfold evaluateControl at h
  split at h
  · cases h
  · rename_i lane _
    rw [if_pos hc] at h
    cases h
    unfold evaluateJump
    have hjump : jumpTarget d (w.integerInput bounds (w.operands d)) lane = w.pc + d.immediate :=
      if_pos hn
    simp only [appendRegisterWrite_eq, hjump, List.nil_append]
    split_ifs with hmis
    · exact absurd hmis htarget
    · exact ⟨_, _, rfl, rfl, fun write hw => (laneWrite_mem hw).1⟩

/-- What an executed word evaluated to. -/
theorem executeWord_eq_ok (h : w.executeWord sf around word = .ok w') :
    ∃ d issued e, decode word = .ok d ∧ w.evaluate sf d around.context = .ok issued ∧
      w.complete around d issued = .ok e ∧ e.faults = [] ∧ BundleOk w e ∧ w.apply e = w' := by
  unfold WarpState.executeWord at h
  simp only [ok_iff, stageEffects_eq_ok, ne_eq, not_not] at h
  obtain ⟨d, hd, issued, hi, e, he, hf, s, ⟨hok, rfl⟩, rfl⟩ := h
  exact ⟨d, issued, e, hd, hi, he, hf, hok, rfl⟩

/-- A step that leaves mask and stack alone and writes only listed registers. -/
structure Calm (w w' : WarpState) (written : List Register) : Prop where
  wf : w'.WF
  region : SameRegion w w'
  keeps : ∀ q : Register, q.Architectural → q ∉ written → KeepsRegister q w w'

/-- A bundle without mask, stack and trap effect makes such a step. -/
theorem calm_of_bundle (hw : w.WF) (hdec : decode word = .ok d) (hok : BundleOk w e)
    (hm : e.warpMasks = []) (hd : e.divergence = none) (ht : e.trap = none)
    (hwrites : ∀ write ∈ e.registerWrites, write.destination ∈ d.destinations) :
    Calm w (w.apply e) d.destinations where
  wf := WarpState.apply_wf hw hok
  region := by
    have hcontrol := w.apply_sameControl e
    have htransfer : w.transfer e = w.redirect e.control := by
      unfold WarpState.transfer
      rw [hm, hd, ht]
      rfl
    rw [htransfer] at hcontrol
    constructor
    · rw [hcontrol.activeMask]
      cases e.control <;> rfl
    · rw [hcontrol.divergence]
      cases e.control <;> rfl
  keeps := by
    intro q hq hnot lane
    rw [WarpState.apply_lanes]
    refine w.writeAll_get_ne ?_ hq ?_ lane
    · intro write hwrite
      exact decode_destinations hdec _ (hwrites write hwrite)
    · intro write hwrite he
      exact hnot (he ▸ hwrites write hwrite)

theorem apply_pc (hc : e.control = some c) : (w.apply e).pc = c.nextPC := by
  rw [(w.apply_sameControl e).pc, WarpState.transfer, hc]
  rfl

theorem ordinary_step (hr : Ready w) (hdec : decode word = .ok d) (hord : d.Ordinary)
    (hctx : around.context.Ready) (h : w.executeWord sf around word = .ok w') :
    Calm w w' d.destinations ∧ w'.pc = w.pc + 4#32 := by
  obtain ⟨d', issued, e, hdec', hi, he, hf, hok, rfl⟩ := executeWord_eq_ok h
  obtain rfl : d = d' := Except.ok.inj (hdec.symm.trans hdec')
  have hs := complete_straight (evaluate_advances hr hdec hord hctx hi) he hf
  exact ⟨calm_of_bundle hr.wf hdec hok hs.masks hs.divergence hs.trap hs.writes,
    apply_pc hs.control⟩

theorem branch_step (hw : w.WF) (hdec : decode word = .ok d) (hc : d.control = .branch)
    (htarget : ¬ misaligned (w.pc + d.immediate)) (h : w.executeWord sf around word = .ok w') :
    Calm w w' [] ∧ (w'.pc = w.pc + d.immediate ∨ w'.pc = w.pc + 4#32) := by
  obtain ⟨d', issued, e, hdec', hi, he, -, hok, rfl⟩ := executeWord_eq_ok h
  obtain rfl : d = d' := Except.ok.inj (hdec.symm.trans hdec')
  obtain ⟨c, rfl, hnext⟩ := evaluate_branch hdec hc htarget hi
  cases he
  have hcalm := calm_of_bundle hw hdec hok rfl rfl rfl (by simp)
  refine ⟨⟨hcalm.wf, hcalm.region, fun q _ _ => join_keeps rfl q⟩, ?_⟩
  rw [apply_pc rfl]
  exact hnext

theorem jal_step (hw : w.WF) (hdec : decode word = .ok d) (hn : d.name = .jal)
    (htarget : ¬ misaligned (w.pc + d.immediate)) (h : w.executeWord sf around word = .ok w') :
    Calm w w' d.destinations ∧ w'.pc = w.pc + d.immediate := by
  obtain ⟨d', issued, e, hdec', hi, he, -, hok, rfl⟩ := executeWord_eq_ok h
  obtain rfl : d = d' := Except.ok.inj (hdec.symm.trans hdec')
  obtain ⟨c, writes, rfl, hnext, hwrites⟩ := evaluate_jal hdec hn htarget hi
  cases he
  exact ⟨calm_of_bundle hw hdec hok rfl rfl rfl hwrites, (apply_pc rfl).trans hnext⟩

end

end VortexSim
