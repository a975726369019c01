import VortexSim.State.Acceptance

/-!
# Acceptance of the custom instructions

The warp-control instructions are the ones whose bundles the validator may refuse.
`StagingGap` lists the four situations, and `evaluated_staged_iff` says that an evaluated
bundle is accepted exactly outside of them.
-/

namespace VortexSim

open Checked

/-! ## Masks -/

theorem conditionMask_valid (d : Decoded) (input : CustomInput) : (conditionMask d input).Valid :=
  laneMaskOf_valid _

theorem conditionMask_subset (d : Decoded) (input : CustomInput) :
    (conditionMask d input).set ⊆ input.activeMask.set := by
  intro lane hl
  rw [conditionMask, laneMaskOf_set, Finset.mem_filter, Bool.and_eq_true] at hl
  exact LaneMask.mem_set.mpr hl.2.1

/-- The two masks of a SPLIT partition the active mask. -/
structure Sides (active x y : LaneMask) : Prop where
  left : x.Valid
  right : y.Valid
  disjoint : x &&& y = 0#8
  cover : x ||| y = active

theorem Sides.symm (h : Sides active x y) : Sides active y x :=
  ⟨h.right, h.left, by rw [BitVec.and_comm, h.disjoint], by rw [BitVec.or_comm, h.cover]⟩

variable {d : Decoded} {w : WarpState} {e : InstructionEffects} {ctx : ReadContext} {lane : Lane}
  {word : Word}

theorem sides_of_condition (ha : input.activeMask.Valid) :
    Sides input.activeMask (conditionMask d input)
      (input.activeMask &&& ~~~conditionMask d input) := by
  have hc := conditionMask_valid d input
  have hsub := conditionMask_subset d input
  refine ⟨hc, ha.and_left _, ?_, ?_⟩
  · refine (LaneMask.Valid.and_left hc _).eq .zero ?_
    rw [LaneMask.set_and, LaneMask.set_diff, LaneMask.set_zero]
    exact Finset.inter_sdiff_self _ _
  · refine LaneMask.Valid.eq ?_ ha ?_
    · exact LaneMask.valid_iff.mpr
        ((LaneMask.valid_iff.mp hc).or (LaneMask.valid_iff.mp (ha.and_left _)))
    · rw [LaneMask.set_or, LaneMask.set_diff]
      exact Finset.union_sdiff_of_subset hsub

/-- The sides in execution order: a partition whose parts are non-empty exactly when the
split diverges. -/
theorem splitSides_spec (d : Decoded) (ha : input.activeMask.Valid) :
    Sides input.activeMask (splitSides d input).1 (splitSides d input).2 ∧
      (splitDivergent d input = true ↔
        (splitSides d input).1 ≠ 0#8 ∧ (splitSides d input).2 ≠ 0#8) := by
  have hsides := sides_of_condition (d := d) ha
  unfold splitSides splitDivergent
  simp only [Bool.and_eq_true, decide_eq_true_eq]
  split_ifs
  · exact ⟨hsides.symm, and_comm⟩
  · exact ⟨hsides, Iff.rfl⟩

theorem operandMask_valid (values : LaneValues) (lane : Lane) :
    (operandMask values lane).Valid := by
  unfold operandMask
  rw [BitVec.and_comm]
  exact LaneMask.Valid.and_left (by decide) _

/-- A mask replacement with sequential control, as TMC and PRED make it. -/
theorem remask_ok (hw : w.WF) (hid : input.warpID = w.id) {reason : WarpMaskReason}
    (hr : reason = .tmc ∨ reason = .predicate) (hm : mask.Valid) :
    BundleOk w { control := some (sequentialControl w.pc)
                 warpMasks := [maskEffect input reason mask] } := by
  refine .noCSR { ForwardedOk.nothing _ with } rfl rfl rfl rfl .nil ?_
  exact {
    sole := Nat.le_refl 1
    masks := by
      intro m hmem
      obtain rfl := List.mem_singleton.mp hmem
      refine ⟨hid, hm, rfl, ?_⟩
      rcases hr with rfl | rfl <;> rfl
    trapAlone := fun h => absurd rfl h
    divergence := by simp
    remask := by
      rintro - m ⟨⟩
      exact ⟨hr, _, rfl, rfl⟩
    reconverge := by
      rintro - c ⟨⟩
      simp [sequentialControl]
    trap := by
      refine ⟨?_, by simp⟩
      rintro - c ⟨⟩
      simp [sequentialControl]
    control := by
      rintro c ⟨⟩
      exact sequentialControl_ok hw }

/-! ## SPLIT -/

/-- A bundle with a divergence effect and no trap. -/
theorem divergenceGroup_ok {d : DivergenceEffect} (hd : e.divergence = some d)
    (hc : e.control = some c) (ht : e.trap = none) (hsole : e.warpMasks.length ≤ 1)
    (hm : ∀ m ∈ e.warpMasks, m.Ok w.id) (hdok : d.Ok w e.warpMasks.head? e.control) (hcok : c.Ok w)
    (hr : c.reason ≠ .trap ∧ c.reason ≠ .trapReturn) : ControlGroupOk w e where
  sole := hsole
  masks := hm
  trapAlone := fun h => absurd ht h
  divergence := by
    rw [hd]
    rintro _ ⟨⟩
    exact hdok
  remask := by simp [RemaskOk, hd]
  reconverge := by simp [hd]
  trap := by
    rw [ht, hc]
    refine ⟨?_, by simp⟩
    rintro - _ ⟨⟩
    exact hr
  control := by
    rw [hc]
    rintro _ ⟨⟩
    exact hcok

/-- The divergence effect of an evaluated SPLIT is accepted while there is room. -/
theorem splitOk_of_sides (hw : w.WF) (hsides : Sides w.activeMask x y)
    (hdiv : divergent = true ↔ x ≠ 0#8 ∧ y ≠ 0#8)
    (hroom : ¬ (divergent = true ∧ w.divergence.writePointer = frozenDivergenceDepth))
    (hmask : mask = if divergent then some { warpID := w.id, reason := .split, mask := x
                                             active := true } else none) :
    SplitOk w { action := .split, warpID := w.id, stackPointer := w.divergence.writePointer
                divergent := divergent, originalMask := w.activeMask, executeMask := x
                deferredMask := y, reconvergencePC := w.pc + 4#32, push := divergent }
      mask (sequentialControl w.pc) := by
  refine ⟨rfl, rfl, rfl, rfl, rfl, rfl, rfl, hsides.disjoint, hsides.cover, ?_, ?_⟩
  · rintro (rfl : divergent = false)
    refine ⟨hmask, fun hx => ?_⟩
    by_contra hy
    exact absurd (hdiv.mpr ⟨hx, hy⟩) (by simp)
  · rintro (rfl : divergent = true)
    obtain ⟨hx, hy⟩ := hdiv.mp rfl
    refine ⟨?_, aligned_add_four hw.pc, hx, hy, _, hmask, rfl, rfl, rfl⟩
    exact Nat.lt_of_le_of_ne hw.divergence.pointer fun hfull => hroom ⟨rfl, hfull⟩

theorem customInput_writePointer (w : WarpState) (d : Decoded) (ctx : ReadContext)
    (bounds : Option AddressBounds) (src : Operands) :
    (w.customInput d ctx bounds src).divergence.writePointer = w.divergence.writePointer := by
  simp only [WarpState.customInput, WarpState.divergenceView]
  split_ifs <;> rfl

theorem evaluateSplit_ok_iff (hw : w.WF) (hd : ∀ r ∈ d.destinations, r.Architectural) :
    BundleOk w (evaluateSplit d (w.customInput d ctx bounds src)) ↔
      ¬ (splitDivergent d (w.customInput d ctx bounds src) = true ∧
        w.divergence.writePointer = frozenDivergenceDepth) := by
  obtain ⟨hsides, hdiv⟩ := splitSides_spec d
    (show (w.customInput d ctx bounds src).activeMask.Valid from hw.active)
  unfold evaluateSplit
  simp only [appendRegisterWrite_eq, List.nil_append, customInput_writePointer]
  generalize splitDivergent d (w.customInput d ctx bounds src) = divergent at hdiv ⊢
  constructor
  · rintro hok ⟨rfl, hfull⟩
    obtain ⟨c, -, ⟨-, hsplit⟩ | ⟨hact, -⟩⟩ := (hok.control.divergence _ rfl).action
    · exact absurd hfull (Nat.ne_of_lt (hsplit.divergent rfl).1)
    · cases hact
  · intro hroom
    refine .noCSR { ForwardedOk.nothing _ with } rfl rfl rfl rfl (laneWrite_ok hd hw.active) ?_
    refine divergenceGroup_ok rfl rfl rfl ?_ ?_ ?_ (sequentialControl_ok hw)
      (by simp [sequentialControl])
    · cases divergent <;> simp
    · cases divergent with
      | false => simp
      | true =>
        intro m hm
        obtain rfl := List.mem_singleton.mp hm
        exact ⟨rfl, hsides.left, (decide_eq_true (hdiv.mp rfl).1).symm, rfl⟩
    · refine ⟨rfl, hw.divergence.pointer, hw.active, hsides.left, hsides.right, _, rfl,
        Or.inl ⟨rfl, splitOk_of_sides hw hsides hdiv hroom ?_⟩⟩
      cases divergent <;> rfl

/-! ## JOIN -/

/-- What a JOIN needs of the row it addresses. -/
def JoinAccepts (w : WarpState) (pointer : Nat) : Prop :=
  if (w.divergence.row pointer).elseVisited then pointer + 1 = w.divergence.writePointer
  else (w.divergence.row pointer).originalMask &&& ~~~w.activeMask ≠ 0#8

theorem evaluateIdleJoin_ok (hw : w.WF) :
    BundleOk w { control := some (sequentialControl w.pc)
                 divergence := some { action := .join, warpID := w.id
                                      stackPointer := w.divergence.writePointer
                                      originalMask := w.activeMask } } := by
  refine .noCSR { ForwardedOk.nothing _ with } rfl rfl rfl rfl .nil ?_
  refine divergenceGroup_ok rfl rfl rfl (Nat.zero_le 1) (by simp) ?_ (sequentialControl_ok hw)
    (by simp [sequentialControl])
  refine ⟨rfl, hw.divergence.pointer, hw.active, .zero, .zero, _, rfl, .inr ⟨rfl, ?_⟩⟩
  exact ⟨rfl, fun _ => ⟨rfl, rfl, rfl, rfl, rfl, rfl, rfl, rfl, rfl⟩, by simp⟩

theorem evaluateDivergentJoin_ok_iff (hw : w.WF) {pointer : Nat} (hpc : input.pc = w.pc)
    (hmask : input.activeMask = w.activeMask)
    (hid : input.warpID = w.id) (hrecord : input.divergence.record = w.divergence.rowView pointer)
    (hlane : w.activeMask.active lane = true) (hvalid : (w.divergence.row pointer).valid = true) :
    BundleOk w (evaluateDivergentJoin input lane pointer) ↔ JoinAccepts w pointer := by
  have hlt := hw.divergence.lt_of_valid hvalid
  have hptr : pointer < frozenDivergenceDepth := Nat.lt_of_lt_of_le hlt hw.divergence.pointer
  have hlive := hw.divergence.row_live hlt
  unfold evaluateDivergentJoin JoinAccepts maskEffect
  simp only [hrecord, hpc, hmask, hid, DivergenceState.rowView]
  cases hvisited : (w.divergence.row pointer).elseVisited with
  | true =>
    constructor
    · intro hok
      obtain ⟨c, -, ⟨hact, -⟩ | ⟨-, hjoin⟩⟩ := (hok.control.divergence _ rfl).action
      · cases hact
      · exact ((hjoin.row rfl).pop rfl).top
    · intro htop
      refine .noCSR { ForwardedOk.nothing _ with } rfl rfl rfl rfl .nil ?_
      refine divergenceGroup_ok rfl rfl rfl (Nat.le_refl 1) ?_ ?_ (sequentialControl_ok hw)
        (by simp [sequentialControl])
      · intro m hm
        obtain rfl := List.mem_singleton.mp hm
        exact ⟨rfl, hlive.mask, rfl, rfl⟩
      · refine ⟨rfl, Nat.le_of_lt hptr, hlive.mask, hlive.mask, .zero, _, rfl,
          Or.inr ⟨rfl, rfl, by simp, fun _ => ?_⟩⟩
        exact ⟨by simp, hptr, hvalid, rfl, rfl, ⟨_, rfl, rfl, rfl, rfl⟩, by simp,
          fun _ => ⟨hvisited, htop, rfl, rfl⟩⟩
  | false =>
    constructor
    · intro hok
      obtain ⟨c, -, ⟨hact, -⟩ | ⟨-, hjoin⟩⟩ := (hok.control.divergence _ rfl).action
      · cases hact
      · exact ((hjoin.row rfl).switch rfl).nonempty
    · intro hne
      refine .noCSR { ForwardedOk.nothing _ with } rfl rfl rfl rfl .nil ?_
      refine divergenceGroup_ok rfl rfl rfl (Nat.le_refl 1) ?_ ?_
        ⟨rfl, hlive.aligned, hlane, rfl, rfl, hlive.aligned⟩ (by simp)
      · intro m hm
        obtain rfl := List.mem_singleton.mp hm
        exact ⟨rfl, hlive.mask.and_left _, rfl, rfl⟩
      · refine ⟨rfl, Nat.le_of_lt hptr, hlive.mask, hlive.mask.and_left _, .zero, _, rfl,
          Or.inr ⟨rfl, rfl, by simp, fun _ => ?_⟩⟩
        exact ⟨by simp, hptr, hvalid, rfl, rfl, ⟨_, rfl, rfl, rfl, rfl⟩,
          fun _ => ⟨hvisited, rfl, hne, rfl, rfl⟩, by simp⟩

/-! ## Spawn, barriers and drains -/

theorem spawnTargetMask_valid (count source : Nat) : (spawnTargetMask count source).Valid := by
  have hrange : List.range frozenWarpCount = [0, 1, 2, 3] := by decide
  simp only [spawnTargetMask, hrange, List.foldl_cons, List.foldl_nil]
  split_ifs <;> decide

theorem evaluateWarpSpawn_ok_iff (hw : w.WF) :
    BundleOk w (evaluateWarpSpawn (w.customInput d ctx bounds src) lane) ↔
      ¬ misaligned (src 1 lane) := by
  constructor
  · intro hok
    exact (hok.forwarded.spawn _ rfl).2.2.2
  · intro htarget
    refine .noCSR { ForwardedOk.nothing _ with spawn := ?_ } rfl rfl rfl rfl .nil
      (Plain.sequential hw rfl rfl rfl rfl).group
    rintro s ⟨⟩
    have hlane : LaneMask.Valid 1#8 := by decide
    exact ⟨rfl, spawnTargetMask_valid _ _, hlane, htarget⟩

theorem barrierRequest_ok (w : WarpState) (hb : d.barrier.operation = true)
    (hid : input.warpID = w.id) (rs1 rs2 : Word) :
    ∀ b ∈ [barrierRequest d input rs1 rs2], b.warpID = w.id ∧ b.addressWarp < frozenWarpCount ∧
      b.id < frozenBarrierCount ∧ b.kind.operation = true := by
  intro b hmem
  obtain rfl := List.mem_singleton.mp hmem
  exact ⟨hid, Nat.lt_succ_of_le (toNat_and_le _ 3#32), Nat.lt_succ_of_le (toNat_and_le _ 7#32), hb⟩

/-- Drains and barrier requests with sequential control and at most one register write. -/
theorem barrier_ok (hw : w.WF) {control : Option ControlEffect} (hwrites : WritesOk writes)
    (hdrains : ∀ x ∈ drains, x.warpID = w.id ∧ x.kind.declared = true)
    (hbarriers : ∀ b ∈ barriers, b.warpID = w.id ∧ b.addressWarp < frozenWarpCount ∧
      b.id < frozenBarrierCount ∧ b.kind.operation = true)
    (hcontrol : ∀ c ∈ control, c = sequentialControl w.pc) :
    BundleOk w { registerWrites := writes, control := control, warpDrains := drains
                 barriers := barriers } := by
  refine .noCSR { ForwardedOk.nothing _ with drains := hdrains, barriers := hbarriers }
    rfl rfl rfl rfl hwrites (Plain.group ⟨rfl, rfl, rfl, ?_, ?_⟩)
  · intro c hc
    rw [hcontrol c hc]
    exact sequentialControl_ok hw
  · intro c hc
    rw [hcontrol c hc]
    simp [sequentialControl]

theorem drain_ok (hk : kind.declared = true) :
    ∀ x ∈ [WarpDrainEffect.mk w.id kind wait release], x.warpID = w.id ∧
      x.kind.declared = true := by
  intro x hx
  obtain rfl := List.mem_singleton.mp hx
  exact ⟨rfl, hk⟩

theorem evaluateBarrier_ok (hw : w.WF) (hb : d.barrier.operation = true)
    (hd : ∀ r ∈ d.destinations, r.Architectural) :
    BundleOk w (evaluateBarrier d (w.customInput d ctx bounds src) lane) := by
  unfold evaluateBarrier
  simp only [appendRegisterWrite_eq, List.nil_append]
  split_ifs
  · exact barrier_ok hw .nil (drain_ok rfl) (by simp) (by simp)
  · exact barrier_ok hw (laneWrite_ok hd hw.active) (drain_ok rfl)
      (barrierRequest_ok w hb rfl _ _) (by rintro c ⟨⟩; rfl)
  · exact barrier_ok hw .nil (drain_ok rfl) (barrierRequest_ok w hb rfl _ _) (by rintro c ⟨⟩; rfl)

theorem evaluateWarpSync_ok (hw : w.WF) :
    BundleOk w (evaluateWarpSync (w.customInput d ctx bounds src)) := by
  refine barrier_ok hw .nil (drain_ok rfl) (by simp) ?_
  intro c hc
  split_ifs at hc
  · cases hc
  · cases hc
    rfl

/-! ## Cross-lane exchange and packed loads -/

theorem evaluateCrossLane_ok (hw : w.WF) (hd : ∀ r ∈ d.destinations, r.Architectural)
    (h : evaluateCrossLane d (w.customInput d ctx bounds src) = .ok e) : BundleOk w e := by
  have hall : LaneMask.Valid allLanes := by decide
  unfold evaluateCrossLane at h
  split at h <;> cases h
  case h_9 => exact sequential_ok hw _ hd (hall.and_left _)
  all_goals exact sequential_ok hw _ hd hw.active

theorem packedElement_fault (h : packedElement d input lane element = .error f) :
    f.kind.isFault = true ∧ f.lane < frozenLaneCount := by
  unfold packedElement at h
  simp only at h
  split_ifs at h <;> cases h <;> exact ⟨rfl, lane.isLt⟩

theorem packedElement_request (h : packedElement d input lane element = .ok r) :
    r.lane = lane.val := by
  unfold packedElement at h
  simp only at h
  split_ifs at h
  cases h
  rfl

theorem evaluatePackedLoad_ok (h : evaluatePackedLoad d input = .ok e) : BundleOk w e := by
  unfold evaluatePackedLoad at h
  simp only [ok_iff] at h
  obtain ⟨-, h⟩ := h
  split_ifs at h
  · obtain rfl := pure_eq_ok.mp h
    refine faults_ok ?_
    intro f hf
    obtain ⟨lane, -, hl⟩ := List.mem_flatMap.mp (mem_faultsOf.mp hf)
    obtain ⟨element, -, he⟩ := List.mem_map.mp hl
    exact packedElement_fault he
  · obtain rfl := pure_eq_ok.mp h
    refine .noCSR { ForwardedOk.nothing _ with packed := ?_ } rfl rfl rfl rfl .nil
      (Plain.group ⟨rfl, rfl, rfl, by simp, by simp⟩)
    intro r hr
    obtain ⟨lane, -, hl⟩ := List.mem_flatMap.mp (mem_requestsOf.mp hr)
    obtain ⟨element, -, he⟩ := List.mem_map.mp hl
    rw [packedElement_request he]
    exact lane.isLt

/-! ## The situations only the validator refuses -/

/-- The lanes of a warp whose condition operand selects the then side. -/
def WarpState.thenMask (w : WarpState) (d : Decoded) : LaneMask :=
  laneMaskOf fun lane => w.activeMask.active lane &&
    ((w.operands d 0 lane &&& 1#32 != 0#32) != d.conditionNegated)

/-- The row a JOIN of the warp addresses. -/
def WarpState.joinRow (w : WarpState) (d : Decoded) : Nat :=
  (w.operands d 0 (decisionLane w.activeMask) &&& 3#32).toNat

/-- The four situations in which an evaluated bundle is refused. -/
inductive StagingGap (w : WarpState) (d : Decoded) : Prop where
  | spawnTarget (hname : d.name = .wspawn)
      (htarget : misaligned (w.operands d 1 (decisionLane w.activeMask)))
  | splitFull (hname : d.name = .split) (hthen : w.thenMask d ≠ 0#8)
      (helse : w.activeMask &&& ~~~w.thenMask d ≠ 0#8)
      (hfull : w.divergence.writePointer = frozenDivergenceDepth)
  | joinPop (hname : d.name = .join) (hdivergent : w.joinRow d ≠ w.divergence.writePointer)
      (hvisited : (w.divergence.row (w.joinRow d)).elseVisited = true)
      (hbelow : w.joinRow d + 1 ≠ w.divergence.writePointer)
  | joinSwitch (hname : d.name = .join) (hdivergent : w.joinRow d ≠ w.divergence.writePointer)
      (hunvisited : (w.divergence.row (w.joinRow d)).elseVisited = false)
      (hempty : (w.divergence.row (w.joinRow d)).originalMask &&& ~~~w.activeMask = 0#8)

theorem StagingGap.name (h : StagingGap w d) :
    d.name = .wspawn ∨ d.name = .split ∨ d.name = .join := by
  cases h with
  | spawnTarget hn => exact .inl hn
  | splitFull hn => exact .inr (.inl hn)
  | joinPop hn => exact .inr (.inr hn)
  | joinSwitch hn => exact .inr (.inr hn)

/-- The other instructions are never refused. -/
theorem bundleOk_iff_of_name (hok : BundleOk w e)
    (hn : ¬ (d.name = .wspawn ∨ d.name = .split ∨ d.name = .join)) :
    BundleOk w e ↔ ¬ StagingGap w d :=
  iff_of_true hok fun hgap => hn hgap.name

theorem stagingGap_split_iff (hn : d.name = .split) :
    StagingGap w d ↔ splitDivergent d (w.customInput d ctx bounds (w.operands d)) = true ∧
      w.divergence.writePointer = frozenDivergenceDepth := by
  unfold splitDivergent
  simp only [Bool.and_eq_true, decide_eq_true_eq]
  constructor
  · intro h
    cases h with
    | splitFull _ ht he hf => exact ⟨⟨ht, he⟩, hf⟩
    | spawnTarget hn' | joinPop hn' | joinSwitch hn' => rw [hn] at hn'; cases hn'
  · rintro ⟨⟨ht, he⟩, hf⟩
    exact .splitFull hn ht he hf

theorem stagingGap_spawn_iff (hn : d.name = .wspawn) :
    StagingGap w d ↔ misaligned (w.operands d 1 (decisionLane w.activeMask)) := by
  constructor
  · intro h
    cases h with
    | spawnTarget _ ht => exact ht
    | splitFull hn' | joinPop hn' | joinSwitch hn' => rw [hn] at hn'; cases hn'
  · exact .spawnTarget hn

theorem stagingGap_join_iff (hn : d.name = .join) :
    StagingGap w d ↔ w.joinRow d ≠ w.divergence.writePointer ∧ ¬ JoinAccepts w (w.joinRow d) := by
  unfold JoinAccepts
  constructor
  · intro h
    cases h with
    | joinPop _ hd hv hb => exact ⟨hd, by rw [if_pos hv]; exact hb⟩
    | joinSwitch _ hd hv he => exact ⟨hd, by rw [if_neg (by rw [hv]; simp)]; exact not_not.mpr he⟩
    | spawnTarget hn' | splitFull hn' => rw [hn] at hn'; cases hn'
  · rintro ⟨hd, ha⟩
    split_ifs at ha with hv
    · exact .joinPop hn hd hv ha
    · exact .joinSwitch hn hd (Bool.not_eq_true _ ▸ hv) (not_not.mp ha)

/-! ## The evaluator as a whole -/

theorem joinPointer_eq (w : WarpState) (d : Decoded) (ctx : ReadContext)
    (bounds : Option AddressBounds) :
    joinPointer (w.customInput d ctx bounds (w.operands d)) (decisionLane w.activeMask) =
      w.joinRow d := rfl

/-- A JOIN sees the row it addresses. -/
theorem customInput_record (hc : d.control = .join) (hcap : w.joinRow d < frozenDivergenceDepth)
    (ctx : ReadContext)
    (bounds : Option AddressBounds) :
    (w.customInput d ctx bounds (w.operands d)).divergence.record =
      w.divergence.rowView (w.joinRow d) := by
  have hview : w.divergenceView d (w.operands d) =
      { writePointer := w.divergence.writePointer
        record := w.divergence.rowView (w.joinRow d) } := if_pos ⟨hc, hcap⟩
  exact congrArg DivergenceView.record hview

theorem evaluateJoin_ok_iff (hw : w.WF) (hrun : w.activeMask ≠ 0#8) (hn : d.name = .join)
    (hc : d.control = .join)
    (h : evaluateJoin d (w.customInput d ctx bounds (w.operands d))
      (decisionLane w.activeMask) = .ok e) :
    BundleOk w e ↔ ¬ StagingGap w d := by
  rw [stagingGap_join_iff hn]
  unfold evaluateJoin at h
  simp only [customInput_writePointer] at h
  rw [joinPointer_eq] at h
  split_ifs at h with hidle
  · cases h
    rw [hidle]
    exact iff_of_true (evaluateIdleJoin_ok hw) (fun hgap => hgap.1 rfl)
  · simp only [ok_iff, not_or, not_not, Bool.not_eq_false] at h
    obtain ⟨⟨hvalid, hptr, -⟩, rfl⟩ := h
    have hrecord : (w.customInput d ctx bounds (w.operands d)).divergence.record =
        w.divergence.rowView (w.joinRow d) := by
      by_cases hcap : w.joinRow d < frozenDivergenceDepth
      · exact customInput_record hc hcap ctx bounds
      · -- above the capacity the view is the empty record, which the evaluator refuses
        have hview : w.divergenceView d (w.operands d) =
            { writePointer := w.divergence.writePointer } := if_neg fun h => hcap h.2
        have : (w.divergenceView d (w.operands d)).record.valid = true := hvalid
        rw [hview] at this
        cases this
    have hlive : (w.divergence.row (w.joinRow d)).valid = true := by
      rw [hrecord] at hvalid
      exact hvalid
    rw [evaluateDivergentJoin_ok_iff hw rfl rfl rfl hrecord (decisionLane_active hw.active hrun)
      hlive]
    constructor
    · intro hacc hgap
      exact hgap.2 hacc
    · intro hgap
      by_contra hacc
      exact hgap ⟨hidle, hacc⟩

theorem evaluateWarpControl_ok_iff (hw : w.WF) (hrun : w.activeMask ≠ 0#8)
    (hdec : decode word = .ok d)
    (h : evaluateWarpControl d (w.customInput d ctx bounds (w.operands d)) = .ok e) :
    BundleOk w e ↔ ¬ StagingGap w d := by
  have hd := decode_destinations hdec
  unfold evaluateWarpControl at h
  split at h
  case h_1 hn =>
    cases h
    exact bundleOk_iff_of_name (remask_ok hw rfl (.inl rfl) (operandMask_valid _ _)) (by simp [hn])
  case h_2 hn =>
    cases h
    refine bundleOk_iff_of_name (remask_ok hw rfl (.inr rfl) ?_) (by simp [hn])
    split_ifs
    exacts [operandMask_valid _ _, conditionMask_valid _ _]
  case h_3 hn =>
    cases h
    rw [stagingGap_spawn_iff hn]
    exact evaluateWarpSpawn_ok_iff hw
  case h_4 hn =>
    simp only [ok_iff] at h
    obtain ⟨-, rfl⟩ := h
    rw [stagingGap_split_iff hn]
    exact evaluateSplit_ok_iff hw hd
  case h_5 hn => exact evaluateJoin_ok_iff hw hrun hn (decode_join_control hdec hn) h
  case h_6 hn | h_7 hn | h_8 hn =>
    cases h
    exact bundleOk_iff_of_name (evaluateBarrier_ok hw (decode_barrier hdec (by simp [hn])) hd)
      (by simp [hn])
  case h_9 hn =>
    cases h
    exact bundleOk_iff_of_name (evaluateWarpSync_ok hw) (by simp [hn])
  case h_10 => cases h

theorem evaluateCustom_ok_iff (hw : w.WF) (hrun : w.activeMask ≠ 0#8) (hdec : decode word = .ok d)
    (h : evaluateCustom d (w.customInput d ctx bounds (w.operands d)) = .ok e) :
    BundleOk w e ↔ ¬ StagingGap w d := by
  unfold evaluateCustom at h
  simp only [ok_iff] at h
  obtain ⟨-, -, -, -, h⟩ := h
  split at h
  case h_12 => exact evaluateWarpControl_ok_iff hw hrun hdec h
  case h_10 hn | h_11 hn =>
    exact bundleOk_iff_of_name (evaluatePackedLoad_ok h) (by simp [hn])
  all_goals
    rename_i hn
    exact bundleOk_iff_of_name (evaluateCrossLane_ok hw (decode_destinations hdec) h) (by simp [hn])

theorem evaluate_ok_iff (hsf : sf.FiveFlags) (hw : w.WF) (hrun : w.activeMask ≠ 0#8)
    (hdec : decode word = .ok d) (he : w.evaluate sf d ctx = .ok e) :
    BundleOk w e ↔ ¬ StagingGap w d := by
  have hd := decode_destinations hdec
  have hnot : d.category ≠ .custom → ¬ (d.name = .wspawn ∨ d.name = .split ∨ d.name = .join) :=
    mt (decode_custom hdec)
  obtain ⟨src, hsrc, he⟩ := bind_eq_ok.mp he
  obtain rfl : w.operands d = src := by
    simp only [ok_iff, WarpState.sourceValues] at hsrc
    exact hsrc.2.2
  unfold WarpState.evaluateOperands at he
  split at he
  case h_1 hcat | h_2 hcat | h_3 hcat | h_4 hcat =>
    simp only [bind_eq_ok] at he
    obtain ⟨_, -, bounds, -, he⟩ := he
    exact bundleOk_iff_of_name (evaluateInteger_ok hw hd he) (hnot (by simp [hcat]))
  case h_5 hcat =>
    simp only [bind_eq_ok] at he
    obtain ⟨_, -, bounds, -, he⟩ := he
    exact bundleOk_iff_of_name (evaluateFloat_ok hsf hw hd he) (hnot (by simp [hcat]))
  case h_6 hcat =>
    simp only [bind_eq_ok] at he
    obtain ⟨_, -, bounds, -, he⟩ := he
    exact bundleOk_iff_of_name (evaluateSystem_ok hw hd he) (hnot (by simp [hcat]))
  case h_7 hcat =>
    simp only [bind_eq_ok] at he
    obtain ⟨bounds, -, he⟩ := he
    exact evaluateCustom_ok_iff hw hrun hdec he

/-- What a running warp evaluates is accepted by the staging validator on the same warp,
except in the four situations of `StagingGap`. -/
theorem evaluated_staged_iff (sf : SoftFloat) (hsf : sf.FiveFlags) (w : WarpState) (hw : w.WF)
    (hrun : w.lifecycle = .running) (word : Word) (d : Decoded) (hdec : decode word = .ok d)
    (ctx : ReadContext) (e : InstructionEffects) (he : w.evaluate sf d ctx = .ok e) :
    (∃ s, w.stageEffects e = .ok s) ↔ ¬ StagingGap w d := by
  rw [← evaluate_ok_iff hsf hw (hw.running_iff.mp hrun) hdec he]
  simp only [stageEffects_eq_ok]
  constructor
  · rintro ⟨s, hok, -⟩
    exact hok
  · intro hok
    exact ⟨_, hok, rfl⟩

/-- A SPLIT on the condition of `x5`. -/
def splitX5 : Decoded :=
  decodeEntry 0x0002a08b#32 { custom .split 2#32 [xd, x1] .controlValue
        (EffectKind.register ||| EffectKind.warp ||| EffectKind.control) .split with
      mask := maskF7 ||| 0x01e00000#32, modifier := .splitNegateRS2, requiresPC := true }

/-- Two open regions, at their first or second sides; lane zero runs. -/
def openRegions (visited : Bool) : WarpState :=
  { freshWarp 0 with
    activeMask := 1#8
    divergence :=
      { writePointer := 2
        records := fun i => if i.val < 2 then
          { valid := true, elseVisited := visited, originalMask := 0xf#8, nextPC := 8#32 }
        else {} } }

/-- Both are at their first sides. -/
def twoRegions : WarpState := openRegions false

theorem openRegions_wf (visited : Bool) : (openRegions visited).WF := by
  have hfresh : (freshWarp 0).WF := freshWarp_wf (by decide)
  have hlane : LaneMask.Valid 1#8 := by decide
  have hpointer : 2 ≤ frozenDivergenceDepth := by decide
  refine { hfresh with active := hlane, lifecycle := rfl, divergence := ⟨hpointer, ?_, ?_⟩ }
  · intro i hi
    have hmask : LaneMask.Valid 0xf#8 ∧ 0xf#8 ≠ 0#8 ∧ ¬ misaligned 8#32 := by decide
    rw [show (openRegions visited).divergence.records i = _ from if_pos hi]
    exact ⟨rfl, hmask.1, hmask.2.1, hmask.2.2⟩
  · intro i hi
    exact if_neg (Nat.not_lt.mpr hi)

/-- JOIN with `x0` as its pointer. -/
def joinX0 : Decoded :=
  decodeEntry 0x0000300b#32
    { custom .join 3#32 [x1] .none (EffectKind.warp ||| EffectKind.control) .join with
      mask := maskF7 ||| maskRD ||| maskRS2 }

/-- A SPLIT of a fresh warp is accepted.  A JOIN that would pop the lower of two regions is not. -/
theorem evaluated_staged_iff_split :
    (∃ e s, (freshWarp 0).evaluate zeroFloat splitX5 {} = .ok e ∧
      (freshWarp 0).stageEffects e = .ok s) ∧
    ∃ e, (openRegions true).evaluate zeroFloat joinX0 {} = .ok e ∧
      ¬ ∃ s, (openRegions true).stageEffects e = .ok s := by
  constructor
  · have hopen : ¬ StagingGap (freshWarp 0) splitX5 := by
      rintro (⟨h, -⟩ | ⟨-, -, -, h⟩ | ⟨h, -⟩ | ⟨h, -⟩) <;> revert h <;> decide
    obtain ⟨s, hs⟩ := (evaluated_staged_iff zeroFloat zeroFloat_fiveFlags (freshWarp 0)
      (freshWarp_wf (by decide)) rfl 0x0002a08b#32 splitX5 rfl {} _ rfl).mpr hopen
    exact ⟨_, s, rfl, hs⟩
  · have hgap : StagingGap (openRegions true) joinX0 :=
      .joinPop rfl (by decide) (by decide) (by decide)
    exact ⟨_, rfl, fun hs => (evaluated_staged_iff zeroFloat zeroFloat_fiveFlags (openRegions true)
      (openRegions_wf true) rfl 0x0000300b#32 joinX0 rfl {} _ rfl).mp hs hgap⟩

/-- A JOIN that addresses a row below the top one is accepted when it switches sides. -/
theorem join_below_top_staged :
    twoRegions.WF ∧ twoRegions.lifecycle = .running ∧ decode 0x0000300b#32 = .ok joinX0 ∧
      twoRegions.joinRow joinX0 + 1 ≠ twoRegions.divergence.writePointer ∧
      twoRegions.joinRow joinX0 ≠ twoRegions.divergence.writePointer ∧
      ∃ e s, twoRegions.evaluate zeroFloat joinX0 {} = .ok e ∧ twoRegions.stageEffects e = .ok s :=
  ⟨openRegions_wf false, rfl, rfl, by decide, by decide, _, _, rfl, rfl⟩

end VortexSim
