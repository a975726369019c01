import VortexSim.State.Acceptance

/-!
# The footprint of an instruction

What the effects of an instruction may write: the one register that the decoder lists as its
destination, in active lanes only unless the instruction is a gather; the exception flags, for
arithmetic of the floating-point unit; and the CSR it names, if it has one.  The three registers
of a trap are no part of FCSR.
-/

namespace VortexSim

open Checked

/-- The writes that `e` may have, for an instruction on the lanes of `mask` with the CSR operand
`source`. -/
structure Footprint (d : Decoded) (mask : LaneMask) (source : Word) (e : InstructionEffects) :
    Prop where
  registers : ∀ write ∈ e.registerWrites,
    write.destination ∈ d.destinations ∧ ¬ write.destination.isZero
  lanes : d.name ≠ .wgather → ∀ write ∈ e.registerWrites, ∀ lane : Lane,
    write.mask.active lane = true → mask.active lane = true
  flags : e.fflags ≠ none → d.category = .rv32f ∧ d.memory.kind = .none ∧
    d.effects &&& EffectKind.fflags ≠ 0#32
  csrs : ∀ write ∈ e.csrWrites, aliasesFCSR write.address →
    d.csr ≠ .none ∧ write.address = d.csrAddress ∧ (d.csr = .rw ∨ source ≠ 0#32)

section

variable {d : Decoded} {e : InstructionEffects} {mask : LaneMask} {source : Word}

/-- What holds of every bundle an evaluator or a completion function returns. -/
structure Lawful (d : Decoded) (mask : LaneMask) (source : Word) (e : InstructionEffects) :
    Prop where
  footprint : Footprint d mask source e
  separate : e.Separate

/-- Nothing is written. -/
theorem Lawful.nothing (hr : e.registerWrites = []) (hf : e.fflags = none) (hc : e.csrWrites = [])
    (hreads : e.csrReads = []) : Lawful d mask source e where
  footprint := {
    registers := by simp [hr]
    lanes := by simp [hr]
    flags := fun h => absurd hf h
    csrs := by simp [hc] }
  separate := separate_of_noCSR hreads hc

/-- One write to the destination. -/
theorem Footprint.lane (hr : e.registerWrites = laneWrite d mask values) (hf : e.fflags = none)
    (hc : e.csrWrites = []) : Footprint d mask source e where
  registers := by
    intro write hw
    obtain ⟨hdest, hzero, -⟩ := laneWrite_mem (hr ▸ hw)
    exact ⟨hdest, hzero⟩
  lanes := by
    intro _ write hw lane hl
    obtain ⟨-, -, -, rfl, -⟩ := laneWrite_mem (hr ▸ hw)
    exact hl
  flags := fun h => absurd hf h
  csrs := by simp [hc]

theorem Lawful.lane (hr : e.registerWrites = laneWrite d mask values) (hf : e.fflags = none)
    (hc : e.csrWrites = []) (hreads : e.csrReads = []) : Lawful d mask source e :=
  ⟨.lane hr hf hc, separate_of_noCSR hreads hc⟩

theorem evaluateMemory_lawful (h : evaluateMemory d input = .ok e) : Lawful d mask source e := by
  unfold evaluateMemory at h
  dsimp only at h
  split_ifs at h <;> cases h <;> exact .nothing rfl rfl rfl rfl

theorem evaluateControl_lawful (h : evaluateControl d input = .ok e) :
    Lawful d input.activeMask source e := by
  unfold evaluateControl at h
  split at h
  · cases h
  · split_ifs at h
    · cases h
      unfold evaluateJump
      simp only [appendRegisterWrite_eq]
      split_ifs
      · exact .nothing rfl rfl rfl rfl
      · exact .lane rfl rfl rfl rfl
    · unfold evaluateBranch at h
      simp only at h
      split at h
      · cases h
      · split_ifs at h <;> cases h <;> exact .nothing rfl rfl rfl rfl
      · cases h
        exact .nothing rfl rfl rfl rfl

theorem evaluateInteger_lawful (h : evaluateInteger d input = .ok e) :
    Lawful d input.activeMask source e := by
  unfold evaluateInteger at h
  simp only [ok_iff] at h
  obtain ⟨-, -, -, h⟩ := h
  split_ifs at h
  · cases h
    exact .nothing rfl rfl rfl rfl
  · exact evaluateMemory_lawful h
  · exact evaluateControl_lawful h
  · simp only [ok_iff, appendRegisterWrite_eq] at h
    obtain ⟨-, rfl⟩ := h
    exact .lane rfl rfl rfl rfl

theorem evaluateFloat_lawful (h : evaluateFloat sf d input = .ok e) :
    Lawful d input.activeMask source e := by
  unfold evaluateFloat at h
  simp only [ok_iff] at h
  obtain ⟨-, -, hformat, h⟩ := h
  split at h
  · simp only [ok_iff] at h
    exact evaluateMemory_lawful h.2
  · rename_i hkind
    simp only [bind_eq_ok, appendRegisterWrite_eq] at h
    obtain ⟨rounding, -, lanes, -, h⟩ := h
    have hcategory : d.category = .rv32f := by
      by_contra hne
      exact hformat (.inl hne)
    split_ifs at h with hflags
    · cases h
      have hbase : Footprint d input.activeMask source
          { registerWrites := laneWrite d input.activeMask lanes.1 } := .lane rfl rfl rfl
      exact ⟨{ hbase with flags := fun _ => ⟨hcategory, not_not.mp hkind, hflags⟩ },
        separate_of_noCSR rfl rfl⟩
    · cases h
      exact .lane rfl rfl rfl rfl

theorem evaluateSystem_lawful (h : evaluateSystem d input = .ok e) :
    Lawful d input.activeMask (csrSource d input) e := by
  unfold evaluateSystem at h
  simp only [ok_iff] at h
  obtain ⟨-, -, -, h⟩ := h
  split_ifs at h with hcsr
  · unfold evaluateCSR at h
    split at h
    · cases h
    · rename_i entry hentry
      simp only [ok_iff, appendRegisterWrite_eq] at h
      obtain ⟨-, h⟩ := h
      have hbase : Footprint d input.activeMask (csrSource d input)
          { registerWrites := laneWrite d input.activeMask (readCSR entry.value input.csr) } :=
        .lane rfl rfl rfl
      split_ifs at h with hwrite
      · cases h
        refine ⟨{ hbase with csrs := fun write hw _ => ?_ }, fun hf => absurd rfl hf,
          fun _ => ⟨rfl, rfl⟩⟩
        obtain rfl := List.mem_singleton.mp hw
        exact ⟨hcsr, findCSR_address hentry, hwrite⟩
      · cases h
        exact ⟨.lane rfl rfl rfl, fun hf => absurd rfl hf, fun _ => ⟨rfl, rfl⟩⟩
  · unfold evaluateTrapSystem at h
    -- the addresses of a trap lie above FCSR
    have htrap : Lawful d input.activeMask (csrSource d input) (trapEntry d input) := by
      refine ⟨⟨fun _ hw => absurd hw List.not_mem_nil, fun _ _ hw => absurd hw List.not_mem_nil,
        fun hf => absurd rfl hf, ?_⟩, fun hf => absurd rfl hf, fun hr => absurd rfl hr⟩
      intro write hw halias
      simp only [trapEntry, List.mem_cons, List.not_mem_nil, or_false] at hw
      have hmepc : ¬ aliasesFCSR 0x341 := by decide
      have hmcause : ¬ aliasesFCSR 0x342 := by decide
      have hmtval : ¬ aliasesFCSR 0x343 := by decide
      rcases hw with rfl | rfl | rfl
      · exact absurd halias hmepc
      · exact absurd halias hmcause
      · exact absurd halias hmtval
    split at h <;> simp only [ok_iff, reduceCtorEq] at h <;> obtain ⟨-, rfl⟩ := h
    · exact htrap
    · exact htrap
    all_goals exact .nothing rfl rfl rfl rfl

theorem evaluateWarpControl_lawful (h : evaluateWarpControl d input = .ok e) :
    Lawful d input.activeMask source e := by
  unfold evaluateWarpControl at h
  simp only at h
  split at h
  case h_4 =>
    simp only [ok_iff] at h
    obtain ⟨-, rfl⟩ := h
    unfold evaluateSplit
    simp only [appendRegisterWrite_eq]
    exact .lane rfl rfl rfl rfl
  case h_5 =>
    unfold evaluateJoin evaluateDivergentJoin at h
    simp only at h
    split_ifs at h
    · cases h
      exact .nothing rfl rfl rfl rfl
    all_goals
      simp only [ok_iff] at h
      obtain ⟨-, rfl⟩ := h
      exact .nothing rfl rfl rfl rfl
  case h_6 | h_7 | h_8 =>
    cases h
    unfold evaluateBarrier
    simp only [appendRegisterWrite_eq]
    split_ifs
    · exact .nothing rfl rfl rfl rfl
    · exact .lane rfl rfl rfl rfl
    · exact .nothing rfl rfl rfl rfl
  case h_10 => cases h
  all_goals
    cases h
    exact .nothing rfl rfl rfl rfl

theorem evaluateCustom_lawful (h : evaluateCustom d input = .ok e) :
    Lawful d input.activeMask source e := by
  unfold evaluateCustom at h
  simp only [ok_iff] at h
  obtain ⟨-, -, -, -, h⟩ := h
  split at h
  case h_12 => exact evaluateWarpControl_lawful h
  case h_10 | h_11 =>
    unfold evaluatePackedLoad at h
    simp only [ok_iff] at h
    obtain ⟨-, h⟩ := h
    split_ifs at h <;> cases h <;> exact .nothing rfl rfl rfl rfl
  all_goals
    unfold evaluateCrossLane at h
    simp only [appendRegisterWrite_eq] at h
    split at h
    case h_9 =>
      rename_i hgather
      cases h
      have hbase : Footprint d
          (allLanes &&& ~~~(1#8 <<< (Fin.ofNat 4 d.gatherSourceLane).val)) source
          { registerWrites := laneWrite d
              (allLanes &&& ~~~(1#8 <<< (Fin.ofNat 4 d.gatherSourceLane).val))
              (gatherLane input (Fin.ofNat 4 d.gatherSourceLane)) } := .lane rfl rfl rfl
      exact ⟨{ hbase with lanes := fun hne => absurd hgather hne }, separate_of_noCSR rfl rfl⟩
    case h_10 => cases h
    all_goals
      cases h
      exact .lane rfl rfl rfl rfl

/-! ## Completion -/

/-- A load writes lanes that have answered. -/
theorem scanResponse_mask (h : scanResponse d scan response = .ok scan')
    (hs : ∀ lane : Lane, scan.mask.active lane = true → scan.seen.active lane = true) (lane : Lane)
    (hl : scan'.mask.active lane = true) : scan'.seen.active lane = true := by
  unfold scanResponse at h
  dsimp only at h
  split_ifs at h with hlane hfault hload
  · simp only [ok_iff] at h
    obtain ⟨-, -, -, rfl⟩ := h
    rw [LaneMask.active_or, hs lane hl, Bool.true_or]
  · simp only [ok_iff] at h
    obtain ⟨-, -, rfl⟩ := h
    rw [LaneMask.active_or, Bool.or_eq_true] at hl ⊢
    exact hl.imp_left (hs lane)
  · simp only [ok_iff] at h
    obtain ⟨-, -, rfl⟩ := h
    rw [LaneMask.active_or, hs lane hl, Bool.true_or]

theorem completeMemory_lawful (h : completeMemory d pc expected responses = .ok e) :
    Lawful d expected source e := by
  unfold completeMemory at h
  simp only [ok_iff, appendRegisterWrite_eq] at h
  obtain ⟨-, -, scan, hscan, hseen, h⟩ := h
  split_ifs at h
  · cases h
    exact .nothing rfl rfl rfl rfl
  · cases h
    have hmask := foldEach_invariant (fun scan : ResponseScan => ∀ lane : Lane,
        scan.mask.active lane = true → scan.seen.active lane = true)
      (fun _ _ _ _ _ hstep hs => scanResponse_mask hstep hs) hscan fun _ hl => hl
    rw [not_not.mp hseen] at hmask
    have hbase : Footprint d scan.mask source
        { registerWrites := laneWrite d scan.mask scan.values } := .lane rfl rfl rfl
    refine ⟨{ hbase with lanes := ?_ }, separate_of_noCSR rfl rfl⟩
    exact fun hne write hw lane hl => hmask lane (hbase.lanes hne write hw lane hl)
  · cases h
    exact .nothing rfl rfl rfl rfl

theorem completePackedLoadWith_lawful
    (h : completePackedLoadWith d pc expected responses part = .ok e) :
    Lawful d expected source e := by
  unfold completePackedLoadWith at h
  simp only [ok_iff, appendRegisterWrite_eq] at h
  obtain ⟨-, -, scan, -, -, h⟩ := h
  split_ifs at h
  · cases h
    exact .nothing rfl rfl rfl rfl
  · split at h
    · cases h
      exact .lane rfl rfl rfl rfl
    · cases h
      have hbase : Footprint d expected source
          { registerWrites := laneWrite d expected scan.values } := .lane rfl rfl rfl
      refine ⟨⟨fun write hw => ?_, fun hne write hw => ?_, hbase.flags, hbase.csrs⟩,
        separate_of_noCSR rfl rfl⟩
      · obtain ⟨whole, hwhole, rfl⟩ := List.mem_map.mp hw
        exact hbase.registers whole hwhole
      · obtain ⟨whole, hwhole, rfl⟩ := List.mem_map.mp hw
        exact hbase.lanes hne whole hwhole

theorem completePackedLoadPart_lawful
    (h : completePackedLoadPart d pc expected element responses = .ok e) :
    Lawful d expected source e := by
  unfold completePackedLoadPart at h
  simp only [ok_iff] at h
  exact completePackedLoadWith_lawful h.2

/-! ## The warp -/

theorem WarpState.evaluateOperands_lawful {w : WarpState}
    (h : w.evaluateOperands sf d context sources = .ok e) :
    Lawful d w.activeMask (csrSource d (w.systemInput context sources)) e := by
  unfold WarpState.evaluateOperands at h
  split at h <;> simp only [bind_eq_ok] at h
  case h_1 | h_2 | h_3 | h_4 =>
    obtain ⟨_, -, bounds, -, h⟩ := h
    exact evaluateInteger_lawful h
  case h_5 =>
    obtain ⟨_, -, bounds, -, h⟩ := h
    exact evaluateFloat_lawful h
  case h_6 =>
    obtain ⟨_, -, bounds, -, h⟩ := h
    exact evaluateSystem_lawful h
  case h_7 =>
    obtain ⟨bounds, -, h⟩ := h
    exact evaluateCustom_lawful h

theorem Produced.separate (h : Produced sf e) : e.Separate := by
  cases h with
  | evaluated w d ctx sources h => exact (WarpState.evaluateOperands_lawful h).separate
  | completed d pc expected responses h =>
    have hlawful : Lawful d expected 0#32 e := completeMemory_lawful h
    exact hlawful.separate
  | packed d pc expected responses h =>
    have hlawful : Lawful d expected 0#32 e := completePackedLoadWith_lawful h
    exact hlawful.separate
  | packedPart d pc expected element responses h =>
    have hlawful : Lawful d expected 0#32 e := completePackedLoadPart_lawful h
    exact hlawful.separate

end

end VortexSim
