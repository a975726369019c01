import VortexSim.State.Transition
import VortexSim.State.Spawn

/-!
# The invariant of a warp

`WarpState.WF` is what every warp satisfies from `newWarp` on: the identity is one of the
four warps, the PC is word aligned, masks stay in four lanes, the lifecycle agrees with the
active mask, integer register zero is zero, and the divergence stack has live rows exactly
below its write pointer.

The module shows that the constructor establishes it and that every update of `Transition`,
every setter and every candidate of a multi-warp transaction keeps it.
-/

namespace VortexSim

open Checked

/-! ## Statement -/

/-- An occupied row. -/
structure DivergenceRecord.Live (r : DivergenceRecord) : Prop where
  valid : r.valid = true
  mask : r.originalMask.Valid
  nonempty : r.originalMask ≠ 0#8
  aligned : ¬ misaligned r.nextPC

/-- The rows below the write pointer are live and the others are empty. -/
structure DivergenceState.WF (d : DivergenceState) : Prop where
  pointer : d.writePointer ≤ frozenDivergenceDepth
  live : ∀ i : Fin frozenDivergenceDepth, i.val < d.writePointer → (d.records i).Live
  empty : ∀ i : Fin frozenDivergenceDepth, d.writePointer ≤ i.val → d.records i = {}

/-- The invariant of a warp. -/
structure WarpState.WF (w : WarpState) : Prop where
  id : w.id < frozenWarpCount
  pc : ¬ misaligned w.pc
  active : w.activeMask.Valid
  saved : w.savedThreadMask.Valid
  lifecycle : w.lifecycle = lifecycleFor (decide (w.activeMask ≠ 0#8))
  x0 : ∀ lane, (w.lanes lane).gpr 0 = 0#32
  divergence : w.divergence.WF

variable {w c before owner : WarpState} {id p : Nat} {d : DivergenceState} {mask : LaneMask}
  {e : InstructionEffects} {control : Option ControlEffect} {trap flags : Option JointPeer}
  {s : EffectStage} {stream : EffectStream} {ω : Type} {event : VisibilityEvent} {owners : Owners}
  {o : Owner}

theorem WarpState.WF.running_iff (h : w.WF) : w.lifecycle = .running ↔ w.activeMask ≠ 0#8 := by
  rw [h.lifecycle, lifecycleFor]
  by_cases hm : w.activeMask = 0#8 <;> simp [hm]

/-- The warp of an initial state with nothing set: all lanes active at PC zero. -/
def freshWarp (id : Nat) : WarpState where
  id := id
  pc := 0#32
  activeMask := allLanes
  lifecycle := .running
  savedThreadMask := 0#8
  fcsr := 0#8
  trapCSRs := {}
  divergence := {}
  lanes := fun _ => {}

theorem freshWarp_wf (h : id < frozenWarpCount) : (freshWarp id).WF := by
  have hpc : ¬ misaligned 0#32 := by decide
  have hactive : LaneMask.Valid allLanes := by decide
  have hsaved : LaneMask.Valid 0#8 := by decide
  refine ⟨h, hpc, hactive, hsaved, rfl, fun _ => rfl, ?_⟩
  exact ⟨Nat.zero_le _, fun i hi => absurd hi (Nat.not_lt_zero _), fun _ _ => rfl⟩

/-! ## The divergence stack -/

namespace DivergenceState

theorem row_of_lt (d : DivergenceState) (hp : p < frozenDivergenceDepth) :
    d.row p = d.records ⟨p, hp⟩ := by
  rw [row, dif_pos hp]

/-- A valid row lies below the write pointer. -/
theorem WF.lt_of_valid (h : d.WF) (hv : (d.row p).valid = true) : p < d.writePointer := by
  by_contra hp
  unfold row at hv
  split at hv
  · rename_i hlt
    rw [h.empty ⟨p, hlt⟩ (Nat.le_of_not_lt hp)] at hv
    cases hv
  · cases hv

theorem WF.row_live (h : d.WF) (hp : p < d.writePointer) : (d.row p).Live := by
  have hlt := Nat.lt_of_lt_of_le hp h.pointer
  rw [d.row_of_lt hlt]
  exact h.live ⟨p, hlt⟩ hp

theorem push_wf (h : d.WF) (hcap : d.writePointer < frozenDivergenceDepth)
    (hr : record.Live) : (d.push d.writePointer record).WF := by
  refine ⟨hcap, ?_, ?_⟩
  · intro i hi
    simp only [push, setRow] at hi ⊢
    split
    · exact hr
    · exact h.live i (by omega)
  · intro i hi
    simp only [push, setRow] at hi ⊢
    rw [if_neg (by omega)]
    exact h.empty i (by omega)

theorem visitElse_wf (h : d.WF) (hp : p < d.writePointer) : (d.visitElse p).WF := by
  obtain ⟨hv, hm, hn, ha⟩ := h.row_live hp
  refine ⟨h.pointer, ?_, ?_⟩
  · intro i hi
    simp only [visitElse, setRow] at hi ⊢
    split
    · exact ⟨hv, hm, hn, ha⟩
    · exact h.live i hi
  · intro i hi
    simp only [visitElse, setRow] at hi ⊢
    rw [if_neg (by omega)]
    exact h.empty i hi

theorem pop_wf (h : d.WF) (hp : p + 1 = d.writePointer) : (d.pop p).WF := by
  have hcap := h.pointer
  refine ⟨?_, ?_, ?_⟩
  · simp only [pop]
    omega
  · intro i hi
    simp only [pop, setRow] at hi ⊢
    rw [if_neg (by omega)]
    exact h.live i (by omega)
  · intro i hi
    simp only [pop, setRow] at hi ⊢
    split
    · rfl
    · exact h.empty i (by omega)

end DivergenceState

/-! ## Register, flag and CSR updates -/

theorem LaneState.set_x0 {l : LaneState} (h0 : l.gpr 0 = 0#32) (hr : ¬ r.isZero)
    (hi : r.index < frozenRegisterCount) : (l.set r v).gpr 0 = 0#32 := by
  unfold LaneState.set
  split
  · rename_i hf
    have hne : regIndex r.index ≠ 0 := by
      intro he
      have hval := congrArg Fin.val he
      simp only [regIndex, Fin.ofNat, Fin.val_zero, Nat.mod_eq_of_lt hi] at hval
      exact hr ⟨hf, hval⟩
    simp only [Function.update_of_ne hne.symm, h0]
  · exact h0

namespace WarpState

theorem mapLanes_wf (h : w.WF) (hf : ∀ lane l, l.gpr 0 = 0#32 → (f lane l).gpr 0 = 0#32) :
    (w.mapLanes mask f).WF := by
  refine { h with x0 := ?_ }
  intro lane
  simp only [mapLanes]
  split
  · exact hf lane _ (h.x0 lane)
  · exact h.x0 lane

theorem writeBack_wf (h : w.WF) (hok : write.Ok) : (w.writeBack write).WF := by
  unfold writeBack
  split
  · exact h
  · rename_i hz
    exact mapLanes_wf h fun lane l h0 => LaneState.set_x0 h0 hz hok.index

theorem writeAll_wf (h : w.WF) (hok : ∀ write ∈ writes, write.Ok) : (w.writeAll writes).WF := by
  induction writes generalizing w with
  | nil => exact h
  | cons write writes ih =>
    refine ih (w := w.writeBack write) ?_ ?_
    · exact writeBack_wf h (hok write List.mem_cons_self)
    · exact fun x hx => hok x (List.mem_cons_of_mem write hx)

theorem accrue_wf (h : w.WF) (effect : Option FFlagsEffect) : (w.accrue effect).WF := by
  cases effect with
  | none => exact h
  | some e => exact { h with }

theorem setCSRValue_wf (h : w.WF) (address : Nat) (value : Word) :
    (w.setCSRValue address value).WF := by
  unfold setCSRValue
  split <;> exact { h with }

theorem writeCSRs_wf (h : w.WF) (writes : List CSRWriteEffect) : (w.writeCSRs writes).WF := by
  unfold writeCSRs
  induction writes.filter CSRWriteEffect.isLocal generalizing w with
  | nil => exact h
  | cons write rest ih => exact ih (setCSRValue_wf h _ _)

end WarpState

/-! ## Frames

Register, flag and CSR updates leave identity, control state and stack alone. -/

/-- Two states that agree outside registers, flags and CSRs. -/
structure SameControl (a b : WarpState) : Prop where
  id : a.id = b.id
  pc : a.pc = b.pc
  activeMask : a.activeMask = b.activeMask
  lifecycle : a.lifecycle = b.lifecycle
  savedThreadMask : a.savedThreadMask = b.savedThreadMask
  divergence : a.divergence = b.divergence

theorem SameControl.refl (a : WarpState) : SameControl a a := ⟨rfl, rfl, rfl, rfl, rfl, rfl⟩

theorem SameControl.trans (h : SameControl a b) (k : SameControl b c) : SameControl a c :=
  ⟨h.id.trans k.id, h.pc.trans k.pc, h.activeMask.trans k.activeMask,
    h.lifecycle.trans k.lifecycle, h.savedThreadMask.trans k.savedThreadMask,
    h.divergence.trans k.divergence⟩

namespace WarpState

theorem writeBack_sameControl (w : WarpState) (write : RegisterWriteEffect) :
    SameControl (w.writeBack write) w := by
  unfold writeBack
  split
  · exact SameControl.refl w
  · exact ⟨rfl, rfl, rfl, rfl, rfl, rfl⟩

theorem writeAll_sameControl (w : WarpState) (writes : List RegisterWriteEffect) :
    SameControl (w.writeAll writes) w := by
  induction writes generalizing w with
  | nil => exact SameControl.refl w
  | cons write writes ih =>
    exact (ih (w.writeBack write)).trans (w.writeBack_sameControl write)

theorem accrue_sameControl (w : WarpState) (effect : Option FFlagsEffect) :
    SameControl (w.accrue effect) w := by
  cases effect with
  | none => exact SameControl.refl w
  | some e => exact ⟨rfl, rfl, rfl, rfl, rfl, rfl⟩

theorem setCSRValue_sameControl (w : WarpState) (address : Nat) (value : Word) :
    SameControl (w.setCSRValue address value) w := by
  unfold setCSRValue
  split <;> exact ⟨rfl, rfl, rfl, rfl, rfl, rfl⟩

theorem writeCSRs_sameControl (w : WarpState) (writes : List CSRWriteEffect) :
    SameControl (w.writeCSRs writes) w := by
  unfold writeCSRs
  induction writes.filter CSRWriteEffect.isLocal generalizing w with
  | nil => exact SameControl.refl w
  | cons write rest ih =>
    exact (ih (w.writeCSR write)).trans (w.setCSRValue_sameControl _ _)

/-- The state after the data part of a bundle. -/
def applyData (w : WarpState) (e : InstructionEffects) : WarpState :=
  ((w.writeAll e.registerWrites).accrue e.fflags).writeCSRs e.csrWrites

theorem applyData_sameControl (w : WarpState) (e : InstructionEffects) :
    SameControl (w.applyData e) w :=
  ((writeCSRs_sameControl _ _).trans (accrue_sameControl _ _)).trans (w.writeAll_sameControl _)

theorem applyData_wf (h : w.WF) (hok : ∀ write ∈ e.registerWrites, write.Ok) : (w.applyData e).WF :=
  writeCSRs_wf (accrue_wf (writeAll_wf h hok) _) _

end WarpState

/-! ## Control updates -/

theorem lifecycleFor_running (h : mask ≠ 0#8) :
    WarpLifecycle.running = lifecycleFor (decide (mask ≠ 0#8)) := by
  simp [lifecycleFor, h]

namespace WarpState

theorem diverge_wf (hb : before.WF) (hc : c.WF) (hd : c.divergence = before.divergence)
    {mask : Option WarpMaskEffect} (hok : effect.Ok before mask control) :
    (c.diverge effect).WF := by
  unfold diverge
  split
  · exact hc
  · rename_i hdiv
    rw [Bool.not_eq_false] at hdiv
    obtain ⟨ctl, -, ⟨ha, hs⟩ | ⟨ha, hj⟩⟩ := hok.action
    · simp only [ha]
      obtain ⟨hcap, hal, hne, -⟩ := hs.divergent hdiv
      have horig : effect.originalMask ≠ 0#8 := by
        rw [← hs.cover]
        intro h0
        exact hne (BitVec.or_eq_zero_iff.mp h0).1
      refine { hc with
        active := hok.execute
        lifecycle := lifecycleFor_running hne
        divergence := ?_ }
      rw [hs.pointer, ← hd]
      exact DivergenceState.push_wf hc.divergence (hd ▸ hcap) ⟨rfl, hok.original, horig, hal⟩
    · simp only [ha]
      have hrow := hj.row hdiv
      have hlt : effect.stackPointer < c.divergence.writePointer :=
        hd ▸ hb.divergence.lt_of_valid hrow.live
      refine { hc with active := hok.execute, lifecycle := rfl, divergence := ?_ }
      split
      · exact DivergenceState.visitElse_wf hc.divergence hlt
      · rename_i hmark
        exact DivergenceState.pop_wf hc.divergence (hd ▸ (hrow.pop (by simpa using hmark)).top)

theorem divergeAll_wf (hb : before.WF) (hc : c.WF) (hd : c.divergence = before.divergence)
    {mask : Option WarpMaskEffect} (hok : ∀ e ∈ effect, e.Ok before mask control) :
    (c.divergeAll effect).WF := by
  cases effect with
  | none => exact hc
  | some e => exact diverge_wf hb hc hd (hok e rfl)

theorem remask_wf (hc : c.WF) {divergence : Option DivergenceEffect} {mask : Option WarpMaskEffect}
    (hok : ∀ m ∈ mask, m.Ok id) : (c.remask divergence mask).WF := by
  unfold remask
  split
  · rename_i m
    obtain ⟨-, hv, ha, -⟩ := hok m rfl
    exact { hc with active := hv, lifecycle := by rw [ha] }
  · exact hc

theorem takeTrap_wf (hc : c.WF) {trap : Option TrapEffect}
    (hok : TrapsOk before trap control writes) : (c.takeTrap trap).WF := by
  cases trap with
  | none => exact hc
  | some t =>
    have ht := hok.2 t rfl
    obtain ⟨ctl, -, ⟨hk, -⟩ | ⟨hk, hr⟩⟩ := ht.kind
    · simp only [takeTrap, hk]
      exact { hc with saved := ht.save }
    · simp only [takeTrap, hk]
      split
      · rename_i hres
        exact { hc with
          active := ht.restore
          lifecycle := lifecycleFor_running (hr.restore hres).1 }
      · exact hc

theorem redirect_wf (hc : c.WF) (hok : ∀ ctl ∈ control, ctl.Ok before) :
    (c.redirect control).WF := by
  cases control with
  | none => exact hc
  | some ctl => exact { hc with pc := (hok ctl rfl).aligned }

theorem transfer_wf (hb : before.WF) (hc : c.WF) (hd : c.divergence = before.divergence)
    (hok : ControlGroupOk before e) : (c.transfer e).WF := by
  have hmask : ∀ m ∈ e.warpMasks.head?, m.Ok before.id :=
    fun m hm => hok.masks m (List.mem_of_mem_head? hm)
  exact redirect_wf (takeTrap_wf (remask_wf
    (divergeAll_wf hb hc hd hok.divergence) hmask) hok.trap) hok.control

/-- An accepted bundle keeps the invariant. -/
theorem apply_wf (h : w.WF) (hok : BundleOk w e) : (w.apply e).WF :=
  transfer_wf h (applyData_wf h hok.writes.each) (w.applyData_sameControl e).divergence hok.control

end WarpState

/-! ## Stages and commits -/

/-- A stage that keeps the invariant of the state it was built on. -/
def EffectStage.Sound (s : EffectStage) : Prop := s.before.WF → s.after.WF

/-- A stage built on the state it was staged against. -/
structure EffectStage.On (s : EffectStage) (w : WarpState) : Prop where
  before : s.before = w
  sound : s.Sound

theorem stageEffects_on (h : w.stageEffects e = .ok s) : s.On w := by
  obtain ⟨hok, rfl⟩ := stageEffects_eq_ok.mp h
  exact ⟨rfl, fun hw => WarpState.apply_wf hw hok⟩

theorem withInstructionContext_eq_ok : w.withInstructionContext context = .ok w' ↔
      (context.warpID = w.id ∧ ¬ misaligned context.pc ∧ context.mask.Valid ∧ context.mask ≠ 0#8) ∧
      { w with pc := context.pc, activeMask := context.mask, lifecycle := .running } = w' := by
  unfold WarpState.withInstructionContext
  simp only [ok_iff, ne_eq, not_or, not_not]

theorem WarpState.withInstructionContext_wf (hw : w.WF)
    (h : w.withInstructionContext context = .ok w') : w'.WF := by
  obtain ⟨⟨-, hpc, hv, hne⟩, rfl⟩ := withInstructionContext_eq_ok.mp h
  exact { hw with pc := hpc, active := hv, lifecycle := lifecycleFor_running hne }

theorem stageInstructionEffects_on (h : w.stageInstructionEffects context e = .ok s) : s.On w := by
  unfold WarpState.stageInstructionEffects at h
  simp only [ok_iff] at h
  obtain ⟨logical, hl, stage, hs, rfl⟩ := h
  obtain ⟨hok, rfl⟩ := stageEffects_eq_ok.mp hs
  refine ⟨rfl, fun hw => ?_⟩
  have hafter := WarpState.apply_wf (WarpState.withInstructionContext_wf hw hl) hok
  -- the fields put back are those of a well-formed warp, each with the facts about it
  have hpc : (if e.control = none then
      { logical.apply e with pc := w.pc } else logical.apply e).WF := by
    split
    · exact { hafter with pc := hw.pc }
    · exact hafter
  split
  · exact { hpc with active := hw.active, lifecycle := hw.lifecycle }
  · exact hpc

theorem stageStreamControl_on (h : stageStreamControl owner stream slot part = .ok s) :
    s.On owner := by
  unfold stageStreamControl at h
  split at h
  · simp only [ok_iff] at h
    exact stageEffects_on h.2
  · exact stageInstructionEffects_on h

/-- The two outcomes of a commit: refused with nothing changed, or installed on the very
state the stage was built on. -/
inductive CommitOutcome (s : EffectStage) (owner : WarpState) : CommitResult → Prop
  | refused (err : Error) : CommitOutcome s owner { owner, stage := s, error := some err }
  | installed (fresh : s.committed = false) (live : owner = s.before) :
      CommitOutcome s owner s.accept

namespace EffectStage

variable (s : EffectStage) (owner : WarpState)

theorem install_outcome : CommitOutcome s owner (s.install owner) := by
  unfold install
  split
  · exact .refused _
  · rename_i hfresh
    split
    · exact .refused _
    · rename_i hlive
      exact .installed (by simpa using hfresh) (not_not.mp hlive)

theorem commit_outcome : CommitOutcome s owner (s.commit owner) := by
  unfold commit
  split
  · exact .refused _
  · exact s.install_outcome owner

theorem commitAfterExternal_outcome :
    CommitOutcome s owner (s.commitAfterExternal owner) := by
  unfold commitAfterExternal
  split
  · exact .refused _
  · exact s.install_outcome owner

theorem coordinate_outcome (world : ω) (apply : ω → ω × Option Error) :
    CommitOutcome s owner (s.coordinate owner world apply).2 := by
  unfold coordinate
  split
  · exact .refused _
  · rename_i hfresh
    split
    · exact .refused _
    · rename_i hlive
      have hlive := not_not.mp hlive
      split
      · rw [← hlive]
        exact .refused _
      · exact .installed (by simpa using hfresh) hlive

theorem commitWithExternal_outcome (world : ω) (apply : ω → ω × Option Error) :
    CommitOutcome s owner (s.commitWithExternal owner world apply).2 := by
  unfold commitWithExternal
  split
  · exact .refused _
  · exact s.coordinate_outcome owner world apply

theorem commitForwardedWithExternal_outcome (world : ω) (apply : ω → ω × Option Error) :
    CommitOutcome s owner (s.commitForwardedWithExternal owner world apply).2 := by
  unfold commitForwardedWithExternal
  split
  · exact .refused _
  · exact s.coordinate_outcome owner world apply

theorem settle_outcome (world : ω) (external : Option (ExternalOwner ω))
    (needs superfluous : String) :
    CommitOutcome s owner (s.settle owner world external needs superfluous).2 := by
  unfold settle
  split
  · split
    · exact .refused _
    · exact s.commitForwardedWithExternal_outcome owner world _
  · split
    · exact .refused _
    · exact s.commit_outcome owner

end EffectStage

theorem CommitOutcome.wf (h : CommitOutcome s owner r) (hs : s.Sound) (ho : owner.WF) :
    r.owner.WF := by
  cases h with
  | refused err => exact ho
  | installed fresh live => exact hs (live ▸ ho)

theorem CommitOutcome.unchanged (h : CommitOutcome s owner r) (he : r.error ≠ none) :
    r.owner = owner := by
  cases h with
  | refused err => rfl
  | installed fresh live => exact absurd rfl he

/-! ## Constructor and setters -/

theorem validateLifecycle_eq_ok : validateLifecycle lifecycle mask = .ok u ↔
      lifecycle = lifecycleFor (decide (mask ≠ 0#8)) := by
  unfold validateLifecycle lifecycleFor
  cases lifecycle <;> by_cases hm : mask = 0#8 <;> simp [hm]

theorem makeDivergenceRow_eq_ok (h : makeDivergenceRow wp d record = .ok d') :
    record.pointer < wp ∧ record.originalMask.Valid ∧ record.originalMask ≠ 0#8 ∧
      ¬ misaligned record.nextPC ∧
      d' = d.setRow record.pointer
        { valid := true, originalMask := record.originalMask
          nextPC := record.nextPC, elseVisited := record.elseVisited } := by
  unfold makeDivergenceRow at h
  simp only [ok_iff, not_or, Nat.not_le, not_not] at h
  obtain ⟨⟨hp, -, -⟩, ⟨hm, hne⟩, ha, rfl⟩ := h
  exact ⟨hp, hm, hne, ha, rfl⟩

/-- What the loop over the initial rows keeps: a row is empty, or live and below the
pointer. -/
structure RowsBelow (wp : Nat) (d : DivergenceState) : Prop where
  pointer : d.writePointer = wp
  rows : ∀ i, d.records i = {} ∨ (i.val < wp ∧ (d.records i).Live)

theorem makeDivergenceRow_rowsBelow (h : makeDivergenceRow wp d record = .ok d')
    (hd : RowsBelow wp d) : RowsBelow wp d' := by
  obtain ⟨hp, hm, hne, ha, rfl⟩ := makeDivergenceRow_eq_ok h
  refine ⟨hd.pointer, ?_⟩
  intro i
  simp only [DivergenceState.setRow]
  split
  · rename_i hi
    exact .inr ⟨hi ▸ hp, rfl, hm, hne, ha⟩
  · exact hd.rows i

theorem makeDivergence_wf (h : makeDivergence initial = .ok d) : d.WF := by
  unfold makeDivergence at h
  simp only [ok_iff, each_rejectIf_eq_ok, Nat.not_lt, Bool.not_eq_false, List.mem_range] at h
  obtain ⟨hcap, -, result, hfold, hvalid, rfl⟩ := h
  have hrows : RowsBelow initial.writePointer result := by
    refine foldEach_invariant (RowsBelow initial.writePointer) ?_ hfold ⟨rfl, fun i => .inl rfl⟩
    intro i s record s' _ hstep
    exact makeDivergenceRow_rowsBelow hstep
  refine ⟨hrows.pointer ▸ hcap, ?_, ?_⟩
  · intro i hi
    rw [hrows.pointer] at hi
    have hv := hvalid i.val hi
    rw [result.row_of_lt i.isLt] at hv
    rcases hrows.rows i with hempty | ⟨-, hlive⟩
    · rw [hempty] at hv
      cases hv
    · exact hlive
  · intro i hi
    rw [hrows.pointer] at hi
    rcases hrows.rows i with hempty | ⟨hlt, -⟩
    · exact hempty
    · omega

theorem loadLane_x0 {load : LaneLoad} (h : loadLane load lane = .ok load')
    (hx : ∀ l, (load.lanes l).gpr 0 = 0#32) :
    ∀ l, (load'.lanes l).gpr 0 = 0#32 := by
  unfold loadLane at h
  split at h
  · rename_i hid
    simp only [ok_iff, ne_eq, not_not] at h
    obtain ⟨-, h0, rfl⟩ := h
    intro l
    by_cases hl : l = ⟨lane.id, hid⟩
    · subst hl
      simpa using h0
    · simpa [Function.update_of_ne hl] using hx l
  · cases h

/-- The constructor establishes the invariant. -/
theorem newWarp_wf (h : newWarp initial = .ok w) : w.WF := by
  unfold newWarp at h
  simp only [ok_iff, not_or, not_not, Nat.not_le, validateLifecycle_eq_ok] at h
  obtain ⟨-, hid, hpc, ⟨hm, hs⟩, hlc, -, -, d, hd, load, hload, rfl⟩ := h
  refine ⟨hid, hpc, hm, hs, hlc, ?_, makeDivergence_wf hd⟩
  exact foldEach_invariant (fun load => ∀ l, (load.lanes l).gpr 0 = 0#32)
    (fun i s lane s' _ hstep => loadLane_x0 hstep) hload (fun _ => rfl)

namespace WarpState

theorem writeRegister_wf (hw : w.WF) (h : w.writeRegister register mask values = .ok w') :
    w'.WF := by
  unfold writeRegister at h
  simp only [ok_iff, mapError_eq_ok, validateRegister_eq_ok] at h
  obtain ⟨⟨hi, -⟩, -, h⟩ := h
  split at h
  · cases h
    exact hw
  · rename_i hz
    cases h
    exact mapLanes_wf hw fun lane l h0 => LaneState.set_x0 h0 hz hi

theorem setPC_wf (hw : w.WF) {pc : Word} (h : w.setPC pc = .ok w') : w'.WF := by
  unfold setPC at h
  simp only [ok_iff] at h
  obtain ⟨hpc, rfl⟩ := h
  exact { hw with pc := hpc }

theorem setActiveMask_wf (hw : w.WF) {lifecycle : WarpLifecycle}
    (h : w.setActiveMask mask lifecycle = .ok w') : w'.WF := by
  unfold setActiveMask at h
  simp only [ok_iff, not_not, validateLifecycle_eq_ok] at h
  obtain ⟨hm, hlc, rfl⟩ := h
  exact { hw with active := hm, lifecycle := hlc }

theorem setSavedThreadMask_wf (hw : w.WF) (h : w.setSavedThreadMask mask = .ok w') : w'.WF := by
  unfold setSavedThreadMask at h
  simp only [ok_iff, not_not] at h
  obtain ⟨hm, rfl⟩ := h
  exact { hw with saved := hm }

theorem setFCSR_wf (hw : w.WF) (h : w.setFCSR value = .ok w') : w'.WF := by
  unfold setFCSR at h
  simp only [ok_iff] at h
  obtain ⟨-, rfl⟩ := h
  exact { hw with }

theorem setDivergence_wf (hw : w.WF) (h : w.setDivergence initial = .ok w') : w'.WF := by
  unfold setDivergence at h
  simp only [ok_iff] at h
  obtain ⟨d, hd, rfl⟩ := h
  exact { hw with divergence := makeDivergence_wf hd }

end WarpState

/-! ## Deliveries -/

theorem EffectDelivery.stageEvent_on {d : EffectDelivery}
    (h : d.stageEvent owner stream event part = .ok s) : s.On owner := by
  unfold EffectDelivery.stageEvent at h
  split at h
  · exact stageStreamControl_on h
  · exact stageEffects_on h

theorem EffectDelivery.prepare_sound {d : EffectDelivery}
    (h : d.prepare owner stream event lanes = .ok s) : s.Sound := by
  unfold EffectDelivery.prepare at h
  simp only [ok_iff] at h
  obtain ⟨-, -, -, part, -, h⟩ := h
  exact (EffectDelivery.stageEvent_on h).sound

/-- The two outcomes of a delivery: refused with nothing but the external world changed,
or the stage of the event installed and its receipt recorded. -/
inductive DeliverOutcome {ω : Type} (d : EffectDelivery) (owner : WarpState)
    (stream : EffectStream) (event : VisibilityEvent) (lanes : LaneMask) :
    DeliverResult ω → Prop
  | refused (world : ω) (err : Error) : DeliverOutcome d owner stream event lanes
        { world, owner, stream, delivery := d, error := some err }
  | delivered (world : ω) (stage : EffectStage)
      (prepared : d.prepare owner stream event lanes = .ok stage) (live : owner = stage.before) :
      DeliverOutcome d owner stream event lanes
        { world, owner := stage.after, stream := d.advance event stream
          delivery := d.receive event lanes }

theorem EffectDelivery.deliver_outcome (d : EffectDelivery) (owner : WarpState)
    (stream : EffectStream) (world : ω) (event : VisibilityEvent) (lanes : LaneMask)
    (external : Option (ExternalOwner ω)) :
    DeliverOutcome d owner stream event lanes
      (d.deliver owner stream world event lanes external) := by
  unfold EffectDelivery.deliver
  cases hprep : d.prepare owner stream event lanes with
  | error err => exact .refused world err
  | ok stage =>
    have hout := stage.settle_outcome owner world external
      "visibility event requires external owner"
      "local event cannot invoke an external owner"
    simp only
    split
    · rename_i heq
      rw [heq] at hout
      cases hout
      exact .refused _ _
    · rename_i heq
      rw [heq] at hout
      cases hout with
      | installed fresh live => exact .delivered _ stage hprep live

theorem DeliverOutcome.wf {d : EffectDelivery} (h : DeliverOutcome d owner stream event lanes r)
    (ho : owner.WF) : r.owner.WF := by
  cases h with
  | refused world err => exact ho
  | delivered world stage prepared live =>
    exact EffectDelivery.prepare_sound prepared (live ▸ ho)

theorem mergeTrap_wf (ha : a.WF) (hc : c.WF) (trap : TrapEffect) : (mergeTrap a c trap).WF := by
  unfold mergeTrap
  split
  · exact { ha with pc := hc.pc, saved := hc.saved }
  · split
    · exact { ha with pc := hc.pc, active := hc.active, lifecycle := hc.lifecycle }
    · exact { ha with pc := hc.pc }

theorem jointTrap_on {trap : JointPeer} (h : jointTrap owner trap effect = .ok s) : s.On owner := by
  unfold jointTrap at h
  simp only [ok_iff] at h
  obtain ⟨stage, hs, -, rfl⟩ := h
  exact EffectDelivery.stageEvent_on hs

/-- The stage of a joint delivery: the CSR and flags part, with the trap merged in. -/
theorem jointStage_cases {d : EffectDelivery} (h : d.jointStage owner flags trap = .ok s) :
    ∃ stage, owner.stageEffects {
          csrReads := d.effects.csrReads, csrWrites := d.effects.csrWrites
          fflags := flags.bind fun p => p.delivery.effects.fflags } = .ok stage ∧
      (trap = none ∧ stage = s ∨
        ∃ p effect control, trap = some p ∧ p.delivery.effects.trap = some effect ∧
          jointTrap owner p effect = .ok control ∧
          { stage with after := mergeTrap stage.after control.after effect } = s) := by
  unfold EffectDelivery.jointStage at h
  simp only [ok_iff] at h
  obtain ⟨-, fflags, hflags, stage, hs, h⟩ := h
  obtain rfl : (flags.bind fun p => p.delivery.effects.fflags) = fflags := by
    cases flags with
    | none => exact pure_eq_ok.mp hflags
    | some p =>
      simp only [ok_iff, jointFlags] at hflags
      exact hflags.2
  refine ⟨stage, hs, ?_⟩
  cases trap with
  | none => exact .inl ⟨rfl, pure_eq_ok.mp h⟩
  | some p =>
    simp only [ok_iff] at h
    obtain ⟨-, h⟩ := h
    cases heff : p.delivery.effects.trap with
    | none =>
      rw [heff] at h
      cases h
    | some effect =>
      rw [heff] at h
      simp only [ok_iff] at h
      obtain ⟨control, hc, rfl⟩ := h
      exact .inr ⟨p, effect, control, rfl, heff, hc, rfl⟩

theorem EffectDelivery.jointStage_sound {d : EffectDelivery}
    (h : d.jointStage owner flags trap = .ok s) : s.Sound := by
  obtain ⟨stage, hs, hjoin⟩ := jointStage_cases h
  rcases hjoin with ⟨-, rfl⟩ | ⟨p, effect, control, -, -, hc, rfl⟩
  · exact (stageEffects_on hs).sound
  · obtain ⟨hbefore, hsound⟩ := stageEffects_on hs
    obtain ⟨hcontrol, htrap⟩ := jointTrap_on hc
    intro hw
    exact mergeTrap_wf (hsound hw) (htrap (hcontrol.trans hbefore.symm ▸ hw)) effect

/-- The two outcomes of a joint delivery. -/
inductive JointOutcome {ω : Type} (d : EffectDelivery) (owner : WarpState)
    (flags trap : Option JointPeer) : JointResult ω → Prop
  | refused (world : ω) (err : Error) : JointOutcome d owner flags trap
        { world, owner, delivery := d, flags, trap, error := some err }
  | delivered (world : ω) (stage : EffectStage)
      (staged : d.jointStage owner flags trap = .ok stage) (live : owner = stage.before) :
      JointOutcome d owner flags trap
        { world, owner := stage.after
          delivery := { d with delivered := Function.update d.delivered .csr true }
          flags := flags.map (·.mark .fflags)
          trap := trap.map fun p => (p.mark .control).advance }

theorem EffectDelivery.deliverCSRJoint_outcome (d : EffectDelivery) (owner : WarpState)
    (world : ω) (flags trap : Option JointPeer)
    (external : Option (ExternalOwner ω)) :
    JointOutcome d owner flags trap (d.deliverCSRJoint owner world flags trap external) := by
  unfold EffectDelivery.deliverCSRJoint
  cases hstage : d.jointStage owner flags trap with
  | error err => exact .refused world err
  | ok stage =>
    have hout := stage.settle_outcome owner world external
      "combined CSR event requires external owner"
      "local CSR event cannot invoke external owner"
    simp only
    split
    · rename_i heq
      rw [heq] at hout
      cases hout
      exact .refused _ _
    · rename_i heq
      rw [heq] at hout
      cases hout with
      | installed fresh live => exact .delivered _ stage hstage live

theorem JointOutcome.wf {d : EffectDelivery} (h : JointOutcome d owner flags trap r)
    (ho : owner.WF) : r.owner.WF := by
  cases h with
  | refused world err => exact ho
  | delivered world stage staged live =>
    exact EffectDelivery.jointStage_sound staged (live ▸ ho)

/-! ## Transactions over several warps -/

/-- Every owner is well formed. -/
def Owners.WF (owners : Owners) : Prop := ∀ o, (owners o).WF

/-- A candidate that keeps the invariant of the owner it was built on. -/
def OwnerCandidate.Sound (c : OwnerCandidate) : Prop := c.before.WF → c.after.WF

theorem Owners.update_wf (h : owners.WF) (hw : w.WF) : Owners.WF (Function.update owners o w) := by
  intro p
  by_cases hp : p = o
  · subst hp
    simpa using hw
  · simpa [Function.update_of_ne hp] using h p

theorem installAll_wf (h : owners.WF) (hafter : ∀ c ∈ targets, c.after.WF) :
    (installAll owners targets).WF := by
  induction targets generalizing owners with
  | nil => exact h
  | cons c targets ih =>
    refine ih (owners.update_wf h (hafter c List.mem_cons_self)) ?_
    exact fun x hx => hafter x (List.mem_cons_of_mem c hx)

theorem candidates_after_wf (h : owners.WF) (hsound : ∀ c ∈ targets, c.Sound)
    (hlive : ¬ staleCandidate owners targets) : ∀ c ∈ targets, c.after.WF := by
  intro c hc
  refine hsound c hc ?_
  have hfresh : owners c.owner = c.before := by
    by_contra hne
    exact hlive ⟨c, hc, hne⟩
  exact hfresh ▸ h c.owner

/-- The target PC and lane mask a validated spawn installs are well formed. -/
theorem spawnCandidate_sound (h : validateFrozenSpawn id spawn = .ok u) (before : WarpState)
    (hw : before.WF) : (spawnCandidate spawn before).WF := by
  unfold validateFrozenSpawn at h
  simp only [ok_iff, not_or, not_not] at h
  obtain ⟨-, -, -, -, hpc, hmask, -⟩ := h
  refine { hw with pc := hpc, active := ?_, lifecycle := ?_ }
  · simp only [spawnCandidate, hmask]
    decide
  · simp only [spawnCandidate, hmask]
    decide

theorem WarpSpawnStage.commit_wf {s : WarpSpawnStage} (h : owners.WF) (hsource : s.source.Sound)
    (htargets : ∀ c ∈ s.targets, c.Sound) (hcommit : s.commit owners = .ok (owners', s')) :
    owners'.WF := by
  unfold WarpSpawnStage.commit at hcommit
  simp only [ok_iff, ne_eq, not_not, Prod.mk.injEq] at hcommit
  obtain ⟨-, hlive, hfresh, rfl, -⟩ := hcommit
  refine installAll_wf (owners.update_wf h (hsource (hlive ▸ h s.sourceOwner))) ?_
  exact candidates_after_wf h htargets hfresh

theorem aligned_sub_reentry (h : ¬ misaligned pc) : ¬ misaligned (pc - frozenCTAReentryBytes) := by
  rw [misaligned_iff, not_not] at *
  have hsub := BitVec.toNat_sub pc frozenCTAReentryBytes
  simp only [frozenCTAReentryBytes, BitVec.toNat_ofNat] at hsub ⊢
  omega

theorem launchCandidate_sound (hpc : ¬ misaligned target.startupPC)
    (hmask : target.activeMask.Valid) (hne : target.activeMask ≠ 0#8) (before : WarpState)
    (hw : before.WF) : (launchCandidate target before).WF := by
  refine { hw with pc := ?_, active := hmask, lifecycle := lifecycleFor_running hne }
  simp only [launchCandidate]
  split
  · exact hpc
  · exact aligned_sub_reentry hw.pc

theorem stageWarpLaunch_sound {s : WarpLaunchStage} (h : stageWarpLaunch owners targets = .ok s) :
    ∀ c ∈ s.targets, c.Sound := by
  unfold stageWarpLaunch at h
  simp only [ok_iff] at h
  obtain ⟨-, scan, hscan, rfl⟩ := h
  have hall : ∀ c ∈ scan.candidates, c.Sound := by
    refine foldEach_invariant (fun s => ∀ c ∈ s.candidates, c.Sound) ?_ hscan
      (fun c hc => absurd hc List.not_mem_nil)
    intro i s target s' _ hstep hgood
    unfold scanLaunchTarget at hstep
    simp only [ok_iff, not_or, not_not] at hstep
    obtain ⟨-, -, -, -, hpc, ⟨hmask, hne⟩, -, rfl⟩ := hstep
    intro c hc
    rcases List.mem_append.mp hc with hc | hc
    · exact hgood c hc
    · obtain rfl := List.mem_singleton.mp hc
      exact launchCandidate_sound hpc hmask hne _
  exact hall

theorem WarpLaunchStage.commit_wf {s : WarpLaunchStage} (h : owners.WF)
    (htargets : ∀ c ∈ s.targets, c.Sound) (hcommit : s.commit owners = .ok (owners', s')) :
    owners'.WF := by
  unfold WarpLaunchStage.commit at hcommit
  simp only [ok_iff, Prod.mk.injEq] at hcommit
  obtain ⟨-, -, hfresh, rfl, -⟩ := hcommit
  exact installAll_wf h (candidates_after_wf h htargets hfresh)

end VortexSim
