import VortexSim.State.Frontier

/-!
# What a staged instruction leaves alone

An instruction is validated against the PC and mask it was fetched with, and its result is
built from the live warp.  The override is undone by a test on the groups of the bundle: the
PC comes back without a control effect, mask and lifecycle come back without a mask, a
divergence and a trap effect.

The test on mask and lifecycle is too coarse.  A uniform SPLIT, a JOIN without divergence, a
trap entry and a trap return that restores nothing have a divergence or trap effect but replace
no mask, so the latched mask stays in their result.
-/

namespace VortexSim

open Checked

/-- The bundle replaces the mask, or returns from a trap to the saved one. -/
def InstructionEffects.Remasks (e : InstructionEffects) : Prop :=
  e.warpMasks ≠ [] ∨ ∃ trap ∈ e.trap, trap.restoresThreadMask = true

/-- `after` differs from `w` only in what `e` writes. -/
structure Framed (w : WarpState) (e : InstructionEffects) (after : WarpState) : Prop where
  id : after.id = w.id
  pc : e.control = none → after.pc = w.pc
  mask : ¬ e.Remasks → after.activeMask = w.activeMask ∧ after.lifecycle = w.lifecycle
  saved : (∀ trap ∈ e.trap, trap.kind ≠ .enter) → after.savedThreadMask = w.savedThreadMask
  stack : (∀ effect ∈ e.divergence, effect.divergent = false) → after.divergence = w.divergence
  registers : ∀ (lane : Lane) (q : Register), q.Architectural →
    (∀ write ∈ e.registerWrites, write.mask.active lane = true → q ≠ write.destination) →
    (after.lanes lane).get q = (w.lanes lane).get q
  fcsr : e.fflags = none → (∀ write ∈ e.csrWrites, ¬ aliasesFCSR write.address) →
    after.fcsr = w.fcsr
  csrs : ∀ address, ¬ aliasesFCSR address → (∀ write ∈ e.csrWrites, write.address ≠ address) →
    after.csrValue address = w.csrValue address

section

variable {w : WarpState} {e : InstructionEffects} {context : InstructionContext}
  {stage : EffectStage} {q : Register} {lane : Lane}

/-! ## Data -/

/-- A CSR outside FCSR keeps its value when another address is written. -/
theorem WarpState.setCSRValue_csrValue (c : WarpState) (hf : ¬ aliasesFCSR other)
    (h : address ≠ other) (value : Word) :
    (c.setCSRValue address value).csrValue other = c.csrValue other := by
  unfold WarpState.setCSRValue
  split
  all_goals
    unfold WarpState.csrValue
    split <;> first | rfl | exact absurd rfl h | exact absurd (by decide) hf

/-- Flags are no part of the other CSRs. -/
theorem WarpState.accrue_csrValue (c : WarpState) (effect : Option FFlagsEffect)
    (hf : ¬ aliasesFCSR address) : (c.accrue effect).csrValue address = c.csrValue address := by
  cases effect with
  | none => rfl
  | some effect =>
    unfold WarpState.csrValue
    split <;> first | rfl | exact absurd (by decide) hf

/-! ## Control -/

/-- Without a mask effect an accepted divergence effect is uniform. -/
theorem DivergenceEffect.Ok.uniform {effect : DivergenceEffect} {control : Option ControlEffect}
    (h : effect.Ok c none control) : effect.divergent = false := by
  cases hd : effect.divergent with
  | false => rfl
  | true =>
    obtain ⟨ctl, -, ⟨-, hsplit⟩ | ⟨-, hjoin⟩⟩ := h.action
    · obtain ⟨-, -, -, -, m, hm, -⟩ := hsplit.divergent hd
      cases hm
    · obtain ⟨m, hm, -⟩ := (hjoin.row hd).mask
      cases hm

/-- A control group that replaces no mask leaves mask and lifecycle alone. -/
theorem WarpState.transfer_mask (hok : ControlGroupOk w e) (h : ¬ e.Remasks) (c : WarpState) :
    (c.transfer e).activeMask = c.activeMask ∧ (c.transfer e).lifecycle = c.lifecycle := by
  obtain ⟨hmasks, htrap⟩ := not_or.mp h
  have hnil := not_not.mp hmasks
  have huniform : ∀ effect ∈ e.divergence, effect.divergent = false := by
    intro effect hin
    have hd := hok.divergence effect hin
    rw [hnil] at hd
    exact hd.uniform
  have hdiverge : c.divergeAll e.divergence = c := by
    cases hd : e.divergence with
    | none => rfl
    | some effect => exact if_pos (huniform effect hd)
  have hremask : c.remask e.divergence [].head? = c := by cases e.divergence <;> rfl
  unfold WarpState.transfer
  rw [hdiverge, hnil, hremask]
  have htake : (c.takeTrap e.trap).activeMask = c.activeMask ∧
      (c.takeTrap e.trap).lifecycle = c.lifecycle := by
    unfold WarpState.takeTrap
    split
    · exact ⟨rfl, rfl⟩
    · rename_i trap ht
      split
      · exact ⟨rfl, rfl⟩
      · split
        · rename_i hrestore
          exact absurd ⟨trap, ht, hrestore⟩ htrap
        · exact ⟨rfl, rfl⟩
      · exact ⟨rfl, rfl⟩
  cases e.control <;> exact htake

/-! ## The staged result -/

/-- An accepted bundle keeps what it does not write, on the state it was accepted on. -/
theorem BundleOk.framed (h : BundleOk w e) : Framed w e (w.apply e) := by
  have hdata := w.apply_sameData e
  have hcontrol := w.applyData_sameControl e
  have hcsrs : SameCSRs (w.writeAll e.registerWrites) w := w.writeAll_sameCSRs _
  refine ⟨w.apply_id e, fun hc => ?_, fun hm => ?_, fun ht => ?_, fun hd => ?_,
    fun lane q hq hw => ?_, fun hf hw => ?_, fun address hf hw => ?_⟩
  · rw [w.apply_pc, hc]
    rfl
  · obtain ⟨hmask, hlife⟩ := WarpState.transfer_mask h.control hm (w.applyData e)
    exact ⟨hmask.trans hcontrol.activeMask, hlife.trans hcontrol.lifecycle⟩
  · refine Eq.trans ?_ hcontrol.savedThreadMask
    exact WarpState.transfer_keeps (f := WarpState.savedThreadMask) _ (fun _ _ _ _ _ _ _ => rfl)
      (fun _ _ _ => rfl) (fun t hin hk => absurd hk (ht t hin)) (fun _ _ _ _ => rfl)
  · refine Eq.trans ?_ hcontrol.divergence
    exact WarpState.transfer_keeps (f := WarpState.divergence) _
      (fun d hin hdiv => absurd ((hd d hin).symm.trans hdiv) Bool.false_ne_true)
      (fun _ _ _ => rfl) (fun _ _ _ _ _ => rfl) (fun _ _ _ _ => rfl)
  · rw [w.apply_lanes]
    exact w.writeAll_get_of (fun write hin => ⟨(h.writes.each write hin).index,
      (h.writes.each write hin).file⟩) hq hw
  · refine hdata.fcsr.trans ((WarpState.writeCSRs_keeps (f := WarpState.fcsr)
      (fun write hin _ c => c.setCSRValue_fcsr (hw write hin) _) _).trans ?_)
    rw [hf]
    exact hcsrs.fcsr
  · refine (csrValue_congr ⟨hdata.fcsr, hdata.trapCSRs⟩ address).trans ?_
    refine (WarpState.writeCSRs_keeps (f := fun c => c.csrValue address)
      (fun write hin _ c => c.setCSRValue_csrValue hf (hw write hin) _) _).trans ?_
    exact (WarpState.accrue_csrValue _ _ hf).trans (csrValue_congr hcsrs address)

/-- The warp as the latched context shows it. -/
def WarpState.latched (w : WarpState) (context : InstructionContext) : WarpState :=
  { w with pc := context.pc, activeMask := context.mask, lifecycle := .running }

/-- The test of the source: no group of the bundle is concerned with masks. -/
abbrev InstructionEffects.Maskless (e : InstructionEffects) : Prop :=
  e.warpMasks.length = 0 ∧ e.divergence = none ∧ e.trap = none

theorem stageInstructionEffects_eq_ok (h : w.stageInstructionEffects context e = .ok stage) :
    BundleOk (w.latched context) e ∧ ∃ mask lifecycle,
        stage.after = { (w.latched context).apply e with
          pc := nextPC e.control w.pc, activeMask := mask, lifecycle := lifecycle } ∧
        (e.Maskless → mask = w.activeMask ∧ lifecycle = w.lifecycle) ∧
        (¬ e.Maskless → mask = ((w.latched context).apply e).activeMask ∧
          lifecycle = ((w.latched context).apply e).lifecycle) := by
  have hpc := (stageInstructionEffects_after h).1
  unfold WarpState.stageInstructionEffects at h
  simp only [ok_iff] at h
  obtain ⟨logical, hl, staged, hs, rfl⟩ := h
  obtain ⟨-, rfl⟩ := withInstructionContext_eq_ok.mp hl
  obtain ⟨hok, rfl⟩ := stageEffects_eq_ok.mp hs
  refine ⟨hok, ?_⟩
  rw [← hpc]
  by_cases hm : e.Maskless
  · refine ⟨w.activeMask, w.lifecycle, ?_, fun _ => ⟨rfl, rfl⟩, fun hn => absurd hm hn⟩
    rw [if_pos hm]
    split <;> rfl
  · refine ⟨_, _, ?_, fun hn => absurd hn hm, fun _ => ⟨rfl, rfl⟩⟩
    rw [if_neg hm]
    split <;> rfl

/-- The result differs from the live warp only in what the bundle writes exactly when the mask
is replaced, no divergence or trap effect is there, or the latched mask is the live one. -/
theorem stageInstructionEffects_framed_iff (h : w.stageInstructionEffects context e = .ok stage) :
    Framed w e stage.after ↔ e.Remasks ∨ (e.divergence = none ∧ e.trap = none) ∨
        (context.mask = w.activeMask ∧ w.lifecycle = .running) := by
  obtain ⟨hok, mask, lifecycle, hafter, hback, hkept⟩ := stageInstructionEffects_eq_ok h
  have hframe := hok.framed
  rw [hafter]
  constructor
  · intro hw
    by_cases hr : e.Remasks
    · exact .inl hr
    by_cases hm : e.Maskless
    · exact .inr (.inl hm.2)
    -- nothing was put back, and the bundle leaves the latched mask as it is
    obtain ⟨hmask, hlife⟩ := hkept hm
    obtain ⟨hmask', hlife'⟩ := hframe.mask hr
    obtain ⟨hlive, hrun⟩ := hw.mask hr
    exact .inr (.inr ⟨(hmask.trans hmask').symm.trans hlive, hrun.symm.trans (hlife.trans hlife')⟩)
  · intro hcond
    refine { hframe with pc := fun hc => by rw [hc]; rfl, mask := fun hr => ?_ }
    have hnil : e.warpMasks = [] := not_not.mp (not_or.mp hr).1
    by_cases hm : e.Maskless
    · exact hback hm
    obtain ⟨hmask, hlife⟩ := hkept hm
    obtain ⟨hmask', hlife'⟩ := hframe.mask hr
    rcases hcond with hcond | hcond | ⟨hlive, hrun⟩
    · exact absurd hcond hr
    · exact absurd ⟨by rw [hnil]; rfl, hcond⟩ hm
    · exact ⟨(hmask.trans hmask').trans hlive, (hlife.trans hlife').trans hrun.symm⟩

end

/-- A SPLIT at PC zero that all lanes of `mask` take. -/
def uniformSplit (mask : LaneMask) : InstructionEffects where
  control := some { currentPC := 0#32, nextPC := 4#32, reason := .sequential }
  divergence := some {
    action := .split, warpID := 0, stackPointer := 0, originalMask := mask, executeMask := mask
    deferredMask := 0#8, reconvergencePC := 4#32, divergent := false }

/-- A uniform SPLIT fetched with lane 0 leaves that mask in a warp whose four lanes are live. -/
theorem uniform_split_installs_latched_mask :
    ¬ (uniformSplit 1#8).Remasks ∧ (freshWarp 0).activeMask = allLanes ∧
      ∃ stage, (freshWarp 0).stageInstructionEffects { warpID := 0, pc := 0#32, mask := 1#8 }
          (uniformSplit 1#8) = .ok stage ∧
        stage.after.activeMask = 1#8 ∧ ¬ Framed (freshWarp 0) (uniformSplit 1#8) stage.after := by
  have hr : ¬ (uniformSplit 1#8).Remasks := by simp [InstructionEffects.Remasks, uniformSplit]
  refine ⟨hr, rfl, _, rfl, rfl, fun h => ?_⟩
  have hne : (1#8 : LaneMask) ≠ allLanes := by decide
  exact hne (h.mask hr).1

theorem uniform_split_keeps_live_mask :
    ∃ stage, (freshWarp 0).stageInstructionEffects { warpID := 0, pc := 0#32, mask := allLanes }
        (uniformSplit allLanes) = .ok stage ∧
      Framed (freshWarp 0) (uniformSplit allLanes) stage.after := by
  obtain ⟨stage, h⟩ : ∃ stage, (freshWarp 0).stageInstructionEffects
      { warpID := 0, pc := 0#32, mask := allLanes } (uniformSplit allLanes) = .ok stage := ⟨_, rfl⟩
  exact ⟨stage, h, (stageInstructionEffects_framed_iff h).mpr (.inr (.inr ⟨rfl, rfl⟩))⟩

end VortexSim
