import VortexSim.Core.Driven

/-!
# Who resides, over the operations of the core

Only three operations of the core change which CTAs reside on a manager: a static admission, the
admission of a cluster and a reclaim.  `Moves` says what each operation can do to the residents,
and what holds of residents over a run follows from it.
-/

namespace VortexSim

open Checked Stateful Act Spans

variable {σ : Type}

namespace World

/-! ## Operations that change no resident -/

/-- The core stays attached, and its managers have the same residents. -/
structure Stays (w0 w : World σ) : Prop where
  attached : ∀ manager, w0.core.ctas = some manager → w.core.ctas = some manager
  managers : ∀ manager, (w0.managers manager).SameTenants (w.managers manager)

section

variable {w0 w : World σ}

theorem Stays.refl (w : World σ) : Stays w w := ⟨fun _ h => h, fun _ => .refl _⟩

theorem Steady.stays (h : Steady who w0 w) : Stays w0 w :=
  ⟨fun _ hm => h.ctas.trans hm, h.managers⟩

theorem Stays.setManager (h : Stays w0 w) (hm : (w.managers manager).SameTenants m) :
    Stays w0 (w.setManager manager m) := by
  refine ⟨h.attached, ?_⟩
  exact (Function.forall_update_iff _ fun other => (w0.managers other).SameTenants).mpr
    ⟨(h.managers manager).trans hm, fun other _ => h.managers other⟩

end

variable {w0 : World σ}

theorem block_stays (warpID : Nat) (reason : BlockReason) :
    Keeps (Stays w0) (block warpID reason) := by
  refine .bind Keeps.examine fun _ => .bind Keeps.examine fun _ => ?_
  refine .bind Keeps.examine fun id => .bind Keeps.examine fun _ => ?_
  refine .bind (.update fun w hw => ?_) fun _ => .examine
  exact ⟨hw.attached, hw.managers⟩

theorem resume_stays (warpID : Nat) : Keeps (Stays w0) (resume warpID) := by
  refine .bind Keeps.examine fun id => .bind Keeps.examine fun _ => ?_
  refine .bind Keeps.examine fun _ => ?_
  refine .bind (.update fun w hw => ?_) fun _ => .examine
  exact ⟨hw.attached, hw.managers⟩

theorem activate_stays (warpID : Nat) : Keeps (Stays w0) (activate warpID) := by
  refine .bind Keeps.examine fun id => .bind Keeps.examine fun _ => ?_
  refine .bind Keeps.examine fun _ => .bind Keeps.examine fun _ => ?_
  refine .bind Keeps.examine fun _ => ?_
  refine .bind (.update fun w hw => ?_) fun _ => .examine
  exact ⟨hw.attached, hw.managers⟩

theorem setPendingWorkProvider_stays (provider : Option (PendingWorkProvider σ)) :
    Keeps (Stays w0) (setPendingWorkProvider provider) := by
  refine .bind Keeps.examine fun _ => .update fun w hw => ?_
  exact ⟨hw.attached, hw.managers⟩

theorem sealed_sameTenants {m : CTAManager} (h : m.sealed = .ok m') : m.SameTenants m' := by
  unfold CTAManager.sealed at h
  simp only [ok_iff] at h
  obtain ⟨-, rfl⟩ := h
  exact ⟨rfl, fun _ => rfl, id, rfl, fun _ => rfl⟩

theorem newBarrierCoordinator_sameTenants {m : CTAManager} (h : m.newBarrierCoordinator = .ok m') :
    m.SameTenants m' := by
  unfold CTAManager.newBarrierCoordinator at h
  simp only [ok_iff] at h
  obtain ⟨-, rfl⟩ := h
  exact ⟨rfl, fun _ => rfl, fun _ => rfl, rfl, fun _ => rfl⟩

theorem newBarrierCoordinator_stays (manager : ManagerID) :
    Keeps (Stays w0) (World.onManager manager CTAManager.newBarrierCoordinator) := by
  refine Triple.bind (Q := fun m w => Stays w0 w ∧ (w.managers manager).SameTenants m)
    (.examine (fun w m hw hm => ⟨hw, newBarrierCoordinator_sameTenants hm⟩)
      fun _ hw => hw) fun m => ?_
  exact .update fun w hw => hw.1.setManager hw.2

/-- The tables are those of a core that was attached to no manager. -/
structure Unattached (w0 w : World σ) : Prop where
  detached : w0.core.ctas = none
  managers : ∀ manager, (w0.managers manager).SameTenants (w.managers manager)

theorem Unattached.stays (h : Unattached w0 w) : Stays w0 w :=
  ⟨fun _ hm => absurd (h.detached.symm.trans hm) (Option.some_ne_none _).symm, h.managers⟩

theorem Unattached.setManager (h : Unattached w0 w) (hm : (w.managers manager).SameTenants m) :
    Unattached w0 (w.setManager manager m) := ⟨h.detached, (h.stays.setManager hm).managers⟩

theorem observeFinished_unattached (manager : ManagerID) (id : WarpID) :
    Keeps (Unattached w0) (observeFinished manager id) := by
  refine .of_after fun w hw => ?_
  unfold observeFinished
  split
  · split
    · rename_i hok
      exact hw.setManager (.observes hok)
    · exact ⟨hw.detached, hw.managers⟩
  · exact hw

theorem setCTAManager_stays (manager : ManagerID) : Keeps (Stays w0) (setCTAManager manager) := by
  refine .bind Keeps.examine fun _ => ?_
  refine Triple.bind (Q := fun attached w => Stays w0 w ∧ w.core.ctas = attached)
    (.gets fun _ hw => ⟨hw, rfl⟩) fun attached => ?_
  refine .ite (fun _ => ?_) fun _ => ?_
  · exact .examine (fun _ _ hw _ => hw.1) fun _ hw => hw.1
  -- from here on the core is known to be unattached
  refine .bind (Q := fun _ => Unattached w0) (.examine ?_ fun _ hw => hw.1) fun _ => ?_
  · intro w _ hw hc
    have hnone : w.core.ctas = none := hw.2.trans (not_not.mp (rejectIf_eq_ok.mp hc))
    refine ⟨?_, hw.1.managers⟩
    cases hbefore : w0.core.ctas with
    | none => rfl
    | some other =>
      rw [hw.1.attached other hbefore] at hnone
      cases hnone
  refine .consequence (P := Unattached w0) (Q := fun _ => Unattached w0)
    (E := Unattached w0) ?_ (fun _ hw => hw) (fun _ _ hw => hw.stays) fun _ hw => hw.stays
  refine .bind Keeps.examine fun _ => .bind Keeps.examine fun _ => ?_
  refine Triple.bind (Q := fun m w => Unattached w0 w ∧ (w.managers manager).SameTenants m)
    (.examine (fun w m hw hm => ⟨hw, sealed_sameTenants hm⟩) fun _ hw => hw) fun m => ?_
  refine .bind (Q := fun _ => Unattached w0) (.update fun w hw => hw.1.setManager hw.2) fun _ => ?_
  refine .bind (Q := fun m w => Unattached w0 w ∧ (w.managers manager).SameTenants m)
    (.examine (fun w m hw hm => ⟨hw, newBarrierCoordinator_sameTenants hm⟩)
      fun _ hw => hw) fun m => ?_
  refine .bind (Q := fun _ => Unattached w0) (.update fun w hw => hw.1.setManager hw.2) fun _ => ?_
  refine Keeps.bind Keeps.examine fun _ => ?_
  refine .bind (.update fun w hw => ⟨hw.detached, hw.managers⟩) fun _ => ?_
  refine .bind (.forEach (observeFinished_unattached manager) _) fun _ => ?_
  exact .examine

/-! ## What an operation can do to the residents -/

/-- One operation moves CTAs in one of four ways. -/
inductive Moves (w : World σ) : CoreOp σ → World σ → Prop
  | stays {op : CoreOp σ} {w' : World σ} (same : Stays w w') : Moves w op w'
  | enters {manager : ManagerID} {config : CTAConfig} {cta : CTAState}
      (entered : (w.managers manager).Enters config cta) :
      Moves w (.admitCTA manager config) (w.setManager manager
        { (w.managers manager).install cta with epoch := (w.managers manager).epoch + 1 })
  | admits {configs : List CTAConfig} {admitted : Admitted}
      (prepared : prepareAdmission configs w = .ok admitted) :
      Moves w (.admitCTACluster configs) (w.installAdmission admitted)
  | vacates {manager : ManagerID} {slot : CTASlot} {cta : CTAState} {w' : World σ}
      (vacated : w.Vacates manager slot cta w') : Moves w (.reclaimCTA slot.val) w'

theorem ignore_snd (x : Act S ε α) (s : S) : (ignore x s).2 = (x s).2 := by
  unfold ignore
  rcases hx : x s with ⟨e | a, s'⟩
  · rw [bind_of_error hx]
  · rw [bind_of_ok hx]
    rfl

theorem stays_of_keeps (h : Keeps (Stays w) x) : Moves w op (x w).2 := .stays (h.after (.refl w))

theorem perform_moves (sf : SoftFloat) (op : CoreOp σ) (w : World σ) :
    Moves w op (op.perform sf w).2 := by
  cases op with
  | admitCTA manager config =>
    unfold CoreOp.perform World.onManager
    dsimp only
    cases hout : (w.managers manager).admitCTA config with
    | error err =>
      rw [bind_of_error (examine_of (r := .error err) (by rw [hout]; rfl))]
      exact .stays (.refl w)
    | ok out =>
      obtain ⟨m', cta⟩ := out
      obtain ⟨henters, rfl⟩ := CTAManager.admitCTA_enters hout
      rw [bind_of_ok (examine_of (r := .ok _) (by rw [hout]; rfl))]
      exact .enters henters
  | newBarrierCoordinator manager => exact stays_of_keeps (newBarrierCoordinator_stays manager)
  | setCTAManager manager => exact stays_of_keeps (setCTAManager_stays manager)
  | setPendingWorkProvider provider => exact stays_of_keeps (setPendingWorkProvider_stays provider)
  | block warpID reason => exact stays_of_keeps (block_stays warpID reason)
  | resume warpID => exact stays_of_keeps (resume_stays warpID)
  | activate warpID => exact stays_of_keeps (activate_stays warpID)
  | admitCTACluster configs =>
    change Moves w _ (ignore (admitCTACluster configs) w).2
    rw [ignore_snd]
    cases hprepared : prepareAdmission configs w with
    | error err =>
      rw [admitCTACluster_refused hprepared]
      exact .stays (.refl w)
    | ok admitted =>
      rw [admitCTACluster_done hprepared]
      exact .admits hprepared
  | reclaimCTA ctaID =>
    change Moves w _ (ignore (reclaimCTA ctaID) w).2
    rw [ignore_snd]
    have hleads := reclaimCTA_leads w ctaID
    rcases hrun : reclaimCTA ctaID w with ⟨err | cta, w'⟩
    · obtain ⟨memory, rfl⟩ := hleads.of_error rfl hrun
      exact .stays ⟨fun _ h => h, fun _ => .refl _⟩
    · obtain ⟨manager, slot, rfl, hvacates⟩ := hleads.of_ok rfl hrun
      exact .vacates hvacates
  | completeBarrierEvent key =>
    have hsteady := (completeBarrierEvent_steady key).after (Steady.refl (fun _ => False) w)
    exact .stays hsteady.stays
  | step context =>
    change Moves w _ (ignore (step sf context) w).2
    rw [ignore_snd]
    obtain ⟨id, hsteady⟩ := (step_steady sf context).after (.refl _ w)
    exact .stays hsteady.stays

/-! ## Intervals over a run -/

theorem prepareAdmission_placeable (h : prepareAdmission configs w = .ok admitted) :
    (w.managers admitted.manager).Placeable admitted.candidates := by
  obtain ⟨-, _, stage, -, hstage, hsame⟩ := prepareAdmission_stages h
  rw [hsame]
  exact stageDynamicAdmissions_placeable hstage

theorem Placed.setManager {w : World σ} (hw : w.Placed) (hm : m.Placed) :
    (w.setManager manager m).Placed :=
  (Function.forall_update_iff _ fun _ => CTAManager.Placed).mpr ⟨hm, fun other _ => hw other⟩

theorem Moves.placed {w : World σ} (h : Moves w op w') (hw : w.Placed) : w'.Placed := by
  cases h with
  | stays same => exact fun manager => (same.managers manager).residents.placed (hw manager)
  | @enters manager config cta entered =>
    have hm := (hw manager).install entered.placeable
    exact hw.setManager ⟨hm.inside, hm.apart⟩
  | @admits configs admitted prepared =>
    have hm := (hw admitted.manager).installAll (prepareAdmission_placeable prepared)
    obtain ⟨initialized, heq⟩ := w.installAdmission_eq admitted
    have htables : admitted.tables.Placed := by
      rw [(prepareAdmission_admits prepared).tables]
      exact ⟨hm.inside, hm.apart⟩
    intro other
    rw [heq]
    exact hw.setManager htables other
  | @vacates manager slot cta _ vacated =>
    obtain ⟨memory, rfl⟩ := vacated.after
    obtain ⟨initialized, heq⟩ := ({ w with memory } : World σ).reclaimed_eq manager slot cta
    rw [heq]
    exact fun other => hw.setManager ((hw manager).remove slot cta) other

end World

end VortexSim
