import VortexSim.Core.Released

/-!
# What a step keeps

Between the executor and the scheduler a step has a warp that has moved on and a slot that has
not (`Executed`).  The coordination of a deferred instruction and the settlement of the slot
close that gap, whatever the instruction did and wherever the step fails.
-/

namespace VortexSim

open Checked Stateful Act

variable {σ : Type}

/-! ## Commits -/

/-- A commit without an error installs the bundle. -/
theorem CommitOutcome.applied (hstage : w.stageEffects e = .ok stage) (hc : CommitOutcome stage w c)
    (herr : c.error = none) : BundleOk w e ∧ c.owner = w.apply e := by
  obtain ⟨hok, rfl⟩ := stageEffects_eq_ok.mp hstage
  cases hc with
  | refused err => cases herr
  | installed fresh live => exact ⟨hok, rfl⟩

/-- A coordinated commit without an error has run the external operation. -/
theorem EffectStage.commitForwardedWithExternal_world (s : EffectStage) (owner : WarpState)
    (world : ω) (apply : ω → ω × Option Error)
    (h : (s.commitForwardedWithExternal owner world apply).2.error = none) :
    (s.commitForwardedWithExternal owner world apply).1 = (apply world).1 ∧
      (apply world).2 = none := by
  revert h
  unfold EffectStage.commitForwardedWithExternal EffectStage.coordinate
  split
  · intro h
    cases h
  · split
    · intro h
      cases h
    · split
      · intro h
        cases h
      · split
        · intro h
          cases h
        · rename_i hdone
          rw [hdone]
          exact fun _ => ⟨rfl, rfl⟩

namespace World

variable {w0 : World σ}

/-! ## Waits that are over -/

/-- A slot blocked for another reason than a record does not wait. -/
theorem refreshSlot_held (context : ReadContext) (active : WarpMask) (id : WarpID) :
    Keeps (Held w0) (refreshSlot (σ := σ) context active id) := by
  refine Triple.bind (Q := fun slot w => Held w0 w ∧ w.core.slots id = slot)
    (.gets fun _ hw => ⟨hw, rfl⟩) fun slot => ?_
  refine .ite (fun _ => .pure fun _ hw => hw.1) fun hblocked => ?_
  rw [not_not] at hblocked
  have hresume : ∀ w, Held w0 w ∧ w.core.slots id = slot →
      (slot.blockReason ≠ .barrier ∨ slot.barrierWait = false) →
      Held w0 (w.moveSlot id .runnable .none) := by
    rintro w ⟨hw, rfl⟩ hor
    refine hw.resumeSlot hblocked fun key hwait => ?_
    rcases hor with hreason | hnot
    · exact hreason hwait.2.1
    · rw [hwait.2.2.1] at hnot
      cases hnot
  split
  · rename_i hreason
    refine .ite (fun _ => .update fun w hw => hresume w hw (.inl ?_))
      fun _ => .pure fun _ hw => hw.1
    rw [hreason]
    exact BlockReason.noConfusion
  · rename_i hreason
    refine .bind ((pendingPriorWork_keeps (P := fun w => Held w0 w ∧ w.core.slots id = slot) ?_ id _
        _).weaken fun _ hw => hw.1) fun pending => ?_
    · rintro w memory ⟨hw, hslot⟩
      exact ⟨hw.setCore w.core.next w.core.pendingWork w.localMemories memory, hslot⟩
    · refine .ite (fun _ => .pure fun _ hw => hw.1)
        fun _ => .update fun w hw => hresume w hw (.inl ?_)
      rw [hreason]
      exact BlockReason.noConfusion
  · refine .ite (fun hdrain => .update fun w hw => hresume w hw (.inr ?_))
      fun _ => .pure fun _ hw => hw.1
    have hexclusive := (hw.1.inv.slots id).exclusive
    rw [hw.2] at hexclusive
    exact Bool.eq_false_iff.mpr fun hwait => hexclusive ⟨hwait, hdrain.1⟩
  · exact .pure fun _ hw => hw.1

theorem refreshFunctionalWaits_held (context : ReadContext) :
    Keeps (Held w0) (refreshFunctionalWaits (σ := σ) context) := by
  refine .bind (Triple.gets fun _ hw => hw) fun active => ?_
  refine .bind (.forEach (refreshSlot_held context active) _) fun _ => ?_
  exact .examine

/-! ## The gap between executor and scheduler -/

/-- The warp has moved on and its slot is still the one of the selection. -/
structure Executed (w0 : World σ) (selected : WarpID) (before : Slot σ) (result : Result)
    (w : World σ) : Prop where
  slot : w.core.slots selected = before
  runnable : before.lifecycle = .runnable
  participated : before.participated = true
  reason : before.blockReason = .none
  clean : before.barrierWait = false ∧ before.barrierDrain = false ∧ before.barrierKey = {}
  lifecycle : result.nextLifecycle = (w.warp selected).lifecycle
  wf : (w.warp selected).WF
  kept : result.outcome ≠ .retired → result.outcome ≠ .trap → Held w0 w
  moves : ∀ slot : Slot σ, slot.executor = before.executor → slot.Ok (w.warp selected) →
    (∀ key, ¬ slot.WaitsOn key) → slot.participated = true → Held w0 (w.setSlot selected slot)

variable {selected : WarpID} {before : Slot σ} {result : Result}

/-- The selected slot before its instruction. -/
structure Selected (w0 : World σ) (selected : WarpID) (before : Slot σ) (w : World σ) : Prop where
  held : Held w0 w
  slot : w.core.slots selected = before
  runnable : before.lifecycle = .runnable

/-- What any services leave of a warp. -/
theorem step_warp (sf : SoftFloat) (services : Services τ) (context : ReadContext)
    (warp : WarpState) (s : τ) (hwf : warp.WF) : let done := services.step sf context warp s
    done.state.WF ∧ done.state.id = warp.id ∧ done.result.nextLifecycle = done.state.lifecycle ∧
      (done.result.outcome ≠ .retired → done.result.outcome ≠ .trap → done.state = warp) := by
  intro done
  have houtcome := services.stepBody_outcome sf context warp s
  have hatomic : (services.stepBody sf context warp s).Atomic (fun _ => ()) warp s :=
    houtcome.atomic fun _ _ => ⟨fun _ _ _ _ => rfl, fun _ _ _ _ _ _ => rfl⟩
  refine ⟨?_, ?_, rfl, fun hr ht => (hatomic hr ht).1⟩
  · rcases houtcome.state with heq | ⟨e, bundle, heq⟩
    · exact heq ▸ hwf
    · exact heq ▸ warp.apply_wf hwf bundle.ok
  · rcases houtcome.state with heq | ⟨e, -, heq⟩
    · exact congrArg WarpState.id heq
    · exact (congrArg WarpState.id heq).trans (warp.apply_id e)

theorem setWarp_self (w : World σ) (id : WarpID) : w.setWarp id (w.warp id) = w := by
  unfold World.setWarp World.warp
  rw [Function.update_eq_self]

theorem setSlot_self (w : World σ) (id : WarpID) (slot : Slot σ) :
    (w.setSlot id slot).core.slots id = slot :=
  Function.update_self _ _ _

variable {w : World σ} {owners : Owners}

theorem Selected.executed {done : StepResult (LocalMemories × σ)}
    (hw : Selected w0 selected before w) (hwf : done.state.WF)
    (hid : done.state.id = (w.warp selected).id)
    (hlifecycle : done.result.nextLifecycle = done.state.lifecycle)
    (hkept : done.result.outcome ≠ .retired → done.result.outcome ≠ .trap →
      done.state = w.warp selected) :
    Executed w0 selected before done.result { w.setWarp selected done.state with
      localMemories := done.services.1, memory := done.services.2 } := by
  obtain ⟨hheld, hslot, hrunnable⟩ := hw
  have hnot : ∀ key, ¬ (w.core.slots selected).WaitsOn key := by
    refine Slot.not_waits ?_
    rw [hslot, hrunnable]
    exact SlotLifecycle.noConfusion
  have hok := hheld.inv.slots selected
  rw [hslot] at hok
  obtain ⟨hp, hreason, -⟩ := hok.runnable hrunnable
  have hwarp : (w.setWarp selected done.state).warp selected = done.state :=
    (hheld.inv.setWarp_warp selected selected done.state).trans (if_pos rfl)
  refine ⟨hslot, hrunnable, hp, hreason, hok.metadata ?_, ?_, ?_, ?_, ?_⟩
  · rw [hreason]
    exact BlockReason.noConfusion
  · exact hlifecycle.trans (congrArg WarpState.lifecycle hwarp.symm)
  · exact hwarp.symm ▸ hwf
  · intro hr ht
    rw [hkept hr ht, w.setWarp_self]
    exact hheld.setCore w.core.next w.core.pendingWork done.services.1 done.services.2
  · intro slot hexecutor hslotok hwaits hpart
    have hinv : World.Inv (World.setSlot { w.setWarp selected done.state with
        localMemories := done.services.1, memory := done.services.2 } selected slot) := by
      refine hheld.inv.moveWarp selected rfl rfl rfl rfl rfl (hexecutor.trans ?_) hwf
        (hid.trans (hheld.inv.ids selected)) (hwarp ▸ hslotok) hnot hwaits fun _ => ?_
      · rw [hslot]
      · rw [hslot]
        exact hp
    refine hheld.of_inv hinv fun id key hwait => ?_
    refine Function.update_of_ne ?_ _ _
    rintro rfl
    exact hnot key hwait

theorem execute_executed (sf : SoftFloat) (context : ReadContext) :
    Triple (Selected w0 selected before) (execute sf selected context)
      (Executed w0 selected before) (fun _ => False) := by
  intro w hw
  refine ⟨?_, fun e he => by cases he⟩
  rintro result ⟨⟩
  obtain ⟨hwf, hid, hlifecycle, hkept⟩ := step_warp sf
    ((w.core.slots selected).executor.services w.managers) context (w.warp selected)
    (w.localMemories, w.memory) (hw.held.inv.wf selected)
  exact hw.executed hwf hid hlifecycle hkept

/-! ## Coordination -/

/-- The instruction was deferred, and nothing has changed. -/
structure Deferred (w0 : World σ) (selected : WarpID) (before : Slot σ) (result : Result)
    (w : World σ) : Prop extends Selected w0 selected before w where
  outcome : result.outcome = .deferred
  running : result.nextLifecycle = .running

/-- The instruction was completed or left its slot blocked. -/
structure Completed (w0 : World σ) (selected : WarpID) (result : Result) (w : World σ) : Prop where
  served : Served w0 w
  running : result.nextLifecycle = .running
  noFault : result.outcome ≠ .fault
  blocked : result.outcome = .deferred → (w.core.slots selected).lifecycle = .blocked

theorem Executed.deferred (h : Executed w0 selected before result w)
    (hd : result.outcome = .deferred) : Deferred w0 selected before result w := by
  have hheld := h.kept (by rw [hd]; exact Outcome.noConfusion)
    (by rw [hd]; exact Outcome.noConfusion)
  refine ⟨⟨hheld, h.slot, h.runnable⟩, hd, ?_⟩
  have hok := hheld.inv.slots selected
  rw [h.slot] at hok
  rw [h.lifecycle]
  exact (hok.runnable h.runnable).2.2

section

variable {w : World σ}

section

variable (h : Selected w0 selected before w)
include h

theorem Selected.lifecycle : (w.core.slots selected).lifecycle = .runnable := by
  rw [h.slot, h.runnable]

theorem Selected.ok : (w.core.slots selected).participated = true ∧
      (w.core.slots selected).blockReason = .none ∧ (w.warp selected).lifecycle = .running :=
  (h.held.inv.slots selected).runnable h.lifecycle

theorem Selected.not_waits (key : BarrierKey) : ¬ (w.core.slots selected).WaitsOn key := by
  refine Slot.not_waits ?_ key
  rw [h.lifecycle]
  exact SlotLifecycle.noConfusion

/-- The slot after a coordination that failed. -/
theorem Selected.faulted : Served w0 (w.moveSlot selected .blocked .fault) :=
  (h.held.blockSlot rfl h.lifecycle).served

/-- The warp moves on and stays runnable. -/
theorem Selected.install (hwf : owner.WF)
    (hid : owner.id = selected.val) (hrunning : owner.lifecycle = .running) :
    Held w0 ((w.setWarp selected owner).moveSlot selected .runnable .none) := by
  refine h.held.of_inv ?_ ?_
  · refine h.held.inv.moveWarp selected rfl rfl rfl rfl rfl rfl hwf hid ?_ h.not_waits
      (Slot.become_waits _ _ _) fun hp => hp
    exact Slot.runnable_ok h.ok.1 hrunning
  · intro id key hwait
    refine Function.update_of_ne ?_ _ _
    rintro rfl
    exact h.not_waits key hwait

/-- A bundle that only coordinates leaves a running warp running. -/
theorem Selected.coordinated (hok : BundleOk (w.warp selected) e) (he : e.CoordinationOnly) :
    ((w.warp selected).apply e).WF ∧ ((w.warp selected).apply e).id = selected.val ∧
      ((w.warp selected).apply e).lifecycle = .running := by
  refine ⟨WarpState.apply_wf (h.held.inv.wf selected) hok, ?_, ?_⟩
  · rw [WarpState.apply_id]
    exact h.held.inv.ids selected
  · rw [WarpState.apply_lifecycle _ he.warpMasks he.divergence he.trap]
    exact h.ok.2.2

end

/-- A slot that was blocked completes its instruction for this step. -/
theorem Deferred.parks (h : Deferred w0 selected before result w) {slot : Slot σ}
    (hheld : Held w0 (w.setSlot selected slot)) (hblocked : slot.lifecycle = .blocked) :
    Completed w0 selected result (w.setSlot selected slot) where
  served := hheld.served
  running := h.running
  noFault := by
    rw [h.outcome]
    exact Outcome.noConfusion
  blocked := fun _ => (congrArg Slot.lifecycle (w.setSlot_self selected slot)).trans hblocked

theorem Deferred.blockedBy (h : Deferred w0 selected before result w) (hr : reason.valid = true) :
    Completed w0 selected result (w.moveSlot selected .blocked reason) :=
  h.parks (h.held.blockSlot hr h.lifecycle) rfl

/-- A completed instruction whose warp runs on. -/
theorem completed_of_running (hs : Served w0 w) (hrunning : owner.lifecycle = .running) :
    Completed w0 selected (completeDeferredResult owner result) w where
  served := hs
  running := hrunning
  noFault := Outcome.noConfusion
  blocked := fun h => by cases h

end

theorem coordinateWarpSync_completed (pending : Bool) :
    Triple (Deferred w0 selected before result) (coordinateWarpSync selected pending result)
      (fun r => Completed w0 selected r) (Selected w0 selected before) := by
  refine .bind (Q := fun e w => Deferred w0 selected before result w ∧
      syncContract selected pending e) (.examine ?_ fun _ hw => hw.toSelected) fun e => ?_
  · intro w e hw h
    split at h
    · cases h
    · simp only [ok_iff, not_not] at h
      obtain ⟨-, hcontract, rfl⟩ := h
      exact ⟨hw, hcontract⟩
  refine .ite (fun _ => ?_) fun _ => ?_
  · exact .bind (.update fun w hw => hw.1.blockedBy rfl) fun _ =>
      Triple.pure fun _ hw => hw
  refine .bind (Q := fun owner w => Selected w0 selected before w ∧ owner.WF ∧
      owner.id = selected.val ∧ owner.lifecycle = .running)
    (.examine ?_ fun _ hw => hw.1.toSelected) fun owner => ?_
  · rintro w owner ⟨hw, hcontract⟩ h
    simp only [ok_iff, mapError_eq_ok] at h
    obtain ⟨stage, hstage, -, h⟩ := h
    split at h
    · cases h
    · rename_i herr
      cases h
      obtain ⟨hok, howner⟩ := (stage.commitAfterExternal_outcome _).applied hstage herr
      rw [howner]
      exact ⟨hw.toSelected, hw.toSelected.coordinated hok hcontract.2.1⟩
  refine .bind (Q := fun _ w => Held w0 w ∧ owner.lifecycle = .running)
    (.update ?_) fun _ => .pure fun w hw => ?_
  · rintro w ⟨hw, hwf, hid, hrunning⟩
    exact ⟨hw.install hwf hid hrunning, hrunning⟩
  · exact completed_of_running hw.1.served hw.2

/-! ## WSPAWN -/

/-- A spawn that a manager accepts only starts members. -/
theorem validateSpawn_members {m : CTAManager}
    (h : m.validateSpawn selected spawn.targets = .ok u) :
    ∀ id ∈ spawnedWarps spawn, m.hasWarp id = true := by
  intro id hid
  unfold CTAManager.validateSpawn at h
  simp only [bind_eq_ok] at h
  obtain ⟨-, -, h⟩ := h
  split at h
  · cases h
  · simp only [ok_iff, each_rejectIf_eq_ok] at h
    have htarget := h.2 id (List.mem_finRange id)
    rw [not_and, not_not] at htarget
    obtain ⟨key, hkey, -⟩ := Option.map_eq_some_iff.mp (htarget (List.mem_filter.mp hid).2)
    exact congrArg Option.isSome hkey

theorem validateWarpSpawnEffect_source (h : validateWarpSpawnEffect selected spawn = .ok u) :
    selected ∉ spawnedWarps spawn := by
  unfold validateWarpSpawnEffect at h
  simp only [ok_iff, not_or] at h
  unfold spawnedWarps
  rw [List.mem_filter]
  exact fun hin => h.1.2.2.1 hin.2

theorem checkedSpawn_members {effects : InstructionEffects}
    (h : checkedSpawn selected result w = .ok (effects, spawn)) :
    selected ∉ spawnedWarps spawn ∧ ∀ manager, w.core.ctas = some manager →
      ∀ id ∈ spawnedWarps spawn, (w.managers manager).hasWarp id = true := by
  unfold checkedSpawn at h
  split at h
  · cases h
  · split at h
    · cases h
    · rw [bind_eq_ok] at h
      obtain ⟨_, hvalid, h⟩ := h
      split at h
      · rename_i hctas
        cases h
        refine ⟨validateWarpSpawnEffect_source hvalid, fun manager hm => ?_⟩
        rw [hctas] at hm
        cases hm
      · rename_i hctas
        simp only [bind_eq_ok, mapError_eq_ok, pure_eq_ok, Prod.mk.injEq] at h
        obtain ⟨_, hmembers, rfl, rfl⟩ := h
        refine ⟨validateWarpSpawnEffect_source hvalid, fun manager hm => ?_⟩
        rw [hctas] at hm
        cases hm
        exact validateSpawn_members hmembers

/-- A committed spawn: the source moves its PC and the targets run. -/
structure Spawned (w : World σ) (selected : WarpID) (ids : List WarpID) (owners : Owners) :
    Prop where
  inactive : ∀ id ∈ ids, (w.core.slots id).lifecycle = .inactive
  wf : owners.WF
  installed : ∃ next candidates, let after : WarpState := { w.warp selected with pc := next }
    after.WF ∧ owners = installAll (w.setWarp selected after).owners candidates ∧
    candidates.map OwnerCandidate.owner = (ids.map fun id => (w.core.slots id).executor.owner) ∧
    ∀ c ∈ candidates, c.after.lifecycle = .running ∧ c.after.id = (w.owners c.owner).id

theorem commitSpawn_spawned (hw : w.owners.WF)
    (h : commitSpawn selected ownerBefore effects spawn w = .ok owners) :
    w.Spawned selected (spawnedWarps spawn) owners := by
  unfold commitSpawn at h
  simp only [ok_iff, each_rejectIf_eq_ok, mapError_eq_ok, Prod.exists, not_or, not_not] at h
  obtain ⟨hinactive, -, -, stage, hstage, transaction, htransaction, owners', done, hcommit,
    rfl⟩ := h
  obtain ⟨-, -, hsound⟩ := stageWarpSpawn_sound htransaction
  obtain ⟨spawn', hsource, -, rfl⟩ := stageWarpSpawn_ok htransaction
  have hstaged : stage.Sound := (stageEffects_on hstage).sound
  have hwf := WarpSpawnStage.commit_wf hw hstaged hsound hcommit
  have hafter : stage.after.WF := hstaged (hsource.live ▸ hw _)
  unfold WarpSpawnStage.commit at hcommit
  simp only [ok_iff, Prod.mk.injEq] at hcommit
  obtain ⟨-, -, -, rfl, -⟩ := hcommit
  rw [hsource.after] at hwf hafter ⊢
  refine ⟨fun id hid => (hinactive id hid).1, hwf, _, _, hafter, rfl, ?_, ?_⟩
  · rw [List.map_map, List.map_map]
    rfl
  · intro c hc
    obtain ⟨target, -, rfl⟩ := List.mem_map.mp hc
    exact ⟨rfl, rfl⟩

theorem Spawned.held (h : Selected w0 selected before w) (hs : w.Spawned selected ids owners)
    (hsource : selected ∉ ids)
    (hmembers : ∀ manager, w.core.ctas = some manager → ∀ id ∈ ids,
      (w.managers manager).hasWarp id = true) :
    Held w0 ((ids.foldl startSlot { w with owners }).moveSlot selected .runnable .none) := by
  obtain ⟨next, candidates, hwf, howners, htargets, hafter⟩ := hs.installed
  obtain ⟨initialized, heq⟩ : ∃ initialized, ids.foldl startSlot { w with owners } = { w with
        core := { w.core with
          slots := fun id => if id ∈ ids then startedSlot (w.core.slots id) else w.core.slots id
          initialized }
        owners } := by
    refine foldl_slots (f := startedSlot) ?_ (fun _ => rfl) ids { w with owners }
    exact fun w _ => ⟨w.core.initialized, rfl⟩
  -- the source first, then the targets on top of it
  have hfirst : (w.setWarp selected { w.warp selected with pc := next }).Inv := by
    refine h.held.inv.moveWarp selected rfl rfl rfl (Function.update_eq_self _ _).symm rfl rfl hwf
      (h.held.inv.ids selected) ?_ h.not_waits h.not_waits fun hp => hp
    have hok := h.held.inv.slots selected
    refine ⟨?_, hok.metadata, hok.exclusive⟩
    have hfits := hok.fits
    exact hfits
  have hids : ∀ o, ((w.setWarp selected { w.warp selected with pc := next }).owners o).id =
      (w.owners o).id :=
    (Function.forall_update_iff _ fun o (warp : WarpState) => warp.id = (w.owners o).id).mpr
      ⟨rfl, fun _ _ => rfl⟩
  have hpoint := hfirst.installed ids candidates htargets fun c hc => by
    rw [hids]
    exact hafter c hc
  rw [← howners] at hpoint
  have hinv : (ids.foldl startSlot { w with owners }).Inv := by
    have hexecutor : ∀ id, ((ids.foldl startSlot { w with owners }).core.slots id).executor =
        (w.core.slots id).executor := by
      intro id
      rw [heq]
      dsimp only
      split <;> rfl
    have hwarp : ∀ id, (ids.foldl startSlot { w with owners }).warp id =
        owners (w.core.slots id).executor.owner := by
      intro id
      unfold World.warp
      rw [hexecutor, heq]
    refine hfirst.start ids hs.inactive (fun id => by rw [heq]; rfl) (by rw [heq]; exact hs.wf)
      ?_ (by rw [heq]; exact h.held.inv.managers) (fun _ _ => by rw [heq]; exact .refl _)
      (by rw [heq]; rfl) (by rw [heq]; rfl) (by rw [heq]; exact hmembers)
    intro id
    rw [hwarp id]
    exact hpoint id
  have hheld : Held w0 (ids.foldl startSlot { w with owners }) := by
    refine h.held.of_inv hinv fun id key hwait => ?_
    rw [heq]
    refine if_neg fun hid => ?_
    have hl := hs.inactive id hid
    rw [hwait.1] at hl
    cases hl
  have hslot : (ids.foldl startSlot { w with owners }).core.slots selected = before := by
    rw [heq]
    exact (if_neg hsource).trans h.slot
  have hsel : Selected w0 selected before (ids.foldl startSlot { w with owners }) :=
    ⟨hheld, hslot, h.runnable⟩
  exact hheld.moveSlot ⟨hsel.ok.1, rfl, hsel.ok.2.2⟩ hsel.not_waits

theorem coordinateWarpSpawn_completed (active : WarpMask) (ownerBefore : WarpID → WarpState) :
    Triple (Deferred w0 selected before result)
      (coordinateWarpSpawn selected active ownerBefore result)
      (fun out w => Completed w0 selected out.1 w ∧ out.2 = none)
      (Selected w0 selected before) := by
  refine .bind (Q := fun out w => Deferred w0 selected before result w ∧
      checkedSpawn selected result w = .ok out)
    (.examine (fun _ _ hw h => ⟨hw, h⟩) fun _ hw => hw.toSelected) ?_
  rintro ⟨effects, spawn⟩
  refine .ite (fun _ => ?_) fun _ => ?_
  · exact .bind (.update fun w hw => hw.1.blockedBy rfl) fun _ =>
      Triple.pure fun _ hw => ⟨hw, rfl⟩
  refine .bind (Q := fun owners w => Selected w0 selected before w ∧
      checkedSpawn selected result w = .ok (effects, spawn) ∧
      w.Spawned selected (spawnedWarps spawn) owners)
    (.examine ?_ fun _ hw => hw.1.toSelected) fun owners => ?_
  · rintro w owners ⟨hw, hchecked⟩ h
    exact ⟨hw.toSelected, hchecked, commitSpawn_spawned hw.held.inv.owners h⟩
  refine .bind (Q := fun _ w => Held w0 w ∧ (w.core.slots selected).lifecycle = .runnable)
    (.update ?_) fun _ => .gets ?_
  · rintro w ⟨hw, hchecked, hspawned⟩
    obtain ⟨hsource, hmembers⟩ := checkedSpawn_members hchecked
    exact ⟨hspawned.held hw hsource hmembers, congrArg Slot.lifecycle (setSlot_self _ selected _)⟩
  · rintro w ⟨hw, hrunnable⟩
    refine ⟨completed_of_running hw.served ((hw.inv.slots selected).runnable hrunnable).2.2, ?_⟩
    rw [hw.inv.validate]
    rfl

/-! ## Barriers -/

/-- An accepted request: the warp has applied its bundle and the record its change. -/
structure Accepts (w : World σ) (selected : WarpID) (accepted : AcceptedBarrier) : Prop where
  staged : w.Staged accepted.manager accepted.stage (some selected)
  records : accepted.records = Function.update (w.managers accepted.manager).records
    accepted.stage.key (some accepted.stage.after)
  wf : accepted.owner.WF
  id : accepted.owner.id = selected.val
  running : accepted.owner.lifecycle = .running

theorem barrierRequestOf_eq_ok (h : barrierRequestOf selected decoded e = .ok effect) :
    e.CoordinationOnly ∧ effect.warpID = selected.val := by
  unfold barrierRequestOf at h
  rw [bind_eq_ok] at h
  obtain ⟨_, hcontract, h⟩ := h
  rw [rejectIf_eq_ok, not_not] at hcontract
  split at h
  · simp only [ok_iff, not_or, not_not] at h
    obtain ⟨⟨hwarp, -⟩, rfl⟩ := h
    exact ⟨hcontract.2.1, hwarp⟩
  · cases h

/-- A stage of the coordinator for the request of a runnable warp. -/
theorem stageBarrier_staged (h : w.Inv) (hm : w.core.barriers = some manager)
    (hwarp : effect.warpID = selected.val)
    (hrunnable : (w.core.slots selected).lifecycle = .runnable)
    (hstage : (w.managers manager).stageBarrier effect expected = .ok stage) :
    w.Staged manager stage (some selected) := by
  obtain ⟨⟨size, hkey⟩, hmoves⟩ := CTAManager.stageBarrier_moves hstage
  obtain ⟨-, hself, haddress⟩ := (h.managers manager).keyForEffect hkey
  rw [hwarp, Fin.ofNat_val_eq_self] at hself
  rw [hwarp] at hmoves
  refine ⟨h.bound ▸ hm, hmoves, ?_, ?_⟩
  · rintro _ ⟨⟩
    exact ⟨hself, haddress⟩
  · rintro _ ⟨⟩
    exact hrunnable

theorem acceptBarrier_accepts (hw : Selected w0 selected before w)
    (h : acceptBarrier selected issued view decoded e w = .ok accepted) :
    w.Accepts selected accepted := by
  unfold acceptBarrier at h
  simp only [ok_iff, mapError_eq_ok] at h
  obtain ⟨effect, heffect, -, stage, hstage, -, h⟩ := h
  obtain ⟨honly, hwarp⟩ := barrierRequestOf_eq_ok heffect
  split at h
  · cases h
  · rename_i manager hmanager
    simp only [bind_eq_ok, mapError_eq_ok] at h
    obtain ⟨barrier, hbarrier, -, -, h⟩ := h
    obtain ⟨expected, hbarrier⟩ := CTAManager.stageFromView_eq_ok hbarrier
    split at h
    · cases h
    · rename_i herr
      cases h
      obtain ⟨hok, howner⟩ :=
        (stage.commitForwardedWithExternal_outcome _ _ _).applied hstage herr
      obtain ⟨hworld, hdone⟩ := stage.commitForwardedWithExternal_world _ _ _ herr
      obtain ⟨hwf, hid, hrunning⟩ := hw.coordinated hok honly
      refine ⟨stageBarrier_staged hw.held.inv hmanager hwarp hw.lifecycle hbarrier, ?_,
        howner ▸ hwf, howner ▸ hid, howner ▸ hrunning⟩
      rw [hworld]
      split at hdone
      · rename_i hcommit
        exact commit_eq_ok hcommit
      · cases hdone

/-- The slot of a source waits exactly when the result blocks it. -/
theorem barrierSlot_waits {result : BarrierResult} (key : BarrierKey) :
    (barrierSlot slot result).WaitsOn key ↔ result.block = true ∧ key = result.key := by
  unfold barrierSlot
  split
  · rename_i hblock
    exact ⟨fun hw => ⟨hblock, hw.2.2.2.symm⟩, fun hw => ⟨rfl, rfl, rfl, hw.2.symm⟩⟩
  · rename_i hblock
    exact ⟨fun hw => absurd hw (Slot.become_waits _ _ _ _), fun hw => absurd hw.1 hblock⟩

theorem barrierSlot_ok {result : BarrierResult} {warp : WarpState} (hp : slot.participated = true)
    (hrunning : warp.lifecycle = .running) : (barrierSlot slot result).Ok warp := by
  unfold barrierSlot
  split
  · exact ⟨⟨hp, rfl, hrunning⟩, fun hne => absurd rfl hne, fun hboth =>
      Bool.false_ne_true hboth.2⟩
  · exact Slot.runnable_ok hp hrunning

theorem Accepts.commits (hw : Selected w0 selected before w) (ha : w.Accepts selected accepted) :
    Commits w (w.installBarrier selected accepted) accepted.manager accepted.stage
      (some selected) := by
  have hself : (w.installBarrier selected accepted).core.slots selected =
      barrierSlot (w.core.slots selected) accepted.stage.result := by
    refine (setSlot_self _ selected _).trans (congrArg (fun slot => barrierSlot slot _) ?_)
    exact if_neg fun hboth => hboth.2 rfl
  have hothers : ∀ id, id ≠ selected → (w.installBarrier selected accepted).core.slots id =
      releasedSlot (some selected) accepted.stage.result.releases id (w.core.slots id) :=
    fun id hne => Function.update_of_ne hne _ _
  have hexecutor : ∀ id, ((w.installBarrier selected accepted).core.slots id).executor =
      (w.core.slots id).executor := by
    intro id
    by_cases hid : id = selected
    · rw [hid, hself]
      unfold barrierSlot
      split <;> rfl
    · rw [hothers id hid]
      unfold releasedSlot
      split <;> rfl
  have hwarp : ∀ id, (w.installBarrier selected accepted).warp id =
      if id = selected then accepted.owner else w.warp id := by
    intro id
    rw [← hw.held.inv.setWarp_warp selected id accepted.owner]
    unfold World.warp
    rw [hexecutor]
    rfl
  refine ⟨rfl, rfl, ?_, ?_, ?_, ?_, ?_⟩
  · rw [← ha.records]
    rfl
  · exact w.owners.update_wf hw.held.inv.owners ha.wf
  · intro id
    rw [hwarp]
    split
    · rename_i hid
      rw [ha.id, hid]
    · exact hw.held.inv.ids id
  · intro id hne
    have hid : id ≠ selected := fun hid => hne (congrArg some hid)
    exact ⟨(hwarp id).trans (if_neg hid), hothers id hid⟩
  · rintro _ ⟨⟩
    rw [hself, hwarp, if_pos rfl]
    refine ⟨(hself ▸ hexecutor selected), ?_, barrierSlot_ok hw.ok.1 ha.running, ?_⟩
    · unfold barrierSlot
      split <;> rfl
    · intro key
      rw [barrierSlot_waits, ha.staged.moves.key]

theorem coordinateBarrier_completed (issued : WarpState) (view : BarrierView) (pendingLSU : Bool) :
    Triple (Deferred w0 selected before result)
      (coordinateBarrier selected issued view pendingLSU result)
      (fun out => Completed w0 selected out.1) (Selected w0 selected before) := by
  refine .bind (.examine (fun _ _ hw _ => hw) fun _ hw => hw.toSelected) ?_
  rintro ⟨decoded, effects⟩
  refine .ite (fun _ => ?_) fun _ => ?_
  · refine .bind (.examine (fun _ _ hw _ => hw) fun _ hw => hw.toSelected) fun _ => ?_
    refine .bind (.update (Q := fun _ => Completed w0 selected result) ?_)
      fun _ => .pure fun _ hw => hw
    intro w hw
    refine hw.parks (hw.held.setSlot rfl ?_ hw.not_waits ?_ fun hp => hp) rfl
    · exact ⟨⟨hw.ok.1, rfl, hw.ok.2.2⟩, fun hne => absurd rfl hne, fun hboth =>
        Bool.false_ne_true hboth.1⟩
    · exact fun key hwait => Bool.false_ne_true hwait.2.2.1
  refine .bind (Q := fun accepted w => Selected w0 selected before w ∧
      w.Accepts selected accepted) (.examine ?_ fun _ hw => hw.toSelected) fun accepted => ?_
  · exact fun w accepted hw h => ⟨hw.toSelected, acceptBarrier_accepts hw.toSelected h⟩
  refine .bind (Q := fun _ w => Served w0 w ∧ accepted.owner.lifecycle = .running)
    (.update ?_) fun _ => .pure fun w hw => ?_
  · rintro w ⟨hw, ha⟩
    exact ⟨(ha.commits hw).served hw.held ha.staged, ha.running⟩
  · exact completed_of_running hw.1 hw.2

/-! ## The step -/

/-- How a coordination may end: with an error, completed, or as the executor left it. -/
def Settleable (w0 : World σ) (selected : WarpID) (before : Slot σ) (done : Coordinated)
    (w : World σ) : Prop :=
  (∃ err, done.error = some err ∧ Served w0 w) ∨
  (done.error = none ∧ Completed w0 selected done.result w) ∨
  (done.error = none ∧ Executed w0 selected before done.result w)

theorem faultSlot_settleable (err : Error) :
    Triple (Selected w0 selected before) (faultSlot selected result err)
      (Settleable w0 selected before) (fun _ => False) := by
  refine .bind (Q := fun _ => Served w0) (.update fun w hw => hw.faulted) fun _ => ?_
  exact .pure fun w hw => .inl ⟨err, rfl, hw⟩

theorem restoreSlot_settleable (err : Error) :
    Triple (Selected w0 selected before) (restoreSlot selected before result err)
      (Settleable w0 selected before) (fun _ => False) := by
  refine .bind (Q := fun _ => Held w0) (.update fun w hw => ?_) fun _ => ?_
  · have hself : { w.core.slots selected with
        lifecycle := before.lifecycle, blockReason := before.blockReason
        barrierKey := before.barrierKey, barrierWait := before.barrierWait
        barrierDrain := before.barrierDrain } = w.core.slots selected := by
      rw [← hw.slot]
    rw [hself]
    refine hw.held.setSlot rfl (hw.held.inv.slots selected) hw.not_waits hw.not_waits fun hp => hp
  · exact .pure fun w hw => .inl ⟨err, rfl, hw.served⟩

/-- A barrier instruction, with or without a coordinator. -/
theorem coordinateBound_settleable (issued : WarpState) (view : BarrierView) (pendingLSU : Bool) :
    Triple (Deferred w0 selected before result) (do
      if (← Act.gets fun w : World σ => w.core.barriers) = none then
        Act.update fun w => w.setSlot selected
          { w.core.slots selected with lifecycle := .blocked, blockReason := .barrier }
        pure { result }
      else
        match ← (coordinateBarrier selected issued view pendingLSU result).attempt with
        | .error err => restoreSlot selected before result err
        | .ok (result', transition) => pure { result := result', transition })
      (Settleable w0 selected before) (fun _ => False) := by
  refine .bind (Q := fun _ => Deferred w0 selected before result)
    (.gets fun _ hw => hw) fun barriers => ?_
  refine .ite (fun _ => ?_) fun _ => ?_
  · refine .bind (Q := fun _ => Completed w0 selected result) (.update fun w hw => ?_)
      fun _ => .pure fun _ hw => .inr (.inl ⟨rfl, hw⟩)
    have hok := hw.held.inv.slots selected
    have hclean := hok.metadata (by rw [hw.ok.2.1]; exact BlockReason.noConfusion)
    refine hw.parks (hw.held.setSlot rfl ⟨⟨hw.ok.1, rfl, hw.ok.2.2⟩, fun hne => absurd rfl hne,
      hok.exclusive⟩ hw.not_waits (fun key hwait => ?_) fun hp => hp) rfl
    exact Bool.false_ne_true (hclean.1.symm.trans hwait.2.2.1)
  · refine .bind (.attempt (coordinateBarrier_completed issued view pendingLSU)) fun out => ?_
    split
    · exact (restoreSlot_settleable _).pre fun w hw => hw.2 _ rfl
    · exact .pure fun w hw => .inr (.inl ⟨rfl, hw.1 _ rfl⟩)

theorem coordinate_settleable (active : WarpMask) (ownerBefore : WarpID → WarpState)
    (view : Option IssueView) (context : ReadContext) :
    Triple (Executed w0 selected before result)
      (coordinate selected before active ownerBefore view context result)
      (Settleable w0 selected before) (fun _ => False) := by
  refine .ite (fun _ => .pure fun w hw => .inr (.inr ⟨rfl, hw⟩)) fun hdeferred => ?_
  rw [not_not] at hdeferred
  have hstart : ∀ w, Executed w0 selected before result w → Deferred w0 selected before result w :=
    fun w hw => hw.deferred hdeferred
  split
  · refine .bind (.attempt
      ((coordinateWarpSpawn_completed active ownerBefore).pre hstart)) fun out => ?_
    split
    · exact (faultSlot_settleable _).pre fun w hw => hw.2 _ rfl
    · -- the last check of a spawn holds, so it returns no error
      intro w hw
      obtain ⟨-, hnone⟩ := hw.1 _ rfl
      cases hnone
    · exact .pure fun w hw => .inr (.inl ⟨rfl, (hw.1 _ rfl).1⟩)
  · refine .bind (.attempt ((coordinateWarpSync_completed _).pre hstart)) fun out => ?_
    split
    · exact (faultSlot_settleable _).pre fun w hw => hw.2 _ rfl
    · exact .pure fun w hw => .inr (.inl ⟨rfl, hw.1 _ rfl⟩)
  · exact (coordinateBound_settleable _ _ _).pre hstart
  · exact (coordinateBound_settleable _ _ _).pre hstart
  · exact (coordinateBound_settleable _ _ _).pre hstart
  · exact .pure fun w hw => .inr (.inr ⟨rfl, hw⟩)

theorem deferredReason_valid (result : Result) : (deferredReason result).valid = true := by
  unfold deferredReason
  dsimp only
  generalize hr : Option.orElse _ _ = reason
  cases reason with
  | none => rfl
  | some reason =>
    have hof : ∃ e : InstructionEffects, (if e.warpSpawn.isSome then some BlockReason.warpSpawn
        else if e.barriers.length ≠ 0 then some .barrier
        else if e.warpDrains.length ≠ 0 then some .pendingWork else none) = some reason := by
      rcases hfirst : result.effects.bind _ with _ | first
      · rw [hfirst] at hr
        obtain ⟨e, -, he⟩ := Option.bind_eq_some_iff.mp hr
        exact ⟨e, he⟩
      · rw [hfirst] at hr
        obtain ⟨e, -, he⟩ := Option.bind_eq_some_iff.mp (hfirst.trans hr)
        exact ⟨e, he⟩
    obtain ⟨e, he⟩ := hof
    split at he
    · cases he
      rfl
    · split at he
      · cases he
        rfl
      · split at he
        · cases he
          rfl
        · cases he

/-- A member of the attached manager can be told to have finished. -/
theorem noteFinished_held : Triple
    (fun w => Held w0 w ∧ (w.core.slots selected).participated = true) (noteFinished selected)
    (fun out w => out = none ∧ Held w0 w) (fun _ => False) := by
  rintro w ⟨hw, hp⟩
  unfold noteFinished
  split
  · refine ⟨?_, fun e he => by cases he⟩
    rintro out ⟨⟩
    exact ⟨rfl, hw⟩
  · rename_i manager hmanager
    have hhas := (hw.inv.attached manager hmanager).members selected hp
    obtain ⟨m, hm⟩ := (hw.inv.managers manager).observes hhas
    rw [hm]
    refine ⟨?_, fun e he => by cases he⟩
    rintro out ⟨⟩
    refine ⟨rfl, hw.setManager ((hw.inv.managers manager).observeWarpFinished hm) fun _ => ?_⟩
    obtain ⟨slot, cta, rank, -, rfl⟩ := CTAManager.observeWarpFinished_eq_ok hm
    exact ⟨rfl, rfl, fun _ h => h, fun _ _ h => h⟩

/-- An instruction that was completed or blocked needs no settlement. -/
theorem settle_completed : Triple (Completed w0 selected result) (settle selected result)
    (fun out w => out = none ∧ Served w0 w) (fun _ => False) := by
  refine .of_pre fun w hw => ?_
  refine .ite (fun hinactive => ?_) fun _ => ?_
  · rw [hw.running] at hinactive
    cases hinactive
  split
  · rename_i hdeferred
    refine .bind (Q := fun lifecycle w' => w' = w ∧ lifecycle = .blocked)
      (.gets ?_) fun lifecycle => .ite (fun _ => .pure ?_) fun hne => ?_
    · rintro _ rfl
      exact ⟨rfl, hw.blocked hdeferred⟩
    · rintro _ ⟨rfl, -⟩
      exact ⟨rfl, hw.served⟩
    · exact fun _ hs => absurd hs.2 hne
  · rename_i hfault
    exact absurd hfault hw.noFault
  · refine .pure ?_
    rintro _ rfl
    exact ⟨rfl, hw.served⟩

/-- The slot follows the warp. -/
theorem settle_executed : Triple (Executed w0 selected before result) (settle selected result)
    (fun out w => out = none ∧ Served w0 w) (fun _ => False) := by
  refine .of_pre fun w hw => ?_
  have hrunning : result.nextLifecycle ≠ .inactive → (w.warp selected).lifecycle = .running := by
    intro hne
    rw [hw.lifecycle, hw.wf.lifecycle] at hne
    rw [hw.wf.lifecycle]
    unfold lifecycleFor at hne ⊢
    split at hne
    · rename_i hmask
      exact if_pos hmask
    · exact absurd rfl hne
  refine .ite (fun hinactive => ?_) fun hactive => ?_
  · refine .bind (Q := fun _ w => Held w0 w ∧
        (w.core.slots selected).participated = true) (.update ?_) fun _ => ?_
    · rintro _ rfl
      refine ⟨hw.moves _ ?_ (Slot.become_ok ⟨?_, rfl, ?_⟩) (Slot.become_waits _ _ _) ?_, ?_⟩
      · rw [← hw.slot]
        rfl
      · rw [hw.slot]
        exact hw.participated
      · rw [← hw.lifecycle, hinactive]
      · rw [hw.slot]
        exact hw.participated
      · rw [World.moveSlot, setSlot_self, hw.slot]
        exact hw.participated
    · exact .consequence noteFinished_held (fun _ hs => hs)
        (fun _ _ hs => ⟨hs.1, hs.2.served⟩) fun _ hs => hs
  have hrun := hrunning hactive
  split
  · refine .bind (Q := fun lifecycle w' => w' = w ∧ lifecycle = .runnable)
      (.gets ?_) fun lifecycle => .ite (fun hblocked => ?_) fun _ => ?_
    · rintro _ rfl
      exact ⟨rfl, by rw [hw.slot, hw.runnable]⟩
    · rintro _ ⟨-, hl⟩
      rw [hblocked] at hl
      cases hl
    · refine .bind (Q := fun _ => Held w0) (.update ?_) fun _ =>
        Triple.pure fun _ hs => ⟨rfl, hs.served⟩
      rintro _ ⟨rfl, -⟩
      rw [hw.slot]
      refine hw.moves _ rfl ⟨⟨hw.participated, deferredReason_valid result, hrun⟩,
        fun _ => hw.clean, fun hboth => ?_⟩ (fun key hwait => ?_) hw.participated
      · exact Bool.false_ne_true (hw.clean.1.symm.trans hboth.1)
      · exact Bool.false_ne_true (hw.clean.1.symm.trans hwait.2.2.1)
  · refine .bind (Q := fun _ => Held w0) (.update ?_) fun _ =>
      Triple.pure fun _ hs => ⟨rfl, hs.served⟩
    rintro _ rfl
    refine hw.moves _ ?_ (Slot.blocked_ok ?_ rfl hrun) (Slot.become_waits _ _ _) ?_
    all_goals rw [hw.slot]
    · rfl
    · exact hw.participated
    · exact hw.participated
  · have hsame : w.setSlot selected before = w := by
      unfold World.setSlot
      rw [← hw.slot, Function.update_eq_self]
    refine .pure ?_
    rintro _ rfl
    refine ⟨rfl, Held.served (hsame ▸ hw.moves before rfl ⟨?_, fun _ => hw.clean, ?_⟩ ?_
      hw.participated)⟩
    · unfold Slot.Fits
      rw [hw.runnable]
      exact ⟨hw.participated, hw.reason, hrun⟩
    · exact fun hboth => Bool.false_ne_true (hw.clean.1.symm.trans hboth.1)
    · exact fun key hwait => Bool.false_ne_true (hw.clean.1.symm.trans hwait.2.2.1)

theorem issueWarp_executed (sf : SoftFloat) (context : ReadContext) (selected : WarpID) :
    Triple (fun w => Held w0 w ∧ (w.core.slots selected).lifecycle = .runnable)
      (issueWarp sf context selected)
      (fun issued => Executed w0 selected issued.before issued.result) (Served w0) := by
  refine .bind gets_keeps fun active => ?_
  refine .bind gets_keeps fun ownerBefore => ?_
  refine .bind (.examine (fun _ _ hw _ => hw) fun _ hw => hw.1.served) fun view => ?_
  refine .bind ((pendingPriorWork_keeps
      (P := fun w => Held w0 w ∧ (w.core.slots selected).lifecycle = .runnable) ?_ selected _
      _).weaken fun _ hw => hw.1.served) fun pending => ?_
  · rintro w memory ⟨hw, hl⟩
    exact ⟨hw.setCore w.core.next w.core.pendingWork w.localMemories memory, hl⟩
  refine .bind (.update
    (Q := fun _ w => Held w0 w ∧ (w.core.slots selected).lifecycle = .runnable) ?_) fun _ => ?_
  · rintro w ⟨hw, hl⟩
    exact ⟨hw.setCore (selected + 1) w.core.pendingWork w.localMemories w.memory, hl⟩
  refine .bind (.gets (Q := fun before => Selected w0 selected before) ?_) fun before => ?_
  · rintro w ⟨hw, hl⟩
    exact ⟨hw, rfl, hl⟩
  exact .bind ((execute_executed sf _).weaken fun _ hw => hw.elim) fun result =>
    .pure fun _ hw => hw

/-- No release is refused on the way of a step. -/
theorem Executed.releases (h : Executed w0 selected before result w)
    (hdeferred : result.outcome = .deferred) (hm : w.core.barriers = some manager)
    (hwarp : effect.warpID = selected.val)
    (hstage : (w.managers manager).stageFromView effect view = .ok stage) :
    w.validateBarrierReleases (some selected) stage.result = .ok () := by
  have hsource := h.deferred hdeferred
  obtain ⟨expected, hstage⟩ := CTAManager.stageFromView_eq_ok hstage
  exact (stageBarrier_staged hsource.held.inv hm hwarp hsource.lifecycle hstage).releases
    hsource.held.inv

theorem stepWarp_served (sf : SoftFloat) (context : ReadContext) (selected : WarpID) :
    Triple (fun w => Held w0 w ∧ (w.core.slots selected).lifecycle = .runnable)
      (stepWarp sf context selected) (fun _ => Served w0) (Served w0) := by
  refine .bind (issueWarp_executed sf context selected) fun issued => ?_
  refine .bind ((coordinate_settleable _ _ _ _).weaken fun _ hw => hw.elim) fun done => ?_
  split
  · rename_i err herr
    refine .gets fun w hw => ?_
    rcases hw with ⟨-, -, hserved⟩ | ⟨hnone, -⟩ | ⟨hnone, -⟩
    · exact hserved
    all_goals rw [herr] at hnone; cases hnone
  · rename_i herr
    refine .bind (Q := fun out w => out = none ∧ Served w0 w) ?_ fun out => ?_
    · intro w hw
      rcases hw with ⟨err, hsome, -⟩ | ⟨-, hdone⟩ | ⟨-, hdone⟩
      · rw [herr] at hsome
        cases hsome
      · exact (settle_completed.weaken fun _ hs => hs.elim) w hdone
      · exact (settle_executed.weaken fun _ hs => hs.elim) w hdone
    · split
      · exact .gets fun w hw => hw.2
      · refine .bind (.examine (fun _ _ hw _ => hw) fun _ hw => hw.2) fun _ => ?_
        exact .gets fun w hw => hw.2

theorem selectRunnable_runnable (h : w.selectRunnable = some selected) :
    (w.core.slots selected).lifecycle = .runnable := by
  have hfound := List.find?_some h
  exact of_decide_eq_true hfound

theorem step_served (sf : SoftFloat) (context : ReadContext) :
    Triple (Held w0) (step sf context) (fun _ => Served w0) (Served w0) := by
  refine .bind (.examine (fun _ _ hw _ => hw) fun _ hw => hw.served) fun _ => ?_
  refine .bind ((refreshFunctionalWaits_held context).weaken fun _ hw => hw.served) fun _ => ?_
  refine .bind (Q := fun found w => Held w0 w ∧ w.selectRunnable = found)
    (.gets fun _ hw => ⟨hw, rfl⟩) fun found => ?_
  split
  · exact .pure fun _ hw => hw.1.served
  · rename_i selected
    refine .bind ((stepWarp_served sf context selected).pre fun w hw => ?_) fun done =>
      Triple.pure fun _ hw => hw
    exact ⟨hw.1, selectRunnable_runnable hw.2⟩

end World

end VortexSim
