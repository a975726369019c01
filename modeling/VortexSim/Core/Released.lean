import VortexSim.Core.Attached

/-!
# Barrier commits

A committed stage changes one record and moves the slots as its result says.  The records and
the waiting slots change together, so they stay equal, and a warp that was waiting before still
waits or is runnable again.
-/

namespace VortexSim

open Checked Stateful Act

variable {σ : Type}

namespace World

variable {w : World σ}

/-- The commit of a stage: the record, the released slots and the source. -/
structure Commits (w w' : World σ) (manager : ManagerID) (stage : BarrierStage)
    (source : Option WarpID) : Prop where
  ctas : w'.core.ctas = w.core.ctas
  barriers : w'.core.barriers = w.core.barriers
  managers : w'.managers = Function.update w.managers manager ((w.managers manager).withRecords
    (Function.update (w.managers manager).records stage.key (some stage.after)))
  owners : w'.owners.WF
  ids : ∀ id, (w'.warp id).id = id.val
  others : ∀ id, some id ≠ source → w'.warp id = w.warp id ∧
    w'.core.slots id = releasedSlot source stage.result.releases id (w.core.slots id)
  source : ∀ id, source = some id → (w'.core.slots id).executor = (w.core.slots id).executor ∧
    (w'.core.slots id).participated = (w.core.slots id).participated ∧
    (w'.core.slots id).Ok (w'.warp id) ∧
    ∀ key, (w'.core.slots id).WaitsOn key ↔ stage.result.block = true ∧ key = stage.key

/-- What a stage of the coordinator promises about its source. -/
structure Staged (w : World σ) (manager : ManagerID) (stage : BarrierStage)
    (source : Option WarpID) : Prop where
  attached : w.core.ctas = some manager
  moves : stage.Moves (w.managers manager).records (sourceMask source)
  member : ∀ id, source = some id → (w.managers manager).Member stage.key.ctaID id ∧
    (w.managers manager).Member stage.key.ctaID stage.key.addressWarp
  runs : ∀ id, source = some id → (w.core.slots id).lifecycle = .runnable

section

variable {w' : World σ} {manager : ManagerID} {stage : BarrierStage} {source : Option WarpID}

theorem Staged.not_waits (hs : w.Staged manager stage source) (id : WarpID)
    (hid : source = some id) (key : BarrierKey) : ¬ (w.core.slots id).WaitsOn key := by
  refine Slot.not_waits ?_ key
  rw [hs.runs id hid]
  exact SlotLifecycle.noConfusion

/-- No release of a staged request is refused. -/
theorem Staged.releases (h : w.Inv) (hs : w.Staged manager stage source) :
    w.validateBarrierReleases source stage.result = .ok () := by
  have hat := h.attached manager hs.attached
  exact hs.moves.releases_accepted hat.recorded hat.bounded

/-- A released slot was waiting on the barrier. -/
theorem Staged.released (h : w.Inv) (hs : w.Staged manager stage source) {id : WarpID}
    (hr : stage.result.releases.active id.val = true) (hid : some id ≠ source) :
    (w.core.slots id).WaitsOn stage.key :=
  ((h.attached manager hs.attached).recorded id stage.key).mp (hs.moves.move.released hr hid)

theorem Commits.executor (hc : Commits w w' manager stage source) (id : WarpID) :
    (w'.core.slots id).executor = (w.core.slots id).executor := by
  by_cases hid : some id = source
  · exact (hc.source id hid.symm).1
  · rw [(hc.others id hid).2]
    unfold releasedSlot
    split <;> rfl

theorem Commits.participated (hc : Commits w w' manager stage source) (id : WarpID) :
    (w'.core.slots id).participated = (w.core.slots id).participated := by
  by_cases hid : some id = source
  · exact (hc.source id hid.symm).2.1
  · rw [(hc.others id hid).2]
    unfold releasedSlot
    split <;> rfl

/-- Who waits after the commit waited before it or is the source. -/
theorem Commits.waits (hc : Commits w w' manager stage source) {id : WarpID}
    (hw : (w'.core.slots id).WaitsOn key) :
    (w.core.slots id).WaitsOn key ∨ (source = some id ∧ key = stage.key) := by
  by_cases hid : some id = source
  · exact .inr ⟨hid.symm, (((hc.source id hid.symm).2.2.2 key).mp hw).2⟩
  · rw [(hc.others id hid).2] at hw
    unfold releasedSlot at hw
    split at hw
    · exact absurd hw (Slot.become_waits _ _ _ _)
    · exact .inl hw

theorem Commits.attached (h : w.Inv) (hs : w.Staged manager stage source)
    (hc : Commits w w' manager stage source) : w'.Attached manager := by
  have hat := h.attached manager hs.attached
  have hself : w'.managers manager = (w.managers manager).withRecords
      (Function.update (w.managers manager).records stage.key (some stage.after)) := by
    rw [hc.managers, Function.update_self]
  refine ⟨?_, ?_, ?_, ?_, ?_, ?_, ?_⟩
  · rw [hself]
    exact hat.isSealed
  · rw [hself]
    rfl
  · intro id hid
    rw [hc.executor]
    rw [hself] at hid
    exact hat.routes id hid
  · intro id hp
    rw [hc.participated] at hp
    rw [hself]
    exact hat.members id hp
  · rw [hself]
    exact hat.recorded.commit hs.moves hs.not_waits (fun id hid => (hc.others id hid).2)
      fun id hid => (hc.source id hid).2.2.2
  · intro key
    rw [hself]
    change (BarrierRecords.at (Function.update _ _ _) key).waiters.Valid
    rw [BarrierRecords.at_update]
    split
    · exact (hs.moves.move.valid (hat.bounded _)).2
    · exact hat.bounded key
  · intro id key hw
    rw [hself]
    rcases hc.waits hw with hold | ⟨hid, rfl⟩
    · exact hat.waits id key hold
    · exact hs.member id hid

theorem Commits.inv (h : w.Inv) (hs : w.Staged manager stage source)
    (hc : Commits w w' manager stage source) : w'.Inv where
  owners := hc.owners
  ids := hc.ids
  managers := by
    rw [hc.managers]
    exact (Function.forall_update_iff _ fun _ => CTAManager.Consistent).mpr
      ⟨h.managers manager, fun other _ => h.managers other⟩
  slots := by
    intro id
    by_cases hid : some id = source
    · exact (hc.source id hid.symm).2.2.1
    · obtain ⟨hwarp, hslot⟩ := hc.others id hid
      rw [hwarp, hslot]
      unfold releasedSlot
      split
      · rename_i hr
        obtain ⟨hp, -, hrunning⟩ := (h.slots id).blocked (hs.released h hr.1 hid).1
        exact Slot.runnable_ok hp hrunning
      · exact h.slots id
  bound := by rw [hc.barriers, hc.ctas, h.bound]
  detached := fun hnone => by
    rw [hc.ctas, hs.attached] at hnone
    cases hnone
  attached := by
    intro other hother
    rw [hc.ctas, hs.attached] at hother
    cases hother
    exact hc.attached h hs

/-- A warp that waited waits on or was released. -/
theorem Commits.served (h : Held w0 w) (hs : w.Staged manager stage source)
    (hc : Commits w w' manager stage source) : Served w0 w' := by
  refine ⟨hc.inv h.inv hs, fun id key hw => ?_⟩
  have hnow := h.waiting id key hw
  have hid : some id ≠ source := fun hid => hs.not_waits id hid.symm key hnow
  rw [(hc.others id hid).2]
  unfold releasedSlot
  split
  · exact .inr rfl
  · exact .inl hnow

end

/-! ## Events -/

theorem commit_eq_ok {stage : BarrierStage} (h : stage.commit records = .ok (records', stage')) :
    records' = Function.update records stage.key (some stage.after) := by
  unfold BarrierStage.commit at h
  simp only [ok_iff, Prod.mk.injEq] at h
  exact h.2.2.1.symm

theorem stageEventCompletion_staged (h : w.Inv) (hm : w.core.barriers = some manager)
    (hstage : (w.managers manager).stageEventCompletion raw = .ok stage) :
    w.Staged manager stage none where
  attached := h.bound ▸ hm
  moves := CTAManager.stageEventCompletion_moves hstage
  member := fun _ hid => by cases hid
  runs := fun _ hid => by cases hid

theorem applyBarrierReleases_warp (source : Option WarpID) (result : BarrierResult) (w : World σ)
    (id : WarpID) : (applyBarrierReleases source result w).warp id = w.warp id := by
  unfold World.warp applyBarrierReleases releasedSlot
  dsimp only
  split <;> rfl

theorem completeBarrierEvent_served (key : RawBarrierKey) :
    Triple (Held w0) (completeBarrierEvent key) (fun _ => Served w0) (Served w0) := by
  refine .bind (Q := fun out w => Held w0 w ∧ ∃ manager stage,
      w.Staged manager stage none ∧ out = (manager, stage.result,
        Function.update (w.managers manager).records stage.key (some stage.after)))
    (.examine ?_ fun _ hw => hw.served) ?_
  · rintro w out hw h
    simp only [bind_eq_ok] at h
    obtain ⟨-, -, h⟩ := h
    split at h
    · cases h
    · rename_i manager hmanager
      simp only [bind_eq_ok, pure_eq_ok, Prod.exists] at h
      obtain ⟨stage, hstage, -, -, records, stage', hcommit, rfl⟩ := h
      exact ⟨hw, manager, stage, stageEventCompletion_staged hw.inv hmanager hstage, by
        rw [commit_eq_ok hcommit]⟩
  rintro ⟨manager, result, records⟩
  refine .bind (Q := fun _ w => Served w0 (applyBarrierReleases none result w))
    (.update ?_) fun _ => .update fun _ hw => hw
  rintro w ⟨hw, manager, stage, hs, he⟩
  cases he
  refine Commits.served hw hs {
    ctas := rfl, barriers := rfl, managers := rfl, owners := hw.inv.owners, ids := ?_
    others := ?_, source := fun _ hid => by cases hid }
  · exact fun id => (applyBarrierReleases_warp _ _ _ id).symm ▸ hw.inv.ids id
  · exact fun id _ => ⟨applyBarrierReleases_warp _ _ _ id, rfl⟩

end World

end VortexSim
