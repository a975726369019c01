import VortexSim.Core.Started

/-!
# Operations on managers

A manager that is not attached may change freely, and one that is attached only grows until a
CTA is reclaimed.  Attaching a manager binds records that are still empty.
-/

namespace VortexSim

open Checked Stateful Act

variable {σ : Type}

namespace World

variable {w0 : World σ}

/-! ## Tables -/

variable {w : World σ} {manager : ManagerID} {m : CTAManager} {cta : CTAState}

theorem Inv.setManager (h : w.Inv) (hm : m.Consistent)
    (hgrows : w.core.ctas = some manager → (w.managers manager).Grows m) :
    (w.setManager manager m).Inv := by
  have hgrow : ∀ other, w.core.ctas = some other →
      (w.managers other).Grows ((w.setManager manager m).managers other) :=
    (Function.forall_update_iff _ fun other m =>
      w.core.ctas = some other → (w.managers other).Grows m).mpr ⟨hgrows, fun _ _ _ => .refl _⟩
  refine h.change ?_ hgrow rfl rfl (fun _ => rfl) h.owners h.ids h.slots (fun _ _ => Iff.rfl) ?_
  · exact (Function.forall_update_iff _ fun _ => CTAManager.Consistent).mpr
      ⟨hm, fun other _ => h.managers other⟩
  · intro other hother id hp
    obtain ⟨slot, hslot⟩ := CTAManager.hasWarp_iff.mp ((h.attached other hother).members id hp)
    exact CTAManager.hasWarp_iff.mpr ⟨slot, (hgrow other hother).members slot id hslot⟩

theorem Held.setManager (h : Held w0 w) (hm : m.Consistent)
    (hgrows : w.core.ctas = some manager → (w.managers manager).Grows m) :
    Held w0 (w.setManager manager m) :=
  h.same_slots (h.inv.setManager hm hgrows) rfl

/-- An operation on tables keeps the invariant if an attached manager only grows by it. -/
theorem onManager_held (hconsistent : ∀ m m', m.Consistent → f m = .ok m' → m'.Consistent)
    (hgrows : ∀ m m', m.isSealed = true → m.barriers.isSome = true → f m = .ok m' → m.Grows m') :
    Keeps (Held w0) (World.onManager manager f) := by
  refine Triple.bind (Q := fun m w => Held w0 w ∧ f (w.managers manager) = .ok m)
    (.examine (fun _ _ hw h => ⟨hw, h⟩) fun _ hw => hw) fun m => ?_
  refine .update ?_
  rintro w ⟨hw, hf⟩
  refine hw.setManager (hconsistent _ _ (hw.inv.managers manager) hf) fun hm => ?_
  have hat := hw.inv.attached manager hm
  exact hgrows _ _ hat.isSealed hat.coordinator hf

theorem admitCTA_held (manager : ManagerID) (config : CTAConfig) :
    Keeps (Held w0) (World.onManager manager fun m => do
      let (m', _) ← m.admitCTA config
      pure m') := by
  refine onManager_held ?_ ?_
  · intro m m' hm h
    simp only [ok_iff, Prod.exists] at h
    obtain ⟨admitted, cta, h, rfl⟩ := h
    exact CTAManager.admitCTA_consistent hm h
  · intro m m' hsealed _ h
    simp only [bind_eq_ok, Prod.exists] at h
    obtain ⟨admitted, cta, h, -⟩ := h
    unfold CTAManager.admitCTA at h
    simp only [ok_iff] at h
    obtain ⟨candidate, -, -, hopen, -⟩ := h
    exact absurd hsealed hopen

theorem newBarrierCoordinator_held (manager : ManagerID) :
    Keeps (Held w0) (World.onManager manager CTAManager.newBarrierCoordinator) := by
  refine onManager_held ?_ ?_
  · intro m m' hm h
    unfold CTAManager.newBarrierCoordinator at h
    simp only [ok_iff] at h
    obtain ⟨-, rfl⟩ := h
    exact hm
  · intro m m' hsealed hsome h
    unfold CTAManager.newBarrierCoordinator at h
    simp only [ok_iff] at h
    obtain ⟨-, rfl⟩ := h
    obtain ⟨records, hrecords⟩ := Option.isSome_iff_exists.mp hsome
    exact ⟨hsealed.symm, by rw [hrecords]; rfl, fun _ h => h, fun _ _ h => h⟩

/-! ## Attaching -/

/-- A manager that can be attached. -/
structure Attachable (manager : ManagerID) (w : World σ) : Prop where
  detached : w.core.ctas = none
  members : ∀ id, (w.core.slots id).participated = true → (w.managers manager).hasWarp id = true
  routes : ∀ id, (w.managers manager).dynamic = true ∨ (w.managers manager).hasWarp id = true →
    validateRoute manager id (w.core.slots id).executor.data = .ok ()

theorem Attachable.not_attached (h : w.Attachable manager) : w.core.ctas ≠ some other := by
  rw [h.detached]
  exact (Option.some_ne_none other).symm

/-- Sealing and binding do not touch what makes a manager attachable. -/
theorem Attachable.setManager (h : w.Attachable manager)
    (hdynamic : m.dynamic = (w.managers manager).dynamic)
    (hbyWarp : m.byWarp = (w.managers manager).byWarp) :
    (w.setManager manager m).Attachable manager := by
  have hm : (w.setManager manager m).managers manager = m := Function.update_self _ _ _
  have hhas : ∀ id, m.hasWarp id = (w.managers manager).hasWarp id := by
    intro id
    unfold CTAManager.hasWarp
    rw [hbyWarp]
  refine ⟨h.detached, fun id hp => ?_, fun id hid => ?_⟩
  · rw [hm, hhas]
    exact h.members id hp
  · rw [hm, hhas, hdynamic] at hid
    exact h.routes id hid

theorem validateCTAMemoryRoutes_eq_ok (h : w.validateCTAMemoryRoutes manager = .ok ()) (id : WarpID)
    (hid : (w.managers manager).dynamic = true ∨ (w.managers manager).hasWarp id = true) :
    validateRoute manager id (w.core.slots id).executor.data = .ok () := by
  have hall : ∀ id ∈ List.finRange frozenWarpCount,
      (w.managers manager).dynamic = true ∨ (w.managers manager).hasWarp id = true →
        validateRoute manager id (w.core.slots id).executor.data = .ok () := by
    refine (each_eq_ok_iff ?_ 0 _).mp h
    intro _ id
    split
    · rename_i hnone
      refine ⟨fun _ hor => ?_, fun _ => rfl⟩
      rcases hor with hd | hh
      · rw [hnone.1] at hd
        cases hd
      · rw [hnone.2] at hh
        cases hh
    · rename_i hsome
      refine ⟨fun hok _ => hok, fun hok => hok ?_⟩
      by_contra hnone
      rw [not_or, Bool.not_eq_true, Bool.not_eq_true] at hnone
      exact hsome hnone
  exact hall id (List.mem_finRange id) hid

theorem mem_allBarrierKeys (key : BarrierKey) : key ∈ allBarrierKeys := by
  unfold allBarrierKeys
  rw [List.mem_flatMap]
  refine ⟨key.ctaID, List.mem_finRange _, List.mem_flatMap.mpr ⟨key.addressWarp,
    List.mem_finRange _, List.mem_map.mpr ⟨key.id, List.mem_finRange _, rfl⟩⟩⟩

/-- No warp is recorded where there are no records. -/
theorem empty_at {records : BarrierRecords} (h : records.empty = true) (key : BarrierKey) :
    records.at key = {} := by
  have hnone := List.all_eq_true.mp h key (mem_allBarrierKeys key)
  unfold BarrierRecords.at
  rw [Option.isNone_iff_eq_none.mp hnone]
  rfl

/-- An attachable manager with a bound and empty coordinator is attached. -/
theorem Attachable.attach (h : w.Inv) (ha : w.Attachable manager)
    (hsealed : (w.managers manager).isSealed = true)
    (hsome : (w.managers manager).barriers.isSome = true)
    (hempty : (w.managers manager).records.empty = true) :
    World.Inv { w with
      core := { w.core with ctas := some manager, barriers := some manager } } where
  owners := h.owners
  ids := h.ids
  managers := h.managers
  slots := h.slots
  bound := rfl
  detached := fun hnone => by cases hnone
  attached := by
    rintro _ ⟨⟩
    exact {
      isSealed := hsealed
      coordinator := hsome
      routes := ha.routes
      members := ha.members
      recorded := by
        intro warp key
        rw [empty_at hempty]
        exact ⟨fun hw => absurd hw (by simp), fun hw => absurd hw (h.detached ha.detached warp key)⟩
      bounded := by
        intro key
        rw [empty_at hempty]
        exact WarpMask.valid_zero
      waits := fun id key hw => absurd hw (h.detached ha.detached id key) }

/-- The invariant holds and nothing waits. -/
structure Quiet (w0 w : World σ) : Prop where
  held : Held w0 w
  idle : ∀ id key, ¬ (w.core.slots id).WaitsOn key

theorem observeFinished_quiet (manager : ManagerID) (id : WarpID) :
    Keeps (fun w => Quiet w0 w ∧ (w.core.ctas = none ∨ w.core.ctas = some manager))
      (observeFinished manager id) := by
  intro w hw
  have hafter : Quiet w0 (observeFinished manager id w).2 ∧
      ((observeFinished manager id w).2.core.ctas = none ∨
        (observeFinished manager id w).2.core.ctas = some manager) := by
    obtain ⟨⟨hheld, hidle⟩, hctas⟩ := hw
    unfold observeFinished
    split
    · split
      · rename_i m hm
        refine ⟨⟨hheld.setManager ?_ fun _ => ?_, hidle⟩, hctas⟩
        · exact (hheld.inv.managers manager).observeWarpFinished hm
        · obtain ⟨slot, cta, rank, -, rfl⟩ := CTAManager.observeWarpFinished_eq_ok hm
          exact ⟨rfl, rfl, fun _ h => h, fun _ _ h => h⟩
      · refine ⟨⟨hheld.same_slots ?_ rfl, hidle⟩, .inl rfl⟩
        exact { hheld.inv with
          bound := rfl
          detached := fun _ => hidle
          attached := fun _ hm => by cases hm }
    · exact ⟨⟨hheld, hidle⟩, hctas⟩
  exact ⟨fun _ _ => hafter, fun _ _ => hafter⟩

theorem setCTAManager_held (manager : ManagerID) : Keeps (Held w0) (setCTAManager manager) := by
  refine Triple.bind Keeps.examine fun _ => ?_
  refine .bind (Q := fun attached w => Held w0 w ∧ w.core.ctas = attached)
    (.gets fun _ hw => ⟨hw, rfl⟩) fun attached => ?_
  refine .ite (fun _ => ?_) fun _ => ?_
  · exact .examine (fun _ _ hs _ => hs.1) fun _ hs => hs.1
  refine .bind (Q := fun _ w => Held w0 w ∧ w.core.ctas = none)
    (.examine ?_ fun _ hs => hs.1) fun _ => ?_
  · intro w _ hs hc
    exact ⟨hs.1, hs.2.trans (not_not.mp (rejectIf_eq_ok.mp hc))⟩
  refine .bind (Q := fun _ w => (Held w0 w ∧ w.core.ctas = none) ∧ ∀ id,
      (w.core.slots id).participated = true → (w.managers manager).hasWarp id = true)
    (.examine ?_ fun _ hs => hs.1) fun _ => ?_
  · intro w _ hs hc
    refine ⟨hs, fun id hp => ?_⟩
    have hid := each_rejectIf_eq_ok.mp hc id (List.mem_finRange id)
    rw [not_and, Bool.not_eq_false] at hid
    exact hid hp
  refine .bind (Q := fun _ w => Held w0 w ∧ w.Attachable manager)
    (.examine ?_ fun _ hs => hs.1.1) fun _ => ?_
  · intro w _ hs hc
    exact ⟨hs.1.1, hs.1.2, hs.2, validateCTAMemoryRoutes_eq_ok hc⟩
  refine .bind (Q := fun m w => (Held w0 w ∧ w.Attachable manager) ∧
      (w.managers manager).sealed = .ok m)
    (.examine (fun _ _ hs hc => ⟨hs, hc⟩) fun _ hs => hs.1) fun m => ?_
  refine .bind (Q := fun _ w => Held w0 w ∧ w.Attachable manager) (.update ?_) fun _ => ?_
  · rintro w ⟨⟨hw, ha⟩, hm⟩
    unfold CTAManager.sealed at hm
    simp only [ok_iff] at hm
    obtain ⟨-, rfl⟩ := hm
    refine ⟨hw.setManager (hw.inv.managers manager) fun hsome => ?_, ha.setManager rfl rfl⟩
    exact absurd hsome ha.not_attached
  refine .bind (Q := fun m w => (Held w0 w ∧ w.Attachable manager) ∧
      (w.managers manager).newBarrierCoordinator = .ok m)
    (.examine (fun _ _ hs hc => ⟨hs, hc⟩) fun _ hs => hs.1) fun m => ?_
  refine .bind (Q := fun _ w => Held w0 w ∧ w.Attachable manager ∧
      (w.managers manager).isSealed = true ∧ (w.managers manager).barriers.isSome = true)
    (.update ?_) fun _ => ?_
  · rintro w ⟨⟨hw, ha⟩, hm⟩
    unfold CTAManager.newBarrierCoordinator at hm
    simp only [ok_iff] at hm
    obtain ⟨-, rfl⟩ := hm
    refine ⟨hw.setManager (hw.inv.managers manager) fun hsome => ?_, ha.setManager rfl rfl, ?_⟩
    · exact absurd hsome ha.not_attached
    · unfold World.setManager
      dsimp only
      rw [Function.update_self]
      exact ⟨rfl, rfl⟩
  refine .bind (check_triple.weaken fun _ hs => hs.1) fun _ => ?_
  refine .bind (Q := fun _ w => Quiet w0 w ∧
      (w.core.ctas = none ∨ w.core.ctas = some manager)) (.update ?_) fun _ => ?_
  · rintro w ⟨⟨hw, ha, hsealed, hsome⟩, hempty⟩
    rw [Bool.not_eq_false] at hempty
    exact ⟨⟨hw.same_slots (ha.attach hw.inv hsealed hsome hempty) rfl,
      hw.inv.detached ha.detached⟩, .inr rfl⟩
  refine .bind ((Keeps.forEach (observeFinished_quiet manager) _).weaken
    fun _ hs => hs.1.held) fun _ => ?_
  exact .examine (fun _ _ hs _ => hs.1.held) fun _ hs => hs.1.held

/-! ## Reclaim -/

/-- A complete CTA of the attached manager. -/
structure Reclaims (w : World σ) (manager : ManagerID) (slot : CTASlot) (cta : CTAState) :
    Prop where
  attached : w.core.ctas = some manager
  isDynamic : (w.managers manager).dynamic = true
  resident : (w.managers manager).ctas slot = some cta
  finished : ∀ member ∈ cta.members, (w.core.slots member.warpID).lifecycle = .finished

/-- The warps of a complete CTA have finished, and no barrier of it is pending. -/
theorem ctaCompletion_complete (hattached : w.core.ctas = some manager)
    (hsnapshot : (w.managers manager).snapshot ctaID = .ok cta)
    (h : w.ctaCompletion ctaID = .ok completion) (hcomplete : completion.complete = true) :
    w.validate = .ok () ∧
      (∀ member ∈ cta.members, (w.core.slots member.warpID).lifecycle = .finished) ∧
      (w.managers manager).records.pendingCTA (Fin.ofNat frozenWarpCount ctaID) = false := by
  unfold ctaCompletion at h
  rw [hattached] at h
  unfold completionOf at h
  simp only [ok_iff, hsnapshot] at h
  obtain ⟨hvalid, _, ⟨⟩, rfl⟩ := h
  simp only [Bool.and_eq_true, List.all_eq_true, decide_eq_true_eq, Bool.not_eq_true'] at hcomplete
  exact ⟨hvalid, fun member hmember => (hcomplete.1.1.2 member hmember).2, hcomplete.2⟩

theorem reclaimable_reclaims (h : reclaimable ctaID w = .ok (manager, cta)) :
    ∃ slot : CTASlot, slot.val = ctaID ∧ w.Reclaims manager slot cta := by
  unfold reclaimable at h
  simp only [bind_eq_ok] at h
  obtain ⟨-, -, h⟩ := h
  split at h
  · cases h
  · rename_i other hother
    simp only [ok_iff, Prod.mk.injEq, Bool.not_eq_false] at h
    obtain ⟨hdynamic, snapshot, hsnapshot, completion, hcompletion, hcomplete, rfl, rfl⟩ := h
    obtain ⟨slot, hslot, hcta⟩ := CTAManager.snapshot_eq_ok.mp hsnapshot
    obtain ⟨-, hfinished, -⟩ := ctaCompletion_complete hother hsnapshot hcompletion hcomplete
    exact ⟨slot, hslot, hother, hdynamic, hcta, hfinished⟩

/-- The slot of a warp whose CTA is gone. -/
def freedSlot (slot : Slot σ) : Slot σ :=
  { slot.become .inactive .none with participated := false }

/-- The world after the reclaim of a CTA. -/
def reclaimed (w : World σ) (manager : ManagerID) (slot : CTASlot) (cta : CTAState) : World σ :=
  ((cta.members.map WarpMembership.warpID).foldl freeSlot w).setManager manager
    ((w.managers manager).remove slot cta)

theorem reclaimed_eq (w : World σ) (manager : ManagerID) (slot : CTASlot) (cta : CTAState) :
    ∃ initialized, w.reclaimed manager slot cta = {
      w.setManager manager ((w.managers manager).remove slot cta) with
      core := { w.core with
        slots := fun id => if id ∈ cta.members.map WarpMembership.warpID then
          freedSlot (w.core.slots id) else w.core.slots id
        initialized } } := by
  obtain ⟨initialized, heq⟩ := foldl_slots (f := freedSlot)
    (fun w id => ⟨w.core.initialized, (rfl : w.freeSlot id = _)⟩) (fun _ => rfl)
    (cta.members.map WarpMembership.warpID) w
  unfold reclaimed
  rw [heq]
  exact ⟨initialized, rfl⟩

theorem reclaimed_self (w : World σ) (manager : ManagerID) (slot : CTASlot) (cta : CTAState) :
    (w.reclaimed manager slot cta).managers manager = (w.managers manager).remove slot cta :=
  Function.update_self _ _ _

section

variable {w : World σ} {manager : ManagerID} {slot : CTASlot} {cta : CTAState}

/-- Freed slots do not wait, and no other slot waits for the CTA. -/
theorem Reclaims.waits (h : w.Inv) (hr : w.Reclaims manager slot cta) {id : WarpID}
    (hw : (w.core.slots id).WaitsOn key) :
    id ∉ cta.members.map WarpMembership.warpID ∧ key.ctaID ≠ slot := by
  have hnot : id ∉ cta.members.map WarpMembership.warpID := by
    intro hid
    obtain ⟨member, hmember, rfl⟩ := List.mem_map.mp hid
    have hl := hr.finished member hmember
    rw [hw.1] at hl
    cases hl
  refine ⟨hnot, ?_⟩
  rintro rfl
  obtain ⟨hself, -⟩ := (h.attached manager hr.attached).waits id key hw
  obtain ⟨c, hc, member, hmember, hwarp⟩ := (h.managers manager).member_iff.mp hself
  rw [hr.resident] at hc
  cases hc
  exact hnot (List.mem_map.mpr ⟨member, hmember, hwarp⟩)

theorem Reclaims.inv (h : w.Inv) (hr : w.Reclaims manager slot cta) {w' : World σ}
    (howners : w'.owners = w.owners)
    (hctas : w'.core.ctas = w.core.ctas) (hbarriers : w'.core.barriers = w.core.barriers)
    (hmanagers : w'.managers =
      Function.update w.managers manager ((w.managers manager).remove slot cta))
    (hslots : ∀ id, w'.core.slots id = if id ∈ cta.members.map WarpMembership.warpID then
      freedSlot (w.core.slots id) else w.core.slots id) : w'.Inv := by
  have hm := h.managers manager
  have hat := h.attached manager hr.attached
  have hexecutor : ∀ id, (w'.core.slots id).executor = (w.core.slots id).executor := by
    intro id
    rw [hslots]
    split <;> rfl
  have hwarp : ∀ id, w'.warp id = w.warp id := by
    intro id
    unfold World.warp
    rw [howners, hexecutor]
  have hwaits : ∀ id key, (w'.core.slots id).WaitsOn key ↔ (w.core.slots id).WaitsOn key := by
    intro id key
    rw [hslots]
    split
    · rename_i hid
      refine ⟨fun hw => absurd hw.2.2.1 Bool.false_ne_true, fun hw => ?_⟩
      exact absurd hid (hr.waits h hw).1
    · rfl
  have hself : w'.managers manager = (w.managers manager).remove slot cta := by
    rw [hmanagers, Function.update_self]
  refine ⟨howners ▸ h.owners, fun id => (hwarp id).symm ▸ h.ids id, ?_, ?_, ?_, ?_, ?_⟩
  · rw [hmanagers]
    exact (Function.forall_update_iff _ fun _ => CTAManager.Consistent).mpr
      ⟨hm.remove hr.resident, fun other _ => h.managers other⟩
  · intro id
    rw [hwarp, hslots]
    split
    · rename_i hid
      obtain ⟨member, hmember, rfl⟩ := List.mem_map.mp hid
      have hfits := (h.slots member.warpID).fits
      unfold Slot.Fits at hfits
      rw [hr.finished member hmember] at hfits
      exact ⟨⟨rfl, rfl, hfits.2.2⟩, fun _ => ⟨rfl, rfl, rfl⟩,
        fun hboth => Bool.false_ne_true hboth.1⟩
    · exact h.slots id
  · rw [hbarriers, hctas, h.bound]
  · intro hnone
    rw [hctas, hr.attached] at hnone
    cases hnone
  · intro other hother
    rw [hctas, hr.attached] at hother
    cases hother
    refine ⟨?_, ?_, ?_, ?_, ?_, ?_, ?_⟩
    · rw [hself]
      exact hat.isSealed
    · rw [hself]
      unfold CTAManager.remove
      rw [Option.isSome_map]
      exact hat.coordinator
    · intro id _
      rw [hexecutor]
      exact hat.routes id (.inl hr.isDynamic)
    · -- a warp that still takes part belongs to another CTA
      intro id hp
      rw [hslots] at hp
      split at hp
      · cases hp
      · rename_i hid
        obtain ⟨other, hother⟩ := CTAManager.hasWarp_iff.mp (hat.members id hp)
        rw [hself]
        refine CTAManager.hasWarp_iff.mpr ⟨other, (CTAManager.remove_member hm hr.resident).mpr
          ⟨?_, hother⟩⟩
        rintro rfl
        obtain ⟨c, hc, member, hmember, hwarp⟩ := hm.member_iff.mp hother
        rw [hr.resident] at hc
        cases hc
        exact hid (List.mem_map.mpr ⟨member, hmember, hwarp⟩)
    · intro id key
      rw [hself, records_remove, hwaits]
      split
      · rename_i hkey
        refine ⟨fun hw => absurd hw (by simp), fun hw => ?_⟩
        exact absurd hkey (hr.waits h hw).2
      · exact hat.recorded id key
    · intro key
      rw [hself, records_remove]
      split
      · exact WarpMask.valid_zero
      · exact hat.bounded key
    · intro id key hw
      have hold := (hwaits id key).mp hw
      obtain ⟨hown, haddress⟩ := hat.waits id key hold
      have hne := (hr.waits h hold).2
      rw [hself]
      exact ⟨(CTAManager.remove_member hm hr.resident).mpr ⟨hne, hown⟩,
        (CTAManager.remove_member hm hr.resident).mpr ⟨hne, haddress⟩⟩

end

theorem commitDynamicReclaim_iff (hcta : m.ctas slot = some cta) :
    m.commitDynamicReclaim slot.val = .ok out ↔
      (m.dynamic = true ∧ m.isSealed = true ∧ m.barriers.isNone = false) ∧
        m.records.pendingCTA slot = false ∧
        (∀ member ∈ cta.members,
          m.byWarp member.warpID = some { ctaID := slot, rank := member.rank }) ∧
        (m.remove slot cta, cta.members) = out := by
  have hsnapshot := CTAManager.snapshot_resident hcta
  unfold CTAManager.commitDynamicReclaim
  simp only [ok_iff, hsnapshot, Fin.ofNat_val_eq_self, Except.ok.injEq, exists_eq_left', not_or,
    not_exists, not_and, not_not, ne_eq, Bool.not_eq_true, Bool.not_eq_false]

/-- What a reclaim does: it removes one complete CTA, and its warps were bound to it. -/
structure Vacates (w : World σ) (manager : ManagerID) (slot : CTASlot) (cta : CTAState)
    (w' : World σ) : Prop where
  reclaims : w.Reclaims manager slot cta
  owned : ∀ member ∈ cta.members,
    (w.managers manager).byWarp member.warpID = some { ctaID := slot, rank := member.rank }
  after : ∃ memory, w' = ({ w with memory }).reclaimed manager slot cta

/-- A reclaim removes a CTA or changes nothing; the owner of pending work may change itself. -/
theorem reclaimCTA_leads (w0 : World σ) (ctaID : Nat) : Leads (fun w => w = w0) (reclaimCTA ctaID)
      (fun cta w => ∃ manager slot, slot.val = ctaID ∧ w0.Vacates manager slot cta w)
      (fun _ w => ∃ memory, w = { w0 with memory }) := by
  refine .bind (Q := fun found w => w = w0 ∧
      ∃ slot : CTASlot, slot.val = ctaID ∧ w0.Reclaims found.1 slot found.2)
    (.examine ?_ ?_) ?_
  · rintro w ⟨manager, cta⟩ rfl hfound
    exact ⟨rfl, reclaimable_reclaims hfound⟩
  · rintro w err rfl -
    exact ⟨w.memory, rfl⟩
  rintro ⟨manager, cta⟩
  -- asking for pending work changes nothing but the owner that is asked
  refine .bind (Q := fun _ w => (∃ memory, w = { w0 with memory }) ∧
      ∃ slot : CTASlot, slot.val = ctaID ∧ w0.Reclaims manager slot cta)
    ((Keeps.forEach (fun id => ?_) _).leads.consequence ?_ (fun _ _ hw => hw)
      fun _ _ hw => hw.1) fun _ => ?_
  · refine .bind (pendingPriorWork_keeps ?_ id _ _) fun _ => .examine
    rintro w memory ⟨⟨memory', rfl⟩, hfound⟩
    exact ⟨⟨memory, rfl⟩, hfound⟩
  · rintro w ⟨rfl, hfound⟩
    exact ⟨⟨w.memory, rfl⟩, hfound⟩
  refine .bind (Q := fun out w => ∃ memory slot, slot.val = ctaID ∧
      w = { w0 with memory } ∧ w0.Reclaims manager slot cta ∧
      (∀ member ∈ cta.members, (w0.managers manager).byWarp member.warpID =
        some { ctaID := slot, rank := member.rank }) ∧
      out = ((w0.managers manager).remove slot cta, cta.members))
    (.examine ?_ fun _ _ hw _ => hw.1) ?_
  · rintro w out ⟨⟨memory, rfl⟩, slot, rfl, hr⟩ hout
    obtain ⟨-, -, howned, rfl⟩ := (commitDynamicReclaim_iff hr.resident).mp hout
    exact ⟨memory, slot, rfl, rfl, hr, howned, rfl⟩
  rintro ⟨tables, members⟩
  refine .bind (Q := fun _ w => ∃ slot, slot.val = ctaID ∧
      w0.Vacates manager slot cta (w.setManager manager tables)) (.update ?_) fun _ => ?_
  · rintro w ⟨memory, slot, hslot, rfl, hr, howned, hout⟩
    cases hout
    exact ⟨slot, hslot, hr, howned, memory, rfl⟩
  refine .bind (Q := fun _ w => ∃ slot, slot.val = ctaID ∧ w0.Vacates manager slot cta w)
    (.update fun _ hw => hw) fun _ => ?_
  exact .pure fun _ hw => ⟨manager, hw⟩

theorem Reclaims.held (hw : Held w0 w) (hr : w.Reclaims manager slot cta) :
    Held w0 (w.reclaimed manager slot cta) := by
  obtain ⟨initialized, heq⟩ := w.reclaimed_eq manager slot cta
  rw [heq]
  refine hw.of_inv (hr.inv hw.inv rfl rfl rfl rfl fun _ => rfl) fun id key hwait => ?_
  exact if_neg (hr.waits hw.inv hwait).1

theorem reclaimCTA_held (ctaID : Nat) : Keeps (Held w0) (reclaimCTA (σ := σ) ctaID) := by
  refine .of_after fun w hw => ?_
  have hmemory := hw.setCore w.core.next w.core.pendingWork w.localMemories
  rcases hrun : reclaimCTA ctaID w with ⟨err | cta, w'⟩
  · obtain ⟨memory, rfl⟩ := (reclaimCTA_leads w ctaID).of_error rfl hrun
    exact hmemory memory
  · obtain ⟨manager, slot, -, hr, -, memory, rfl⟩ := (reclaimCTA_leads w ctaID).of_ok rfl hrun
    exact Reclaims.held (hmemory memory) ⟨hr.attached, hr.isDynamic, hr.resident, hr.finished⟩

end World

end VortexSim
