import VortexSim.Core.Waiters
import VortexSim.Warp.Atomic

/-!
# The invariant of a core

`World.Inv` ties the four owners together: every slot fits the canonical state of its warp,
the tables of every manager agree, and where a manager is attached its members take part,
its routes lead to it, and its barrier records name exactly the slots that wait.

`validate` follows from it, so no operation refuses a world that another one has left.
-/

namespace VortexSim

open Checked Stateful

variable {σ : Type}

/-! ## Slots -/

/-- The lifecycle of a slot fits the canonical state of its warp. -/
def Slot.Fits (slot : Slot σ) (warp : WarpState) : Prop :=
  match slot.lifecycle with
  | .inactive => slot.participated = false ∧ slot.blockReason = .none ∧ warp.lifecycle = .inactive
  | .runnable => slot.participated = true ∧ slot.blockReason = .none ∧ warp.lifecycle = .running
  | .blocked =>
    slot.participated = true ∧ slot.blockReason.valid = true ∧ warp.lifecycle = .running
  | .finished => slot.participated = true ∧ slot.blockReason = .none ∧ warp.lifecycle = .inactive

/-- A slot whose scheduler fields fit together and fit its warp. -/
structure Slot.Ok (slot : Slot σ) (warp : WarpState) : Prop where
  fits : slot.Fits warp
  metadata : slot.blockReason ≠ .barrier →
    slot.barrierWait = false ∧ slot.barrierDrain = false ∧ slot.barrierKey = {}
  exclusive : ¬ (slot.barrierWait = true ∧ slot.barrierDrain = true)

section

variable {slot : Slot σ} {warp : WarpState}

theorem Slot.Fits.validate (h : slot.Fits warp) (hw : warp.WF) (id : WarpID) :
    validateLifecycleOf id slot warp = .ok () := by
  have hrunning := hw.running_iff
  have hinactive : warp.lifecycle = .inactive → warp.activeMask = 0#8 := by
    intro hl
    by_contra hne
    rw [hrunning.mpr hne] at hl
    cases hl
  unfold Slot.Fits at h
  unfold validateLifecycleOf
  cases hl : slot.lifecycle with
  | inactive | finished =>
    rw [hl] at h
    exact rejectIf_of_not (by simp [h.1, h.2.1, h.2.2, hinactive h.2.2])
  | runnable | blocked =>
    rw [hl] at h
    exact rejectIf_of_not (by simp [h.1, h.2.1, h.2.2, hrunning.mp h.2.2])

/-- A slot that is marked as waiting waits on its key. -/
theorem Slot.Ok.waits (h : slot.Ok warp) (hw : slot.barrierWait = true) :
    slot.WaitsOn slot.barrierKey := by
  have hreason : slot.blockReason = .barrier := by
    by_contra hne
    rw [(h.metadata hne).1] at hw
    cases hw
  refine ⟨?_, hreason, hw, rfl⟩
  have hfits := h.fits
  unfold Slot.Fits at hfits
  rw [hreason] at hfits
  cases hl : slot.lifecycle with
  | blocked => rfl
  | inactive | runnable | finished =>
    rw [hl] at hfits
    cases hfits.2.1

/-- Only a blocked slot waits. -/
theorem Slot.not_waits (h : slot.lifecycle ≠ .blocked) (key : BarrierKey) : ¬ slot.WaitsOn key :=
  fun hw => h hw.1

theorem Slot.become_ok {lifecycle : SlotLifecycle} (h : (slot.become lifecycle reason).Fits warp) :
    (slot.become lifecycle reason).Ok warp :=
  ⟨h, fun _ => ⟨rfl, rfl, rfl⟩, fun hboth => Bool.false_ne_true hboth.1⟩

/-- A slot of a running warp that takes part can be blocked for any reason. -/
theorem Slot.blocked_ok (hp : slot.participated = true) (hr : reason.valid = true)
    (hl : warp.lifecycle = .running) : (slot.become .blocked reason).Ok warp :=
  Slot.become_ok ⟨hp, hr, hl⟩

theorem Slot.runnable_ok (hp : slot.participated = true) (hl : warp.lifecycle = .running) :
    (slot.become .runnable .none).Ok warp :=
  Slot.become_ok ⟨hp, rfl, hl⟩

/-- A runnable slot takes part, and its warp runs. -/
theorem Slot.Ok.runnable (h : slot.Ok warp) (hl : slot.lifecycle = .runnable) :
    slot.participated = true ∧ slot.blockReason = .none ∧ warp.lifecycle = .running := by
  have hfits := h.fits
  unfold Slot.Fits at hfits
  rwa [hl] at hfits

theorem Slot.Ok.blocked (h : slot.Ok warp) (hl : slot.lifecycle = .blocked) :
    slot.participated = true ∧ slot.blockReason.valid = true ∧ warp.lifecycle = .running := by
  have hfits := h.fits
  unfold Slot.Fits at hfits
  rwa [hl] at hfits

end

/-! ## The invariant -/

/-- The attached manager and the scheduler agree. -/
structure World.Attached (w : World σ) (manager : ManagerID) : Prop where
  isSealed : (w.managers manager).isSealed = true
  coordinator : (w.managers manager).barriers.isSome = true
  routes : ∀ id, (w.managers manager).dynamic = true ∨ (w.managers manager).hasWarp id = true →
    validateRoute manager id (w.core.slots id).executor.data = .ok ()
  members : ∀ id, (w.core.slots id).participated = true → (w.managers manager).hasWarp id = true
  recorded : Recorded (w.managers manager).records w.core.slots
  bounded : ∀ key, ((w.managers manager).records.at key).waiters.Valid
  waits : ∀ id key, (w.core.slots id).WaitsOn key → (w.managers manager).Member key.ctaID id ∧
      (w.managers manager).Member key.ctaID key.addressWarp

/-- The invariant of a core. -/
structure World.Inv (w : World σ) : Prop where
  owners : w.owners.WF
  ids : ∀ id, (w.warp id).id = id.val
  managers : ∀ manager, (w.managers manager).Consistent
  slots : ∀ id, (w.core.slots id).Ok (w.warp id)
  bound : w.core.barriers = w.core.ctas
  detached : w.core.ctas = none → ∀ id key, ¬ (w.core.slots id).WaitsOn key
  attached : ∀ manager, w.core.ctas = some manager → w.Attached manager

section

variable {w : World σ}

theorem World.Inv.wf (h : w.Inv) (id : WarpID) : (w.warp id).WF := h.owners _

theorem World.Inv.validateWait (h : w.Inv) (id : WarpID) : w.validateWait id = .ok () := by
  unfold World.validateWait
  dsimp only
  split
  · rename_i hwait
    have hwaits := (h.slots id).waits hwait
    rcases hctas : w.core.ctas with _ | manager
    · exact absurd hwaits (h.detached hctas id _)
    · have hat := h.attached manager hctas
      obtain ⟨-, haddress⟩ := hat.waits id _ hwaits
      have hkey : (w.managers manager).validateKey (w.core.slots id).barrierKey.raw =
          .ok (w.core.slots id).barrierKey :=
        (CTAManager.validateKey_eq_ok (h.managers manager)).mpr ⟨rfl, haddress⟩
      rw [h.bound, hctas]
      dsimp only
      unfold CTAManager.barrierSnapshot
      rw [hkey]
      exact rejectIf_of_not (by simp [(hat.recorded id _).mpr hwaits])
  · rfl

theorem World.Inv.validateSlot (h : w.Inv) (id : WarpID) : w.validateSlot id = .ok () := by
  unfold World.validateSlot
  simp only [ok_iff]
  refine ⟨not_not.mpr (h.ids id), ?_, ?_, (h.slots id).exclusive, h.validateWait id,
    (h.slots id).fits.validate (h.wf id) id⟩
  · rintro ⟨manager, hmanager, hp, hnone⟩
    rw [(h.attached manager hmanager).members id hp] at hnone
    cases hnone
  · rintro ⟨hreason, hbad⟩
    obtain ⟨hwait, hdrain, hkey⟩ := (h.slots id).metadata hreason
    rw [hwait, hdrain, hkey] at hbad
    simp at hbad

theorem World.Inv.validateRoutes (h : w.Attached manager) :
    w.validateCTAMemoryRoutes manager = .ok () := by
  refine each_eq_ok ?_ 0
  intro _ id _
  split
  · rfl
  · rename_i hroute
    refine h.routes id ?_
    rcases hd : (w.managers manager).dynamic with _ | _
    · refine .inr ?_
      by_contra hnone
      exact hroute ⟨hd, Bool.eq_false_iff.mpr hnone⟩
    · exact .inl rfl

theorem World.validateSlot_of_validate (h : w.validate = .ok u) (id : WarpID) :
    w.validateSlot id = .ok () := by
  obtain ⟨_, hslots, -⟩ := bind_eq_ok.mp h
  have hall : ∀ id ∈ List.finRange frozenWarpCount, w.validateSlot id = .ok () := by
    refine (each_eq_ok_iff ?_ 0 _).mp hslots
    exact fun _ _ => Iff.rfl
  exact hall id (List.mem_finRange id)

/-- `validate` holds. -/
theorem World.Inv.validate (h : w.Inv) : w.validate = .ok () := by
  unfold World.validate
  rw [bind_eq_ok]
  refine ⟨(), each_eq_ok (fun _ id _ => h.validateSlot id) 0, ?_⟩
  rcases hctas : w.core.ctas with _ | manager
  · exact rejectIf_of_not (by simp [h.bound, hctas])
  · rw [bind_eq_ok]
    refine ⟨(), World.Inv.validateRoutes (h.attached manager hctas), ?_⟩
    exact rejectIf_of_not (by simp [h.bound, hctas])

/-! ## Changes -/

/-- Two slots with one owner are one. -/
theorem World.Inv.owner_inj (h : w.Inv)
    (ho : (w.core.slots i).executor.owner = (w.core.slots j).executor.owner) : i = j := by
  apply Fin.ext
  rw [← h.ids i, ← h.ids j]
  unfold World.warp
  rw [ho]

theorem World.Inv.setWarp_warp (h : w.Inv) (i j : WarpID) (warp : WarpState) :
    (w.setWarp i warp).warp j = if j = i then warp else w.warp j := by
  unfold World.warp World.setWarp
  refine (Function.update_apply _ _ _ _).trans (if_congr ?_ rfl rfl)
  exact ⟨h.owner_inj, fun hij => by rw [hij]⟩

/-- A manager that lost nothing: its members stay and its coordinator is the same. -/
structure CTAManager.Grows (m m' : CTAManager) : Prop where
  isSealed : m'.isSealed = m.isSealed
  coordinator : m'.barriers = m.barriers
  routed : ∀ id, m'.dynamic = true ∨ m'.hasWarp id = true → m.dynamic = true ∨ m.hasWarp id = true
  members : ∀ slot warp, m.Member slot warp → m'.Member slot warp

theorem CTAManager.Grows.refl (m : CTAManager) : m.Grows m :=
  ⟨rfl, rfl, fun _ h => h, fun _ _ h => h⟩

theorem CTAManager.Grows.records {m : CTAManager} (h : m.Grows m') : m'.records = m.records := by
  unfold CTAManager.records
  rw [h.coordinator]

/-- A change that leaves the waiting slots alone. -/
theorem World.Inv.change {w' : World σ} (h : w.Inv)
    (hmanagers : ∀ manager, (w'.managers manager).Consistent)
    (hgrows : ∀ manager, w.core.ctas = some manager →
      (w.managers manager).Grows (w'.managers manager))
    (hctas : w'.core.ctas = w.core.ctas) (hbarriers : w'.core.barriers = w.core.barriers)
    (hexecutor : ∀ id, (w'.core.slots id).executor = (w.core.slots id).executor)
    (howners : w'.owners.WF) (hids : ∀ id, (w'.warp id).id = id.val)
    (hslots : ∀ id, (w'.core.slots id).Ok (w'.warp id))
    (hwaits : ∀ id key, (w'.core.slots id).WaitsOn key ↔ (w.core.slots id).WaitsOn key)
    (hmembers : ∀ manager, w.core.ctas = some manager → ∀ id,
      (w'.core.slots id).participated = true → (w'.managers manager).hasWarp id = true) :
    w'.Inv where
  owners := howners
  ids := hids
  managers := hmanagers
  slots := hslots
  bound := by rw [hbarriers, hctas, h.bound]
  detached := fun hnone id key hw => h.detached (hctas ▸ hnone) id key ((hwaits id key).mp hw)
  attached := by
    intro manager hm
    rw [hctas] at hm
    have hat := h.attached manager hm
    have hgrow := hgrows manager hm
    exact {
      isSealed := hgrow.isSealed.trans hat.isSealed
      coordinator := by
        rw [hgrow.coordinator]
        exact hat.coordinator
      routes := fun id hid => by
        rw [hexecutor]
        exact hat.routes id (hgrow.routed id hid)
      members := hmembers manager hm
      recorded := by
        rw [hgrow.records]
        exact fun warp key => (hat.recorded warp key).trans (hwaits warp key).symm
      bounded := by
        rw [hgrow.records]
        exact hat.bounded
      waits := fun id key hw => by
        obtain ⟨hself, haddress⟩ := hat.waits id key ((hwaits id key).mp hw)
        exact ⟨hgrow.members _ _ hself, hgrow.members _ _ haddress⟩ }

/-- The slot and the canonical state of one warp change, and it does not wait before or after. -/
theorem World.Inv.moveWarp {w' : World σ} (h : w.Inv) (id : WarpID) {warp : WarpState}
    (hmanagers : w'.managers = w.managers) (hctas : w'.core.ctas = w.core.ctas)
    (hbarriers : w'.core.barriers = w.core.barriers)
    (hslots : w'.core.slots = Function.update w.core.slots id slot)
    (howners : w'.owners = (w.setWarp id warp).owners)
    (hexecutor : slot.executor = (w.core.slots id).executor) (hwf : warp.WF)
    (hid : warp.id = id.val) (hok : slot.Ok warp) (hbefore : ∀ key, ¬ (w.core.slots id).WaitsOn key)
    (hafter : ∀ key, ¬ slot.WaitsOn key)
    (hmember : slot.participated = true → (w.core.slots id).participated = true) : w'.Inv := by
  have hslot : ∀ other, other ≠ id → w'.core.slots other = w.core.slots other := by
    intro other hne
    rw [hslots, Function.update_of_ne hne]
  have hself : w'.core.slots id = slot := by rw [hslots, Function.update_self]
  have hexec : ∀ other, (w'.core.slots other).executor = (w.core.slots other).executor := by
    intro other
    by_cases hne : other = id
    · rw [hne, hself, hexecutor]
    · rw [hslot other hne]
  have hwarp : ∀ other, w'.warp other = if other = id then warp else w.warp other := by
    intro other
    rw [← h.setWarp_warp id other warp]
    unfold World.warp
    rw [howners, hexec]
    rfl
  refine h.change (hmanagers ▸ h.managers) (fun manager _ => ?_)
    hctas hbarriers hexec ?_ ?_ ?_ ?_ ?_
  · rw [hmanagers]
    exact .refl _
  · rw [howners]
    exact w.owners.update_wf h.owners hwf
  · intro other
    rw [hwarp]
    split
    · rename_i heq
      rw [hid, heq]
    · exact h.ids other
  · intro other
    rw [hwarp]
    split
    · rename_i heq
      rw [heq, hself]
      exact hok
    · rename_i hne
      rw [hslot other hne]
      exact h.slots other
  · intro other key
    by_cases hne : other = id
    · rw [hne, hself]
      exact ⟨fun hw => absurd hw (hafter key), fun hw => absurd hw (hbefore key)⟩
    · rw [hslot other hne]
  · intro manager hm other hp
    rw [hmanagers]
    by_cases hne : other = id
    · rw [hne, hself] at hp
      rw [hne]
      exact (h.attached manager hm).members id (hmember hp)
    · rw [hslot other hne] at hp
      exact (h.attached manager hm).members other hp

end

end VortexSim
