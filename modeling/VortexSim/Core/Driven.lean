import VortexSim.Core.Frame
import VortexSim.Core.Reachable

/-!
# A core with a dynamic manager

What the operations of a kernel do to a core that is attached to a dynamic manager and asks no
one for pending work: an admission enters its candidates at free slots or changes nothing, a
reclaim removes one complete CTA or changes nothing, and a step leaves the residents alone.
-/

namespace VortexSim

open Checked Stateful Act

variable {σ : Type}

theorem CTAState.Ranked.slot_inj {a b : CTAState} (ha : a.Ranked) (hb : b.Ranked)
    (h : a.slot = b.slot) : a.config.id = b.config.id := by
  rw [word_of_slot ha.named, word_of_slot hb.named]
  exact congrArg (fun slot : CTASlot => BitVec.ofNat 32 slot.val) h

theorem Admissible.slots_nodup (h : Admissible candidates) :
    (candidates.map CTAState.slot).Nodup := by
  have hinj : ∀ a ∈ candidates, ∀ b ∈ candidates, a.slot = b.slot → a.config.id = b.config.id :=
    fun a ha b hb => (h.ranked a ha).slot_inj (h.ranked b hb)
  have hslots := h.slots
  unfold List.Nodup at hslots ⊢
  rw [List.pairwise_map] at hslots ⊢
  exact hslots.imp_of_mem fun ha hb hne heq => hne (hinj _ ha _ hb heq)

namespace CTAManager

theorem installAll_ctas (candidates : List CTAState) (m : CTAManager) :
    (candidates.foldl install m).ctas =
      candidates.foldl (fun table (cta : CTAState) => Function.update table cta.slot (some cta))
        m.ctas := by
  induction candidates generalizing m with
  | nil => rfl
  | cons cta candidates ih =>
    rw [List.foldl_cons, List.foldl_cons, ih]
    rfl

/-- The residents after an admission. -/
theorem installAll_none (candidates : List CTAState) (m : CTAManager) (slot : CTASlot) :
    (candidates.foldl install m).ctas slot = none ↔
      slot ∉ candidates.map CTAState.slot ∧ m.ctas slot = none := by
  rw [installAll_ctas]
  by_cases hmem : ∃ cta ∈ candidates, cta.slot = slot
  · obtain ⟨cta, -, -, heq⟩ := Lists.foldl_update_of_mem CTAState.slot some m.ctas hmem
    rw [heq]
    refine ⟨fun h => absurd h.symm (Option.some_ne_none cta).symm, fun h => ?_⟩
    exact absurd (List.mem_map.mpr hmem) h.1
  · rw [Lists.foldl_update_of_not_mem CTAState.slot some m.ctas
      fun cta hcta he => hmem ⟨cta, hcta, he⟩, List.mem_map]
    exact ⟨fun h => ⟨hmem, h⟩, fun h => h.2⟩

theorem remove_none (m : CTAManager) (slot other : CTASlot) (cta : CTAState) :
    (m.remove slot cta).ctas other = none ↔ other = slot ∨ m.ctas other = none := by
  change Function.update m.ctas slot none other = none ↔ _
  rw [Function.update_apply]
  split
  · rename_i heq
    exact ⟨fun _ => .inl heq, fun _ => rfl⟩
  · rename_i hne
    exact ⟨.inr, fun h => h.resolve_left hne⟩

/-- Every candidate comes from one of the configurations. -/
theorem stageDynamicAdmissions_length {m : CTAManager}
    (h : m.stageDynamicAdmissions configs warpIDs = .ok stage) :
    stage.candidates.length = configs.length := by
  unfold stageDynamicAdmissions at h
  simp only [ok_iff, not_or, not_not, ne_eq, Nat.not_lt] at h
  obtain ⟨⟨-, hlength⟩, -, hroom, scan, hscan, rfl⟩ := h
  have hcount := foldEach_counts
    (fun i (scan : CTAManager.AdmissionScan) => scan.candidates.length = i) ?_ hscan rfl
  · rw [hcount, Nat.zero_add, List.length_zip, List.length_map, List.length_zip, ← hlength,
      Nat.min_self, Nat.min_eq_left hroom]
  · intro i scan entry scan' hstep hi
    unfold stageCandidate at hstep
    simp only [ok_iff] at hstep
    obtain ⟨candidate, -, staged, -, place, -, rfl⟩ := hstep
    rw [List.length_append, List.length_singleton, hi]

end CTAManager

namespace World

/-- The core is attached to a dynamic manager and asks no one for pending work. -/
structure Driven (w : World σ) (manager : ManagerID) : Prop where
  inv : w.Inv
  attached : w.core.ctas = some manager
  isDynamic : (w.managers manager).dynamic = true
  alone : w.core.pendingWork = none

section

variable {w : World σ} {manager : ManagerID}

theorem Driven.steady (h : w.Driven manager) (hinv : w'.Inv) (hs : Steady who w w') :
    w'.Driven manager :=
  ⟨hinv, hs.ctas.trans h.attached, (hs.managers manager).isDynamic.trans h.isDynamic,
    hs.pendingWork.trans h.alone⟩

theorem Driven.step (h : w.Driven manager) (sf : SoftFloat) (context : ReadContext) :
    (World.step sf context w).2.Driven manager ∧
      ∃ who, Steady who w (World.step sf context w).2 := by
  obtain ⟨id, hsteady⟩ := (step_steady sf context).after (.refl _ w)
  have hserved : Served w (World.step sf context w).2 :=
    (step_served sf context).after h.inv.held
  exact ⟨h.steady hserved.inv hsteady, _, hsteady⟩

theorem Driven.completeBarrierEvent (h : w.Driven manager) (key : RawBarrierKey) :
    (World.completeBarrierEvent key w).2.Driven manager ∧
      ∃ who, Steady who w (World.completeBarrierEvent key w).2 := by
  have hsteady := (completeBarrierEvent_steady key).after (.refl (fun _ => False) w)
  have hserved : Served w (World.completeBarrierEvent key w).2 :=
    (completeBarrierEvent_served key).after h.inv.held
  exact ⟨h.steady hserved.inv hsteady, _, hsteady⟩

/-! ## Admission -/

theorem admitCTACluster_refused (h : prepareAdmission configs w = .error err) :
    admitCTACluster configs w = (.error err, w) :=
  bind_of_error (examine_of h)

theorem admitCTACluster_done (h : prepareAdmission configs w = .ok admitted) :
    admitCTACluster configs w = (.ok admitted.candidates, w.installAdmission admitted) :=
  bind_of_ok (examine_of h)

theorem prepareAdmission_length {configs : List CTAConfig}
    (h : prepareAdmission configs w = .ok admitted) :
    admitted.candidates.length = configs.length := by
  obtain ⟨-, _, stage, -, hstage, hsame⟩ := prepareAdmission_stages h
  rw [hsame]
  exact CTAManager.stageDynamicAdmissions_length hstage

/-- An admission that succeeds enters its candidates at distinct free slots. -/
theorem Driven.admitted (h : w.Driven manager) {admitted : Admitted} (ha : w.Admits admitted) :
    (w.installAdmission admitted).Driven manager ∧ (admitted.candidates.map CTAState.slot).Nodup ∧
      (∀ cta ∈ admitted.candidates, (w.managers manager).ctas cta.slot = none) ∧
      ∀ slot, ((w.installAdmission admitted).managers manager).ctas slot = none ↔
        slot ∉ admitted.candidates.map CTAState.slot ∧ (w.managers manager).ctas slot = none := by
  obtain rfl : admitted.manager = manager :=
    Option.some_inj.mp (ha.attached.symm.trans h.attached)
  obtain ⟨_, heq⟩ := w.installAdmission_eq admitted
  refine ⟨⟨ha.inv h.inv, ?_, ha.flags.1.trans h.isDynamic, ?_⟩, ha.candidates.slots_nodup, ?_, ?_⟩
  · rw [heq]
    exact h.attached
  · rw [heq]
    exact h.alone
  · exact fun cta hcta => (ha.free cta hcta).1
  · intro slot
    rw [installAdmission_self, ha.tables]
    exact CTAManager.installAll_none _ _ slot

/-! ## Reclaim -/

/-- A warp without pending work. -/
def Settled (w : World σ) (id : WarpID) : Prop :=
  ∀ provider ∈ w.core.pendingWork, provider id w.memory = (.ok false, w.memory)

theorem pendingPriorWork_settled {id : WarpID} (h : w.Settled id) (context : String) :
    pendingPriorWork id false context w = (.ok false, w) := by
  unfold pendingPriorWork
  split
  · rfl
  · rename_i provider hprovider
    rw [h provider hprovider]
    rfl

/-- Where no member has pending work, the reclaim of a complete CTA is that of its manager. -/
theorem reclaimCTA_settled (hfound : reclaimable slot.val w = .ok (other, cta))
    (hr : w.Reclaims other slot cta)
    (hsettled : ∀ id ∈ cta.members.map WarpMembership.warpID, w.Settled id) :
    (∀ err, (w.managers other).commitDynamicReclaim slot.val = .error err →
      reclaimCTA slot.val w = (.error err, w)) ∧
    ∀ out, (w.managers other).commitDynamicReclaim slot.val = .ok out →
      reclaimCTA slot.val w = (.ok cta, w.reclaimed other slot cta) := by
  have hidle : ∀ id ∈ cta.members.map WarpMembership.warpID, (do
      let pending ← pendingPriorWork id false s!"core: pending-work view for reclaim warp {id.val}"
      Act.examine fun _ => rejectIf (pending = true)
        (.text s!"core: CTA {slot.val} warp {id.val} retains pending functional work") :
      Act (World σ) Error Unit) w = (.ok (), w) := by
    intro id hid
    rw [bind_of_ok (pendingPriorWork_settled (hsettled id hid) _)]
    rfl
  unfold reclaimCTA
  rw [bind_of_ok (examine_of hfound)]
  dsimp only
  rw [bind_of_ok (forEach_of_idle hidle)]
  refine ⟨fun err hcommit => ?_, fun out hcommit => ?_⟩
  · exact bind_of_error (examine_of
      (f := fun w : World σ => (w.managers other).commitDynamicReclaim slot.val) hcommit)
  · obtain ⟨-, -, -, hout⟩ := (commitDynamicReclaim_iff hr.resident).mp hcommit
    cases hout
    exact bind_of_ok (examine_of
      (f := fun w : World σ => (w.managers other).commitDynamicReclaim slot.val) hcommit)

/-- Where no one is asked, a reclaim removes one CTA or changes nothing. -/
theorem reclaimCTA_run (halone : w.core.pendingWork = none) (ctaID : Nat) :
    (∃ err, reclaimCTA ctaID w = (.error err, w)) ∨
      ∃ other slot cta, slot.val = ctaID ∧ w.Reclaims other slot cta ∧
        reclaimCTA ctaID w = (.ok cta, w.reclaimed other slot cta) := by
  cases hexamine : reclaimable ctaID w with
  | error err => exact .inl ⟨err, bind_of_error (examine_of hexamine)⟩
  | ok found =>
    obtain ⟨other, cta⟩ := found
    obtain ⟨slot, rfl, hr⟩ := reclaimable_reclaims hexamine
    have hsettled : ∀ id ∈ cta.members.map WarpMembership.warpID, w.Settled id := by
      intro id _ provider hprovider
      rw [halone] at hprovider
      cases hprovider
    obtain ⟨herror, hok⟩ := reclaimCTA_settled hexamine hr hsettled
    cases hcommit : (w.managers other).commitDynamicReclaim slot.val with
    | error err => exact .inl ⟨err, herror err hcommit⟩
    | ok out => exact .inr ⟨other, slot, cta, rfl, hr, hok out hcommit⟩

theorem Driven.reclaimed (h : w.Driven manager) (hr : w.Reclaims other slot cta) :
    other = manager ∧ (w.reclaimed manager slot cta).Driven manager ∧
      (w.reclaimed manager slot cta).managers manager = (w.managers manager).remove slot cta := by
  obtain rfl : other = manager := Option.some_inj.mp (hr.attached.symm.trans h.attached)
  obtain ⟨_, heq⟩ := w.reclaimed_eq other slot cta
  refine ⟨rfl, ⟨(hr.held h.inv.held).inv, ?_, ?_, ?_⟩, w.reclaimed_self other slot cta⟩
  · rw [heq]
    exact h.attached
  · rw [reclaimed_self]
    exact h.isDynamic
  · rw [heq]
    exact h.alone

end

end World

end VortexSim
