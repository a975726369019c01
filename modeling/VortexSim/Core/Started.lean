import VortexSim.Core.Kept
import VortexSim.State.SpawnTransaction

/-!
# Warps that start together

A spawn and an admission start several warps in one transaction: their owners begin to run,
their slots become runnable, and an admission also enters the new CTAs into the tables.
-/

namespace VortexSim

open Checked Stateful Act

variable {σ : Type}

/-! ## Prepared owners -/

/-- A launch prepares one running candidate for each target. -/
theorem stageWarpLaunch_targets (h : stageWarpLaunch owners targets = .ok s) :
    s.targets = targets.map fun target => {
      owner := target.owner, before := owners target.owner
      after := launchCandidate target (owners target.owner) } := by
  unfold stageWarpLaunch at h
  simp only [ok_iff] at h
  obtain ⟨-, scan, hscan, rfl⟩ := h
  refine (foldEach_collects TargetScan.candidates _ ?_ hscan).trans (List.nil_append _)
  intro i s target s' hstep
  unfold scanLaunchTarget at hstep
  simp only [ok_iff] at hstep
  obtain ⟨-, -, -, -, -, -, -, rfl⟩ := hstep
  rfl

namespace World

/-! ## Slots that change together -/

/-- A loop that rewrites the slots of some warps. -/
theorem foldl_slots {f : Slot σ → Slot σ} (hstart : ∀ w id, ∃ initialized, start w id = { w with
      core := { w.core with
        slots := Function.update w.core.slots id (f (w.core.slots id)), initialized } })
    (hf : ∀ slot, f (f slot) = f slot) (ids : List WarpID) (w : World σ) :
    ∃ initialized, ids.foldl start w = { w with
      core := { w.core with
        slots := fun id => if id ∈ ids then f (w.core.slots id) else w.core.slots id
        initialized } } := by
  induction ids generalizing w with
  | nil => exact ⟨w.core.initialized, by simp only [List.foldl_nil, List.not_mem_nil, if_false]⟩
  | cons id ids ih =>
    obtain ⟨first, hfirst⟩ := hstart w id
    rw [List.foldl_cons, hfirst]
    obtain ⟨rest, hrest⟩ := ih { w with
      core := { w.core with
        slots := Function.update w.core.slots id (f (w.core.slots id)), initialized := first } }
    refine ⟨rest, hrest.trans ?_⟩
    have hslots : (fun other => if other ∈ ids then
          f (Function.update w.core.slots id (f (w.core.slots id)) other)
        else Function.update w.core.slots id (f (w.core.slots id)) other) =
        fun other => if other ∈ id :: ids then f (w.core.slots other) else w.core.slots other := by
      funext other
      by_cases heq : other = id
      · rw [heq, Function.update_self, hf, ite_self, if_pos List.mem_cons_self]
      · rw [Function.update_of_ne heq]
        simp only [List.mem_cons, heq, false_or]
    rw [← hslots]

/-- The slot of a warp that starts. -/
def startedSlot (slot : Slot σ) : Slot σ :=
  { slot.become .runnable .none with participated := true }

/-- Warps start: their slots become runnable and their owners run. -/
theorem Inv.start {w w' : World σ} (h : w.Inv) (ids : List WarpID)
    (hinactive : ∀ id ∈ ids, (w.core.slots id).lifecycle = .inactive)
    (hslots : ∀ id, w'.core.slots id =
      if id ∈ ids then startedSlot (w.core.slots id) else w.core.slots id)
    (howners : w'.owners.WF)
    (hwarps : ∀ id, (w'.warp id).id = id.val ∧ (id ∈ ids → (w'.warp id).lifecycle = .running) ∧
      (id ∉ ids → w'.warp id = w.warp id))
    (hmanagers : ∀ manager, (w'.managers manager).Consistent)
    (hgrows : ∀ manager, w.core.ctas = some manager →
      (w.managers manager).Grows (w'.managers manager))
    (hctas : w'.core.ctas = w.core.ctas) (hbarriers : w'.core.barriers = w.core.barriers)
    (hmembers : ∀ manager, w.core.ctas = some manager → ∀ id ∈ ids,
      (w'.managers manager).hasWarp id = true) : w'.Inv := by
  refine h.change hmanagers hgrows hctas hbarriers ?_ howners (fun id => (hwarps id).1) ?_ ?_ ?_
  · intro id
    rw [hslots]
    split <;> rfl
  · intro id
    rw [hslots]
    split
    · rename_i hid
      exact ⟨⟨rfl, rfl, (hwarps id).2.1 hid⟩, fun _ => ⟨rfl, rfl, rfl⟩,
        fun hboth => Bool.false_ne_true hboth.1⟩
    · rename_i hid
      rw [(hwarps id).2.2 hid]
      exact h.slots id
  · intro id key
    rw [hslots]
    split
    · rename_i hid
      refine ⟨fun hw => absurd hw.2.2.1 Bool.false_ne_true, fun hw => ?_⟩
      have hl := hinactive id hid
      rw [hw.1] at hl
      cases hl
    · rfl
  · intro manager hm id hp
    rw [hslots] at hp
    split at hp
    · rename_i hid
      exact hmembers manager hm id hid
    · obtain ⟨slot, hslot⟩ := CTAManager.hasWarp_iff.mp ((h.attached manager hm).members id hp)
      exact CTAManager.hasWarp_iff.mpr ⟨slot, (hgrows manager hm).members slot id hslot⟩

/-- The owners of started warps run, and the other owners are as before. -/
theorem Inv.installed {w : World σ} (h : w.Inv) (ids : List WarpID)
    (candidates : List OwnerCandidate)
    (howner : candidates.map OwnerCandidate.owner =
      ids.map fun id => (w.core.slots id).executor.owner)
    (hafter : ∀ c ∈ candidates, c.after.lifecycle = .running ∧ c.after.id = (w.owners c.owner).id)
    (id : WarpID) :
    let warp := installAll w.owners candidates (w.core.slots id).executor.owner
    warp.id = id.val ∧ (id ∈ ids → warp.lifecycle = .running) ∧ (id ∉ ids → warp = w.warp id) := by
  intro warp
  have hmem : (∃ c ∈ candidates, c.owner = (w.core.slots id).executor.owner) ↔ id ∈ ids := by
    rw [← List.mem_map, howner, List.mem_map]
    exact ⟨fun ⟨other, hother, ho⟩ => h.owner_inj ho ▸ hother, fun hid => ⟨id, hid, rfl⟩⟩
  by_cases hid : id ∈ ids
  · obtain ⟨c, hc, hco, hw⟩ := installAll_of_mem w.owners (hmem.mpr hid)
    obtain ⟨hrunning, hsame⟩ := hafter c hc
    refine ⟨?_, fun _ => ?_, fun hne => absurd hid hne⟩
    · rw [show warp = c.after from hw, hsame, hco]
      exact h.ids id
    · rw [show warp = c.after from hw, hrunning]
  · have hw : warp = w.warp id :=
      installAll_of_not_mem w.owners fun c hc ho => hid (hmem.mp ⟨c, hc, ho⟩)
    exact ⟨hw ▸ h.ids id, fun hin => absurd hin hid, fun _ => hw⟩

/-! ## Admission -/

end World

namespace CTAManager

theorem Grows.trans {a : CTAManager} (hab : a.Grows b) (hbc : b.Grows c) : a.Grows c where
  isSealed := hbc.isSealed.trans hab.isSealed
  coordinator := hbc.coordinator.trans hab.coordinator
  routed := fun id h => hab.routed id (hbc.routed id h)
  members := fun slot warp h => hbc.members slot warp (hab.members slot warp h)

/-- Entering a CTA whose warps are free only adds to the tables. -/
theorem Member.install {m : CTAManager}
    (hwarps : ∀ member ∈ cta.members, m.byWarp member.warpID = none) (h : m.Member slot warp) :
    (m.install cta).Member slot warp := by
  obtain ⟨rank, hkey⟩ := h
  refine ⟨rank, ?_⟩
  rw [install_byWarp_of_not_mem, hkey]
  intro member hmember he
  rw [← he, hwarps member hmember] at hkey
  cases hkey

theorem install_grows {m : CTAManager} (hdynamic : m.dynamic = true)
    (hwarps : ∀ member ∈ cta.members, m.byWarp member.warpID = none) : m.Grows (m.install cta) where
  isSealed := rfl
  coordinator := rfl
  routed := fun _ _ => .inl hdynamic
  members := fun _ _ h => CTAManager.Member.install hwarps h

theorem installAll_grows {m : CTAManager} (hdynamic : m.dynamic = true)
    (h : Admissible candidates) (hfree : m.Free candidates) :
    m.Grows (candidates.foldl install m) := by
  induction candidates generalizing m with
  | nil => exact .refl m
  | cons cta candidates ih =>
    obtain ⟨-, hwarps⟩ := hfree cta List.mem_cons_self
    exact (install_grows hdynamic hwarps).trans (ih hdynamic h.tail (hfree.install h))

/-- An admission changes the two tables of CTAs only. -/
theorem installAll_flags (candidates : List CTAState) (m : CTAManager) :
    (candidates.foldl install m).dynamic = m.dynamic ∧
      (candidates.foldl install m).isSealed = m.isSealed ∧
      (candidates.foldl install m).barriers = m.barriers := by
  induction candidates generalizing m with
  | nil => exact ⟨rfl, rfl, rfl⟩
  | cons cta candidates ih => exact ih (m.install cta)

end CTAManager

namespace World

theorem launchTargets_owner (w : World σ) (candidates : List CTAState) :
    (w.launchTargets candidates).map WarpLaunchTarget.owner =
      (startedWarps candidates).map fun id => (w.core.slots id).executor.owner := by
  unfold launchTargets startedWarps
  rw [List.map_flatMap, List.map_flatMap]
  refine congrArg (fun f => candidates.flatMap f) ?_
  funext candidate
  rw [List.map_map, List.map_map]
  rfl

/-- Everything an admission that succeeds has checked. -/
structure Admits (w : World σ) (admitted : Admitted) : Prop where
  attached : w.core.ctas = some admitted.manager
  isDynamic : (w.managers admitted.manager).dynamic = true
  candidates : Admissible admitted.candidates
  free : (w.managers admitted.manager).Free admitted.candidates
  tables : admitted.tables =
    { admitted.candidates.foldl CTAManager.install (w.managers admitted.manager) with
      epoch := (w.managers admitted.manager).epoch + 1 }
  unused : ∀ id ∈ startedWarps admitted.candidates, slotUnused (w.core.slots id)
  launched : ∃ stage stage', stageWarpLaunch w.owners (w.launchTargets admitted.candidates) =
    .ok stage ∧ stage.commit w.owners = .ok (admitted.owners, stage')

theorem prepareAdmission_admits (h : prepareAdmission configs w = .ok admitted) :
    w.Admits admitted := by
  unfold prepareAdmission at h
  simp only [bind_eq_ok] at h
  obtain ⟨-, -, h⟩ := h
  split at h
  · cases h
  · rename_i manager hmanager
    unfold CTAManager.commitAdmission at h
    simp only [ok_iff, each_rejectIf_eq_ok, Prod.exists, Prod.mk.injEq, not_not,
      Bool.not_eq_false] at h
    obtain ⟨hdynamic, warpIDs, -, stage, hstage, launch, hlaunch, tables, owners,
      ⟨hrecheck, owners', ⟨hunused, owners'', launch', hcommit, rfl⟩, rfl, rfl⟩, rfl⟩ := h
    exact {
      attached := hmanager
      isDynamic := hdynamic
      candidates := stageDynamicAdmissions_admissible hstage
      free := recheck_free hrecheck
      tables := rfl
      unused := hunused
      launched := ⟨launch, launch', hlaunch, hcommit⟩ }

/-- What a prepared admission was staged from. -/
theorem prepareAdmission_stages (h : prepareAdmission configs w = .ok admitted) :
    w.validate = .ok () ∧ ∃ warpIDs stage, selectCluster w.core.slots configs = .ok warpIDs ∧
      (w.managers admitted.manager).stageDynamicAdmissions configs warpIDs = .ok stage ∧
      admitted.candidates = stage.candidates := by
  unfold prepareAdmission at h
  simp only [bind_eq_ok, exists_unit] at h
  obtain ⟨hvalid, h⟩ := h
  split at h
  · cases h
  · simp only [bind_eq_ok, pure_eq_ok, Prod.exists] at h
    obtain ⟨-, -, warpIDs, hselected, stage, hstage, -, -, tables, owners, -, rfl⟩ := h
    exact ⟨hvalid, warpIDs, stage, hselected, hstage, rfl⟩

/-- The slots after an admission. -/
theorem installAdmission_eq (w : World σ) (admitted : Admitted) :
    ∃ initialized, w.installAdmission admitted = {
      w.setManager admitted.manager admitted.tables with
      owners := admitted.owners
      core := { w.core with
        slots := fun id => if id ∈ startedWarps admitted.candidates then
          startedSlot (w.core.slots id) else w.core.slots id
        initialized } } := by
  refine foldl_slots (f := startedSlot) ?_ (fun _ => rfl) _ _
  exact fun w id => ⟨Function.update w.core.initialized id true, rfl⟩

theorem installAdmission_self (w : World σ) (admitted : Admitted) :
    (w.installAdmission admitted).managers admitted.manager = admitted.tables := by
  obtain ⟨_, heq⟩ := w.installAdmission_eq admitted
  rw [heq]
  exact Function.update_self _ _ _

theorem installAdmission_warp (w : World σ) (admitted : Admitted) (id : WarpID) :
    (w.installAdmission admitted).warp id = admitted.owners (w.core.slots id).executor.owner := by
  obtain ⟨_, heq⟩ := w.installAdmission_eq admitted
  unfold World.warp
  rw [heq]
  dsimp only
  split <;> rfl

section

variable {w : World σ} {admitted : Admitted}

/-- An admission leaves the flags and the barriers of its manager as they were. -/
theorem Admits.flags (ha : w.Admits admitted) :
    ((w.installAdmission admitted).managers admitted.manager).dynamic =
        (w.managers admitted.manager).dynamic ∧
      ((w.installAdmission admitted).managers admitted.manager).isSealed =
        (w.managers admitted.manager).isSealed ∧
      ((w.installAdmission admitted).managers admitted.manager).barriers =
        (w.managers admitted.manager).barriers := by
  rw [installAdmission_self, ha.tables]
  exact CTAManager.installAll_flags _ _

theorem Admits.inv (h : w.Inv) (ha : w.Admits admitted) : (w.installAdmission admitted).Inv := by
  obtain ⟨initialized, heq⟩ := w.installAdmission_eq admitted
  obtain ⟨stage, stage', hstage, hcommit⟩ := ha.launched
  have htargets := stageWarpLaunch_targets hstage
  have hwf := WarpLaunchStage.commit_wf h.owners (stageWarpLaunch_sound hstage) hcommit
  unfold WarpLaunchStage.commit at hcommit
  simp only [ok_iff, Prod.mk.injEq] at hcommit
  obtain ⟨-, -, -, howners, -⟩ := hcommit
  have hgrows := CTAManager.installAll_grows ha.isDynamic ha.candidates ha.free
  have hpoint := h.installed (startedWarps admitted.candidates) stage.targets ?_ ?_
  · rw [howners] at hpoint
    have hwarp := w.installAdmission_warp admitted
    have hmanagers : ∀ manager, (w.installAdmission admitted).managers manager =
        if manager = admitted.manager then admitted.tables else w.managers manager := by
      intro manager
      rw [heq]
      exact Function.update_apply _ _ _ _
    refine h.start (startedWarps admitted.candidates) (fun id hid => (ha.unused id hid).1)
      (fun id => by rw [heq]) (by rw [heq]; exact hwf) ?_ ?_ ?_ (by rw [heq])
      (by rw [heq]) ?_
    · intro id
      rw [hwarp id]
      exact hpoint id
    · intro manager
      rw [hmanagers]
      split
      · rw [ha.tables]
        exact (h.managers admitted.manager).installAll ha.candidates ha.free
      · exact h.managers manager
    · intro manager hm
      rw [ha.attached] at hm
      cases hm
      rw [hmanagers, if_pos rfl, ha.tables]
      exact ⟨hgrows.isSealed, hgrows.coordinator, hgrows.routed, hgrows.members⟩
    · intro manager hm id hid
      rw [ha.attached] at hm
      cases hm
      rw [hmanagers, if_pos rfl, ha.tables]
      exact (CTAManager.hasWarp_installAll _ id).mpr (.inl hid)
  · rw [htargets, List.map_map]
    exact w.launchTargets_owner admitted.candidates
  · intro c hc
    rw [htargets, List.mem_map] at hc
    obtain ⟨target, -, rfl⟩ := hc
    exact ⟨rfl, rfl⟩

end

theorem admitCTACluster_held (configs : List CTAConfig) :
    Keeps (Held w0) (admitCTACluster configs) := by
  refine Triple.bind (Q := fun admitted w => Held w0 w ∧ w.Admits admitted)
    (.examine (fun w _ hw h => ⟨hw, prepareAdmission_admits h⟩) fun _ hw => hw)
    fun admitted => ?_
  refine .bind (.update ?_) fun _ => .pure fun _ hw => hw
  rintro w ⟨hw, ha⟩
  refine hw.of_inv (ha.inv hw.inv) ?_
  intro id key hwait
  obtain ⟨initialized, heq⟩ := w.installAdmission_eq admitted
  rw [heq]
  refine if_neg fun hid => ?_
  have hl := (ha.unused id hid).1
  rw [hwait.1] at hl
  cases hl

end World

end VortexSim
