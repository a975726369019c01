import VortexSim.Core.Driven

/-!
# Completion and idle steps

The completion of a CTA depends on its members, their slots and its own barrier records, so the
reclaim of another CTA does not change it.  A step that finds no warp to run leaves the core as
it was.
-/

namespace VortexSim

open Checked Stateful Act

variable {σ : Type}

/-! ## Completion -/

theorem CTAManager.remove_pendingCTA (m : CTAManager) (cta : CTAState) (hne : other ≠ slot) :
    (m.remove slot cta).records.pendingCTA other = m.records.pendingCTA other := by
  refine congrArg (List.any allBarrierKeys) ?_
  funext key
  unfold CTAManager.records CTAManager.remove
  by_cases hkey : key.ctaID = other
  · cases m.barriers with
    | none => rfl
    | some records =>
      dsimp only [Option.map_some, Option.getD_some]
      rw [if_neg (fun heq => hne (hkey.symm.trans heq))]
  · rw [decide_eq_false hkey, Bool.false_and, Bool.false_and]

namespace World

section

variable {w : World σ} {manager : ManagerID}

/-- The completion of a resident CTA. -/
def completionAt (w : World σ) (manager : ManagerID) (slot : CTASlot) :
    Except Error CTACompletionSnapshot :=
  completionOf (w.managers manager) w.core.slots slot.val

theorem completionAt_ok (h : (w.managers manager).ctas slot = some cta) :
    ∃ completion, w.completionAt manager slot = .ok completion ∧ completion.ctaID = slot.val := by
  unfold completionAt completionOf
  rw [CTAManager.snapshot_resident h]
  exact ⟨_, rfl, rfl⟩

theorem completionAt_resident (h : w.completionAt manager slot = .ok completion) :
    (∃ cta, (w.managers manager).ctas slot = some cta) ∧ completion.ctaID = slot.val := by
  unfold completionAt completionOf at h
  simp only [ok_iff] at h
  obtain ⟨cta, hcta, rfl⟩ := h
  obtain ⟨other, hother, hfound⟩ := CTAManager.snapshot_eq_ok.mp hcta
  obtain rfl := Fin.ext hother
  exact ⟨⟨cta, hfound⟩, rfl⟩

/-- The completions of the core are those of its residents. -/
theorem Driven.completions (h : w.Driven manager) :
    ∃ completions, w.ctaCompletions = .ok completions ∧ ∀ completion, completion ∈ completions ↔
      ∃ slot, w.completionAt manager slot = .ok completion := by
  have hone : ∀ slot : CTASlot, w.ctaCompletion slot.val = w.completionAt manager slot := by
    intro slot
    unfold ctaCompletion
    rw [h.inv.validate, h.attached]
    rfl
  have hloop : ∀ (slots : List CTASlot) (i : Nat) (found : List CTACompletionSnapshot),
      (∀ slot ∈ slots, ∃ cta, (w.managers manager).ctas slot = some cta) →
      ∃ completions, foldEach (fun _ completions (id : CTASlot) => do
          let completion ← w.ctaCompletion id.val
          pure (completions ++ [completion])) i found slots = .ok completions ∧
        ∀ completion, completion ∈ completions ↔ completion ∈ found ∨
          ∃ slot ∈ slots, w.completionAt manager slot = .ok completion := by
    intro slots
    induction slots with
    | nil =>
      intro i found _
      exact ⟨found, rfl, fun completion => ⟨.inl, fun hor => hor.resolve_right (by simp)⟩⟩
    | cons slot slots ih =>
      intro i found hresident
      obtain ⟨cta, hcta⟩ := hresident slot List.mem_cons_self
      obtain ⟨first, hfirst, -⟩ := completionAt_ok hcta
      obtain ⟨completions, hrun, hmem⟩ := ih (i + 1) (found ++ [first])
        fun other hother => hresident other (List.mem_cons_of_mem slot hother)
      refine ⟨completions, ?_, fun completion => ?_⟩
      · rw [foldEach, hone, hfirst]
        exact hrun
      · rw [hmem, List.mem_append, List.mem_singleton, or_assoc]
        refine or_congr_right ⟨?_, ?_⟩
        · rintro (rfl | ⟨other, hother, hc⟩)
          · exact ⟨slot, List.mem_cons_self, hfirst⟩
          · exact ⟨other, List.mem_cons_of_mem slot hother, hc⟩
        · rintro ⟨other, hother, hc⟩
          rcases List.mem_cons.mp hother with rfl | hother
          · rw [hfirst] at hc
            cases hc
            exact .inl rfl
          · exact .inr ⟨other, hother, hc⟩
  have hresident : ∀ slot, slot ∈ (w.managers manager).residentIDs ↔
      ∃ cta, (w.managers manager).ctas slot = some cta := by
    intro slot
    unfold CTAManager.residentIDs
    rw [List.mem_filter, Option.isSome_iff_exists]
    exact ⟨fun hs => hs.2, fun hs => ⟨List.mem_finRange slot, hs⟩⟩
  obtain ⟨completions, hrun, hmem⟩ := hloop (w.managers manager).residentIDs 0 []
    fun slot hslot => (hresident slot).mp hslot
  refine ⟨completions, ?_, fun completion => ?_⟩
  · unfold ctaCompletions
    rw [h.inv.validate, h.attached]
    exact hrun
  · rw [hmem]
    refine ⟨?_, ?_⟩
    · rintro (hnil | ⟨slot, -, hc⟩)
      · cases hnil
      · exact ⟨slot, hc⟩
    · rintro ⟨slot, hc⟩
      exact .inr ⟨slot, (hresident slot).mpr (completionAt_resident hc).1, hc⟩

/-- A reclaim leaves the completion of the other CTAs alone. -/
theorem Driven.completion_reclaimed (h : w.Driven manager) (hr : w.Reclaims manager slot cta)
    (hne : other ≠ slot) :
    (w.reclaimed manager slot cta).completionAt manager other = w.completionAt manager other := by
  obtain ⟨-, -, htables⟩ := h.reclaimed hr
  obtain ⟨_, heq⟩ := w.reclaimed_eq manager slot cta
  have hslots : ∀ id, id ∉ cta.members.map WarpMembership.warpID →
      (w.reclaimed manager slot cta).core.slots id = w.core.slots id := by
    intro id hid
    rw [heq]
    exact if_neg hid
  have hctas : ((w.managers manager).remove slot cta).ctas other =
      (w.managers manager).ctas other := Function.update_of_ne hne _ _
  cases hother : (w.managers manager).ctas other with
  | none =>
    have hnone : ∀ m : CTAManager, m.ctas other = none →
        m.snapshot other.val = .error (.text s!"core: CTA {other.val} is not resident") := by
      intro m hm
      unfold CTAManager.snapshot
      rw [dif_pos other.isLt, hm]
    unfold completionAt completionOf
    rw [htables, hnone _ (hctas.trans hother), hnone _ hother]
    rfl
  | some found =>
    -- the two CTAs have no member in common
    have hmembers : ∀ member ∈ found.members, (w.reclaimed manager slot cta).core.slots
        member.warpID = w.core.slots member.warpID := by
      intro member hmember
      refine hslots _ fun hin => hne ?_
      obtain ⟨mine, hmine, hwarp⟩ := List.mem_map.mp hin
      have hm := h.inv.managers manager
      obtain ⟨_, hkey⟩ := hm.member_iff.mpr ⟨found, hother, member, hmember, rfl⟩
      obtain ⟨_, hkey'⟩ := hm.member_iff.mpr ⟨cta, hr.resident, mine, hmine, hwarp⟩
      rw [hkey] at hkey'
      exact congrArg WarpCTAKey.ctaID (Option.some_inj.mp hkey')
    have hblocked : ((found.members.map WarpMembership.warpID).filter fun id =>
        decide (((w.reclaimed manager slot cta).core.slots id).lifecycle = .blocked)) =
        (found.members.map WarpMembership.warpID).filter fun id =>
          decide ((w.core.slots id).lifecycle = .blocked) := by
      refine List.filter_congr fun id hid => ?_
      obtain ⟨member, hmember, rfl⟩ := List.mem_map.mp hid
      rw [hmembers member hmember]
    have hfinished : (found.members.all fun member => member.finished && decide
        (((w.reclaimed manager slot cta).core.slots member.warpID).lifecycle = .finished)) =
        found.members.all fun member => member.finished && decide
          ((w.core.slots member.warpID).lifecycle = .finished) := by
      rw [Bool.eq_iff_iff, List.all_eq_true, List.all_eq_true]
      refine forall₂_congr fun member hmember => ?_
      rw [hmembers member hmember]
    unfold completionAt completionOf
    rw [htables, CTAManager.snapshot_resident (hctas.trans hother),
      CTAManager.snapshot_resident hother, Fin.ofNat_val_eq_self,
      CTAManager.remove_pendingCTA _ cta hne]
    dsimp only [bind, Except.bind]
    rw [hblocked, hfinished]
    refine congrArg Except.ok ?_
    refine congrArg (CTACompletionSnapshot.mk _ _ _ _) (List.map_congr_left ?_)
    intro member hmember
    rw [hmembers member hmember]

end

/-! ## Idle steps -/

theorem selectRunnable_none {w : World σ} (h : w.selectRunnable = none) (id : WarpID) :
    (w.core.slots id).lifecycle ≠ .runnable := by
  unfold selectRunnable at h
  rw [List.find?_eq_none] at h
  have hmem : id ∈ (List.finRange frozenWarpCount).map fun offset => w.core.next + offset := by
    refine List.mem_map.mpr ⟨id - w.core.next, List.mem_finRange _, ?_⟩
    rw [add_comm]
    exact sub_add_cancel id w.core.next
  simpa using h id hmem

/-- Nothing has happened yet, or some slot can run. -/
def Woken (w0 w : World σ) : Prop :=
  w = w0 ∨ ∃ id, (w.core.slots id).lifecycle = .runnable

theorem Woken.wake {w : World σ} (id : WarpID) : Woken w0 (w.moveSlot id .runnable .none) := by
  refine .inr ⟨id, ?_⟩
  change (Function.update w.core.slots id _ id).lifecycle = _
  rw [Function.update_self]
  rfl

theorem refreshSlot_woken (context : ReadContext) (active : WarpMask) (id : WarpID) :
    Keeps (fun w => Woken w0 w ∧ w.core.pendingWork = none) (refreshSlot context active id) := by
  refine refreshSlot_keeps (fun w hw => ⟨Woken.wake id, hw.2⟩) fun otherwise context => ?_
  refine .of_after fun w hw => ?_
  unfold pendingPriorWork
  rw [hw.2]
  exact hw

/-- A step that selects no warp leaves the core as it was. -/
theorem step_idle {w : World σ} (halone : w.core.pendingWork = none)
    (h : step sf context w = (.ok none, w')) : w' = w := by
  obtain ⟨_, w1, hvalidate, h⟩ := bind_ok h
  obtain rfl : w = w1 := congrArg Prod.snd hvalidate
  obtain ⟨_, w2, hrefresh, h⟩ := bind_ok h
  have hkeeps : Keeps (fun w2 => Woken w w2 ∧ w2.core.pendingWork = none)
      (refreshFunctionalWaits context) := by
    refine .bind Keeps.gets fun active => ?_
    exact .bind (.forEach (refreshSlot_woken context active) _) fun _ => .examine
  have hwoken := hkeeps.after ⟨.inl rfl, halone⟩
  rw [hrefresh] at hwoken
  obtain ⟨found, w3, hselect, h⟩ := bind_ok h
  cases hselect
  cases hfound : w2.selectRunnable with
  | none =>
    rw [hfound] at h
    cases h
    rcases hwoken.1 with heq | ⟨id, hid⟩
    · exact heq
    · exact absurd hid (selectRunnable_none hfound id)
  | some selected =>
    rw [hfound] at h
    obtain ⟨done, w4, -, h⟩ := bind_ok h
    cases h

end World

end VortexSim
