import VortexSim.Core.Invariant

/-!
# What the operations keep

An operation starts in a world `w0`.  While it runs it holds the invariant and everything that
waited in `w0` still waits (`Held`); where it ends, a warp that waited in `w0` still waits on
its barrier or can run again (`Served`).
-/

namespace VortexSim

open Checked Stateful Act

variable {σ : Type}

namespace World

/-- The invariant holds, and what waited at first still waits. -/
structure Held (w0 w : World σ) : Prop where
  inv : w.Inv
  waiting : ∀ id key, (w0.core.slots id).WaitsOn key → (w.core.slots id).WaitsOn key

/-- The invariant holds, and what waited at first still waits or can run again. -/
structure Served (w0 w : World σ) : Prop where
  inv : w.Inv
  waiting : ∀ id key, (w0.core.slots id).WaitsOn key →
    (w.core.slots id).WaitsOn key ∨ (w.core.slots id).lifecycle = .runnable

section

variable {w0 w : World σ}

theorem Inv.held (h : w.Inv) : Held w w := ⟨h, fun _ _ hw => hw⟩

theorem Held.served (h : Held w0 w) : Served w0 w :=
  ⟨h.inv, fun id key hw => .inl (h.waiting id key hw)⟩

/-- The slots of the warps that waited are as before. -/
theorem Held.of_inv (h : Held w0 w) (hinv : w'.Inv)
    (hslots : ∀ id key, (w.core.slots id).WaitsOn key → w'.core.slots id = w.core.slots id) :
    Held w0 w' := by
  refine ⟨hinv, fun id key hw => ?_⟩
  have hnow := h.waiting id key hw
  rw [hslots id key hnow]
  exact hnow

/-- A change that touches no slot. -/
theorem Held.same_slots (h : Held w0 w) (hinv : w'.Inv) (hslots : w'.core.slots = w.core.slots) :
    Held w0 w' :=
  h.of_inv hinv fun id _ _ => by rw [hslots]

/-- A slot that does not wait is moved on. -/
theorem Held.setSlot (h : Held w0 w) {id : WarpID}
    (hexecutor : slot.executor = (w.core.slots id).executor) (hok : slot.Ok (w.warp id))
    (hbefore : ∀ key, ¬ (w.core.slots id).WaitsOn key) (hafter : ∀ key, ¬ slot.WaitsOn key)
    (hmember : slot.participated = true → (w.core.slots id).participated = true) :
    Held w0 (w.setSlot id slot) := by
  have hinv : (w.setSlot id slot).Inv := by
    refine h.inv.moveWarp id rfl rfl rfl rfl ?_ hexecutor (h.inv.wf id) (h.inv.ids id) hok hbefore
      hafter hmember
    exact (Function.update_eq_self _ _).symm
  refine h.of_inv hinv fun other key hw => Function.update_of_ne ?_ _ _
  rintro rfl
  exact hbefore key hw

theorem Held.moveSlot (h : Held w0 w) {id : WarpID}
    (hfits : ((w.core.slots id).become lifecycle reason).Fits (w.warp id))
    (hbefore : ∀ key, ¬ (w.core.slots id).WaitsOn key) : Held w0 (w.moveSlot id lifecycle reason) :=
  h.setSlot rfl (Slot.become_ok hfits) hbefore (Slot.become_waits _ _ _) (fun hp => hp)

/-- A runnable slot can be blocked. -/
theorem Held.blockSlot (h : Held w0 w) {id : WarpID} (hr : reason.valid = true)
    (hl : (w.core.slots id).lifecycle = .runnable) : Held w0 (w.moveSlot id .blocked reason) := by
  obtain ⟨hp, -, hrunning⟩ := (h.inv.slots id).runnable hl
  refine h.moveSlot ⟨hp, hr, hrunning⟩ (Slot.not_waits ?_)
  rw [hl]
  exact SlotLifecycle.noConfusion

/-- A blocked slot that does not wait can run again. -/
theorem Held.resumeSlot (h : Held w0 w) {id : WarpID} (hl : (w.core.slots id).lifecycle = .blocked)
    (hbefore : ∀ key, ¬ (w.core.slots id).WaitsOn key) :
    Held w0 (w.moveSlot id .runnable .none) := by
  obtain ⟨hp, -, hrunning⟩ := (h.inv.slots id).blocked hl
  exact h.moveSlot ⟨hp, rfl, hrunning⟩ hbefore

/-- What the operations read besides slots and owners may change. -/
theorem Held.setCore (h : Held w0 w) (next : WarpID) (provider : Option (PendingWorkProvider σ))
    (localMemories : LocalMemories) (memory : σ) :
    Held w0 { w with
      core := { w.core with next, pendingWork := provider }
      localMemories, memory } := by
  refine h.same_slots ?_ rfl
  exact h.inv.change h.inv.managers (fun _ _ => .refl _) rfl rfl (fun _ => rfl)
    h.inv.owners h.inv.ids h.inv.slots
    (fun _ _ => Iff.rfl) fun manager hm => (h.inv.attached manager hm).members

end

/-! ## Blocking and resuming -/

variable {w0 : World σ}

/-- A check keeps what held before it and adds its own answer. -/
theorem check_triple {c : S → Prop} [∀ s, Decidable (c s)] {err : S → ε} :
    Triple P (Act.examine fun s => rejectIf (c s) (err s)) (fun _ s => P s ∧ ¬ c s) P :=
  Triple.examine (fun _ _ hs hc => ⟨hs, rejectIf_eq_ok.mp hc⟩) fun _ hs => hs

theorem gets_keeps {f : S → α} : Triple P (Act.gets f : Act S ε α) (fun _ => P) E :=
  Triple.gets fun _ hs => hs

theorem block_held (warpID : Nat) (reason : BlockReason) :
    Keeps (Held w0) (block warpID reason) := by
  refine Triple.bind (check_triple (P := Held w0)) fun _ => ?_
  refine .bind (Q := fun _ w => Held w0 w ∧ reason.valid = true)
    (.examine ?_ fun _ hs => hs.1) fun _ => ?_
  · rintro w - ⟨hw, hr⟩ -
    exact ⟨hw, (Bool.not_eq_false _).mp hr⟩
  refine .bind (Q := fun _ w => Held w0 w ∧ reason.valid = true)
    (.examine (fun _ _ hs _ => hs) fun _ hs => hs.1) fun id => ?_
  refine .bind
    (Q := fun _ w => (Held w0 w ∧ reason.valid = true) ∧ (w.core.slots id).lifecycle = .runnable)
    (.examine ?_ fun _ hs => hs.1) fun _ => ?_
  · intro w _ hs hc
    exact ⟨hs, not_not.mp (rejectIf_eq_ok.mp hc)⟩
  refine .bind (.update fun w hs => ?_) fun _ => Keeps.examine
  exact hs.1.1.blockSlot hs.1.2 hs.2

theorem resume_held (warpID : Nat) : Keeps (Held w0) (resume warpID) := by
  refine Triple.bind Keeps.examine fun id => ?_
  refine .bind check_triple fun _ => ?_
  refine .bind (Q := fun _ w => Held w0 w ∧ (w.core.slots id).lifecycle = .blocked ∧
      (w.core.slots id).blockReason ≠ .barrier)
    (.examine ?_ fun _ hs => hs.1) fun _ => ?_
  · rintro w _ ⟨hw, hl⟩ hc
    exact ⟨hw, not_not.mp hl, rejectIf_eq_ok.mp hc⟩
  refine .bind (.update fun w hs => ?_) fun _ => Keeps.examine
  exact hs.1.resumeSlot hs.2.1 fun key hw => hs.2.2 hw.2.1

theorem activate_held (warpID : Nat) : Keeps (Held w0) (activate warpID) := by
  refine Triple.bind Keeps.examine fun id => ?_
  refine .bind Keeps.examine fun _ => ?_
  refine .bind Keeps.examine fun _ => ?_
  refine .bind check_triple fun _ => ?_
  -- a slot that is inactive has an inactive warp, so the last check refuses
  refine .bind (Q := fun _ _ => False) (.examine ?_ fun _ hs => hs.1) fun _ => ?_
  · intro w _ ⟨hw, hslot⟩ hc
    obtain ⟨hl, -⟩ := not_or.mp hslot
    obtain ⟨hrunning, -⟩ := not_or.mp (rejectIf_eq_ok.mp hc)
    have hfits := (hw.inv.slots id).fits
    unfold Slot.Fits at hfits
    rw [not_not.mp hl] at hfits
    refine hrunning fun hr => ?_
    rw [hfits.2.2] at hr
    cases hr
  · exact fun _ hfalse => hfalse.elim

theorem setPendingWorkProvider_held (provider : Option (PendingWorkProvider σ)) :
    Keeps (Held w0) (setPendingWorkProvider provider) := by
  refine .bind Keeps.examine fun _ => ?_
  exact .update fun w hw => hw.setCore w.core.next provider w.localMemories w.memory

theorem pendingPriorWork_keeps {P : World σ → Prop} (hmemory : ∀ w memory, P w →
    P { w with memory }) (id : WarpID) (otherwise : Bool) (context : String) :
    Keeps P (pendingPriorWork id otherwise context) := by
  intro w hw
  have hafter : P (pendingPriorWork id otherwise context w).2 := by
    unfold pendingPriorWork
    split
    · exact hw
    · exact hmemory w _ hw
  exact ⟨fun _ _ => hafter, fun _ _ => hafter⟩

end World

end VortexSim
