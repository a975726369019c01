import Mathlib.Data.Finset.Card

/-!
# Phased barriers

A phase of a barrier collects the arrivals of its participants and the completions of the
events that were attached to it.  It ends with the operation after which as many participants
as were declared have arrived and no event is outstanding; that operation releases everyone
who waits, and the next phase starts empty.  Waiters name a phase by its parity.
-/

namespace Phaser

variable {ι : Type*}

/-- The current phase, with the number of phases that have ended. -/
structure Phase (ι : Type*) where
  completed : Nat := 0
  arrived : Finset ι := ∅
  waiting : Finset ι := ∅
  /-- The declared number of participants, zero before the first arrival. -/
  declared : Nat := 0
  outstanding : Nat := 0

/-- What can happen at a barrier. -/
inductive Event (ι : Type*) where
  | arrive (i : ι) (count : Nat) (sync : Bool)
  | wait (i : ι) (parity : Bool)
  | expect (n : Nat)
  | done
  deriving DecidableEq

/-- Who causes an event. -/
def Event.source : Event ι → Option ι
  | .arrive i _ _ => some i
  | .wait i _ => some i
  | .expect _ => none
  | .done => none

namespace Phase

/-- The name of the current phase. -/
def parity (p : Phase ι) : Bool := decide (p.completed % 2 = 1)

/-- As many participants as were declared have arrived. -/
def Full (p : Phase ι) : Prop := p.declared ≠ 0 ∧ p.arrived.card = p.declared

instance (p : Phase ι) : Decidable p.Full := inferInstanceAs (Decidable (_ ∧ _))

/-- Everyone has arrived and every event is done. -/
def Complete (p : Phase ι) : Prop := p.Full ∧ p.outstanding = 0

instance (p : Phase ι) : Decidable p.Complete := inferInstanceAs (Decidable (_ ∧ _))

/-- The phase after this one. -/
def next (p : Phase ι) : Phase ι := { completed := p.completed + 1 }

/-- A phase that is complete ends. -/
def settle (p : Phase ι) : Phase ι := if p.Complete then p.next else p

theorem next_parity (p : Phase ι) : p.next.parity = !p.parity := by
  unfold parity next
  rcases Nat.mod_two_eq_zero_or_one p.completed with h | h
  · have hnext : (p.completed + 1) % 2 = 1 := by omega
    rw [h, hnext]
    rfl
  · have hnext : (p.completed + 1) % 2 = 0 := by omega
    rw [h, hnext]
    rfl

/-- A parity names every other phase. -/
theorem parity_eq (p : Phase ι) (n : Nat) :
    decide (n % 2 = 1) = p.parity ↔ n % 2 = p.completed % 2 := by
  unfold parity
  rw [decide_eq_decide]
  omega

/-- Nothing is left to do in the phase, and no more have arrived than were declared. -/
structure AtRest (p : Phase ι) : Prop where
  unfinished : ¬ p.Complete
  bounded : p.arrived.card ≤ p.declared

theorem atRest_initial : ({} : Phase ι).AtRest where
  unfinished := fun h => h.1.1 rfl
  bounded := Nat.le_refl 0

theorem atRest_next (p : Phase ι) : p.next.AtRest where
  unfinished := fun h => h.1.1 rfl
  bounded := Nat.le_refl 0

theorem AtRest.arrived_of_undeclared {p : Phase ι} (h : p.AtRest) (hd : p.declared = 0) :
    p.arrived = ∅ := by
  have hcard := h.bounded
  rw [hd] at hcard
  exact Finset.card_eq_zero.mp (Nat.le_zero.mp hcard)

/-- A settled phase is at rest. -/
theorem settle_atRest {p : Phase ι} (h : p.arrived.card ≤ p.declared) : p.settle.AtRest := by
  unfold settle
  split
  · exact p.atRest_next
  · exact ⟨‹_›, h⟩

section

variable [DecidableEq ι]

/-- The bookkeeping of an event. -/
def note (p : Phase ι) : Event ι → Phase ι
  | .arrive i count sync =>
    { p with
      arrived := insert i p.arrived
      declared := count
      waiting := if sync then insert i p.waiting else p.waiting }
  | .wait i parity => if parity = p.parity then { p with waiting := insert i p.waiting } else p
  | .expect n => { p with outstanding := p.outstanding + n }
  | .done => { p with outstanding := p.outstanding - 1 }

theorem note_wait (p : Phase ι) (i : ι) (parity : Bool) : p.note (.wait i parity) =
    if parity = p.parity then { p with waiting := insert i p.waiting } else p :=
  rfl

/-- An event, and the end of the phase where it was the last one. -/
def step (p : Phase ι) (e : Event ι) : Phase ι := (p.note e).settle

/-- Who an event releases. -/
def released (p : Phase ι) (e : Event ι) : Finset ι :=
  if (p.note e).Complete then (p.note e).waiting else ∅

/-- Whether the one who causes an event has to wait. -/
def Blocks (p : Phase ι) : Event ι → Prop
  | .arrive i count sync => sync = true ∧ ¬ (p.note (.arrive i count sync)).Complete
  | .wait _ parity => parity = p.parity
  | .expect _ => False
  | .done => False

/-- The events a phase can take. -/
def Accepts (p : Phase ι) : Event ι → Prop
  | .arrive i count _ => count ≠ 0 ∧ i ∉ p.arrived ∧ ¬ p.Full ∧
      (p.declared = 0 ∨ p.declared = count)
  | .wait i parity => parity = p.parity → i ∉ p.waiting
  | .expect n => n ≠ 0
  | .done => p.outstanding ≠ 0

/-- An event never brings more arrivals than were declared. -/
theorem AtRest.note_bounded {p : Phase ι} (h : p.AtRest) (he : p.Accepts e) :
    (p.note e).arrived.card ≤ (p.note e).declared := by
  cases e with
  | arrive i count sync =>
    obtain ⟨hcount, hnew, hopen, hsame⟩ := he
    change (insert i p.arrived).card ≤ count
    rw [Finset.card_insert_of_notMem hnew]
    rcases hsame with hnone | hsame
    · rw [h.arrived_of_undeclared hnone, Finset.card_empty]
      exact Nat.one_le_iff_ne_zero.mpr hcount
    · have hlt : p.arrived.card < count := by
        refine lt_of_le_of_ne (hsame ▸ h.bounded) fun heq => hopen ⟨?_, ?_⟩
        · rw [hsame]
          exact hcount
        · rw [heq, hsame]
      exact hlt
  | wait i parity =>
    rw [note_wait]
    split
    · exact h.bounded
    · exact h.bounded
  | expect n => exact h.bounded
  | done => exact h.bounded

theorem AtRest.step {p : Phase ι} (h : p.AtRest) (he : p.Accepts e) : (p.step e).AtRest :=
  settle_atRest (h.note_bounded he)

/-- Only an arrival and the completion of an event can end a phase. -/
theorem AtRest.wait_incomplete {p : Phase ι} (h : p.AtRest) (i : ι) (parity : Bool) :
    ¬ (p.note (.wait i parity)).Complete := by
  rw [note_wait]
  split
  · exact h.unfinished
  · exact h.unfinished

/-- Only the end of a phase changes the parity. -/
theorem note_completed (p : Phase ι) (e : Event ι) : (p.note e).completed = p.completed := by
  cases e with
  | wait i parity =>
    rw [note_wait]
    split
    · rfl
    · rfl
  | arrive i count sync => rfl
  | expect n => rfl
  | done => rfl

theorem step_parity (p : Phase ι) (e : Event ι) :
    (p.step e).parity ≠ p.parity ↔ (p.note e).Complete := by
  have hnote : (p.note e).parity = p.parity := by
    unfold parity
    rw [note_completed]
  unfold step settle
  split
  · rename_i hc
    rw [next_parity, hnote]
    exact ⟨fun _ => hc, fun _ => Bool.not_ne_self p.parity⟩
  · rename_i hc
    rw [hnote]
    exact ⟨fun h => absurd rfl h, fun h => absurd h hc⟩

/-- Nobody enters a phase but by an event of their own. -/
theorem mem_note {p : Phase ι} (h : i ∈ (p.note e).arrived ∪ (p.note e).waiting) :
    i ∈ p.arrived ∪ p.waiting ∨ e.source = some i := by
  cases e with
  | arrive j count sync =>
    rw [Finset.mem_union] at h ⊢
    rcases h with h | h
    · rcases Finset.mem_insert.mp h with rfl | h
      · exact .inr rfl
      · exact .inl (.inl h)
    · change i ∈ (if sync = true then insert j p.waiting else p.waiting) at h
      split at h
      · rcases Finset.mem_insert.mp h with rfl | h
        · exact .inr rfl
        · exact .inl (.inr h)
      · exact .inl (.inr h)
  | wait j parity =>
    rw [note_wait] at h
    rw [Finset.mem_union]
    split at h
    · rcases Finset.mem_union.mp h with h | h
      · exact .inl (.inl h)
      · rcases Finset.mem_insert.mp h with rfl | h
        · exact .inr rfl
        · exact .inl (.inr h)
    · exact .inl (Finset.mem_union.mp h)
  | expect n => exact .inl h
  | done => exact .inl h

theorem mem_step {p : Phase ι} (h : i ∈ (p.step e).arrived ∪ (p.step e).waiting) :
    i ∈ p.arrived ∪ p.waiting ∨ e.source = some i := by
  unfold step settle at h
  split at h
  · simp [next] at h
  · exact mem_note h

theorem expect_incomplete (p : Phase ι) (hn : n ≠ 0) : ¬ (p.note (.expect n)).Complete := by
  rintro ⟨-, hzero⟩
  exact hn (Nat.eq_zero_of_add_eq_zero_left hzero)

end

end Phase

end Phaser
