import Mathlib.Data.List.Basic

/-!
# The newest of a sequence of stamped values

A register takes over a stamped value only when its stamp is greater than the one it has.
After a sequence of values in any order it shows the first value of the greatest stamp, or
what it showed at the start when no stamp exceeded the one at the start.
-/

namespace Newest

variable {α : Type*}

/-- The register after one stamped value. -/
def take (held offered : Nat × α) : Nat × α := if held.1 < offered.1 then offered else held

/-- The register after a sequence of stamped values. -/
def run (held : Nat × α) (offers : List (Nat × α)) : Nat × α := offers.foldl take held

theorem take_of_le (h : offered.1 ≤ held.1) : take held offered = held :=
  if_neg (Nat.not_lt.mpr h)

theorem take_of_lt (h : held.1 < offered.1) : take held offered = offered :=
  if_pos h

theorem le_take (held offered : Nat × α) : held.1 ≤ (take held offered).1 := by
  unfold take
  split
  · rename_i h
    exact Nat.le_of_lt h
  · exact Nat.le_refl _

theorem le_run (held : Nat × α) (offers : List (Nat × α)) : held.1 ≤ (run held offers).1 := by
  induction offers generalizing held with
  | nil => exact Nat.le_refl _
  | cons o offers ih => exact Nat.le_trans (le_take held o) (ih (take held o))

/-- `c` is the first of the greatest stamp in `offers`. -/
def First (offers : List (Nat × α)) (c : Nat × α) : Prop :=
  ∃ earlier later, offers = earlier ++ c :: later ∧ (∀ o ∈ earlier, o.1 < c.1) ∧
    ∀ o ∈ later, o.1 ≤ c.1

theorem First.cons (h : First offers c) (ho : o.1 < c.1) : First (o :: offers) c := by
  obtain ⟨earlier, later, rfl, hearlier, hlater⟩ := h
  exact ⟨o :: earlier, later, rfl, List.forall_mem_cons.mpr ⟨ho, hearlier⟩, hlater⟩

/-- What the register shows, whatever the order of the offers. -/
theorem run_cases (held : Nat × α) (offers : List (Nat × α)) :
    ((∀ o ∈ offers, o.1 ≤ held.1) ∧ run held offers = held) ∨
      held.1 < (run held offers).1 ∧ First offers (run held offers) := by
  induction offers generalizing held with
  | nil => exact .inl ⟨fun _ h => absurd h List.not_mem_nil, rfl⟩
  | cons o offers ih =>
    rw [run, List.foldl_cons]
    by_cases ho : o.1 ≤ held.1
    · rw [take_of_le ho]
      rcases ih held with ⟨hle, heq⟩ | ⟨hlt, hfirst⟩
      · exact .inl ⟨List.forall_mem_cons.mpr ⟨ho, hle⟩, heq⟩
      · exact .inr ⟨hlt, hfirst.cons (Nat.lt_of_le_of_lt ho hlt)⟩
    · have hlt := Nat.not_le.mp ho
      rw [take_of_lt hlt]
      rcases ih o with ⟨hle, heq⟩ | ⟨hnew, hfirst⟩
      · refine .inr ⟨?_, [], offers, ?_, fun _ h => absurd h List.not_mem_nil, ?_⟩
        · rw [show offers.foldl take o = o from heq]
          exact hlt
        · rw [show offers.foldl take o = o from heq]
          rfl
        · rw [show offers.foldl take o = o from heq]
          exact hle
      · exact .inr ⟨Nat.lt_trans hlt hnew, hfirst.cons hnew⟩

end Newest
