import Mathlib.Data.List.Basic

/-!
# Ranges of positions

A span is a half-open range of positions.  Two spans are apart when they share no position, and
a change of a list is confined to a span when every position outside it keeps its entry, as when
a range inside the span is overwritten.
-/

namespace Overwrite

variable {α : Type*}

/-- The list with the entries from `start` on replaced by `ys`. -/
def overwrite (xs : List α) (start : Nat) (ys : List α) : List α :=
  xs.take start ++ ys ++ xs.drop (start + ys.length)

theorem length_overwrite (h : start + ys.length ≤ xs.length) :
    (overwrite xs start ys).length = xs.length := by
  unfold overwrite
  rw [List.length_append, List.length_append, List.length_take, List.length_drop,
    Nat.min_eq_left (by omega)]
  omega

theorem getElem?_overwrite (h : start + ys.length ≤ xs.length) (i : Nat) :
    (overwrite xs start ys)[i]? =
      if start ≤ i ∧ i < start + ys.length then ys[i - start]? else xs[i]? := by
  have hlen : (xs.take start).length = start := by
    rw [List.length_take, Nat.min_eq_left (by omega)]
  unfold overwrite
  rw [List.append_assoc]
  by_cases hlow : i < start
  · rw [if_neg (by omega), List.getElem?_append_left (by omega), List.getElem?_take_of_lt hlow]
  · rw [List.getElem?_append_right (by omega), hlen]
    by_cases hhigh : i < start + ys.length
    · rw [if_pos ⟨by omega, hhigh⟩, List.getElem?_append_left (by omega)]
    · rw [if_neg (by omega), List.getElem?_append_right (by omega), List.getElem?_drop]
      congr 1
      omega

end Overwrite

namespace Spans

open Overwrite

/-- The positions from the first number up to the second. -/
abbrev Span := Nat × Nat

/-- The position is in the span. -/
def Holds (a : Span) (i : Nat) : Prop := a.1 ≤ i ∧ i < a.2

/-- No position is in both. -/
def Apart (a b : Span) : Prop := ∀ i, Holds a i → ¬ Holds b i

theorem Apart.symm (h : Apart a b) : Apart b a := fun i hb ha => h i ha hb

theorem apart_of_le (h : a.2 ≤ b.1) : Apart a b := by
  intro i ha hb
  exact absurd (Nat.lt_of_lt_of_le ha.2 h) (Nat.not_lt.mpr hb.1)

variable {α : Type*} {a : Span} {xs ys zs : List α}

/-- The lists have the same entries in the span. -/
def SameOn (a : Span) (xs ys : List α) : Prop := ∀ i, Holds a i → xs[i]? = ys[i]?

/-- The lists have the same entries outside the span. -/
def SameOff (a : Span) (xs ys : List α) : Prop := ∀ i, ¬ Holds a i → xs[i]? = ys[i]?

theorem SameOff.refl (a : Span) (xs : List α) : SameOff a xs xs := fun _ _ => rfl

theorem SameOff.trans (h : SameOff a xs ys) (h' : SameOff a ys zs) : SameOff a xs zs :=
  fun i hi => (h i hi).trans (h' i hi)

/-- A segment inside the span. -/
theorem SameOn.segment (h : SameOn a xs ys) (hlow : a.1 ≤ start) (hhigh : start + length ≤ a.2) :
    (xs.drop start).take length = (ys.drop start).take length := by
  refine List.ext_getElem? fun i => ?_
  rw [List.getElem?_take, List.getElem?_take]
  split
  · rw [List.getElem?_drop, List.getElem?_drop]
    exact h _ ⟨by omega, by omega⟩
  · rfl

/-- Overwriting inside the span. -/
theorem sameOff_overwrite (hfits : start + ys.length ≤ xs.length) (hlow : a.1 ≤ start)
    (hhigh : start + ys.length ≤ a.2) : SameOff a (overwrite xs start ys) xs := by
  intro i hi
  rw [getElem?_overwrite hfits]
  refine if_neg fun hin => hi ⟨?_, ?_⟩
  · exact Nat.le_trans hlow hin.1
  · exact Nat.lt_of_lt_of_le hin.2 hhigh

end Spans
