import Mathlib.Data.BitVec
import Mathlib.Data.Fintype.Basic
import Mathlib.Data.Finset.Card

/-!
# Bit masks as finite sets

A mask of `w` bits whose bits from `n` on are clear stands for a set of indices below `n`.
`members` is that set.  The bitwise operations are the set operations, and two bounded
masks with the same members are equal, so an equation between masks becomes an equation
between finite sets.
-/

namespace BitMask

variable {n w : Nat}

/-- No bit stands at or above index `n`. -/
def Bounded (n : Nat) (m : BitVec w) : Prop := ∀ i, n ≤ i → m.getLsbD i = false

/-- The indices below `n` whose bit is set. -/
def members (n : Nat) (m : BitVec w) : Finset (Fin n) :=
  Finset.univ.filter fun i => m.getLsbD i.val = true

@[simp] theorem mem_members : i ∈ members n m ↔ m.getLsbD i.val = true := by
  simp [members]

@[simp] theorem members_zero : members n (0#w) = ∅ := by
  ext i
  simp

@[simp] theorem members_and (a b : BitVec w) : members n (a &&& b) = members n a ∩ members n b := by
  ext i
  simp

@[simp] theorem members_or (a b : BitVec w) : members n (a ||| b) = members n a ∪ members n b := by
  ext i
  simp

theorem members_diff (a b : BitVec w) : members n (a &&& ~~~b) = members n a \ members n b := by
  ext i
  simp only [mem_members, BitVec.getLsbD_and, BitVec.getLsbD_not, Bool.and_eq_true,
    decide_eq_true_eq, Finset.mem_sdiff, Bool.not_eq_true', Bool.not_eq_true]
  constructor
  · rintro ⟨ha, -, hb⟩
    exact ⟨ha, hb⟩
  · rintro ⟨ha, hb⟩
    exact ⟨ha, BitVec.lt_of_getLsbD ha, hb⟩

/-! ## Bounded masks -/

theorem Bounded.zero : Bounded n (0#w) := fun _ _ => BitVec.getLsbD_zero

theorem Bounded.and_left (ha : Bounded n a) (b : BitVec w) : Bounded n (a &&& b) := by
  intro i hi
  rw [BitVec.getLsbD_and, ha i hi, Bool.false_and]

theorem Bounded.or (ha : Bounded n a) (hb : Bounded n b) : Bounded n (a ||| b) := by
  intro i hi
  rw [BitVec.getLsbD_or, ha i hi, hb i hi, Bool.false_or]

/-- A bounded mask is determined by its members. -/
theorem eq_of_members (ha : Bounded n a) (hb : Bounded n b) (h : members n a = members n b) :
    a = b := by
  apply BitVec.eq_of_getLsbD_eq
  intro i _
  by_cases hi : i < n
  · have hmem : (⟨i, hi⟩ : Fin n) ∈ members n a ↔ (⟨i, hi⟩ : Fin n) ∈ members n b := by rw [h]
    simp only [mem_members] at hmem
    exact Bool.eq_iff_iff.mpr hmem
  · rw [ha i (Nat.le_of_not_lt hi), hb i (Nat.le_of_not_lt hi)]

theorem eq_zero_iff (ha : Bounded n a) : a = 0#w ↔ members n a = ∅ := by
  constructor
  · rintro rfl
    exact members_zero
  · intro h
    exact eq_of_members ha .zero (h.trans members_zero.symm)

/-- Disjoint masks have disjoint members. -/
theorem disjoint_of_and_eq_zero (h : a &&& b = 0#w) : Disjoint (members n a) (members n b) := by
  rw [Finset.disjoint_iff_inter_eq_empty, ← members_and, h, members_zero]

/-- A part of a mask is all of it when nothing remains without it. -/
theorem and_not_eq_zero_iff (h : a &&& ~~~b = 0#w) : b &&& ~~~a = 0#w ↔ a = b := by
  refine ⟨fun hrest => ?_, fun heq => by rwa [heq] at h ⊢⟩
  apply BitVec.eq_of_getLsbD_eq
  intro i hi
  have hleft := congrArg (BitVec.getLsbD · i) h
  have hright := congrArg (BitVec.getLsbD · i) hrest
  simp only [BitVec.getLsbD_and, BitVec.getLsbD_not, BitVec.getLsbD_zero, hi, decide_true,
    Bool.true_and, Bool.and_eq_false_iff, Bool.not_eq_false'] at hleft hright
  cases ha : a.getLsbD i <;> cases hb : b.getLsbD i <;> simp_all

variable {a b c m : BitVec w}

end BitMask
