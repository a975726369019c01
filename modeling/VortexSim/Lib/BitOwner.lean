import Mathlib.Data.BitVec
import Mathlib.Data.List.Basic
import Mathlib.Logic.Function.Basic

/-!
# Ownership of bits

A ledger of entries, each in a group and with a mask of the bits it owns, next to one register
of bits for each group.  The register is exact when every bit is set for exactly one owner: the
bits are the union of the masks of the group, and the masks do not overlap.  Both are one
equation, between the number of owners of a bit and the bit as a number.
-/

namespace BitOwner

variable {τ κ : Type} [DecidableEq κ] {n : Nat} (group : τ → κ) (mask : τ → BitVec n)

/-- The entry owns a bit of a group. -/
def owns (k : κ) (i : Nat) (t : τ) : Bool := decide (group t = k) && (mask t).getLsbD i

/-- Every bit is set for exactly one owner. -/
def Exact (ledger : List τ) (bits : κ → BitVec n) : Prop :=
  ∀ k i, ledger.countP (owns group mask k i) = ((bits k).getLsbD i).toNat

/-- The union of the masks of a group. -/
def union (ledger : List τ) (k : κ) (start : BitVec n) : BitVec n :=
  ledger.foldl (fun bits t => if group t = k then bits ||| mask t else bits) start

variable {group mask} {ledger : List τ} {bits : κ → BitVec n}

theorem owns_eq_true : owns group mask k i t = true ↔ group t = k ∧ (mask t).getLsbD i = true := by
  rw [owns, Bool.and_eq_true, decide_eq_true_eq]

/-- A bit is set when an entry owns it. -/
theorem Exact.mem_iff (h : Exact group mask ledger bits) (k : κ) (i : Nat) :
    (bits k).getLsbD i = true ↔ ∃ t ∈ ledger, group t = k ∧ (mask t).getLsbD i = true := by
  have hpos : 0 < ledger.countP (owns group mask k i) ↔ (bits k).getLsbD i = true := by
    rw [h k i]
    cases (bits k).getLsbD i <;> simp
  rw [← hpos, List.countP_pos_iff]
  simp only [owns_eq_true]

/-- The masks of a group do not overlap. -/
theorem Exact.pairwise (h : Exact group mask ledger bits) :
    ledger.Pairwise fun a b => group a = group b → mask a &&& mask b = 0#n := by
  rw [List.pairwise_iff_forall_sublist]
  intro a b hsub hgroup
  apply BitVec.eq_of_getLsbD_eq
  intro i _
  by_contra hboth
  rw [BitVec.getLsbD_and, BitVec.getLsbD_zero, Bool.not_eq_false, Bool.and_eq_true] at hboth
  have htwo : [a, b].countP (owns group mask (group b) i) = 2 := by
    rw [List.countP_eq_length.mpr]
    · rfl
    · intro t ht
      rcases List.mem_pair.mp ht with rfl | rfl
      · exact owns_eq_true.mpr ⟨hgroup, hboth.1⟩
      · exact owns_eq_true.mpr ⟨rfl, hboth.2⟩
  have hle := hsub.countP_le (p := owns group mask (group b) i)
  have hbit := Bool.toNat_le ((bits (group b)).getLsbD i)
  rw [h (group b) i] at hle
  omega

/-- What is apart from a mask is apart from a part of it. -/
theorem apart_of_part {a b m : BitVec n} (hpart : ∀ i, a.getLsbD i = true → b.getLsbD i = true)
    (hm : b &&& m = 0#n) : a &&& m = 0#n := by
  apply BitVec.eq_of_getLsbD_eq
  intro i _
  have hbit := congrArg (BitVec.getLsbD · i) hm
  simp only [BitVec.getLsbD_and, BitVec.getLsbD_zero] at hbit ⊢
  cases hset : a.getLsbD i with
  | false => rfl
  | true => rwa [hpart i hset] at hbit

/-- What is apart from the register is apart from every mask. -/
theorem Exact.apart (h : Exact group mask ledger bits) (ht : t ∈ ledger)
    (hm : bits (group t) &&& m = 0#n) : mask t &&& m = 0#n :=
  apart_of_part (fun i howns => (h.mem_iff (group t) i).mpr ⟨t, ht, rfl, howns⟩) hm

theorem Exact.nil : Exact group mask [] fun _ => 0#n := fun k i => by
  rw [List.countP_nil, BitVec.getLsbD_zero]
  rfl

/-- A new entry sets bits that were clear. -/
theorem Exact.insert (h : Exact group mask ledger bits) (t : τ)
    (hfree : bits (group t) &&& mask t = 0#n) :
    Exact group mask (ledger ++ [t])
      (Function.update bits (group t) (bits (group t) ||| mask t)) := by
  intro k i
  rw [List.countP_append, h k i, List.countP_singleton]
  by_cases hk : group t = k
  · subst hk
    have hbit := congrArg (BitVec.getLsbD · i) hfree
    simp only [BitVec.getLsbD_and, BitVec.getLsbD_zero] at hbit
    rw [Function.update_self, BitVec.getLsbD_or, owns, decide_eq_true rfl, Bool.true_and]
    cases hold : (bits (group t)).getLsbD i <;> cases hnew : (mask t).getLsbD i <;> simp_all
  · rw [Function.update_of_ne (Ne.symm hk), owns, decide_eq_false hk]
    rfl

/-- Counting after the first hit is taken out. -/
theorem countP_eraseP (hfind : ledger.find? find = some t) :
    ledger.countP p = (if p t then 1 else 0) + (ledger.eraseP find).countP p := by
  induction ledger with
  | nil => cases hfind
  | cons x rest ih =>
    cases hx : find x with
    | true =>
      rw [List.find?_cons, hx] at hfind
      obtain rfl : x = t := Option.some.inj hfind
      rw [List.eraseP_cons_of_pos hx, List.countP_cons, Nat.add_comm]
    | false =>
      rw [List.find?_cons, hx] at hfind
      rw [List.eraseP_cons_of_neg (by rw [hx]; decide), List.countP_cons, List.countP_cons,
        ih hfind]
      omega

theorem toNat_of_count (h : bit.toNat = (if owned then 1 else 0) + count) :
    count = (bit && !owned).toNat := by
  cases bit <;> cases owned <;> simp at h ⊢ <;> omega

/-- An entry that leaves clears its bits. -/
theorem Exact.erase (h : Exact group mask ledger bits) (hfind : ledger.find? find = some t) :
    Exact group mask (ledger.eraseP find)
      (Function.update bits (group t) (bits (group t) &&& ~~~mask t)) := by
  intro k i
  have hcount := countP_eraseP (p := owns group mask k i) hfind
  rw [h k i] at hcount
  by_cases hk : group t = k
  · subst hk
    rw [owns, decide_eq_true rfl, Bool.true_and] at hcount
    rw [Function.update_self, BitVec.getLsbD_and, BitVec.getLsbD_not, toNat_of_count hcount]
    cases hold : (bits (group t)).getLsbD i with
    | false => rw [Bool.false_and, Bool.false_and]
    | true => rw [decide_eq_true (BitVec.lt_of_getLsbD hold), Bool.true_and, Bool.true_and]
  · rw [owns, decide_eq_false hk, Bool.false_and, if_neg Bool.false_ne_true, Nat.zero_add] at hcount
    rw [Function.update_of_ne (Ne.symm hk), hcount]

theorem getLsbD_union (k : κ) (start : BitVec n) (i : Nat) :
    (union group mask ledger k start).getLsbD i =
      (start.getLsbD i || ledger.any (owns group mask k i)) := by
  induction ledger generalizing start with
  | nil => simp [union]
  | cons t rest ih =>
    unfold union at ih ⊢
    rw [List.foldl_cons, ih, List.any_cons, owns]
    by_cases hk : group t = k
    · rw [if_pos hk, decide_eq_true hk, BitVec.getLsbD_or, Bool.true_and, Bool.or_assoc]
    · rw [if_neg hk, decide_eq_false hk, Bool.false_and, Bool.false_or]

/-- A part of the ledger is exact with the union of its masks. -/
theorem Exact.sublist (h : Exact group mask ledger bits) (hsub : part.Sublist ledger) :
    Exact group mask part fun k => union group mask part k 0#n := by
  intro k i
  have hle := hsub.countP_le (p := owns group mask k i)
  have hone := Bool.toNat_le ((bits k).getLsbD i)
  rw [h k i] at hle
  rw [getLsbD_union, BitVec.getLsbD_zero, Bool.false_or]
  cases hany : part.any (owns group mask k i) with
  | false =>
    rw [List.any_eq_false] at hany
    exact List.countP_eq_zero.mpr hany
  | true =>
    obtain ⟨t, ht, howns⟩ := List.any_eq_true.mp hany
    have hpos := List.countP_pos_iff.mpr ⟨t, ht, howns⟩
    rw [Bool.toNat_true]
    omega

/-- What is apart from a register is apart from the register of a part of the ledger. -/
theorem Exact.apart_of_sublist (h : Exact group mask ledger bits) (h' : Exact group mask part bits')
    (hsub : part.Sublist ledger) (hm : bits k &&& m = 0#n) : bits' k &&& m = 0#n := by
  refine apart_of_part (fun i hset => ?_) hm
  obtain ⟨t, ht, howns⟩ := (h'.mem_iff k i).mp hset
  exact (h.mem_iff k i).mpr ⟨t, hsub.subset ht, howns⟩

end BitOwner
