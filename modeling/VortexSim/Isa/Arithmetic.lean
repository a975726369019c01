import Mathlib.Tactic.Linarith
import VortexSim.Isa.Decode
import VortexSim.Isa.Integer

/-!
# Multiplication and division

The evaluators compute on words of 32 and 64 bits, signed and unsigned.  Their laws are about
integers: a product is exact, so that its halves are the remainder and the floor at `2 ^ 32`, and a
division truncates toward zero.  The 64 bits of an intermediate product are always enough.
-/

namespace VortexSim

/-! ## Products -/

/-- The upper half of a signed word of 64 bits. -/
theorem high_toInt (p : BitVec 64) : ((p >>> 32).setWidth 32).toInt = p.toInt.fdiv (2 ^ 32) := by
  have hlt := p.isLt
  rw [Int.fdiv_eq_ediv_of_nonneg _ (by decide), BitVec.toInt_setWidth, BitVec.toNat_ushiftRight,
    Nat.shiftRight_eq_div_pow, Int.bmod_def, BitVec.toInt_eq_toNat_cond]
  split <;> split <;> omega

/-- The bounds of a signed word. -/
theorem word_toInt_bounds (a : Word) : -2 ^ 31 ≤ a.toInt ∧ a.toInt < 2 ^ 31 :=
  ⟨a.le_toInt, a.toInt_lt⟩

/-- What lies between the bounds of 64 bits is not changed by them. -/
theorem toInt_mul_exact {q : BitVec 64} (hp : p.toInt = x) (hq : q.toInt = y)
    (hlow : -2 ^ 63 ≤ x * y) (hhigh : x * y < 2 ^ 63) : (p * q).toInt = x * y := by
  rw [BitVec.toInt_mul, hp, hq]
  exact Int.bmod_eq_of_le hlow hhigh

variable (a b : Word)

/-- The signed product needs no more than 64 bits. -/
theorem signed_product : (a.signExtend 64 * b.signExtend 64).toInt = a.toInt * b.toInt := by
  obtain ⟨halow, hahigh⟩ := word_toInt_bounds a
  obtain ⟨hblow, hbhigh⟩ := word_toInt_bounds b
  refine toInt_mul_exact (BitVec.toInt_signExtend_of_le (by decide))
    (BitVec.toInt_signExtend_of_le (by decide)) ?_ ?_ <;> nlinarith

theorem mixed_product : (a.signExtend 64 * b.setWidth 64).toInt = a.toInt * b.toNat := by
  obtain ⟨halow, hahigh⟩ := word_toInt_bounds a
  have hb : (b.setWidth 64).toInt = b.toNat := by
    have hlt := b.isLt
    rw [BitVec.toInt_setWidth, Int.bmod_eq_of_le] <;> omega
  have hblt : (b.toNat : Int) < 2 ^ 32 := by exact_mod_cast b.isLt
  refine toInt_mul_exact (BitVec.toInt_signExtend_of_le (by decide)) hb ?_ ?_ <;> nlinarith

theorem word_mul_lt : a.toNat * b.toNat < 2 ^ 64 :=
  (Nat.mul_lt_mul_of_lt_of_lt a.isLt b.isLt).trans_eq (by decide)

theorem unsigned_product : (a.setWidth 64 * b.setWidth 64).toNat = a.toNat * b.toNat := by
  have ha : (a.setWidth 64).toNat = a.toNat := BitVec.toNat_setWidth_of_le (by decide)
  have hb : (b.setWidth 64).toNat = b.toNat := BitVec.toNat_setWidth_of_le (by decide)
  rw [BitVec.toNat_mul, ha, hb, Nat.mod_eq_of_lt (word_mul_lt a b)]

/-! ## Quotients and remainders -/

/-- Division truncated toward zero: the remainder has the sign of the dividend. -/
structure TruncatedDivision (a b q r : Int) : Prop where
  whole : a = q * b + r
  toward : q = a.tdiv b
  small : r.natAbs < b.natAbs
  sign : r = 0 ∨ r.sign = a.sign

theorem truncatedDivision (hy : y ≠ 0) : TruncatedDivision x y (x.tdiv y) (x.tmod y) where
  whole := (Int.tdiv_mul_add_tmod x y).symm
  toward := rfl
  small := by
    rw [Int.natAbs_tmod]
    exact Nat.mod_lt _ (Int.natAbs_pos.mpr hy)
  sign := by
    have hsign := Int.sign_tmod x y
    split at hsign
    · exact .inl (Int.sign_eq_zero_iff_zero.mp hsign)
    · exact .inr hsign

/-- The results of a signed division and of its remainder. -/
structure SignedDivision (a b q r : Word) : Prop where
  zero : b = 0#32 → q = 0xffffffff#32 ∧ r = a
  overflow : a = 0x80000000#32 → b = 0xffffffff#32 → q = a ∧ r = 0#32
  truncated : b ≠ 0#32 → ¬ (a = 0x80000000#32 ∧ b = 0xffffffff#32) →
    TruncatedDivision a.toInt b.toInt q.toInt r.toInt
  modular : a = q * b + r

/-- The results of an unsigned division and of its remainder. -/
structure UnsignedDivision (a b q r : Word) : Prop where
  zero : b = 0#32 → q = 0xffffffff#32 ∧ r = a
  floor : b ≠ 0#32 → a.toNat = q.toNat * b.toNat + r.toNat ∧ r.toNat < b.toNat
  modular : a = q * b + r

theorem divideSigned_laws : SignedDivision a b (divideSigned a b) (remainderSigned a b) := by
  unfold divideSigned remainderSigned
  by_cases hzero : b = 0#32
  · rw [if_pos hzero, if_pos hzero]
    subst hzero
    refine ⟨fun _ => ⟨rfl, rfl⟩, fun _ hb => absurd hb (by decide), fun hb => absurd rfl hb, ?_⟩
    rw [BitVec.mul_zero, BitVec.zero_add]
  rw [if_neg hzero, if_neg hzero]
  by_cases hover : a = 0x80000000#32 ∧ b = 0xffffffff#32
  · rw [if_pos hover, if_pos hover]
    obtain ⟨rfl, rfl⟩ := hover
    exact ⟨fun hb => absurd hb hzero, fun _ _ => ⟨rfl, rfl⟩, fun _ hno => absurd ⟨rfl, rfl⟩ hno,
      by decide⟩
  rw [if_neg hover, if_neg hover]
  have hexact : TruncatedDivision a.toInt b.toInt (a.sdiv b).toInt (a.srem b).toInt := by
    rw [BitVec.toInt_sdiv_of_ne_or_ne a b (not_and_or.mp hover), BitVec.toInt_srem]
    exact truncatedDivision fun h => hzero (BitVec.eq_of_toInt_eq h)
  refine ⟨fun hb => absurd hb hzero, fun ha hb => absurd ⟨ha, hb⟩ hover, fun _ _ => hexact, ?_⟩
  refine BitVec.eq_of_toInt_eq ?_
  rw [BitVec.toInt_add, BitVec.toInt_mul, Int.bmod_add_bmod, ← hexact.whole]
  exact (a.toInt_bmod_cancel).symm

theorem divideUnsigned_laws :
    UnsignedDivision a b (divideUnsigned a b) (remainderUnsigned a b) := by
  unfold divideUnsigned remainderUnsigned
  by_cases hzero : b = 0#32
  · rw [if_pos hzero, if_pos hzero]
    subst hzero
    refine ⟨fun _ => ⟨rfl, rfl⟩, fun hb => absurd rfl hb, ?_⟩
    rw [BitVec.mul_zero, BitVec.zero_add]
  rw [if_neg hzero, if_neg hzero]
  have hpos : 0 < b.toNat := Nat.pos_of_ne_zero fun h => hzero (BitVec.eq_of_toNat_eq h)
  have hwhole : a.toNat = (a / b).toNat * b.toNat + (a % b).toNat := by
    rw [BitVec.toNat_udiv, BitVec.toNat_umod]
    exact (Nat.div_add_mod' a.toNat b.toNat).symm
  refine ⟨fun hb => absurd hb hzero, fun _ => ⟨hwhole, ?_⟩, BitVec.eq_of_toNat_eq ?_⟩
  · rw [BitVec.toNat_umod]
    exact Nat.mod_lt _ hpos
  · rw [BitVec.toNat_add, BitVec.toNat_mul, Nat.mod_add_mod, ← hwhole, Nat.mod_eq_of_lt a.isLt]

/-! ## The evaluators -/

/-- On every active lane the multiply, divide and remainder evaluators give the results of exact
integer arithmetic, and no product leaves its 64 bits. -/
theorem multiply_divide_exact (decoded : Decoded) (input : IntegerInput) (lane : Lane)
    (hactive : input.activeMask.active lane = true) :
    let a := input.rs1 lane
    let b := input.rs2 lane
    let result (name : Mnemonic) := (evaluateALULanes { decoded with name } input).1 lane
    ((result .mul).toNat = a.toNat * b.toNat % 2 ^ 32 ∧
      (result .mulh).toInt = (a.toInt * b.toInt).fdiv (2 ^ 32) ∧
      (result .mulhsu).toInt = (a.toInt * b.toNat).fdiv (2 ^ 32) ∧
      (result .mulhu).toNat = a.toNat * b.toNat / 2 ^ 32) ∧
    ((a.signExtend 64 * b.signExtend 64).toInt = a.toInt * b.toInt ∧
      (a.signExtend 64 * b.setWidth 64).toInt = a.toInt * b.toNat ∧
      (a.setWidth 64 * b.setWidth 64).toNat = a.toNat * b.toNat) ∧
    SignedDivision a b (result .div) (result .rem) ∧
    UnsignedDivision a b (result .divu) (result .remu) := by
  intro a b result
  have hresult (name : Mnemonic) :
      result name = (aluLane name input.pc a b decoded.immediate).getD 0#32 := if_pos hactive
  simp only [hresult, aluLane, Option.getD_some]
  refine ⟨⟨?_, ?_, ?_, ?_⟩, ⟨signed_product a b, mixed_product a b, unsigned_product a b⟩,
    divideSigned_laws a b, divideUnsigned_laws a b⟩
  · rw [BitVec.toNat_setWidth, unsigned_product]
  · rw [highSignedSigned, high_toInt, signed_product]
  · rw [highSignedUnsigned, high_toInt, mixed_product]
  · rw [BitVec.toNat_setWidth, BitVec.toNat_ushiftRight, unsigned_product,
      Nat.shiftRight_eq_div_pow]
    exact Nat.mod_eq_of_lt (Nat.div_lt_of_lt_mul (word_mul_lt a b))

/-- The least word divided by minus one on all lanes. -/
theorem least_by_minus_one : SignedDivision 0x80000000#32 0xffffffff#32 0x80000000#32 0#32 :=
  (multiply_divide_exact (decodeEntry 0#32 (aluI .addi 0#32))
    { pc := 0#32, activeMask := 1#8, rs1 := fun _ => 0x80000000#32, rs2 := fun _ => 0xffffffff#32
      bounds := none } 0
    (by decide)).2.2.1

end VortexSim
