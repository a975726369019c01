import Mathlib.Algebra.BigOperators.Group.List.Basic
import Mathlib.Algebra.Order.BigOperators.Group.List
import Mathlib.Data.Nat.ModEq

/-!
# Odometers

An odometer is a row of wheels.  A wheel counts in steps of its own up to its bound and then
starts again from zero, and the next wheel moves with it.  After `n` moves from zero the wheels
show the mixed-radix digits of `n`, each times the step of its wheel; so within one turn of the
whole row every combination of readings is shown exactly once.
-/

namespace Odometer

/-- A wheel that makes `turns` moves of `step` before it is back at zero. -/
structure Wheel where
  step : Nat
  turns : Nat
  step_pos : 0 < step
  turns_pos : 0 < turns

namespace Wheel

/-- Where the wheel starts again. -/
def bound (w : Wheel) : Nat := w.step * w.turns

/-- What the wheel can show. -/
def Shows (w : Wheel) (x : Nat) : Prop := ∃ d < w.turns, x = w.step * d

/-- A move never goes beyond the bound. -/
theorem Shows.add_le {w : Wheel} (h : w.Shows x) : x + w.step ≤ w.bound := by
  obtain ⟨d, hd, rfl⟩ := h
  exact Nat.mul_le_mul_left w.step hd

theorem Shows.lt {w : Wheel} (h : w.Shows x) : x < w.bound :=
  Nat.lt_of_lt_of_le (Nat.lt_add_of_pos_right w.step_pos) h.add_le

/-- The next move stays below the bound exactly when a turn is left. -/
theorem add_lt_bound (w : Wheel) (d : Nat) : w.step * d + w.step < w.bound ↔ d + 1 < w.turns := by
  rw [bound, ← Nat.mul_succ]
  exact Nat.mul_lt_mul_left w.step_pos

end Wheel

/-- The number of different readings. -/
def volume (ws : List Wheel) : Nat := (ws.map Wheel.turns).prod

theorem volume_cons (w : Wheel) (ws : List Wheel) : volume (w :: ws) = w.turns * volume ws := by
  unfold volume
  rw [List.map_cons, List.prod_cons]

/-- What the wheels show after `n` moves. -/
def reading : List Wheel → Nat → List Nat
  | [], _ => []
  | w :: ws, n => w.step * (n % w.turns) :: reading ws (n / w.turns)

/-- One move, and whether the whole row is back at zero. -/
def roll : List Wheel → List Nat → List Nat × Bool
  | w :: ws, x :: xs =>
    if x + w.step < w.bound then ((x + w.step) :: xs, false)
    else (0 :: (roll ws xs).1, (roll ws xs).2)
  | _, _ => ([], true)

/-! ## Moves -/

theorem succ_of_room (h : n % t + 1 < t) : (n + 1) % t = n % t + 1 ∧ (n + 1) / t = n / t := by
  have ht : 0 < t := Nat.lt_of_le_of_lt (Nat.zero_le _) h
  have hn : n + 1 = n % t + 1 + n / t * t := by
    have := Nat.mod_add_div' n t
    omega
  constructor
  · rw [hn, Nat.add_mul_mod_self_right, Nat.mod_eq_of_lt h]
  · rw [hn, Nat.add_mul_div_right _ _ ht, Nat.div_eq_of_lt h, Nat.zero_add]

theorem succ_of_full (ht : 0 < t) (h : ¬ n % t + 1 < t) :
    (n + 1) % t = 0 ∧ (n + 1) / t = n / t + 1 := by
  have hlt := Nat.mod_lt n ht
  have hn : n + 1 = 0 + (n / t + 1) * t := by
    have := Nat.mod_add_div' n t
    rw [Nat.add_mul]
    omega
  constructor
  · rw [hn, Nat.add_mul_mod_self_right, Nat.zero_mod]
  · rw [hn, Nat.add_mul_div_right _ _ ht, Nat.zero_div, Nat.zero_add]

/-- The whole row is at zero when the first wheel is and the number of its turns brings the
others there. -/
theorem mod_volume_cons (w : Wheel) (ws : List Wheel) (n : Nat) :
    n % volume (w :: ws) = 0 ↔ n % w.turns = 0 ∧ n / w.turns % volume ws = 0 := by
  rw [volume_cons, Nat.mod_mul, Nat.add_eq_zero_iff, Nat.mul_eq_zero]
  refine and_congr_right fun _ => ⟨?_, .inr⟩
  rintro (h | h)
  · exact absurd h w.turns_pos.ne'
  · exact h

/-- A move shows the next reading. -/
theorem roll_reading (ws : List Wheel) (n : Nat) :
    roll ws (reading ws n) = (reading ws (n + 1), decide ((n + 1) % volume ws = 0)) := by
  induction ws generalizing n with
  | nil => simp [roll, reading, volume, Nat.mod_one]
  | cons w ws ih =>
    rw [reading, roll]
    split
    · rename_i hroom
      obtain ⟨hmod, hdiv⟩ := succ_of_room ((w.add_lt_bound _).mp hroom)
      rw [reading, hmod, hdiv, Nat.mul_succ]
      refine Prod.ext rfl ?_
      refine (decide_eq_false fun hzero => ?_).symm
      rw [mod_volume_cons, hmod] at hzero
      exact Nat.succ_ne_zero _ hzero.1
    · rename_i hfull
      obtain ⟨hmod, hdiv⟩ := succ_of_full w.turns_pos fun h => hfull ((w.add_lt_bound _).mpr h)
      rw [reading, ih, hmod, hdiv, Nat.mul_zero]
      refine Prod.ext rfl ?_
      rw [decide_eq_decide, mod_volume_cons, hmod, hdiv]
      exact ⟨fun h => ⟨rfl, h⟩, And.right⟩

theorem reading_zero (ws : List Wheel) : reading ws 0 = ws.map fun _ => 0 := by
  induction ws with
  | nil => rfl
  | cons w ws ih => rw [reading, Nat.zero_mod, Nat.zero_div, ih, Nat.mul_zero, List.map_cons]

/-! ## One turn shows every reading once -/

theorem reading_shows (ws : List Wheel) (n : Nat) : List.Forall₂ Wheel.Shows ws (reading ws n) := by
  induction ws generalizing n with
  | nil => exact .nil
  | cons w ws ih => exact .cons ⟨n % w.turns, Nat.mod_lt n w.turns_pos, rfl⟩ (ih _)

theorem reading_mod (ws : List Wheel) (n : Nat) : reading ws (n % volume ws) = reading ws n := by
  induction ws generalizing n with
  | nil => rfl
  | cons w ws ih =>
    rw [reading, reading, volume_cons, Nat.mod_mul_right_mod, Nat.mod_mul_right_div_self, ih]

theorem reading_inj (hn : n < volume ws) (hm : m < volume ws) (h : reading ws n = reading ws m) :
    n = m := by
  induction ws generalizing n m with
  | nil =>
    have hone : volume [] = 1 := rfl
    omega
  | cons w ws ih =>
    rw [reading, reading, List.cons.injEq] at h
    have hmod := Nat.eq_of_mul_eq_mul_left w.step_pos h.1
    have hdiv := ih (Nat.div_lt_of_lt_mul hn) (Nat.div_lt_of_lt_mul hm) h.2
    rw [← Nat.div_add_mod n w.turns, hmod, hdiv, Nat.div_add_mod]

theorem reading_surj (h : List.Forall₂ Wheel.Shows ws xs) : ∃ n < volume ws, reading ws n = xs := by
  induction h with
  | nil => exact ⟨0, Nat.one_pos, rfl⟩
  | @cons w x ws xs hx _ ih =>
    obtain ⟨d, hd, rfl⟩ := hx
    obtain ⟨n, hn, rfl⟩ := ih
    refine ⟨d + w.turns * n, ?_, ?_⟩
    · calc d + w.turns * n < w.turns + w.turns * n := Nat.add_lt_add_right hd _
        _ = w.turns * (n + 1) := by rw [Nat.mul_succ, Nat.add_comm]
        _ ≤ w.turns * volume ws := Nat.mul_le_mul_left _ hn
    · rw [reading, Nat.add_mul_mod_self_left, Nat.mod_eq_of_lt hd,
        Nat.add_mul_div_left _ _ w.turns_pos, Nat.div_eq_of_lt hd, Nat.zero_add]

end Odometer
