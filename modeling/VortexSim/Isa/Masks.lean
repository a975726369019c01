import VortexSim.Lib.BitMask
import VortexSim.Isa.Custom

/-!
# Lane masks as sets of lanes

A valid mask is a bounded one and `popCount` is the size of its set of lanes.  What the
evaluators build lane by lane is a filter, and the decision lane is an active one.
-/

namespace VortexSim

open BitMask

namespace LaneMask

/-- The lanes a mask selects. -/
def set (m : LaneMask) : Finset Lane := members frozenLaneCount m

theorem mem_set {m : LaneMask} : lane ∈ m.set ↔ m.active lane = true := by
  simp [set, active]

theorem valid_iff {m : LaneMask} : m.Valid ↔ Bounded frozenLaneCount m := by
  constructor
  · intro h i hi
    have hbit : (m &&& ~~~allLanes).getLsbD i = false := by rw [h]; exact BitVec.getLsbD_zero
    rw [BitVec.getLsbD_and, BitVec.getLsbD_not] at hbit
    by_cases h8 : i < 8
    · have hall : allLanes.getLsbD i = false := by
        have : ∀ i < 8, 4 ≤ i → allLanes.getLsbD i = false := by decide
        exact this i h8 hi
      rw [hall] at hbit
      simpa [h8] using hbit
    · exact BitVec.getLsbD_of_ge m i (Nat.le_of_not_lt h8)
  · intro h
    apply BitVec.eq_of_getLsbD_eq
    intro i h8
    rw [BitVec.getLsbD_and, BitVec.getLsbD_zero]
    by_cases hi : i < frozenLaneCount
    · have hall : ∀ i < frozenLaneCount, (~~~allLanes).getLsbD i = false := by decide
      rw [hall i hi, Bool.and_false]
    · rw [h i (Nat.le_of_not_lt hi), Bool.false_and]

theorem Valid.and_left (ha : a.Valid) (b : LaneMask) : LaneMask.Valid (a &&& b) :=
  valid_iff.mpr ((valid_iff.mp ha).and_left b)

theorem Valid.zero : LaneMask.Valid 0#8 := by decide

/-- Two valid masks with the same lanes are equal. -/
theorem Valid.eq {b : LaneMask} (ha : a.Valid) (hb : b.Valid) (h : a.set = b.set) : a = b :=
  eq_of_members (valid_iff.mp ha) (valid_iff.mp hb) h

theorem Valid.eq_zero_iff {a : LaneMask} (ha : a.Valid) : a = 0#8 ↔ a.set = ∅ :=
  BitMask.eq_zero_iff (valid_iff.mp ha)

@[simp] theorem set_zero : LaneMask.set 0#8 = ∅ := members_zero

@[simp] theorem set_and (a b : LaneMask) : LaneMask.set (a &&& b) = a.set ∩ b.set :=
  members_and a b

@[simp] theorem set_or (a b : LaneMask) : LaneMask.set (a ||| b) = a.set ∪ b.set :=
  members_or a b

theorem set_diff (a b : LaneMask) : LaneMask.set (a &&& ~~~b) = a.set \ b.set :=
  members_diff a b

end LaneMask

/-! ## Masks built lane by lane -/

theorem laneMaskOf_bit (p : Lane → Bool) (i : Nat) :
    (laneMaskOf p).getLsbD i = if h : i < frozenLaneCount then p ⟨i, h⟩ else false := by
  have hbit : ∀ b0 b1 b2 b3 : Bool, ∀ i < 8, ([(0, b0), (1, b1), (2, b2), (3, b3)].foldl
        (fun m (x : Nat × Bool) => if x.2 then m ||| 1#8 <<< x.1 else m) 0#8).getLsbD i =
        (([b0, b1, b2, b3][i]?).getD false) := by decide
  by_cases h8 : i < 8
  · have hp := hbit (p 0) (p 1) (p 2) (p 3) i h8
    refine Eq.trans ?_ (hp.trans ?_)
    · rfl
    · by_cases hi : i < frozenLaneCount
      · obtain rfl | rfl | rfl | rfl : i = 0 ∨ i = 1 ∨ i = 2 ∨ i = 3 := by
          have : i < 4 := hi
          omega
        all_goals rfl
      · rw [dif_neg hi, List.getElem?_eq_none (by simpa using hi), Option.getD_none]
  · have hi : ¬ i < frozenLaneCount := fun h => h8 (Nat.lt_trans h (by decide))
    rw [dif_neg hi]
    exact BitVec.getLsbD_of_ge _ i (Nat.le_of_not_lt h8)

theorem laneMaskOf_valid (p : Lane → Bool) : (laneMaskOf p).Valid := by
  rw [LaneMask.valid_iff]
  intro i hi
  rw [laneMaskOf_bit, dif_neg (Nat.not_lt.mpr hi)]

theorem laneMaskOf_set (p : Lane → Bool) :
    (laneMaskOf p).set = Finset.univ.filter fun lane => p lane = true := by
  ext lane
  simp [LaneMask.set, laneMaskOf_bit]

/-! ## Decision lane and population count -/

theorem highestActiveLane_active (h : highestActiveLane m = some lane) : m.active lane = true := by
  exact List.find?_some (p := fun l : Lane => m.active l) h

theorem highestActiveLane_isSome {m : LaneMask} (hm : m.Valid) (h : m ≠ 0#8) :
    ∃ lane, highestActiveLane m = some lane := by
  have hne : m.set.Nonempty := by
    rw [Finset.nonempty_iff_ne_empty]
    exact fun he => h (hm.eq_zero_iff.mpr he)
  obtain ⟨lane, hl⟩ := hne
  have hall : ∀ l : Lane, l ∈ ([3, 2, 1, 0] : List Lane) := by decide
  have hsome : (highestActiveLane m).isSome = true :=
    List.find?_isSome.mpr ⟨lane, hall lane, LaneMask.mem_set.mp hl⟩
  exact Option.isSome_iff_exists.mp hsome

theorem decisionLane_active {m : LaneMask} (hm : m.Valid) (h : m ≠ 0#8) :
    m.active (decisionLane m) = true := by
  obtain ⟨lane, hl⟩ := highestActiveLane_isSome hm h
  rw [decisionLane, hl]
  exact highestActiveLane_active hl

theorem LaneMask.mem_lanes {m : LaneMask} : lane ∈ m.lanes ↔ m.active lane = true := by
  simp [LaneMask.lanes]

theorem popCount_eq_card (m : LaneMask) : popCount m = m.set.card := by
  have hset : m.set = m.lanes.toFinset := by
    ext lane
    rw [List.mem_toFinset, LaneMask.mem_lanes, LaneMask.mem_set]
  have hnodup : m.lanes.Nodup := (List.nodup_finRange _).filter _
  rw [hset, List.toFinset_card_of_nodup hnodup, popCount, List.countP_eq_length_filter]
  rfl

theorem LaneMask.active_and (a b : LaneMask) (lane : Nat) :
    (a &&& b).active lane = (a.active lane && b.active lane) := by
  unfold LaneMask.active
  rw [BitVec.getLsbD_and]
  cases decide (lane < frozenLaneCount) <;> rfl

theorem LaneMask.active_or (a b : LaneMask) (lane : Nat) :
    (a ||| b).active lane = (a.active lane || b.active lane) := by
  unfold LaneMask.active
  rw [BitVec.getLsbD_or]
  cases decide (lane < frozenLaneCount) <;> rfl

theorem LaneMask.active_zero (lane : Nat) : LaneMask.active 0#8 lane = false := by
  unfold LaneMask.active
  simp

end VortexSim
