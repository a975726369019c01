import VortexSim.Lib.BitOwner
import VortexSim.Timing.Issue

/-!
# The scoreboard and its ledger

The busy and special bits of a warp belong to the reservations of the warp, each bit to exactly
one.  A staged micro operation that is registered as eligible is free of the bits of its warp and
finds a credit: eligibility is computed with the new bits and with the credits before the edge,
one below the limit, and at most one micro operation is issued at an edge.
-/

namespace VortexSim.Timing

open Checked Elastic

/-! ## Bits of registers -/

theorem getLsbD_registerBit (d i : Fin 64) : (registerBit d).getLsbD i.val = decide (d = i) := by
  unfold registerBit
  rw [BitVec.getLsbD_shiftLeft, BitVec.getLsbD_one, decide_eq_true i.isLt]
  by_cases hlt : i.val < d.val
  · have hne : ¬ d = i := fun h => by
      rw [h] at hlt
      exact Nat.lt_irrefl _ hlt
    rw [decide_eq_true hlt, decide_eq_false hne]
    rfl
  · rw [decide_eq_false hlt]
    by_cases heq : d = i
    · subst heq
      simp
    · have hne : i.val - d.val ≠ 0 := fun h => heq (Fin.ext (by omega))
      rw [decide_eq_false heq, decide_eq_false hne]
      rfl

theorem getLsbD_reserved {t : Token} :
    t.reserved.getLsbD i.val = true ↔ t.writeback = true ∧ t.destination = i := by
  unfold Token.reserved
  split
  · rename_i hwriteback
    rw [getLsbD_registerBit, decide_eq_true_eq]
    exact (and_iff_right hwriteback).symm
  · rename_i hwriteback
    exact iff_of_false (by rw [BitVec.getLsbD_zero]; exact Bool.false_ne_true)
      fun h => hwriteback h.1

theorem not_and_eq_zero {b : BitVec n} (ha : a.getLsbD i = true) (hb : b.getLsbD i = true) :
    a &&& b ≠ 0#n := by
  intro h
  have hbit := congrArg (BitVec.getLsbD · i) h
  simp only [BitVec.getLsbD_and, BitVec.getLsbD_zero, ha, hb] at hbit
  cases hbit

/-! ## Stems -/

/-- What reservation and writeback agree on: not the reads of a pass or the lanes of a response. -/
def Token.stem (t : Token) : Token :=
  { t with readMask := 0#3, lastRead := false, mask := 0#8, last := false }

theorem Token.identity_of_stem {a b : Token} (h : a.stem = b.stem) : a.identity = b.identity := by
  have hidentity : a.stem.identity = b.stem.identity := by rw [h]
  exact hidentity

/-- A stem keeps what a token reserves. -/
theorem Token.reserves_of_stem {a b : Token} (h : a.stem = b.stem) :
    a.warp = b.warp ∧ a.reserved = b.reserved ∧ a.writeSpecial = b.writeSpecial := by
  have hwarp : a.stem.warp = b.stem.warp := by rw [h]
  have hbits : a.stem.reserved = b.stem.reserved := by rw [h]
  have hflags : a.stem.writeSpecial = b.stem.writeSpecial := by rw [h]
  exact ⟨hwarp, hbits, hflags⟩

namespace Scoreboard

/-- The writeback of a last result belongs to the reservation that it gives back. -/
def Answers (s : Scoreboard) (writeback : Signal) : Prop :=
  ∀ t ∈ writeback, t.last = true → ∃ old,
    s.reservations.find? (fun r => decide (r.identity = t.identity)) = some old ∧ old.stem = t.stem

/-- Busy bits and credits are those of the reservations. -/
structure Sound (s : Scoreboard) : Prop where
  busy : BitOwner.Exact Token.warp Token.reserved s.reservations s.busy
  special : BitOwner.Exact Token.warp Token.writeSpecial s.reservations s.special
  nonzero : ∀ t ∈ s.reservations, t.writeback = true → t.destination ≠ 0
  staged : ∀ w, ∀ t ∈ (s.staging w).queue, t.warp = w ∧ (t.writeback = true → t.destination ≠ 0)
  eligible : ∀ w, s.ready w = true → ∀ t ∈ (s.staging w).queue,
    s.busy w &&& t.dependencyMask = 0#64 ∧
      s.special w &&& (t.readSpecial ||| t.writeSpecial) = 0#2 ∧ s.credits t.unit < creditLimit
  bounded : ∀ k, s.credits k ≤ creditLimit

/-! ## Release -/

variable {s : Scoreboard} {writeback : Signal}

/-- A release leaves the scoreboard, or takes one reservation with its bits. -/
theorem release_cases (h : s.release writeback = .ok s₁) :
    (s₁ = s ∧ ∀ t ∈ writeback, t.last = false) ∨ ∃ t ∈ writeback, t.last = true ∧ s₁ =
        { s with
          reservations := s.reservations.eraseP fun old => decide (old.identity = t.identity)
          busy := Function.update s.busy t.warp (s.busy t.warp &&& ~~~t.reserved)
          special := Function.update s.special t.warp
            (s.special t.warp &&& ~~~t.writeSpecial) } := by
  unfold release at h
  cases hlast : writeback.filter fun t => t.last with
  | none =>
    rw [hlast] at h
    cases h
    refine .inl ⟨rfl, fun t ht => ?_⟩
    obtain rfl := ht
    simpa using hlast
  | some t =>
    rw [hlast] at h
    obtain ⟨hsome, ht⟩ := Option.filter_eq_some_iff.mp hlast
    simp only [ok_iff] at h
    exact .inr ⟨t, hsome, ht, h.2.2.symm⟩

/-- A release does not touch the credits. -/
theorem release_credits (h : s.release writeback = .ok s₁) :
    s₁.creditTokens = s.creditTokens ∧ s₁.credits = s.credits := by
  rcases release_cases h with ⟨rfl, -⟩ | ⟨t, -, -, rfl⟩
  · exact ⟨rfl, rfl⟩
  · exact ⟨rfl, rfl⟩

/-- Clearing bits frees nothing that was not free. -/
theorem and_update_eq_zero {w : Fin 4} {x : BitVec n} (h : bits w &&& m = 0#n) :
    Function.update bits k (bits k &&& ~~~x) w &&& m = 0#n := by
  by_cases hw : w = k
  · subst hw
    rw [Function.update_self, BitVec.and_assoc, BitVec.and_comm (~~~x) m, ← BitVec.and_assoc, h,
      BitVec.zero_and]
  · rw [Function.update_of_ne hw]
    exact h

/-- What a release keeps. -/
structure Released (s released : Scoreboard) : Prop where
  busy : BitOwner.Exact Token.warp Token.reserved released.reservations released.busy
  special : BitOwner.Exact Token.warp Token.writeSpecial released.reservations released.special
  sublist : released.reservations.Sublist s.reservations
  busyFree : ∀ w m, s.busy w &&& m = 0#64 → released.busy w &&& m = 0#64
  specialFree : ∀ w m, s.special w &&& m = 0#2 → released.special w &&& m = 0#2

theorem Sound.released (hs : s.Sound) (hans : s.Answers writeback)
    (h : s.release writeback = .ok s₁) : Released s s₁ := by
  rcases release_cases h with ⟨rfl, -⟩ | ⟨t, ht, hlast, rfl⟩
  · exact ⟨hs.busy, hs.special, List.Sublist.refl _, fun _ _ h => h, fun _ _ h => h⟩
  · obtain ⟨old, hfind, hstem⟩ := hans t ht hlast
    obtain ⟨hwarp, hbits, hflags⟩ := Token.reserves_of_stem hstem
    refine ⟨?_, ?_, List.eraseP_sublist, fun _ _ h => and_update_eq_zero h,
      fun _ _ h => and_update_eq_zero h⟩
    · have herase := hs.busy.erase hfind
      rwa [hwarp, hbits] at herase
    · have herase := hs.special.erase hfind
      rwa [hwarp, hflags] at herase

/-! ## Issue -/

variable {r : ScoreboardResult}

/-- Only an eligible staged micro operation is issued. -/
theorem issuing_staged (h : s.issuing downstream = some t) :
    ∃ w, s.ready w = true ∧ t ∈ (s.staging w).queue := by
  obtain ⟨w, -, hw⟩ := Option.bind_eq_some_iff.mp (gated_eq_some h).2
  obtain ⟨hready, hhead⟩ := gated_eq_some hw
  exact ⟨w, hready, List.mem_of_mem_head? hhead⟩

/-- An issued micro operation is free of all reservations of its warp and finds a credit. -/
theorem Sound.issuing_free (hs : s.Sound) (h : s.issuing downstream = some t) :
    s.busy t.warp &&& t.dependencyMask = 0#64 ∧
      s.special t.warp &&& (t.readSpecial ||| t.writeSpecial) = 0#2 ∧
      s.credits t.unit < creditLimit ∧ (t.writeback = true → t.destination ≠ 0) := by
  obtain ⟨w, hready, hstaged⟩ := issuing_staged h
  obtain ⟨hbusy, hspecial, hcredit⟩ := hs.eligible w hready t hstaged
  obtain ⟨hwarp, hnonzero⟩ := hs.staged w t hstaged
  rw [hwarp]
  exact ⟨hbusy, hspecial, hcredit, hnonzero⟩

theorem and_eq_zero_of_or {c : BitVec n} (h : a &&& (b ||| c) = 0#n) :
    a &&& b = 0#n ∧ a &&& c = 0#n := by
  constructor <;>
  · apply BitVec.eq_of_getLsbD_eq
    intro i _
    have hbit := congrArg (BitVec.getLsbD · i) h
    simp only [BitVec.getLsbD_and, BitVec.getLsbD_or, BitVec.getLsbD_zero] at hbit ⊢
    cases ha : a.getLsbD i <;> simp_all

/-- The destination is one of the registers that must be free. -/
theorem and_reserved_eq_zero {t : Token} (h : a &&& t.dependencyMask = 0#64) :
    a &&& t.reserved = 0#64 := by
  exact (and_eq_zero_of_or (and_eq_zero_of_or (and_eq_zero_of_or h).1).1).1

/-- The bits stay exact when an issued micro operation is entered in the ledger. -/
theorem reserve_exact (issued : Signal)
    (hbusy : BitOwner.Exact Token.warp Token.reserved s.reservations s.busy)
    (hspecial : BitOwner.Exact Token.warp Token.writeSpecial s.reservations s.special)
    (hfree : ∀ t ∈ issued, s.busy t.warp &&& t.reserved = 0#64 ∧
      s.special t.warp &&& t.writeSpecial = 0#2) :
    BitOwner.Exact Token.warp Token.reserved (s.reserve issued).reservations
      (s.reserve issued).busy ∧
      BitOwner.Exact Token.warp Token.writeSpecial (s.reserve issued).reservations
        (s.reserve issued).special := by
  cases issued with
  | none => exact ⟨hbusy, hspecial⟩
  | some t =>
    obtain ⟨hreserved, hflags⟩ := hfree t rfl
    exact ⟨hbusy.insert t hreserved, hspecial.insert t hflags⟩

theorem reserve_reservations (issued : Signal) :
    (s.reserve issued).reservations = s.reservations ++ issued.toList := by
  cases issued with
  | none => exact (List.append_nil _).symm
  | some t => rfl

/-- The credits of a class after an edge. -/
theorem settled_credits (s : Scoreboard) (issued : Signal) (releases : Fin 4 → Bool) (c : Fin 4) :
    ((s.reserve issued).giveBack releases).credits c =
      s.credits c + (issued.toList.filter fun t => t.unit = c).length -
        (if releases c then 1 else 0) := by
  have hreserve : (s.reserve issued).credits c =
      s.credits c + (issued.toList.filter fun t => t.unit = c).length := by
    cases issued with
    | none => rfl
    | some t =>
      by_cases hc : t.unit = c
      · subst hc
        rw [Option.toList_some, List.filter_cons, decide_eq_true rfl]
        exact Function.update_self ..
      · rw [Option.toList_some, List.filter_cons, decide_eq_false hc]
        exact Function.update_of_ne (Ne.symm hc) ..
  unfold giveBack
  dsimp only
  rw [hreserve]
  cases releases c <;> rfl

/-- At most the one micro operation that is issued takes a credit. -/
theorem settled_credits_le (s : Scoreboard) (issued : Signal) (releases : Fin 4 → Bool)
    (c : Fin 4) : ((s.reserve issued).giveBack releases).credits c ≤ s.credits c + 1 ∧
      ((∀ t ∈ issued, t.unit ≠ c) →
        ((s.reserve issued).giveBack releases).credits c ≤ s.credits c) := by
  rw [settled_credits]
  cases issued with
  | none =>
    rw [Option.toList_none, List.filter_nil, List.length_nil]
    exact ⟨by omega, fun _ => by omega⟩
  | some t =>
    rw [Option.toList_some, List.filter_cons, List.filter_nil]
    refine ⟨?_, fun hother => ?_⟩
    · have hshort : (if decide (t.unit = c) = true then [t] else []).length ≤ 1 := by
        split
        · exact Nat.le_refl 1
        · exact Nat.zero_le 1
      omega
    · rw [decide_eq_false (hother t rfl), if_neg Bool.false_ne_true, List.length_nil]
      omega

/-! ## The edge -/

/-- An edge of the scoreboard. -/
theorem evaluate_eq_ok (h : s.evaluate inputs writeback downstream releases enabled = .ok (r, s')) :
    (∀ w, ∀ t ∈ inputs w, t.warp = w ∧ (t.writeback = true → t.destination ≠ 0)) ∧
    ∃ s₁, s.release writeback = .ok s₁ ∧ r.issued = s.issuing downstream ∧
      (∀ w, r.ready w = (s.stage inputs downstream w).1.inputReady) ∧
      s' = { (s₁.reserve (s.issuing downstream)).giveBack releases with
        out := (s.arbitrate downstream).2
        staging := fun w => (s.stage inputs downstream w).2
        ready := fun w =>
          enabled && ((s₁.reserve (s.issuing downstream)).giveBack releases).eligible
          s.credits w (s.candidate inputs downstream w) } := by
  unfold evaluate at h
  simp only [ok_iff, Prod.mk.injEq] at h
  obtain ⟨hinputs, -, s₁, hrelease, -, rfl, rfl⟩ := h
  refine ⟨fun w t ht => ?_, s₁, hrelease, rfl, fun _ => rfl, rfl⟩
  have hw : checkInput inputs w = .ok () := each_apply hinputs (List.mem_finRange w)
  unfold checkInput at hw
  rw [ht] at hw
  simp only [ok_iff, validateDependencies, ne_eq, not_not, not_and] at hw
  exact ⟨hw.2, hw.1⟩

/-- After the edge the candidate is the staged micro operation, if there is one. -/
theorem candidate_eq (ht : t ∈ (s.stage inputs downstream w).2.queue) :
    s.candidate inputs downstream w = t := by
  unfold candidate
  rw [stage, Buffer.register_eq ht, Option.getD_some]

/-- The credits stay within the limit. -/
theorem Sound.settled_bounded (hs : s.Sound) (h : s.release writeback = .ok s₁) (k : Fin 4) :
    ((s₁.reserve (s.issuing downstream)).giveBack releases).credits k ≤ creditLimit := by
  have hold := hs.bounded k
  obtain ⟨hone, hnone⟩ := settled_credits_le s₁ (s.issuing downstream) releases k
  rw [(release_credits h).2] at hone hnone
  by_cases hissue : ∀ t ∈ s.issuing downstream, t.unit ≠ k
  · exact (hnone hissue).trans hold
  · -- the issued micro operation was staged with a credit to spare
    simp only [not_forall, not_not] at hissue
    obtain ⟨t, ht, rfl⟩ := hissue
    have hspare := (hs.issuing_free ht).2.2.1
    omega

theorem evaluate_sound (hs : s.Sound) (hans : s.Answers writeback)
    (h : s.evaluate inputs writeback downstream releases enabled = .ok (r, s')) : s'.Sound := by
  obtain ⟨hinputs, s₁, hrelease, -, -, rfl⟩ := evaluate_eq_ok h
  have hfree := hs.released hans hrelease
  have hissue : ∀ t ∈ s.issuing downstream, s₁.busy t.warp &&& t.reserved = 0#64 ∧
      s₁.special t.warp &&& t.writeSpecial = 0#2 := by
    intro t ht
    obtain ⟨hbusy, hspecial, -⟩ := hs.issuing_free ht
    exact ⟨hfree.busyFree _ _ (and_reserved_eq_zero hbusy),
      hfree.specialFree _ _ (and_eq_zero_of_or hspecial).2⟩
  obtain ⟨hbusy, hspecial⟩ := reserve_exact (s.issuing downstream) hfree.busy hfree.special hissue
  refine ⟨hbusy, hspecial, fun t ht => ?_, fun w t ht => ?_, fun w hready t ht => ?_,
    hs.settled_bounded hrelease⟩
  · have hmem : t ∈ s₁.reservations ++ (s.issuing downstream).toList := by
      rw [← reserve_reservations]
      exact ht
    rcases List.mem_append.mp hmem with hold | hnew
    · exact hs.nonzero t (hfree.sublist.subset hold)
    · exact (hs.issuing_free (Option.mem_toList.mp hnew)).2.2.2
  · rcases Buffer.mem_of_mem_evaluate ht with hold | hnew
    · exact hs.staged w t hold
    · exact hinputs w t hnew
  · -- the registered bit was computed for the candidate, which is now staged
    have hcandidate := candidate_eq ht
    dsimp only at hready
    rw [hcandidate, Bool.and_eq_true] at hready
    have heligible := hready.2
    unfold Scoreboard.eligible at heligible
    simp only [Bool.and_eq_true, decide_eq_true_eq] at heligible
    obtain ⟨⟨⟨hbits, hflags⟩, hcredit⟩, -⟩ := heligible
    refine ⟨hbits, hflags, ?_⟩
    have hgrow : ((s₁.reserve (s.issuing downstream)).giveBack releases).credits t.unit ≤
        s.credits t.unit + 1 := by
      rw [← (release_credits hrelease).2]
      exact (settled_credits_le s₁ (s.issuing downstream) releases t.unit).1
    dsimp only
    omega

end Scoreboard

end VortexSim.Timing
