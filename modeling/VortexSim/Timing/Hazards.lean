import VortexSim.Timing.Faults

/-!
# Hazards and credits over whole runs

In every state that a core can reach, the registers of the scoreboard say exactly what is
reserved, no two micro operations in the pipeline reserve the same register or flag, and the
credits of a class count the micro operations on their way to its unit.
-/

namespace VortexSim.Timing

open Checked Elastic

namespace Core

/-! ## What the registers mean -/

/-- Two micro operations share a destination or a flag. -/
def Overlap (a b : Token) : Prop :=
  (a.writeback = true ∧ b.writeback = true ∧ a.destination = b.destination) ∨
    a.writeSpecial &&& b.writeSpecial ≠ 0#2

/-- A reserved micro operation stands in the way of another one. -/
def Blocks (old t : Token) : Prop :=
  (old.writeback = true ∧ ((t.writeback = true ∧ old.destination = t.destination) ∨
      ∃ i : Fin 3, t.used.getLsbD i.val = true ∧ old.destination = t.sources i)) ∨
    old.writeSpecial &&& (t.readSpecial ||| t.writeSpecial) ≠ 0#2

/-- The guarantees of the scoreboard, the operand collector and the dispatch queues. -/
structure HazardFree (c : Core) : Prop where
  /-- A busy bit is the destination of a reservation. -/
  busy : ∀ w (i : Fin 64), (c.front.issue.busy w).getLsbD i.val = true ↔
    ∃ t ∈ c.front.issue.reservations, t.warp = w ∧ t.writeback = true ∧ t.destination = i
  /-- A special bit is a flag of a reservation. -/
  special : ∀ w (i : Fin 2), (c.front.issue.special w).getLsbD i.val = true ↔
    ∃ t ∈ c.front.issue.reservations, t.warp = w ∧ t.writeSpecial.getLsbD i.val = true
  /-- The reservations of a warp are disjoint. -/
  disjoint : c.front.issue.reservations.Pairwise fun a b => a.warp = b.warp → ¬ Overlap a b
  /-- The reservations are the micro operations in the pipeline. -/
  ledger : (c.front.issue.reservations.map Token.stem).Perm (c.live.map Token.stem)
  /-- What is issued is not blocked by a reservation of its warp. -/
  issue : ∀ {input : CoreInputs} {r : CoreReport} {c' : Core}, c.evaluate input = .ok (r, c') →
    ∀ t ∈ r.front.issued, ∀ old ∈ c.front.issue.reservations, old.warp = t.warp → ¬ Blocks old t
  /-- The credits of a class are the micro operations on their way to its unit, in order. -/
  credits : ∀ k, (c.front.issue.creditTokens k).map Token.plain =
    (c.front.flight k).map Token.plain ∧
    c.front.issue.credits k = (c.front.flight k).length ∧ (c.front.flight k).length ≤ creditLimit
  /-- The dispatch queue of an issued micro operation is ready for it. -/
  dispatch : ∀ t ∈ c.front.path, ∀ downstream,
    (c.front.dispatch.queues t.unit).ready downstream = true

/-! ## What blocks a micro operation -/

/-- A used register other than zero is among the registers that must be free. -/
theorem getLsbD_dependencyMask {t : Token} (h : (t.writeback = true ∧ t.destination = i) ∨
      ∃ j : Fin 3, t.used.getLsbD j.val = true ∧ t.sources j ≠ 0 ∧ t.sources j = i) :
    t.dependencyMask.getLsbD i.val = true := by
  unfold Token.dependencyMask
  rw [BitVec.getLsbD_or, BitVec.getLsbD_or, BitVec.getLsbD_or]
  rcases h with hdest | ⟨j, hused, hnonzero, rfl⟩
  · rw [getLsbD_reserved.mpr hdest]
    rfl
  · have hbit : (t.sourceBit j).getLsbD (t.sources j).val = true := by
      unfold Token.sourceBit
      rw [if_pos ⟨hused, hnonzero⟩, getLsbD_registerBit, decide_eq_true rfl]
    match j, hbit with
    | 0, hbit => rw [hbit, Bool.or_true, Bool.true_or, Bool.true_or]
    | 1, hbit => rw [hbit, Bool.or_true, Bool.true_or]
    | 2, hbit => rw [hbit, Bool.or_true]

/-- What is apart from the registers that must be free does not block. -/
theorem not_blocks {old : Token} (hnonzero : old.writeback = true → old.destination ≠ 0)
    (hbits : old.reserved &&& t.dependencyMask = 0#64)
    (hflags : old.writeSpecial &&& (t.readSpecial ||| t.writeSpecial) = 0#2) : ¬ Blocks old t := by
  rintro (⟨hwriteback, hregister⟩ | hspecial)
  · have howned : old.reserved.getLsbD old.destination.val = true :=
      getLsbD_reserved.mpr ⟨hwriteback, rfl⟩
    refine not_and_eq_zero howned (getLsbD_dependencyMask ?_) hbits
    rcases hregister with ⟨hdest, heq⟩ | ⟨j, hused, heq⟩
    · exact .inl ⟨hdest, heq.symm⟩
    · exact .inr ⟨j, hused, heq ▸ hnonzero hwriteback, heq.symm⟩
  · exact hspecial hflags

/-! ## The guarantees -/

/-- The guarantees hold wherever the ledgers agree with the pipeline. -/
theorem Sound.free_of_hazards {c : Core} (hs : c.Sound) : c.HazardFree := by
  have hflight : ∀ k, c.front.issue.credits k = (c.front.flight k).length := by
    intro k
    obtain ⟨hledger, hcount⟩ := hs.credited k
    have hlength := congrArg List.length hledger
    rw [List.length_map, List.length_map] at hlength
    rw [hcount, hlength]
  have hbound : ∀ k, (c.front.flight k).length ≤ creditLimit := by
    intro k
    rw [← hflight]
    exact hs.scoreboard.bounded k
  refine ⟨fun w i => ?_, fun w i => hs.scoreboard.special.mem_iff w i.val, ?_, ?_, ?_, ?_, ?_⟩
  · rw [hs.scoreboard.busy.mem_iff w i.val]
    simp only [getLsbD_reserved]
  · refine (hs.scoreboard.busy.pairwise.and hs.scoreboard.special.pairwise).imp ?_
    rintro a b ⟨hbusy, hspecial⟩ hwarp (⟨ha, hb, heq⟩ | hflag)
    · exact not_and_eq_zero (getLsbD_reserved.mpr ⟨ha, rfl⟩)
        (getLsbD_reserved.mpr ⟨hb, heq.symm⟩) (hbusy hwarp)
    · exact hflag (hspecial hwarp)
  · refine List.perm_iff_count.mpr fun k => ?_
    rw [List.count_eq_countP, List.count_eq_countP, List.countP_map, List.countP_map]
    exact (hs.ledger k).symm
  · intro input r c' hedge t ht old hold hwarp
    obtain ⟨e⟩ := evaluate_edge hedge
    obtain ⟨ef⟩ := Frontend.evaluate_edge e.front
    rw [ef.issued_eq] at ht
    obtain ⟨hbits, hflags, -⟩ := hs.scoreboard.issuing_free ht
    rw [← hwarp] at hbits hflags
    exact not_blocks (hs.scoreboard.nonzero old hold) (hs.scoreboard.busy.apart hold hbits)
      (hs.scoreboard.special.apart hold hflags)
  · exact fun k => ⟨(hs.credited k).1, hflight k, hbound k⟩
  · intro t ht downstream
    have hmem : t ∈ c.front.path.filter fun x => x.unit = t.unit :=
      List.mem_filter.mpr ⟨ht, decide_eq_true rfl⟩
    have hpos := List.length_pos_of_mem hmem
    have hall := hbound t.unit
    unfold Frontend.flight at hall
    rw [List.length_append] at hall
    have hroom : (c.front.dispatch.queues t.unit).queue.length < 4 := by
      unfold creditLimit at hall
      omega
    exact decide_eq_true hroom

theorem Reachable.hazardFree {c : Core} (h : c.Reachable) : c.HazardFree := h.sound.free_of_hazards

theorem sample_hazardFree : ∃ c : Core,
    (c.front.issue.reservations.map Token.id, c.front.issue.credits 0) = ([1, 2], 2) ∧
      c.HazardFree := by
  have hseen : sampleCore.toOption.map (fun c =>
      (c.front.issue.reservations.map Token.id, c.front.issue.credits 0)) = some ([1, 2], 2) := by
    decide +kernel
  obtain ⟨c, hcore, hvalue⟩ := Option.map_eq_some_iff.mp hseen
  exact ⟨c, hvalue, Reachable.hazardFree (sampleCore_reachable hcore)⟩

end Core

end VortexSim.Timing
