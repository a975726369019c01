import VortexSim.Timing.Core
import VortexSim.Timing.Flow
import VortexSim.Timing.Identity

/-!
# The ledger of the scoreboard

The reservations of the scoreboard are exactly the micro operations between issue and the end of
their writeback, wherever they are in the pipeline.  A writeback that ends a micro operation
therefore gives back its own reservation, which keeps the busy bits exact.
-/

namespace VortexSim.Timing

open Checked Elastic

/-! ## Front end -/

namespace Frontend

/-- Every decoded token before issue has the property. -/
structure Lanes (P : Token → Prop) (f : Frontend) : Prop where
  ibuf : ∀ w, ∀ t ∈ (f.ibuf w).queue, P t
  active : ∀ w, ∀ t ∈ (f.seq w).active, P t
  staging : ∀ w, ∀ t ∈ (f.issue.staging w).queue, P t

/-- Before execution every token is a whole micro operation. -/
structure Ended (f : Frontend) : Prop where
  ibuf : ∀ w, ∀ t ∈ (f.ibuf w).queue, t.last = true
  active : ∀ w, ∀ t ∈ (f.seq w).active, t.last = true
  staging : ∀ w, ∀ t ∈ (f.issue.staging w).queue, t.last = true
  flight : ∀ c, ∀ t ∈ f.flight c, t.last = true

variable {f : Frontend}

theorem Edge.lanes (e : Edge f input r f') (hdecode : ∀ t d, decodeToken t = .ok d → P d)
    (huop : ∀ x : Token, P x → ∀ u v, P { x with uop := u, uops := v }) (hf : f.Lanes P) :
    f'.Lanes P := by
  have hseq : ∀ w, (∀ t ∈ f.uops w, P t) ∧ ∀ t ∈ (f'.seq w).active, P t :=
    fun w => Sequencer.evaluate_all huop
      (fun t ht => hf.ibuf w t (List.mem_of_mem_head? ht)) (hf.active w) (e.seq w)
  refine ⟨fun w t ht => ?_, fun w => (hseq w).2, fun w t ht => ?_⟩
  · rw [e.ibuf] at ht
    rcases Buffer.mem_of_mem_evaluate ht with hold | hnew
    · exact hf.ibuf w t hold
    · obtain ⟨x, -, hx⟩ := decodeSignal_mem e.decode (Option.filter_eq_some_iff.mp hnew).1
      exact hdecode x t hx
  · obtain ⟨-, s₁, -, -, -, hs'⟩ := Scoreboard.evaluate_eq_ok e.issue
    rw [hs'] at ht
    rcases Buffer.mem_of_mem_evaluate ht with hold | hnew
    · exact hf.staging w t hold
    · exact (hseq w).1 t hnew

theorem Edge.issued_staged (e : Edge f input r f') (ht : t ∈ r.issued) :
    ∃ w, t ∈ (f.issue.staging w).queue := by
  rw [e.issued_eq] at ht
  obtain ⟨w, -, hw⟩ := Scoreboard.issuing_staged ht
  exact ⟨w, hw⟩

theorem Edge.ended (e : Edge f input r f') (hf : f.Ended) : f'.Ended := by
  have hlanes := e.lanes (P := fun t => t.last = true)
    (fun _ _ h => (decodeToken_instruction h).2) (fun _ h _ _ => h) ⟨hf.ibuf, hf.active, hf.staging⟩
  refine ⟨hlanes.ibuf, hlanes.active, hlanes.staging, fun c t ht => ?_⟩
  · have hmem : t.plain ∈
        (f.flight c ++ r.issued.toList.filter fun t => t.unit = c).map Token.plain := by
      rw [e.flight_eq]
      exact List.mem_map_of_mem (List.mem_append_right _ ht)
    obtain ⟨old, hold, hplain⟩ := List.mem_map.mp hmem
    have hlast : old.plain.last = t.plain.last := by rw [hplain]
    have hkeep : t.last = old.last := hlast.symm
    rw [hkeep]
    rcases List.mem_append.mp hold with hflight | hissued
    · exact hf.flight c old hflight
    · obtain ⟨w, hw⟩ := e.issued_staged (Option.mem_toList.mp (List.mem_filter.mp hissued).1)
      exact hf.staging w old hw

/-- A split instruction is at the head of the buffer of its warp. -/
def Linked (f : Frontend) : Prop := ∀ w, (f.seq w).Linked (f.ibuf w).queue

theorem Edge.linked (e : Edge f input r f') (hf : f.Linked) : f'.Linked := by
  intro w
  rw [e.ibuf]
  exact Sequencer.evaluate_linked _ (hf w) (e.seq w)

/-- The units take from the classes what the front end counts out. -/
theorem Edge.flight_countP (e : Edge f input r f') (p : Token → Bool) (hp : ∀ t, p t.plain = p t) :
    ∑ c, (f.flight c).countP p + r.issued.toList.countP p =
      ∑ c, (crossing (f.dispatch.outputs c) (input.downstream c)).countP p +
        ∑ c, (f'.flight c).countP p := by
  have hcount : ∀ l : List Token, (l.map Token.plain).countP p = l.countP p := by
    intro l
    rw [List.countP_map]
    exact congrArg (l.countP ·) (funext hp)
  have hclass : ∀ c, (f.flight c).countP p + (r.issued.toList.filter fun t => t.unit = c).countP p =
      (crossing (f.dispatch.outputs c) (input.downstream c)).countP p + (f'.flight c).countP p := by
    intro c
    have h := congrArg (List.countP p) (e.flight_eq c)
    rwa [hcount, hcount, List.countP_append, List.countP_append] at h
  have hissued : ∑ c, (r.issued.toList.filter fun t => decide (t.unit = c)).countP p =
      r.issued.toList.countP p := by
    cases r.issued with
    | none => simp
    | some t =>
      rw [Finset.sum_eq_single t.unit]
      · rw [Option.toList_some, List.filter_cons, decide_eq_true rfl]
        rfl
      · intro c _ hne
        rw [Option.toList_some, List.filter_cons, decide_eq_false hne.symm]
        rfl
      · exact fun h => absurd (Finset.mem_univ _) h
  rw [← hissued, ← Finset.sum_add_distrib, ← Finset.sum_add_distrib]
  exact Finset.sum_congr rfl fun c _ => hclass c

end Frontend

/-! ## The core -/

namespace Core

/-- The issued micro operations that have not ended their writeback. -/
def live (c : Core) : List Token :=
  ((List.finRange 4).flatMap fun k => c.front.flight k) ++ c.lsu.held ++
    (c.alu.residents ++ c.sfu.residents ++ c.fpu.held ++ c.commit.out.queue).filter Token.last

/-- The live tokens by unit; only last micro operations count past the dispatch. -/
theorem live_countP (c : Core) (p : Token → Bool) :
    c.live.countP p = ∑ k, (c.front.flight k).countP p + c.lsu.held.countP p +
      (c.alu.residents.countP (fun t => p t && t.last) +
        c.sfu.residents.countP (fun t => p t && t.last) +
        c.fpu.held.countP (fun t => p t && t.last) +
        c.commit.out.queue.countP fun t => p t && t.last) := by
  rw [live, List.countP_append, List.countP_append, List.countP_filter, List.countP_flatMap,
    Fin.sum_univ_def]
  simp only [List.countP_append]
  rfl

variable {c : Core}

/-- What was live and what is issued is what ends its writeback and what is live. -/
theorem Edge.live_countP (e : Edge c input r c') (hended : c.front.Ended)
    (hlast : ∀ t ∈ c.lsu.dispatch.queue, t.last = true) (hrouted : SFU.Routed c.sfu.dispatch.queue)
    (p : Token → Bool) (hp : ∀ t, p t.stem = p t) :
    c.live.countP p + r.front.issued.toList.countP p =
      ((c.commit.evaluate c.results).1.writeback.filter Token.last).toList.countP p +
        c'.live.countP p := by
  obtain ⟨ef⟩ := Frontend.evaluate_edge e.front
  have hplain : ∀ t : Token, p t.plain = p t := fun t => by rw [← hp t.plain, ← hp t]; rfl
  have hflight := ef.flight_countP p hplain
  have halu := ALU.evaluate_residents e.alu fun t => p t && t.last
  have hlsu := LSU.evaluate_held e.lsu hlast p fun x y => by
    rw [← hp, ← hp x.token]
    rfl
  have hsfu := SFU.evaluate_residents e.sfu hrouted fun t => p t && t.last
  have hfpu := STDFPU.evaluate_held e.fpu fun t => p t && t.last
  have hcommit := c.commit.evaluate_countP c.results fun t => p t && t.last
  -- what a unit takes is a whole micro operation
  have hwhole : ∀ k ready, (crossing (c.front.dispatch.outputs k) ready).countP
      (fun t => p t && t.last) = (crossing (c.front.dispatch.outputs k) ready).countP p := by
    intro k ready
    refine List.countP_congr fun t ht => ?_
    have hmem : t ∈ c.front.flight k :=
      List.mem_append_left _ (List.mem_of_mem_head? (mem_crossing ht))
    rw [hended.flight k t hmem, Bool.and_true]
  rw [hwhole] at halu hsfu hfpu
  rw [List.countP_filter] at hlsu
  rw [Option.toList_filter, List.countP_filter]
  rw [Fin.sum_univ_four] at hcommit
  rw [Core.live_countP, Core.live_countP, e.commit]
  have hunits : ∑ k, (crossing (c.front.dispatch.outputs k) (unitReady e.aluR.transfer
      e.lsuR.transfer e.sfuR.transfer e.fpuR.transfer k)).countP p =
      (crossing (c.front.dispatch.outputs 0) e.aluR.transfer.inputReady).countP p +
      (crossing (c.front.dispatch.outputs 1) e.lsuR.transfer.inputReady).countP p +
      (crossing (c.front.dispatch.outputs 2) e.sfuR.transfer.inputReady).countP p +
      (crossing (c.front.dispatch.outputs 3) e.fpuR.transfer.inputReady).countP p :=
    Fin.sum_univ_four _
  dsimp only at hflight
  dsimp only [results] at hcommit
  omega

/-- What holds between the operations on a core. -/
structure Sound (c : Core) : Prop where
  scoreboard : c.front.issue.Sound
  credited : c.front.Credited
  ended : c.front.Ended
  linked : c.front.Linked
  unique : ∀ m u, c.front.claims m u ≤ 1
  fresh : ∀ s ∈ c.front.scheduler, ∀ m u, s.nextID ≤ m.2.2 → c.front.claims m u = 0
  ledger : ∀ k, c.live.countP (fun t => decide (t.stem = k)) =
    c.front.issue.reservations.countP fun t => decide (t.stem = k)
  loads : ∀ t ∈ c.lsu.dispatch.queue, t.last = true
  routed : SFU.Routed c.sfu.dispatch.queue

theorem find?_of_countP_le_one {l : List Token} (h : l.countP p ≤ 1) (ht : t ∈ l)
    (hp : p t = true) : l.find? p = some t := by
  induction l with
  | nil => cases ht
  | cons x rest ih =>
    cases hx : p x with
    | true =>
      rw [List.find?_cons, hx]
      rcases List.mem_cons.mp ht with rfl | hrest
      · rfl
      · have hpos := List.countP_pos_iff.mpr ⟨t, hrest, hp⟩
        rw [List.countP_cons, hx, if_pos rfl] at h
        omega
    | false =>
      rw [List.find?_cons, hx]
      rw [List.countP_cons, hx, if_neg Bool.false_ne_true] at h
      rcases List.mem_cons.mp ht with rfl | hrest
      · rw [hx] at hp
        cases hp
      · exact ih h hrest

/-- A writeback that ends a micro operation belongs to its reservation. -/
theorem Sound.answers (h : c.Sound) :
    c.front.issue.Answers (c.commit.evaluate c.results).1.writeback := by
  intro t ht hlast
  have hout : t ∈ c.commit.out.queue := List.mem_of_mem_head? ht
  have hlive : t ∈ c.live := List.mem_append_right _
    (List.mem_filter.mpr ⟨List.mem_append_right _ hout, hlast⟩)
  have hpos : 0 < c.front.issue.reservations.countP fun x => decide (x.stem = t.stem) := by
    rw [← h.ledger]
    exact List.countP_pos_iff.mpr ⟨t, hlive, decide_eq_true rfl⟩
  obtain ⟨old, hold, hstem⟩ := List.countP_pos_iff.mp hpos
  have hsame : old.stem = t.stem := of_decide_eq_true hstem
  refine ⟨old, find?_of_countP_le_one ?_ hold (decide_eq_true (Token.identity_of_stem hsame)),
    hsame⟩
  -- the claims to the identity of the writeback are at most one
  have hone := h.unique t.instruction t.uop
  have hidentity : c.front.issue.reservations.countP (fun x => decide (x.identity = t.identity)) =
      c.front.issue.reservations.countP (Token.isUop t.instruction t.uop) := by
    refine List.countP_congr fun x _ => ?_
    simp only [Token.isUop, Token.identity, Token.instruction, Prod.mk.injEq, decide_eq_true_eq,
      Bool.and_eq_true]
    tauto
  unfold Frontend.claims at hone
  omega

/-! ## Fresh instructions -/

/-- Without a scheduler the caller names instructions that are not in the pipeline. -/
def Fresh (c : Core) (instruction : Signal) : Prop :=
  c.front.scheduler = none → ∀ t ∈ instruction, ∀ x ∈ c.residents, x.instruction ≠ t.instruction

theorem flight_subset_residents (h : t ∈ c.front.flight k) : t ∈ c.front.residents := by
  simp only [Frontend.flight, Frontend.path, Collector.contents, Frontend.residents,
    Collector.residents, List.mem_append, List.mem_filter, List.mem_flatMap] at h ⊢
  rcases h with hqueue | ⟨hpath, -⟩
  · exact .inr ⟨k, List.mem_finRange k, hqueue⟩
  · tauto

theorem live_subset_residents (h : t ∈ c.live) : t ∈ c.residents := by
  simp only [live, residents, List.mem_append, List.mem_filter, List.mem_flatMap] at h ⊢
  rcases h with (⟨k, -, hflight⟩ | hlsu) | ⟨((halu | hsfu) | hfpu) | hcommit, -⟩
  · exact .inl (.inl (.inl (.inl (.inl (flight_subset_residents hflight)))))
  · exact .inl (.inl (.inl (.inr (LSU.mem_residents_of_mem_held hlsu))))
  · exact .inl (.inl (.inl (.inl (.inr halu))))
  · exact .inl (.inl (.inr hsfu))
  · exact .inl (.inr (STDFPU.mem_residents_of_mem_held hfpu))
  · exact .inr hcommit

theorem front_subset_residents (h : t ∈ c.front.residents) : t ∈ c.residents := by
  simp only [residents, List.mem_append]
  exact .inl (.inl (.inl (.inl (.inl h))))

theorem lane_subset_residents (w : Fin 4) (h : t ∈ c.front.lane w) : t ∈ c.residents := by
  apply front_subset_residents
  simp only [Frontend.residents, List.mem_append, List.mem_flatMap]
  exact .inl (.inl (.inl (.inl (.inr ⟨w, List.mem_finRange w, h⟩))))

theorem Sequencer.mem_of_mem_waiting {s : Sequencer} (h : t ∈ s.waiting queue) : t ∈ queue := by
  unfold Sequencer.waiting at h
  split at h
  · exact List.mem_of_mem_tail h
  · exact h

theorem Sound.claims_eq_zero (h : c.Sound) {m : Fin 4 × Nat × Nat}
    (hnone : ∀ x ∈ c.residents, x.instruction ≠ m) (u : Nat) : c.front.claims m u = 0 := by
  have hzero : ∀ (l : List Token) (p : Token → Bool), (∀ t, p t = true → t.instruction = m) →
      (∀ t ∈ l, t ∈ c.residents) → l.countP p = 0 := fun l p hp hl =>
    List.countP_eq_zero.mpr fun t ht hpt => hnone t (hl t ht) (hp t hpt)
  have huop : ∀ t, Token.isUop m u t = true → t.instruction = m := fun t ht =>
    of_decide_eq_true (Bool.and_eq_true_iff.mp ht).1
  have hfrom : ∀ t, Token.fromUop m u t = true → t.instruction = m := fun t ht =>
    of_decide_eq_true (Bool.and_eq_true_iff.mp ht).1
  have hall : ∀ t, Token.isInstruction m t = true → t.instruction = m := fun t ht =>
    of_decide_eq_true ht
  have hledger : c.front.issue.reservations.countP (Token.isUop m u) = 0 := by
    refine List.countP_eq_zero.mpr fun t ht hpt => ?_
    have hpos : 0 < c.live.countP fun x => decide (x.stem = t.stem) := by
      rw [h.ledger]
      exact List.countP_pos_iff.mpr ⟨t, ht, decide_eq_true rfl⟩
    obtain ⟨x, hx, hstem⟩ := List.countP_pos_iff.mp hpos
    have hname : x.stem.instruction = t.stem.instruction := by rw [of_decide_eq_true hstem]
    exact hnone x (live_subset_residents hx) (hname.trans (huop t hpt))
  unfold Frontend.claims
  have hstaging := hzero (c.front.issue.staging m.1).queue _ huop fun t ht =>
    lane_subset_residents m.1 (List.mem_append_right _ ht)
  have hactive := hzero (c.front.seq m.1).active.toList _ hfrom fun t ht =>
    lane_subset_residents m.1 (List.mem_append_left _ (List.mem_append_right _ ht))
  have hwaiting := hzero ((c.front.seq m.1).waiting (c.front.ibuf m.1).queue) _ hall fun t ht =>
    lane_subset_residents m.1 (List.mem_append_left _
      (List.mem_append_left _ (Sequencer.mem_of_mem_waiting ht)))
  have htags := hzero c.front.fetch.tags.tokens _ hall fun t ht => front_subset_residents (by
    simp only [Frontend.residents, Fetch.residents, WaitPool.tokens, List.mem_append] at ht ⊢
    exact .inl (.inl (.inl (.inr (.inr ht)))))
  have hschedule := hzero c.front.schedule.queue _ hall fun t ht => front_subset_residents (by
    simp only [Frontend.residents, List.mem_append]
    exact .inl (.inl (.inl (.inl (.inl ht)))))
  rw [hledger, hstaging, hactive, hwaiting, htags, hschedule]

theorem scheduler_nextID {decode : Signal}
    (h : Frontend.stepScheduler (some s) scheduleReady fetched pops decode feedback =
      .ok scheduler) :
    ∃ s', scheduler = some s' ∧
      s'.nextID = if s.output.isSome && scheduleReady then s.nextID + 1 else s.nextID := by
  unfold Frontend.stepScheduler Scheduler.evaluate at h
  simp only [ok_iff, Prod.mk.injEq, Prod.exists] at h
  obtain ⟨_, s', ⟨-, -, -, -, rfl⟩, rfl⟩ := h
  exact ⟨_, rfl, rfl⟩

theorem scheduler_none {decode : Signal}
    (h : Frontend.stepScheduler none scheduleReady fetched pops decode feedback = .ok scheduler) :
    scheduler = none := by
  cases h
  rfl

theorem output_id {s : Scheduler} (h : t ∈ s.output) : t.id = s.nextID := by
  obtain ⟨w, -, rfl⟩ := Option.map_eq_some_iff.mp h
  rfl

/-- An instruction that enters the schedule buffer has no claims yet. -/
theorem Edge.scheduled_fresh (e : Edge c input r c') (h : c.Sound)
    (hfresh : c.Fresh input.instruction)
    {t : Token} (ht : t ∈ r.front.scheduled) (u : Nat) : c.front.claims t.instruction u = 0 := by
  obtain ⟨ef⟩ := Frontend.evaluate_edge e.front
  rw [ef.scheduled] at ht
  have hoffered := (gated_eq_some ht).2
  cases hscheduler : c.front.scheduler with
  | none =>
    unfold Frontend.offered at hoffered
    rw [hscheduler] at hoffered
    exact h.claims_eq_zero (hfresh hscheduler t hoffered) u
  | some s =>
    unfold Frontend.offered at hoffered
    rw [hscheduler] at hoffered
    exact h.fresh s hscheduler t.instruction u (output_id hoffered).ge

/-- The scheduler has not used the numbers from its next one on. -/
theorem Edge.claims_above (e : Edge c input r c') (h : c.Sound) {s' : Scheduler}
    (hs' : s' ∈ c'.front.scheduler) (u : Nat) (hm : s'.nextID ≤ m.2.2) :
    c'.front.claims m u = 0 := by
  obtain ⟨ef⟩ := Frontend.evaluate_edge e.front
  have hstep := ef.scheduler
  cases hscheduler : c.front.scheduler with
  | none =>
    rw [hscheduler] at hstep
    rw [scheduler_none hstep] at hs'
    cases hs'
  | some s =>
    rw [hscheduler] at hstep
    obtain ⟨s'', hsame, hnext⟩ := scheduler_nextID hstep
    rw [hsame] at hs'
    obtain rfl := Option.some.inj hs'
    have hle := ef.claims_le h.scoreboard h.answers m u
    have hscheduled : r.front.scheduled = gated (s.output.isSome &&
        c.front.schedule.ready ef.fetchR.transfer.inputReady) s.output := by
      rw [ef.scheduled]
      unfold Frontend.offered
      rw [hscheduler]
      rfl
    rw [hscheduled] at hle
    cases hcompleted : s.output.isSome && c.front.schedule.ready ef.fetchR.transfer.inputReady with
    | false =>
      rw [hcompleted] at hle hnext
      rw [if_neg Bool.false_ne_true] at hnext
      have hzero := h.fresh s hscheduler m u (hnext ▸ hm)
      rw [hzero] at hle
      exact Nat.le_zero.mp (Nat.le_of_add_right_le hle)
    | true =>
      rw [hcompleted] at hle hnext
      rw [if_pos rfl] at hnext
      have hzero := h.fresh s hscheduler m u (by omega)
      have hother : s.output.toList.countP (Token.isInstruction m) = 0 := by
        refine List.countP_eq_zero.mpr fun t ht hpt => ?_
        have hid := output_id (Option.mem_toList.mp ht)
        have hname : t.instruction = m := of_decide_eq_true hpt
        rw [← hname] at hm
        have hsecond : t.instruction.2.2 = t.id := rfl
        omega
      rw [hzero, gated_true, hother] at hle
      exact Nat.le_zero.mp (Nat.le_of_add_right_le hle)

/-- The ledger follows the live micro operations. -/
theorem Edge.ledger_eq (e : Edge c input r c') (h : c.Sound) (k : Token) :
    c'.live.countP (fun t => decide (t.stem = k)) =
      c'.front.issue.reservations.countP fun t => decide (t.stem = k) := by
  obtain ⟨ef⟩ := Frontend.evaluate_edge e.front
  have hlive := e.live_countP h.ended h.loads h.routed (fun t => decide (t.stem = k)) fun _ => rfl
  have hreserved := ef.reservations_countP h.answers (fun t => decide (t.stem = k)) fun _ => rfl
  have hledger := h.ledger k
  dsimp only at hreserved
  omega

/-- A micro operation that ends its writeback is not claimed any more. -/
theorem Edge.claims_ended (e : Edge c input r c') (h : c.Sound) (hfresh : c.Fresh input.instruction)
    (m : Fin 4 × Nat × Nat) (u : Nat) :
    c'.front.claims m u +
        ((c.commit.evaluate c.results).1.writeback.filter Token.last).toList.countP
      (Token.isUop m u) ≤ 1 := by
  obtain ⟨ef⟩ := Frontend.evaluate_edge e.front
  have hle := ef.claims_le h.scoreboard h.answers m u
  refine hle.trans ?_
  have hone := h.unique m u
  cases hscheduled : r.front.scheduled with
  | none => exact hone
  | some t =>
    rw [Option.toList_some, List.countP_singleton]
    by_cases hm : t.instruction = m
    · subst hm
      have hzero := e.scheduled_fresh h hfresh hscheduled u
      split <;> omega
    · rw [Token.isInstruction, decide_eq_false hm]
      exact hone

/-- An edge keeps the invariant. -/
theorem Edge.sound (e : Edge c input r c') (h : c.Sound) (hfresh : c.Fresh input.instruction) :
    c'.Sound := by
  obtain ⟨ef⟩ := Frontend.evaluate_edge e.front
  have hboard := Scoreboard.evaluate_sound h.scoreboard h.answers ef.issue
  refine ⟨hboard, ef.credited h.credited, ef.ended h.ended, ef.linked h.linked,
    fun m u => Nat.le_of_add_right_le (e.claims_ended h hfresh m u), ?_, ?_, ?_,
    SFU.evaluate_routed e.sfu h.routed⟩
  · exact fun s' hs' m u hm => e.claims_above h hs' u hm
  · exact fun k => e.ledger_eq h k
  · intro t ht
    rcases LSU.mem_of_mem_evaluate e.lsu ht with hold | hnew
    · exact h.loads t hold
    · exact h.ended.flight 1 t (List.mem_append_left _ (List.mem_of_mem_head? hnew))

end Core

end VortexSim.Timing
