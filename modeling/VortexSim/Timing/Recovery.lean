import VortexSim.Timing.Ledger

/-!
# Launch, flush, cancellation and restart

A cancellation takes the tokens of a range out of every resource and out of the ledgers, so that
the ledgers still list exactly what is in the pipeline.  A flush leaves nothing, and a launch or a
restart touches only the scheduler.
-/

namespace VortexSim.Timing

open Checked Elastic

/-! ## Empty pipelines -/

namespace Core

/-- A core with nothing in its pipeline. -/
theorem sound_empty (account : Accounting) (scheduler : Option Scheduler) :
    Sound { account, front := { scheduler } } := by
  have hlive : live { account, front := { scheduler } } = [] := by
    rfl
  have hnone : ∀ {P : Token → Prop} (t : Token), t ∈ ([] : List Token) → P t :=
    fun t ht => nomatch ht
  refine ⟨⟨.nil, .nil, hnone, fun _ => hnone, fun _ h => (nomatch h), fun _ => Nat.zero_le _⟩,
    fun _ => ⟨rfl, rfl⟩, ⟨fun _ => hnone, fun _ _ h => (nomatch h), fun _ => hnone, fun _ => hnone⟩,
    fun _ _ h => (nomatch h), fun m u => Nat.zero_le 1, fun _ _ m u _ => rfl, fun k => ?_,
    hnone, hnone⟩
  rw [hlive]

/-- The scheduler may go on to larger numbers. -/
theorem Sound.setScheduler {c : Core} (h : c.Sound) (hs : c.front.scheduler = some s)
    (hnext : s.nextID ≤ s'.nextID) : Sound { c with front.scheduler := some s' } := by
  refine ⟨h.scoreboard, h.credited, ⟨h.ended.ibuf, h.ended.active, h.ended.staging, h.ended.flight⟩,
    h.linked, h.unique, fun x hx m u hm => ?_, h.ledger, h.loads, h.routed⟩
  obtain rfl := Option.some.inj hx
  exact h.fresh s hs m u (hnext.trans hm)

/-- The counters are apart from the pipeline. -/
theorem Sound.setAccount {c : Core} (h : c.Sound) (account : Accounting) :
    Sound { c with account } :=
  ⟨h.scoreboard, h.credited, h.ended, h.linked, h.unique, h.fresh, h.ledger, h.loads, h.routed⟩

end Core

/-! ## Cancellation -/

section

variable (x : Cancellation)

theorem filter_map_plain (l : List Token) :
    (l.filter x.spares).map Token.plain = (l.map Token.plain).filter x.spares := by
  rw [List.filter_map]
  rfl

theorem WaitPool.tokens_cancel (w : WaitPool kind) :
    (w.cancel x).tokens = w.tokens.filter x.spares := by
  unfold WaitPool.cancel WaitPool.tokens
  rw [List.filter_map]
  rfl

theorem residents_cancel_alu (a : ALU) : (a.cancel x).residents = a.residents.filter x.spares := by
  unfold ALU.residents ALU.cancel mergeCancel
  dsimp only [Buffer.filter]
  rw [Pipeline.contents_filter, Divider.loaded_filter]
  simp only [List.filter_append]

theorem residents_cancel_sfu (s : SFU) : (s.cancel x).residents = s.residents.filter x.spares := by
  unfold SFU.residents SFU.cancel mergeCancel
  dsimp only [Buffer.filter]
  simp only [List.filter_append]

theorem held_cancel_fpu (f : STDFPU) : (f.cancel x).held = f.held.filter x.spares := by
  unfold STDFPU.held STDPath.held STDFPU.cancel mergeCancel
  dsimp only [Buffer.filter]
  simp only [List.filter_append, List.filter_flatMap, Pipeline.contents_filter]

theorem held_cancel_lsu (l : LSU) : (l.cancel x).held = l.held.filter x.spares := by
  unfold LSU.held LSU.cancel mergeCancel
  dsimp only [Buffer.filter]
  simp only [WaitPool.tokens_cancel, List.filter_append, List.filter_filter, Bool.and_comm]

theorem flight_cancel (f : Frontend) (k : Fin 4) :
    (f.cancel x).flight k = (f.flight k).filter x.spares := by
  unfold Frontend.flight Frontend.path Frontend.cancel Collector.cancel Collector.contents
    Scoreboard.cancel mergeCancel
  dsimp only [Buffer.filter]
  simp only [List.filter_append, List.filter_filter, Bool.and_comm, Bool.and_left_comm,
    Bool.and_assoc]

/-- A cancellation filters the live micro operations. -/
theorem live_cancel {c : Core} (h : c.cancel x = .ok c') :
    ∀ p, c'.live.countP p = (c.live.filter x.spares).countP p := by
  unfold Core.cancel at h
  simp only [ok_iff] at h
  obtain ⟨-, -, rfl⟩ := h
  intro p
  unfold Core.live
  dsimp only [Buffer.filter]
  rw [held_cancel_lsu, residents_cancel_alu, residents_cancel_sfu, held_cancel_fpu]
  simp only [flight_cancel, List.filter_append, List.filter_flatMap, List.filter_filter,
    Bool.and_comm]

theorem spares_of_instruction (h : a.instruction = b.instruction) : x.spares a = x.spares b := by
  simp only [Token.instruction, Prod.mk.injEq] at h
  unfold Cancellation.spares Cancellation.hits
  rw [h.1, h.2.1, h.2.2]

/-- A sequencer and its buffer after a cancellation: the head and its split form go together. -/
theorem lane_cancel {s : Sequencer} (hs : s.Linked queue) :
    ((s.cancel x).active = none ∨ (s.cancel x).active = s.active) ∧
      (s.cancel x).Linked (queue.filter x.spares) ∧
      ((s.cancel x).waiting (queue.filter x.spares)).Sublist (s.waiting queue) := by
  unfold Sequencer.cancel
  cases hactive : s.active with
  | none =>
    rw [Option.any_none, if_neg Bool.false_ne_true]
    refine ⟨.inl hactive, fun a ha => ?_, ?_⟩
    · rw [hactive] at ha
      cases ha
    · unfold Sequencer.waiting
      rw [hactive]
      exact List.filter_sublist
  | some a =>
    obtain ⟨head, rest, rfl, hname⟩ := hs a hactive
    have hhead := spares_of_instruction x hname
    cases hhits : x.hits a with
    | true =>
      have hgone : x.spares head = false := by rw [hhead, Cancellation.spares, hhits]; rfl
      rw [Option.any_some, hhits, if_pos rfl]
      refine ⟨.inl rfl, fun _ h => (nomatch h), ?_⟩
      unfold Sequencer.waiting
      rw [hactive, List.filter_cons, hgone, if_neg Bool.false_ne_true]
      exact List.filter_sublist
    | false =>
      have hkept : x.spares head = true := by rw [hhead, Cancellation.spares, hhits]; rfl
      rw [Option.any_some, hhits, if_neg Bool.false_ne_true, List.filter_cons, hkept, if_pos rfl]
      refine ⟨.inr hactive, fun b hb => ?_, ?_⟩
      · rw [hactive] at hb
        obtain rfl := Option.some.inj hb
        exact ⟨head, _, rfl, hname⟩
      · unfold Sequencer.waiting
        rw [hactive]
        exact List.filter_sublist

/-- The claims of what is left. -/
theorem claims_cancel {f : Frontend} (hf : f.Linked) (m : Fin 4 × Nat × Nat) (u : Nat) :
    (f.cancel x).claims m u ≤ f.claims m u := by
  obtain ⟨hactive, -, hwaiting⟩ := lane_cancel x (hf m.1)
  have hledger : ((f.cancel x).issue.reservations).countP (Token.isUop m u) ≤
      f.issue.reservations.countP (Token.isUop m u) := List.filter_sublist.countP_le
  have hstaging : ((f.cancel x).issue.staging m.1).queue.countP (Token.isUop m u) ≤
      (f.issue.staging m.1).queue.countP (Token.isUop m u) := List.filter_sublist.countP_le
  have hsplit : ((f.cancel x).seq m.1).active.toList.countP (Token.fromUop m u) ≤
      (f.seq m.1).active.toList.countP (Token.fromUop m u) := by
    have hseq : (f.cancel x).seq m.1 = (f.seq m.1).cancel x := rfl
    rw [hseq]
    rcases hactive with h | h <;> rw [h]
    exact Nat.zero_le _
  have hbuffer : (((f.cancel x).seq m.1).waiting ((f.cancel x).ibuf m.1).queue).countP
      (Token.isInstruction m) ≤
      ((f.seq m.1).waiting (f.ibuf m.1).queue).countP (Token.isInstruction m) := hwaiting.countP_le
  have htags : (f.cancel x).fetch.tags.tokens.countP (Token.isInstruction m) ≤
      f.fetch.tags.tokens.countP (Token.isInstruction m) :=
    (List.filter_sublist.map Pending.token).countP_le
  have hschedule : (f.cancel x).schedule.queue.countP (Token.isInstruction m) ≤
      f.schedule.queue.countP (Token.isInstruction m) := List.filter_sublist.countP_le
  unfold Frontend.claims
  omega

theorem scoreboard_cancel {s : Scoreboard} (hs : s.Sound)
    (hcredits : ∀ k, s.credits k = (s.creditTokens k).length) : (s.cancel x).Sound := by
  have hsub : (s.cancel x).reservations.Sublist s.reservations := List.filter_sublist
  have hbusy : BitOwner.Exact Token.warp Token.reserved (s.cancel x).reservations
    (s.cancel x).busy :=
    hs.busy.sublist hsub
  have hspecial : BitOwner.Exact Token.warp Token.writeSpecial (s.cancel x).reservations
      (s.cancel x).special := hs.special.sublist hsub
  have hfewer : ∀ k, (s.cancel x).credits k ≤ s.credits k := by
    intro k
    rw [hcredits]
    exact List.length_filter_le ..
  refine ⟨hbusy, hspecial, fun t ht => hs.nonzero t (hsub.subset ht),
    fun w t ht => hs.staged w t (List.mem_of_mem_filter ht), fun w hready t ht => ?_,
    fun k => (hfewer k).trans (hs.bounded k)⟩
  have hother : w ≠ x.warp := by
    rintro rfl
    have hoff : (s.cancel x).ready x.warp = false := Function.update_self ..
    rw [hoff] at hready
    cases hready
  have hold : s.ready w = true := by
    have hkeep : (s.cancel x).ready w = s.ready w := Function.update_of_ne hother ..
    rwa [← hkeep]
  obtain ⟨hbits, hflags, hcredit⟩ := hs.eligible w hold t (List.mem_of_mem_filter ht)
  refine ⟨hs.busy.apart_of_sublist hbusy hsub hbits,
    hs.special.apart_of_sublist hspecial hsub hflags, ?_⟩
  exact (hfewer t.unit).trans_lt hcredit

/-- Tokens that are spared or cancelled together are counted as before or not at all. -/
theorem countP_filter_spares (h : ∀ t, p t = true → x.spares t = kept) (l : List Token) :
    (l.filter x.spares).countP p = if kept then l.countP p else 0 := by
  rw [List.countP_filter]
  cases kept with
  | true =>
    refine List.countP_congr fun t _ => ?_
    cases hp : p t with
    | true => rw [h t hp, Bool.and_true]
    | false => rw [Bool.false_and]
  | false =>
    refine List.countP_eq_zero.mpr fun t _ hboth => ?_
    obtain ⟨hp, hspares⟩ := Bool.and_eq_true_iff.mp hboth
    rw [h t hp] at hspares
    cases hspares

theorem Core.Sound.cancel {c : Core} (h : c.Sound) (hcancel : c.cancel x = .ok c') : c'.Sound := by
  have hlive := live_cancel x hcancel
  unfold Core.cancel at hcancel
  simp only [ok_iff] at hcancel
  obtain ⟨-, -, rfl⟩ := hcancel
  refine ⟨scoreboard_cancel x h.scoreboard fun k => (h.credited k).2, fun k => ⟨?_, rfl⟩,
    ⟨fun w t ht => h.ended.ibuf w t (List.mem_of_mem_filter ht), fun w t ht => ?_,
      fun w t ht => h.ended.staging w t (List.mem_of_mem_filter ht), fun k t ht => ?_⟩,
    fun w => (lane_cancel x (h.linked w)).2.1,
    fun m u => (claims_cancel x h.linked m u).trans (h.unique m u),
    fun s hs m u hm => ?_, fun k => ?_, fun t ht => h.loads t (List.mem_of_mem_filter ht),
    fun t ht => h.routed t (List.mem_of_mem_filter ht)⟩
  · -- both sides of the credit ledger are filtered
    have hledger := congrArg (List.filter x.spares) (h.credited k).1
    rw [← filter_map_plain, ← filter_map_plain] at hledger
    rw [flight_cancel]
    exact hledger
  · rcases (lane_cancel x (h.linked w)).1 with hnone | hsame
    · have hactive : t ∈ ((c.front.seq w).cancel x).active := ht
      rw [hnone] at hactive
      cases hactive
    · have hactive : t ∈ ((c.front.seq w).cancel x).active := ht
      rw [hsame] at hactive
      exact h.ended.active w t hactive
  · rw [flight_cancel] at ht
    exact h.ended.flight k t (List.mem_of_mem_filter ht)
  · have hfewer := claims_cancel x h.linked m u
    obtain ⟨old, hold, rfl⟩ := Option.map_eq_some_iff.mp hs
    rw [h.fresh old hold m u hm] at hfewer
    exact Nat.le_zero.mp hfewer
  · have hledger : (c.live.filter x.spares).countP (fun t => decide (t.stem = k)) =
        (c.front.issue.reservations.filter x.spares).countP fun t => decide (t.stem = k) := by
      have hstem : ∀ t : Token, decide (t.stem = k) = true → x.spares t = x.spares k := by
        intro t ht
        rw [← of_decide_eq_true ht]
        rfl
      rw [countP_filter_spares x hstem, countP_filter_spares x hstem, h.ledger]
    rw [hlive, hledger]
    rfl

end

end VortexSim.Timing
