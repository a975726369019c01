import VortexSim.Memsys.ExternalReturn

/-!
# Completion and acceptance in the external backend

Completion marks entries and changes nothing else of them; acceptance appends the entries of
the newly accepted requests, served in order.  `ledger` lists the entries of all requests that
were ever accepted, as they were at their acceptance.
-/

namespace VortexSim.Memsys

open Checked

variable {σ : Type} {n : Nat} {cycle : Nat} {queue queue' : List (Entry n)} {e : Entry n}

/-! ## Marks -/

/-- The sequence number of an entry. -/
def Entry.sequence (e : Entry n) : Nat := e.response.sequence

/-- An entry as it was at its acceptance. -/
def Entry.core (e : Entry n) : Entry n :=
  { e with serviced := false, response := { e.response with completedCycle := 0 } }

/-- The DRAM is done. -/
def Entry.complete (cycle : Nat) (e : Entry n) : Entry n :=
  { e with serviced := true, response := { e.response with completedCycle := cycle + 1 } }

theorem request_of_core {x y : Entry n} (h : y.core = x.core) : y.request = x.request := by
  have h' : y.core.request = x.core.request := congrArg Entry.request h
  exact h'

theorem sequence_of_core {x y : Entry n} (h : y.core = x.core) : y.sequence = x.sequence := by
  have h' : y.core.sequence = x.core.sequence := congrArg Entry.sequence h
  exact h'

/-- Mark the entries with a completed number. -/
def Entry.mark (cycle : Nat) (done : List Nat) (e : Entry n) : Entry n :=
  if e.sequence ∈ done then e.complete cycle else e

@[simp] theorem core_mark (done : List Nat) (e : Entry n) : (e.mark cycle done).core = e.core := by
  unfold Entry.mark
  split <;> rfl

@[simp] theorem mark_sequence (done : List Nat) (e : Entry n) :
    (e.mark cycle done).sequence = e.sequence := by
  unfold Entry.mark
  split <;> rfl

@[simp] theorem mark_nil (e : Entry n) : e.mark cycle [] = e := if_neg List.not_mem_nil

theorem mark_cons (id : Nat) (done : List Nat) (e : Entry n) :
    (e.mark cycle [id]).mark cycle done = e.mark cycle (id :: done) := by
  unfold Entry.mark
  by_cases hid : e.sequence = id
  · have hin : e.sequence ∈ [id] := List.mem_singleton.mpr hid
    have hall : e.sequence ∈ id :: done := List.mem_cons.mpr (.inl hid)
    rw [if_pos hin, if_pos hall]
    split <;> rfl
  · have hout : e.sequence ∉ [id] := fun h => hid (List.mem_singleton.mp h)
    rw [if_neg hout]
    refine if_congr ?_ rfl rfl
    simp only [List.mem_cons, hid, false_or]

theorem Ordered.map {f : Entry n → Entry n} (h : Ordered queue)
    (hf : ∀ e, (f e).sequence = e.sequence) : Ordered (queue.map f) := by
  refine List.pairwise_map.mpr (h.imp ?_)
  intro a b hab
  exact (hf a).trans_lt (hab.trans_eq (hf b).symm)

theorem Ordered.nodup (h : Ordered queue) : (queue.map Entry.sequence).Nodup :=
  List.pairwise_map.mpr (h.imp Nat.ne_of_lt)

theorem Ordered.eq_of_sequence (h : Ordered queue) (ha : a ∈ queue) (hb : b ∈ queue)
    (hab : a.sequence = b.sequence) : a = b :=
  List.inj_on_of_nodup_map h.nodup ha hb hab

/-! ## Completions of the DRAM model -/

/-- A completion that the queue waits for. -/
def Awaited (queue : List (Entry n)) (id : Nat) : Prop :=
  ∃ e ∈ queue, e.sequence = id ∧ e.serviced = false ∧ e.request.operation ≠ .visibility

theorem mark_of_ne {id : Nat} (h : e.sequence ≠ id) : e.mark cycle [id] = e :=
  if_neg fun hmem => h (List.mem_singleton.mp hmem)

theorem mark_of_eq {id : Nat} (h : e.sequence = id) : e.mark cycle [id] = e.complete cycle :=
  if_pos (List.mem_singleton.mpr h)

theorem completeEntry_eq_ok {id : Nat} (hq : Ordered queue) :
    completeEntry cycle id queue = .ok queue' ↔
      Awaited queue id ∧ queue.map (Entry.mark cycle [id]) = queue' := by
  induction queue generalizing queue' with
  | nil =>
    refine iff_of_false (fun h => by cases h) ?_
    rintro ⟨⟨e, he, -⟩, -⟩
    exact List.not_mem_nil he
  | cons e queue ih =>
    obtain ⟨hfirst, hrest⟩ := List.pairwise_cons.mp hq
    rw [List.map_cons, completeEntry]
    by_cases hid : e.sequence = id
    · -- no other entry has the number
      have hothers : queue.map (Entry.mark cycle [id]) = queue := by
        refine (List.map_congr_left fun x hx => ?_).trans (List.map_id queue)
        refine mark_of_ne fun hx' => ?_
        exact Nat.ne_of_lt (hfirst x hx) (hid.trans hx'.symm)
      have hawaited : Awaited (e :: queue) id ↔
          e.serviced = false ∧ e.request.operation ≠ .visibility := by
        constructor
        · rintro ⟨x, hx, hsequence, hx'⟩
          obtain rfl : x = e := hq.eq_of_sequence hx List.mem_cons_self (hsequence.trans hid.symm)
          exact hx'
        · intro h
          exact ⟨e, List.mem_cons_self, hid, h⟩
      have hid' : ¬ e.response.sequence ≠ id := not_not.mpr hid
      rw [if_neg hid', mark_of_eq hid, hothers, hawaited]
      simp only [ok_iff, not_or, Bool.not_eq_true, ne_eq, Entry.complete]
    · have hawaited : Awaited (e :: queue) id ↔ Awaited queue id := by
        unfold Awaited
        simp only [List.mem_cons, exists_eq_or_imp, hid, false_and, false_or]
      have hid' : e.response.sequence ≠ id := hid
      rw [if_pos hid', mark_of_ne hid, hawaited]
      simp only [ok_iff, ih hrest]
      constructor
      · rintro ⟨rest, ⟨hwait, rfl⟩, rfl⟩
        exact ⟨hwait, rfl⟩
      · rintro ⟨hwait, rfl⟩
        exact ⟨_, ⟨hwait, rfl⟩, rfl⟩

/-- After a completion the others are awaited as before, the completed one no more. -/
theorem awaited_mark {id : Nat} :
    Awaited (queue.map (Entry.mark cycle [id])) other ↔ other ≠ id ∧ Awaited queue other := by
  constructor
  · rintro ⟨x, hx, hsequence, hserviced, hoperation⟩
    obtain ⟨y, hy, rfl⟩ := List.mem_map.mp hx
    by_cases hyid : y.sequence = id
    · rw [mark_of_eq hyid] at hserviced
      cases hserviced
    · rw [mark_of_ne hyid] at hsequence hserviced hoperation
      exact ⟨fun h => hyid (hsequence.trans h), y, hy, hsequence, hserviced, hoperation⟩
  · rintro ⟨hne, y, hy, hsequence, hserviced, hoperation⟩
    have hstays : y.mark cycle [id] = y := mark_of_ne fun h => hne (hsequence.symm.trans h)
    exact ⟨y, List.mem_map.mpr ⟨y, hy, hstays⟩, hsequence, hserviced, hoperation⟩

/-- A tick is accepted exactly when it completes awaited requests, each once. -/
theorem completeAll_eq_ok {done : List Nat} (hq : Ordered queue) :
    completeAll cycle done queue = .ok queue' ↔ (done.Nodup ∧ ∀ id ∈ done, Awaited queue id) ∧
        queue.map (Entry.mark cycle done) = queue' := by
  have hall : ∀ k, foldEach (fun _ queue id => completeEntry cycle id queue) k queue done =
      .ok queue' ↔ (done.Nodup ∧ ∀ id ∈ done, Awaited queue id) ∧
        queue.map (Entry.mark cycle done) = queue' := by
    induction done generalizing queue with
    | nil =>
      intro k
      have hsame : queue.map (Entry.mark cycle []) = queue :=
        (List.map_congr_left fun x _ => mark_nil x).trans (List.map_id queue)
      rw [hsame, foldEach_nil, Except.ok.injEq]
      simp
    | cons id done ih =>
      intro k
      rw [foldEach_cons]
      have hmap : (queue.map (Entry.mark cycle [id])).map (Entry.mark cycle done) =
          queue.map (Entry.mark cycle (id :: done)) := by
        rw [List.map_map]
        exact List.map_congr_left fun x _ => mark_cons id done x
      have hmarked : Ordered (queue.map (Entry.mark cycle [id])) :=
        hq.map fun e => mark_sequence [id] e
      rw [List.nodup_cons, List.forall_mem_cons]
      constructor
      · rintro ⟨middle, hmiddle, hrest⟩
        obtain ⟨hwait, rfl⟩ := (completeEntry_eq_ok hq).mp hmiddle
        obtain ⟨⟨hnodup, hothers⟩, hend⟩ := (ih hmarked (k + 1)).mp hrest
        rw [hmap] at hend
        refine ⟨⟨⟨fun hin => ?_, hnodup⟩, hwait, fun x hx => ?_⟩, hend⟩
        · exact (awaited_mark.mp (hothers id hin)).1 rfl
        · exact (awaited_mark.mp (hothers x hx)).2
      · rintro ⟨⟨⟨hnew, hnodup⟩, hwait, hothers⟩, hend⟩
        refine ⟨_, (completeEntry_eq_ok hq).mpr ⟨hwait, rfl⟩, (ih hmarked (k + 1)).mpr ?_⟩
        rw [hmap]
        refine ⟨⟨hnodup, fun x hx => awaited_mark.mpr ⟨?_, hothers x hx⟩⟩, hend⟩
        rintro rfl
        exact hnew hx
  exact hall 0

/-! ## Tickets -/

/-- An entry passed by the completion of tickets. -/
def Entry.ticket (cycle : Nat) (olderDone : Bool) (e : Entry n) : Entry n :=
  if e.request.operation = .visibility ∧ e.serviced = false ∧ olderDone = true then
    e.complete cycle
  else e

theorem completeTickets_cons (cycle : Nat) (olderDone : Bool) (e : Entry n)
    (queue : List (Entry n)) :
    completeTickets cycle olderDone (e :: queue) = e.ticket cycle olderDone ::
      completeTickets cycle (olderDone && (e.ticket cycle olderDone).serviced) queue := rfl

theorem core_ticket (olderDone : Bool) (e : Entry n) :
    (e.ticket cycle olderDone).core = e.core := by
  unfold Entry.ticket
  split <;> rfl

theorem completeTickets_core (olderDone : Bool) :
    (completeTickets cycle olderDone queue).map Entry.core = queue.map Entry.core := by
  induction queue generalizing olderDone with
  | nil => rfl
  | cons e queue ih =>
    rw [completeTickets_cons, List.map_cons, List.map_cons, ih, core_ticket]

/-- Queues with the same entries up to marks have the same numbers. -/
theorem map_sequence_of_core (h : queue'.map Entry.core = queue.map Entry.core) :
    queue'.map Entry.sequence = queue.map Entry.sequence := by
  have h' := congrArg (List.map Entry.sequence) h
  rw [List.map_map, List.map_map] at h'
  exact h'

theorem Ordered.of_core (h : Ordered queue) (hcore : queue'.map Entry.core = queue.map Entry.core) :
    Ordered queue' := by
  have hsorted : (queue.map Entry.sequence).Pairwise (· < ·) := List.pairwise_map.mpr h
  rw [← map_sequence_of_core hcore] at hsorted
  exact List.pairwise_map.mp hsorted

/-- An entry after the tickets: as before, or a ticket completed now with everything older
complete. -/
theorem mem_completeTickets (hq : Ordered queue) (hx : x ∈ completeTickets cycle olderDone queue) :
    x ∈ queue ∨ olderDone = true ∧
      (∃ e ∈ queue, e.request.operation = .visibility ∧ x = e.complete cycle) ∧
      ∀ y ∈ completeTickets cycle olderDone queue, y.sequence < x.sequence → y.serviced = true := by
  induction queue generalizing olderDone with
  | nil => cases hx
  | cons e queue ih =>
    have hafter : Ordered (completeTickets cycle olderDone (e :: queue)) :=
      hq.of_core (completeTickets_core olderDone)
    rw [completeTickets_cons] at hx hafter ⊢
    obtain ⟨hfirst, -⟩ := List.pairwise_cons.mp hafter
    rcases List.mem_cons.mp hx with rfl | hx
    · unfold Entry.ticket at hfirst ⊢
      split
      · rename_i hticket
        refine .inr ⟨hticket.2.2, ⟨e, List.mem_cons_self, hticket.1, rfl⟩, ?_⟩
        intro y hy hlt
        rcases List.mem_cons.mp hy with rfl | hy
        · exact absurd hlt (Nat.lt_irrefl _)
        · rw [if_pos hticket] at hfirst
          exact absurd hlt (Nat.lt_asymm (hfirst y hy))
      · exact .inl List.mem_cons_self
    · rcases ih (List.pairwise_cons.mp hq).2 hx with hold | ⟨hdone, ⟨z, hz, hz'⟩, hall⟩
      · exact .inl (List.mem_cons_of_mem _ hold)
      · obtain ⟨holder, hserviced⟩ := Bool.and_eq_true_iff.mp hdone
        refine .inr ⟨holder, ⟨z, List.mem_cons_of_mem _ hz, hz'⟩, ?_⟩
        exact List.forall_mem_cons.mpr ⟨fun _ => hserviced, hall⟩

/-- Only open tickets change. -/
theorem mem_completeTickets_of_mem (he : e ∈ queue)
    (hkeeps : e.serviced = true ∨ e.request.operation ≠ .visibility) :
    e ∈ completeTickets cycle olderDone queue := by
  induction queue generalizing olderDone with
  | nil => cases he
  | cons x queue ih =>
    rw [completeTickets_cons]
    rcases List.mem_cons.mp he with rfl | he
    · have hsame : e.ticket cycle olderDone = e := by
        refine if_neg ?_
        rintro ⟨hoperation, hserviced, -⟩
        rcases hkeeps with h | h
        · exact Bool.false_ne_true (hserviced.symm.trans h)
        · exact h hoperation
      rw [hsame]
      exact List.mem_cons_self
    · exact List.mem_cons_of_mem _ (ih he)

/-- A ticket at the head of the queue is complete. -/
theorem completeTickets_head (h : completeTickets cycle true queue = x :: rest)
    (hx : x.request.operation = .visibility) : x.serviced = true := by
  cases queue with
  | nil => cases h
  | cons e queue =>
    rw [completeTickets_cons] at h
    obtain ⟨rfl, -⟩ := List.cons.inj h
    unfold Entry.ticket at hx ⊢
    split
    · rfl
    · rename_i hopen
      rw [if_neg hopen] at hx
      by_contra hserviced
      exact hopen ⟨hx, Bool.eq_false_of_not_eq_true hserviced, rfl⟩

/-! ## Acceptance -/

/-- A request with the cycle and the port of its acceptance. -/
structure Accepted (n : Nat) where
  cycle : Nat
  client : Fin n
  request : LineRequest

/-- The entries of requests served one after the other, as they are at acceptance.  The first
one has the number after `sequence`. -/
def ledger (service : AtomicService σ) : LineState σ → Nat → List (Accepted n) → List (Entry n)
  | _, _, [] => []
  | s, sequence, a :: rest =>
    acceptEntry a.cycle (sequence + 1) a.client a.request (serveLine service s a.request).2 ::
      ledger service (serveLine service s a.request).1 (sequence + 1) rest

/-- The state after requests served one after the other. -/
def lineAfter (service : AtomicService σ) (s : LineState σ) (accepted : List (Accepted n)) :
    LineState σ :=
  accepted.foldl (fun s a => (serveLine service s a.request).1) s

variable {service : AtomicService σ} {s : LineState σ} {sequence : Nat}

theorem lineAfter_append (xs ys : List (Accepted n)) :
    lineAfter service s (xs ++ ys) = lineAfter service (lineAfter service s xs) ys :=
  List.foldl_append

theorem ledger_append (xs ys : List (Accepted n)) :
    ledger service s sequence (xs ++ ys) = ledger service s sequence xs ++
      ledger service (lineAfter service s xs) (sequence + xs.length) ys := by
  induction xs generalizing s sequence with
  | nil => rfl
  | cons a xs ih =>
    rw [List.cons_append, ledger, ledger, ih, List.cons_append, List.length_cons,
      Nat.add_assoc, Nat.add_comm 1]
    rfl

theorem ledger_sequences (accepted : List (Accepted n)) :
    (ledger service s sequence accepted).map Entry.sequence =
      List.range' (sequence + 1) accepted.length := by
  induction accepted generalizing s sequence with
  | nil => rfl
  | cons a accepted ih =>
    rw [ledger, List.map_cons, ih, List.length_cons, List.range'_succ]
    rfl

theorem ledger_core (accepted : List (Accepted n)) :
    (ledger service s sequence accepted).map Entry.core = ledger service s sequence accepted := by
  induction accepted generalizing s sequence with
  | nil => rfl
  | cons a accepted ih =>
    rw [ledger, List.map_cons, ih]
    rfl

theorem acceptAll_eq_ok {entries : List (Entry n)}
    (h : acceptAll service submit cycle s sequence admitted = .ok (s', entries)) :
    s' = lineAfter service s (admitted.map fun a => ⟨cycle, a.1, a.2⟩) ∧
      entries = ledger service s sequence (admitted.map fun a => ⟨cycle, a.1, a.2⟩) := by
  induction admitted generalizing s sequence entries with
  | nil =>
    cases h
    exact ⟨rfl, rfl⟩
  | cons a admitted ih =>
    obtain ⟨client, r⟩ := a
    -- a refused submission of a ticket is no error
    have hrest : ∃ s2 rest, acceptAll service submit cycle (serveLine service s r).1
        (sequence + 1) admitted = .ok (s2, rest) ∧ s2 = s' ∧
        acceptEntry cycle (sequence + 1) client r (serveLine service s r).2 :: rest = entries := by
      rw [acceptAll] at h
      split at h
      · simp only [ok_iff, Prod.exists, Prod.mk.injEq] at h
        exact h.2
      · simp only [ok_iff, Prod.exists, Prod.mk.injEq] at h
        exact h
    obtain ⟨s2, rest, hrest, rfl, rfl⟩ := hrest
    obtain ⟨rfl, rfl⟩ := ih hrest
    exact ⟨rfl, rfl⟩

/-- A model that takes every submission makes no error here. -/
theorem acceptAll_of_submits (hsubmit : ∀ id address write, submit id address write = none)
    (admitted : List (Fin n × LineRequest)) :
    ∃ after, acceptAll service submit cycle s sequence admitted = .ok after := by
  induction admitted generalizing s sequence with
  | nil => exact ⟨_, rfl⟩
  | cons a admitted ih =>
    obtain ⟨client, r⟩ := a
    obtain ⟨⟨s2, rest⟩, hrest⟩ : ∃ after, acceptAll service submit cycle
        (serveLine service s r).1 (sequence + 1) admitted = .ok after := ih
    refine ⟨(s2, acceptEntry cycle (sequence + 1) client r (serveLine service s r).2 :: rest), ?_⟩
    rw [acceptAll, hsubmit]
    simp only [ok_iff]
    exact ⟨_, hrest, rfl⟩

end VortexSim.Memsys
