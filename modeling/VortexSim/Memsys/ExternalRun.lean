import VortexSim.Lib.Session
import VortexSim.Memsys.ExternalStep

/-!
# Runs of the external backend

A run keeps a history: the accepted requests in order, the completions of the DRAM model and
the edges.  `Tracks` relates a backend to the history of its run.  It names the entries that
were returned; together with the queue they are the ledger of the accepted requests, and on
each bus bank they stand before the entries still queued.
-/

namespace VortexSim.Memsys

open Checked

variable {σ : Type} {n : Nat}

/-- What has been seen of a run. -/
structure History (n : Nat) where
  accepted : List (Accepted n) := []
  completed : List Nat := []
  edges : List (Edge n) := []

/-- The responses taken at an edge, by port. -/
def Edge.deliveries (edge : Edge n) : List (Fin n × Response) :=
  (List.finRange n).filterMap fun i =>
    (edge.replies i).bind fun r => if r.delivered then some (i, r.response) else none

/-- The number of replies shown at an edge. -/
def Edge.replyCount (edge : Edge n) : Nat :=
  (List.finRange n).countP fun i => (edge.replies i).isSome

/-- All responses taken, edge by edge. -/
def History.deliveries (h : History n) : List (Fin n × Response) :=
  h.edges.flatMap Edge.deliveries

/-- The history after an edge. -/
def History.record [NeZero n] (h : History n) (b : AsyncBackend σ n) (input : EdgeInput n)
    (dram : DRAMAnswer) (edge : Edge n) : History n where
  accepted := h.accepted ++ b.arrivals input
  completed := h.completed ++ dram.tick.toOption.getD []
  edges := h.edges ++ [edge]

/-- One edge with its record. -/
def AsyncBackend.edge [NeZero n] (service : AtomicService σ) (state : AsyncBackend σ n × History n)
    (signals : EdgeInput n × DRAMAnswer) : Except Error (AsyncBackend σ n × History n) := do
  let (b', edge) ← state.1.step service signals.1 signals.2
  pure (b', state.2.record state.1 signals.1 signals.2 edge)

/-- A session of edges.  It ends at the first error. -/
def AsyncBackend.run [NeZero n] (service : AtomicService σ) (b : AsyncBackend σ n)
    (h : History n) (signals : List (EdgeInput n × DRAMAnswer)) :
    Except Error (AsyncBackend σ n × History n) :=
  Session.run (AsyncBackend.edge service) (b, h) signals

/-- The response of an entry with the port that receives it. -/
def Entry.reply (e : Entry n) : Fin n × Response := (e.client, e.response)

/-- On a common bank the first entry is the older one. -/
def Ahead (banks : Nat) (x y : Entry n) : Prop :=
  ∀ bank, x.request.busBank banks = some bank → y.request.busBank banks = some bank →
    x.sequence < y.sequence

/-- The completions of the DRAM model a complete entry has waited for: its own, or those of
everything older when it is a ticket. -/
structure Settled (all : List (Entry n)) (completed : List Nat) (e : Entry n) : Prop where
  own : e.request.operation ≠ .visibility → e.sequence ∈ completed
  older : e.request.operation = .visibility → ∀ x ∈ all, x.request.operation ≠ .visibility →
    x.sequence < e.sequence → x.sequence ∈ completed

/-! ## The entries returned at an edge -/

section

variable {b b' : AsyncBackend σ n} {input : EdgeInput n} {e : Entry n}

/-- The entry whose response is taken on a port. -/
def AsyncBackend.takenAt (b : AsyncBackend σ n) (input : EdgeInput n) (i : Fin n) :
    Option (Entry n) :=
  if input.ready i then
    (b.preview i).bind fun p => b.queue.find? fun e => decide (e.reply = (i, p))
  else none

/-- The entries whose responses are taken, by port. -/
def AsyncBackend.taken (b : AsyncBackend σ n) (input : EdgeInput n) : List (Entry n) :=
  (List.finRange n).filterMap (b.takenAt input)

theorem takenAt_eq_some (h : b.takenAt input i = some e) :
    e ∈ b.queue ∧ e.client = i ∧ input.ready i = true ∧ b.preview i = some e.response := by
  unfold AsyncBackend.takenAt at h
  split at h
  · rename_i hready
    obtain ⟨p, hp, hfind⟩ := Option.bind_eq_some_iff.mp h
    have hreply := List.find?_some hfind
    obtain ⟨rfl, rfl⟩ := Prod.mk.inj (decide_eq_true_iff.mp hreply)
    exact ⟨List.mem_of_find?_eq_some hfind, rfl, hready, hp⟩
  · cases h

namespace AsyncBackend.Coherent

variable (hb : b.Coherent)
include hb

/-- A response taken on a port belongs to an entry of the queue. -/
theorem takenAt_of_preview (hp : b.preview i = some p) (hready : input.ready i = true) :
    ∃ e, b.takenAt input i = some e ∧ e.response = p := by
  obtain ⟨x, hx, rfl, rfl⟩ := hb.preview_head hp
  have hfound : (b.queue.find? fun e => decide (e.reply = x.reply)).isSome := by
    rw [List.find?_isSome]
    exact ⟨x, hx.mem, decide_eq_true rfl⟩
  obtain ⟨e, he⟩ := Option.isSome_iff_exists.mp hfound
  have htaken : b.takenAt input x.client = some e := by
    unfold AsyncBackend.takenAt
    rw [if_pos hready, hp]
    exact he
  have hpreview := (takenAt_eq_some htaken).2.2.2
  exact ⟨e, htaken, Option.some.inj (hpreview.symm.trans hp)⟩

theorem mem_taken : e ∈ b.taken input ↔ e ∈ b.queue ∧ Taken b.preview input.ready e := by
  unfold AsyncBackend.taken
  rw [List.mem_filterMap]
  constructor
  · rintro ⟨i, -, hi⟩
    obtain ⟨he, rfl, hready, hp⟩ := takenAt_eq_some hi
    exact ⟨he, (hb.matched_iff he).mpr hp, hready⟩
  · rintro ⟨he, hmatched, hready⟩
    obtain ⟨x, hx, hresponse⟩ := hb.takenAt_of_preview ((hb.matched_iff he).mp hmatched) hready
    have hsequence : x.sequence = e.sequence := congrArg Response.sequence hresponse
    obtain rfl : x = e := hb.ordered.eq_of_sequence (takenAt_eq_some hx).1 he hsequence
    exact ⟨x.client, List.mem_finRange _, hx⟩

omit hb in
theorem taken_nodup : (b.taken input).Nodup := by
  refine List.Nodup.filterMap ?_ (List.nodup_finRange n)
  intro i j e hi hj
  exact (takenAt_eq_some hi).2.1.symm.trans (takenAt_eq_some hj).2.1

/-- The queue splits into what is taken and what is kept. -/
theorem taken_perm : (b.taken input ++ b.kept input).Perm b.queue := by
  have hnodup : b.queue.Nodup := List.Nodup.of_map _ hb.ordered.nodup
  have htaken : (b.taken input).Perm
      (b.queue.filter fun e => decide (Taken b.preview input.ready e)) := by
    refine (List.perm_ext_iff_of_nodup taken_nodup (hnodup.filter _)).mpr fun e => ?_
    rw [hb.mem_taken, List.mem_filter, decide_eq_true_iff]
  refine (htaken.append_right _).trans ?_
  unfold AsyncBackend.kept
  simp only [decide_not]
  exact List.filter_append_perm _ _

theorem taken_head (he : e ∈ b.taken input) : HeadOf b.banks b.queue e := by
  obtain ⟨hmem, hmatched, -⟩ := hb.mem_taken.mp he
  obtain ⟨x, hx, -, hresponse⟩ := hb.preview_head ((hb.matched_iff hmem).mp hmatched)
  have hsequence : x.sequence = e.sequence := congrArg Response.sequence hresponse
  obtain rfl : x = e := hb.ordered.eq_of_sequence hx.mem hmem hsequence
  exact hx

/-- The responses taken at an edge are those of the taken entries. -/
theorem deliveries_eq [NeZero n] {edge : Edge n} (h : Advanced service b input done b' edge) :
    edge.deliveries = (b.taken input).map Entry.reply := by
  unfold Edge.deliveries AsyncBackend.taken
  rw [List.map_filterMap, h.replies]
  refine List.filterMap_congr fun i _ => ?_
  dsimp only
  cases hready : input.ready i with
  | false =>
    have hleft : b.takenAt input i = none := if_neg (hready ▸ Bool.false_ne_true)
    rw [hleft]
    cases b.preview i <;> rfl
  | true =>
    cases hp : b.preview i with
    | none =>
      have hleft : b.takenAt input i = none := by
        unfold AsyncBackend.takenAt
        rw [if_pos hready, hp, Option.bind_none]
      rw [hleft]
      rfl
    | some p =>
      obtain ⟨e, he, rfl⟩ := hb.takenAt_of_preview hp hready
      obtain ⟨-, rfl, -⟩ := takenAt_eq_some he
      rw [he]
      rfl

end AsyncBackend.Coherent

end

/-! ## The history of a backend -/

/-- The backend against the history of its run; `returned` are the entries that were taken. -/
structure Tracks (service : AtomicService σ) (s : LineState σ) (h : History n)
    (returned : List (Entry n)) (b : AsyncBackend σ n) : Prop where
  coherent : b.Coherent
  line : b.line = lineAfter service s h.accepted
  sequence : b.sequence = h.accepted.length
  deliveries : h.deliveries = returned.map Entry.reply
  complete : ∀ e ∈ returned, e.serviced = true
  all : ((returned ++ b.queue).map Entry.core).Perm (ledger service s 0 h.accepted)
  inOrder : (returned ++ b.queue).Pairwise (Ahead b.banks)
  settled : ∀ e ∈ returned ++ b.queue, e.serviced = true →
    Settled (ledger service s 0 h.accepted) h.completed e
  known : ∀ id ∈ h.completed, ∃ e ∈ returned ++ b.queue, e.sequence = id ∧ e.serviced = true
  bandwidth : ∀ edge ∈ h.edges, edge.replyCount ≤ b.config.returnsPerCycle

namespace Tracks

variable {service : AtomicService σ} {s : LineState σ} {h : History n} {returned : List (Entry n)}
  {b b' : AsyncBackend σ n} {input : EdgeInput n} {edge : Edge n}
  (ht : Tracks service s h returned b)
include ht

theorem core_mem (he : e ∈ returned ++ b.queue) : e.core ∈ ledger service s 0 h.accepted :=
  ht.all.subset (List.mem_map_of_mem he)

theorem exists_of_mem_ledger (hx : x ∈ ledger service s 0 h.accepted) :
    ∃ e ∈ returned ++ b.queue, e.core = x :=
  List.mem_map.mp (ht.all.symm.subset hx)

theorem sequence_le (he : e ∈ returned ++ b.queue) : e.sequence ≤ b.sequence := by
  have hle := (mem_ledger_sequence (ht.core_mem he)).2
  rw [Nat.zero_add, ← ht.sequence] at hle
  exact hle

/-- No two entries have the same number. -/
theorem nodup : ((returned ++ b.queue).map Entry.sequence).Nodup := by
  have hperm := ht.all.map Entry.sequence
  rw [List.map_map] at hperm
  exact hperm.symm.nodup (ledger_ordered _).nodup

theorem eq_of_sequence (hx : x ∈ returned ++ b.queue) (hy : y ∈ returned ++ b.queue)
    (hxy : x.sequence = y.sequence) : x = y :=
  List.inj_on_of_nodup_map ht.nodup hx hy hxy

/-- An access reported complete is marked. -/
theorem serviced_of_completed (he : e ∈ returned ++ b.queue) (hdone : e.sequence ∈ h.completed) :
    e.serviced = true := by
  obtain ⟨x, hx, hsequence, hserviced⟩ := ht.known _ hdone
  obtain rfl := ht.eq_of_sequence hx he hsequence
  exact hserviced

variable [NeZero n] (hadv : Advanced service b input done b' edge)
include hadv

omit hadv in
/-- The ledger grows by the requests accepted at the edge. -/
theorem ledger_advance (input : EdgeInput n) : ledger service s 0 (h.accepted ++ b.arrivals input) =
    ledger service s 0 h.accepted ++ ledger service b.line b.sequence (b.arrivals input) := by
  rw [ledger_append, ht.line, ht.sequence, Nat.zero_add]

theorem all_advance : ((returned ++ b.taken input ++ b'.queue).map Entry.core).Perm
    (ledger service s 0 (h.accepted ++ b.arrivals input)) := by
  rw [ht.ledger_advance, List.map_append, List.map_append, hadv.queue_core, ← List.append_assoc]
  refine List.Perm.append_right _ (List.Perm.trans ?_ ht.all)
  rw [List.append_assoc, ← List.map_append, ← List.map_append]
  exact (ht.coherent.taken_perm.append_left _).map Entry.core

/-- On a bank the entries taken now come after those taken before and ahead of the rest. -/
theorem inOrder_advance : (returned ++ b.taken input ++ b'.queue).Pairwise (Ahead b.banks) := by
  have hb := ht.coherent
  obtain ⟨hreturned, -, hbefore⟩ := List.pairwise_append.mp ht.inOrder
  have htaken : (b.taken input).Pairwise (Ahead b.banks) := by
    refine AsyncBackend.Coherent.taken_nodup.pairwise_of_forall_ne ?_
    intro x hx y hy hxy bank hxbank hybank
    have hxhead := hb.taken_head hx
    have hyhead := hb.taken_head hy
    have hle := hxhead.first bank hxbank y hyhead.mem hybank
    refine lt_of_le_of_ne hle fun hsequence => hxy ?_
    exact hb.ordered.eq_of_sequence hxhead.mem hyhead.mem hsequence
  have hkept : ∀ x ∈ b.taken input, ∀ y ∈ b.kept input, Ahead b.banks x y := by
    intro x hx y hy bank hxbank hybank
    obtain ⟨hymem, hyleft⟩ := mem_kept.mp hy
    have hxhead := hb.taken_head hx
    refine lt_of_le_of_ne (hxhead.first bank hxbank y hymem hybank) fun hsequence => hyleft ?_
    obtain rfl : x = y := hb.ordered.eq_of_sequence hxhead.mem hymem hsequence
    exact (hb.mem_taken.mp hx).2
  refine List.pairwise_append.mpr ⟨?_, ?_, ?_⟩
  · refine List.pairwise_append.mpr ⟨hreturned, htaken, ?_⟩
    intro x hx y hy
    exact hbefore x hx y (hb.mem_taken.mp hy).1
  · exact (hb.advance hadv).ordered.imp fun hlt _ _ _ => hlt
  · intro x hx y hy
    have hxold : x ∈ returned ++ b.queue := by
      refine (List.mem_append.mp hx).elim (List.mem_append_left _) fun hx => ?_
      exact List.mem_append_right _ (hb.mem_taken.mp hx).1
    rcases hadv.origin hy with ⟨z, hz, hcore⟩ | hnew
    · have hahead : Ahead b.banks x z :=
        (List.mem_append.mp hx).elim (fun hx => hbefore x hx z (mem_kept.mp hz).1)
          fun hx => hkept x hx z hz
      intro bank hxbank hybank
      rw [← request_of_core hcore] at hybank
      exact (hahead bank hxbank hybank).trans_eq (sequence_of_core hcore)
    · intro bank _ _
      exact (ht.sequence_le hxold).trans_lt (mem_ledger_sequence hnew).1

/-- What is complete after the edge: it was complete, it is reported now, or it is a ticket
with everything older complete. -/
theorem serviced_cases (he : e ∈ returned ++ b.taken input ++ b'.queue)
    (hserviced : e.serviced = true) : e ∈ returned ++ b.queue ∨
      (e.request.operation ≠ .visibility ∧ e.sequence ∈ done) ∨
      (e.request.operation = .visibility ∧
        ∀ y ∈ b'.queue, y.sequence < e.sequence → y.serviced = true) := by
  have hb := ht.coherent
  rcases List.mem_append.mp he with he | he
  · rcases List.mem_append.mp he with he | he
    · exact .inl (List.mem_append_left _ he)
    · exact .inl (List.mem_append_right _ (hb.mem_taken.mp he).1)
  · rw [hadv.queue] at he
    rcases mem_completeTickets (hb.marked_ordered done) he with hold | ⟨-, ⟨x, -, hx, rfl⟩, hall⟩
    · rcases List.mem_append.mp hold with hold | hnew
      · obtain ⟨x, hx, rfl⟩ := List.mem_map.mp hold
        by_cases hin : x.sequence ∈ done
        · obtain ⟨y, hy, hsequence, -, hoperation⟩ := hadv.awaited _ hin
          obtain rfl : y = x := hb.kept_ordered.eq_of_sequence hy hx hsequence
          refine .inr (.inl ⟨?_, ?_⟩)
          · rw [request_of_core (core_mark done y)]
            exact hoperation
          · rw [mark_sequence]
            exact hin
        · have hsame : x.mark input.cycle done = x := if_neg hin
          rw [hsame]
          exact .inl (List.mem_append_right _ (mem_kept.mp hx).1)
      · -- an entry is not complete when it arrives
        have hcore : e ∈ (ledger service b.line b.sequence (b.arrivals input)).map Entry.core := by
          rw [ledger_core]
          exact hnew
        obtain ⟨x, -, rfl⟩ := List.mem_map.mp hcore
        cases hserviced
    · refine .inr (.inr ⟨hx, ?_⟩)
      rw [hadv.queue]
      exact hall

theorem settled_advance (he : e ∈ returned ++ b.taken input ++ b'.queue)
    (hserviced : e.serviced = true) :
    Settled (ledger service s 0 (h.accepted ++ b.arrivals input)) (h.completed ++ done) e := by
  -- the accesses first: a ticket waits for them
  have hown : ∀ x ∈ returned ++ b.taken input ++ b'.queue, x.serviced = true →
      x.request.operation ≠ .visibility → x.sequence ∈ h.completed ++ done := by
    intro x hx hx' hoperation
    rcases ht.serviced_cases hadv hx hx' with hold | ⟨-, hdone⟩ | ⟨hticket, -⟩
    · exact List.mem_append_left _ ((ht.settled x hold hx').own hoperation)
    · exact List.mem_append_right _ hdone
    · exact absurd hticket hoperation
  refine ⟨hown e he hserviced, fun hticket x hx hxoperation hlt => ?_⟩
  rcases ht.serviced_cases hadv he hserviced with hold | ⟨haccess, -⟩ | ⟨-, hall⟩
  · rw [ht.ledger_advance] at hx
    rcases List.mem_append.mp hx with hx | hx
    · exact List.mem_append_left _
        ((ht.settled e hold hserviced).older hticket x hx hxoperation hlt)
    · have hle := ht.sequence_le hold
      have hgt := (mem_ledger_sequence hx).1
      omega
  · exact absurd hticket haccess
  · obtain ⟨y, hy, rfl⟩ := List.mem_map.mp ((ht.all_advance hadv).symm.subset hx)
    refine hown y hy ?_ hxoperation
    rcases List.mem_append.mp hy with hy | hy
    · rcases List.mem_append.mp hy with hy | hy
      · exact ht.complete y hy
      · exact (ht.coherent.taken_head hy).serviced
    · exact hall y hy hlt

theorem known_advance {id : Nat} (hid : id ∈ h.completed ++ done) :
    ∃ e ∈ returned ++ b.taken input ++ b'.queue, e.sequence = id ∧ e.serviced = true := by
  have hb := ht.coherent
  rcases List.mem_append.mp hid with hid | hid
  · obtain ⟨e, he, rfl, hserviced⟩ := ht.known id hid
    refine ⟨e, ?_, rfl, hserviced⟩
    rcases List.mem_append.mp he with he | he
    · exact List.mem_append_left _ (List.mem_append_left _ he)
    · by_cases htaken : Taken b.preview input.ready e
      · exact List.mem_append_left _ (List.mem_append_right _ (hb.mem_taken.mpr ⟨he, htaken⟩))
      · exact List.mem_append_right _ (hb.complete_stays hadv he hserviced htaken)
  · obtain ⟨x, hx, rfl, -, -⟩ := hadv.awaited id hid
    refine ⟨x.complete input.cycle, List.mem_append_right _ ?_, rfl, rfl⟩
    rw [hadv.queue]
    refine mem_completeTickets_of_mem (List.mem_append_left _ ?_) (.inl rfl)
    exact List.mem_map.mpr ⟨x, hx, if_pos hid⟩

/-- One edge. -/
theorem advance (htick : dram.tick = .ok done) :
    Tracks service s (h.record b input dram edge) (returned ++ b.taken input) b' := by
  have hcompleted : (h.record b input dram edge).completed = h.completed ++ done := by
    unfold History.record
    rw [htick]
    rfl
  refine ⟨ht.coherent.advance hadv, ?_, ?_, ?_, ?_, ht.all_advance hadv, ?_, ?_, ?_, ?_⟩
  · rw [hadv.line, ht.line]
    exact (lineAfter_append _ _).symm
  · rw [hadv.sequence, ht.sequence]
    exact List.length_append.symm
  · unfold History.deliveries History.record
    rw [List.flatMap_append, List.flatMap_singleton, List.map_append,
      ← ht.coherent.deliveries_eq hadv, ← ht.deliveries]
    rfl
  · intro e he
    rcases List.mem_append.mp he with he | he
    · exact ht.complete e he
    · exact (ht.coherent.taken_head he).serviced
  · rw [hadv.banks]
    exact ht.inOrder_advance hadv
  · intro e he hserviced
    rw [hcompleted]
    exact ht.settled_advance hadv he hserviced
  · intro id hid
    rw [hcompleted] at hid
    exact ht.known_advance hadv hid
  · rw [hadv.config]
    refine List.forall_mem_append.mpr ⟨ht.bandwidth, List.forall_mem_singleton.mpr ?_⟩
    unfold Edge.replyCount
    rw [hadv.replies]
    simp only [Option.isSome_map]
    exact ht.coherent.preview_bandwidth

end Tracks

theorem new_tracks (h : AsyncBackend.new owner config n banks = .ok b) :
    Tracks service { owner } {} [] b := by
  have hcoherent := new_coherent h
  unfold AsyncBackend.new Backend.new at h
  simp only [ok_iff] at h
  obtain ⟨-, _, ⟨-, rfl⟩, rfl⟩ := h
  refine ⟨hcoherent, rfl, rfl, rfl, ?_, List.Perm.nil, List.Pairwise.nil, ?_, ?_, ?_⟩
  · intro e he
    cases he
  · intro e he
    cases he
  · intro e he
    cases he
  · intro id hid
    cases hid

theorem edge_eq_ok [NeZero n] {signals : EdgeInput n × DRAMAnswer} (hb : b.Coherent)
    (hedge : AsyncBackend.edge service (b, h) signals = .ok (b', h')) :
    ∃ done edge, signals.2.tick = .ok done ∧ Advanced service b signals.1 done b' edge ∧
      h' = h.record b signals.1 signals.2 edge := by
  unfold AsyncBackend.edge at hedge
  simp only [ok_iff, Prod.exists, Prod.mk.injEq] at hedge
  obtain ⟨_, edge, hstep, rfl, rfl⟩ := hedge
  obtain ⟨done, htick, hadv⟩ := step_advanced hb hstep
  exact ⟨done, edge, htick, hadv, rfl⟩

/-- The whole run. -/
theorem run_tracks [NeZero n] {h' : History n} {returned : List (Entry n)}
    (ht : Tracks service s h returned b) (hrun : b.run service h signals = .ok (b', h')) :
    (∃ returned', Tracks service s h' returned' b') ∧ b'.config = b.config ∧
      b'.banks = b.banks := by
  refine Session.run_invariant (fun state => (∃ r, Tracks service s state.2 r state.1) ∧
    state.1.config = b.config ∧ state.1.banks = b.banks) ?_ ⟨⟨returned, ht⟩, rfl, rfl⟩ hrun
  rintro ⟨b, h⟩ i ⟨b', h'⟩ ⟨⟨r, ht⟩, hconfig, hbanks⟩ hedge
  obtain ⟨done, edge, htick, hadv, rfl⟩ := edge_eq_ok ht.coherent hedge
  exact ⟨⟨_, ht.advance hadv htick⟩, hadv.config.trans hconfig, hadv.banks.trans hbanks⟩

end VortexSim.Memsys
