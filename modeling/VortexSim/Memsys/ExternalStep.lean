import VortexSim.Memsys.ExternalQueue

/-!
# One edge of the external backend

`Coherent` is what holds between edges: the queue is in the order of acceptance, and a
response that waits on a port is the head of its bank.  An edge of a coherent backend returns
exactly the previewed responses, completes what the DRAM model reports and appends the
accepted requests (`Advanced`), and leaves a coherent backend.
-/

namespace VortexSim.Memsys

open Checked

variable {σ : Type} {n : Nat} {service : AtomicService σ} {b b' : AsyncBackend σ n}
  {input : EdgeInput n} {done : List Nat} {edge : Edge n} {e : Entry n}

/-- What holds of a backend between edges. -/
structure AsyncBackend.Coherent (b : AsyncBackend σ n) : Prop where
  ordered : Ordered b.queue
  numbered : ∀ e ∈ b.queue, e.sequence ≤ b.sequence
  held : ∀ i r, b.returnHeld i = some r →
    ∃ e, HeadOf b.banks b.queue e ∧ e.client = i ∧ e.response = r
  bandwidth : validCount b.returnHeld ≤ b.config.returnsPerCycle
  inflight : b.queue.length ≤ b.config.maxInflight
  /-- A ticket with nothing before it is complete. -/
  ticket : ∀ e rest, b.queue = e :: rest → e.request.operation = .visibility → e.serviced = true

theorem new_coherent (h : AsyncBackend.new owner config n banks = .ok b) : b.Coherent := by
  unfold AsyncBackend.new Backend.new at h
  simp only [ok_iff] at h
  obtain ⟨-, _, ⟨-, rfl⟩, rfl⟩ := h
  refine ⟨List.Pairwise.nil, ?_, ?_, ?_, Nat.zero_le _, ?_⟩
  · intro e he
    cases he
  · intro i r hr
    cases hr
  · have hnone : validCount (fun _ : Fin n => none) = 0 := List.countP_eq_zero.mpr (by simp)
    exact hnone.le.trans (Nat.zero_le _)
  · intro e rest he
    cases he

/-! ## The preview of a coherent backend -/

namespace AsyncBackend.Coherent

variable (hb : b.Coherent)
include hb

/-- A previewed response is the one of a complete entry at the head of its bank. -/
theorem preview_head (h : b.preview i = some r) :
    ∃ e, HeadOf b.banks b.queue e ∧ e.client = i ∧ e.response = r := by
  rcases previewBanks_cases h with hheld | ⟨before, e, after, hq, hclient, hserviced, hr, hbank⟩
  · exact hb.held i r hheld
  · refine ⟨e, ⟨?_, hserviced, ?_⟩, hclient, hr⟩
    · rw [hq]
      exact List.mem_append_right _ List.mem_cons_self
    · intro bank hbankOf x hx hxbank
      have hordered := hb.ordered
      unfold Ordered at hordered
      rw [hq, List.pairwise_append, List.pairwise_cons] at hordered
      rw [hq] at hx
      rcases List.mem_append.mp hx with hx | hx
      · exact absurd hxbank ((hbank bank hbankOf).2 x hx)
      · rcases List.mem_cons.mp hx with rfl | hx
        · exact Nat.le_refl _
        · exact (hordered.2.1.1 x hx).le

theorem matched_iff (he : e ∈ b.queue) :
    Matched b.preview e ↔ b.preview e.client = some e.response := by
  constructor
  · rintro ⟨p, hp, hsequence⟩
    obtain ⟨x, hx, -, rfl⟩ := hb.preview_head hp
    obtain rfl : x = e := hb.ordered.eq_of_sequence hx.mem he hsequence
    exact hp
  · intro hp
    exact ⟨e.response, hp, rfl⟩

theorem preview_bandwidth : validCount b.preview ≤ b.config.returnsPerCycle :=
  validCount_previewBanks rfl hb.bandwidth

end AsyncBackend.Coherent

/-! ## The edge -/

/-- The entries that stay in the queue. -/
def AsyncBackend.kept (b : AsyncBackend σ n) (input : EdgeInput n) : List (Entry n) :=
  b.queue.filter fun e => decide (¬ Taken b.preview input.ready e)

/-- The requests accepted at an edge. -/
def AsyncBackend.arrivals [NeZero n] (b : AsyncBackend σ n) (input : EdgeInput n) :
    List (Accepted n) :=
  (b.acceptedRequests input.offers).map fun a => ⟨input.cycle, a.1, a.2⟩

theorem length_arrivals [NeZero n] : (b.arrivals input).length ≤
    b.config.maxInflight - b.queue.length := by
  unfold AsyncBackend.arrivals Backend.acceptedRequests Backend.admitted
  rw [List.length_map]
  refine (List.length_filterMap_le _ _).trans ((List.length_take_le _ _).trans ?_)
  exact Nat.min_le_right _ _

/-- An edge at which the DRAM model reports `done`. -/
structure Advanced [NeZero n] (service : AtomicService σ) (b : AsyncBackend σ n)
    (input : EdgeInput n) (done : List Nat) (b' : AsyncBackend σ n) (edge : Edge n) : Prop where
  fresh : done.Nodup
  awaited : ∀ id ∈ done, Awaited (b.kept input) id
  line : b'.line = lineAfter service b.line (b.arrivals input)
  sequence : b'.sequence = b.sequence + (b.arrivals input).length
  queue : b'.queue = completeTickets input.cycle true
    ((b.kept input).map (Entry.mark input.cycle done) ++
      ledger service b.line b.sequence (b.arrivals input))
  replies : edge.replies = fun i =>
    (b.preview i).map fun p => { delivered := input.ready i, response := p }
  held : b'.returnHeld = fun i => if input.ready i then none else b.preview i
  accepted : edge.accepted = acceptedFlags (b.acceptedRequests input.offers)
  wellFormed : ∀ i r, input.offers i = some r → ¬ r.Malformed
  config : b'.config = b.config
  banks : b'.banks = b.banks

/-- The return path of an edge shows the preview and keeps what is not taken. -/
theorem AsyncBackend.Coherent.retire_eq (hb : b.Coherent) :
    retirePreviewed b.preview input.ready b.config.returnsPerCycle 0 (fun _ => none) b.queue =
      (fun i => (b.preview i).map fun p => { delivered := input.ready i, response := p },
        b.kept input) := by
  have hroom := (countP_matched_le (P := b.preview) hb.ordered).trans hb.preview_bandwidth
  rw [retirePreviewed_spec (by omega)]
  refine Prod.ext ?_ rfl
  funext i
  unfold returned
  dsimp only
  split
  · rfl
  · rename_i hunmatched
    cases hp : b.preview i with
    | none => rfl
    | some p =>
      obtain ⟨e, he, rfl, rfl⟩ := hb.preview_head hp
      exact absurd ⟨e, he.mem, rfl, (hb.matched_iff he.mem).mpr hp⟩ hunmatched

/-- An offer that passes the checks is a request a backend serves. -/
theorem check_wellFormed (h : b.check input = .ok u) (i : Fin n) (r : LineRequest)
    (hr : input.offers i = some r) : ¬ r.Malformed := by
  unfold AsyncBackend.check at h
  simp only [ok_iff] at h
  have hport := each_apply h.2.2 (List.mem_finRange i)
  unfold Backend.checkPort at hport
  rw [hr] at hport
  simp only [ok_iff] at hport
  exact hport.2.1

theorem AsyncBackend.Coherent.kept_ordered (hb : b.Coherent) : Ordered (b.kept input) :=
  hb.ordered.sublist List.filter_sublist

theorem step_advanced [NeZero n] (hb : b.Coherent)
    (h : b.step service input dram = .ok (b', edge)) :
    ∃ done, dram.tick = .ok done ∧ Advanced service b input done b' edge := by
  unfold AsyncBackend.step at h
  rw [hb.retire_eq] at h
  simp only [ok_iff, Prod.exists, Prod.mk.injEq] at h
  obtain ⟨hcheck, done, hdone, completed, hcompleted, line, entries, haccept, rfl, rfl⟩ := h
  obtain ⟨⟨hfresh, hawaited⟩, rfl⟩ := (completeAll_eq_ok hb.kept_ordered).mp hcompleted
  obtain ⟨rfl, rfl⟩ := acceptAll_eq_ok haccept
  refine ⟨done, hdone, hfresh, hawaited, rfl, ?_, rfl, rfl, ?_, rfl, check_wellFormed hcheck, rfl,
    rfl⟩
  · unfold AsyncBackend.arrivals
    rw [List.length_map]
  · funext i
    dsimp only
    cases b.preview i with
    | none => exact (ite_self none).symm
    | some p => rfl

/-- A DRAM model that takes every submission and reports awaited requests once each is never
refused. -/
theorem step_of_lawful [NeZero n] (hb : b.Coherent) (hcheck : b.check input = .ok ())
    (hdone : dram.tick = .ok done) (hfresh : done.Nodup)
    (hawaited : ∀ id ∈ done, Awaited (b.kept input) id)
    (hsubmit : ∀ id address write, dram.submit id address write = none) :
    ∃ after, b.step service input dram = .ok after := by
  have hcompleted : completeAll input.cycle done (b.kept input) =
      .ok ((b.kept input).map (Entry.mark input.cycle done)) :=
    (completeAll_eq_ok hb.kept_ordered).mpr ⟨⟨hfresh, hawaited⟩, rfl⟩
  obtain ⟨⟨line, entries⟩, haccept⟩ : ∃ after, acceptAll service dram.submit input.cycle b.line
      b.sequence (b.acceptedRequests input.offers) = .ok after := acceptAll_of_submits hsubmit _
  unfold AsyncBackend.step
  rw [hb.retire_eq, hcheck]
  simp only [ok_iff]
  exact ⟨_, trivial, done, hdone, _, hcompleted, (line, entries), haccept, rfl⟩

/-! ## The edge keeps coherence -/

namespace Advanced

variable [NeZero n] (h : Advanced service b input done b' edge)
include h

/-- Up to marks the queue holds what was kept and what arrived. -/
theorem queue_core : b'.queue.map Entry.core =
    (b.kept input).map Entry.core ++ ledger service b.line b.sequence (b.arrivals input) := by
  rw [h.queue, completeTickets_core, List.map_append, List.map_map, ledger_core]
  refine congrArg (· ++ _) (List.map_congr_left fun e _ => ?_)
  exact core_mark done e

/-- An entry after the edge was in the queue or has arrived. -/
theorem origin (hx : x ∈ b'.queue) : (∃ e ∈ b.kept input, e.core = x.core) ∨
      x.core ∈ ledger service b.line b.sequence (b.arrivals input) := by
  have hcore := List.mem_map_of_mem (f := Entry.core) hx
  rw [h.queue_core] at hcore
  exact (List.mem_append.mp hcore).imp List.mem_map.mp id

end Advanced

variable {sequence : Nat}

theorem mem_ledger_sequence (he : e ∈ ledger service s sequence accepted) :
    sequence < e.sequence ∧ e.sequence ≤ sequence + accepted.length := by
  have hin := List.mem_map_of_mem (f := Entry.sequence) he
  rw [ledger_sequences, List.mem_range'_1] at hin
  omega

theorem length_ledger (accepted : List (Accepted n)) :
    (ledger service s sequence accepted).length = accepted.length := by
  rw [← List.length_map Entry.sequence, ledger_sequences, List.length_range']

theorem ledger_ordered (accepted : List (Accepted n)) :
    Ordered (ledger service s sequence accepted) := by
  have hsorted : ((ledger service s sequence accepted).map Entry.sequence).Pairwise (· < ·) := by
    rw [ledger_sequences]
    exact List.pairwise_lt_range'
  exact List.pairwise_map.mp hsorted

theorem mem_kept : x ∈ b.kept input ↔ x ∈ b.queue ∧ ¬ Taken b.preview input.ready x := by
  unfold AsyncBackend.kept
  rw [List.mem_filter, decide_eq_true_iff]

namespace AsyncBackend.Coherent

variable [NeZero n] (hb : b.Coherent) (h : Advanced service b input done b' edge)
include hb h

/-- A complete entry that is not taken stays as it is. -/
theorem complete_stays (he : e ∈ b.queue) (hserviced : e.serviced = true)
    (hleft : ¬ Taken b.preview input.ready e) : e ∈ b'.queue := by
  have hkept : e ∈ b.kept input := mem_kept.mpr ⟨he, hleft⟩
  have hunmarked : e.mark input.cycle done = e := by
    refine if_neg fun hin => ?_
    obtain ⟨x, hx, hsequence, hopen, -⟩ := h.awaited _ hin
    obtain rfl : x = e := hb.kept_ordered.eq_of_sequence hx hkept hsequence
    exact Bool.false_ne_true (hopen.symm.trans hserviced)
  rw [h.queue]
  refine mem_completeTickets_of_mem (List.mem_append_left _ ?_) (.inl hserviced)
  exact List.mem_map.mpr ⟨e, hkept, hunmarked⟩

omit h in
theorem marked_ordered (done : List Nat) :
    Ordered ((b.kept input).map (Entry.mark input.cycle done) ++
    ledger service b.line b.sequence (b.arrivals input)) := by
  refine List.pairwise_append.mpr ⟨hb.kept_ordered.map (mark_sequence done), ledger_ordered _, ?_⟩
  intro x hx y hy
  obtain ⟨e, he, rfl⟩ := List.mem_map.mp hx
  have hold := hb.numbered e (mem_kept.mp he).1
  have hsame : (e.mark input.cycle done).sequence = e.sequence := mark_sequence done e
  exact (hsame.le.trans hold).trans_lt (mem_ledger_sequence hy).1

/-- The head of a bank stays the head as long as it is not taken. -/
theorem head_stays (he : HeadOf b.banks b.queue e)
    (hleft : ¬ Taken b.preview input.ready e) : HeadOf b'.banks b'.queue e := by
  refine ⟨hb.complete_stays h he.mem he.serviced hleft, he.serviced, ?_⟩
  intro bank hbank x hx hxbank
  rw [h.banks] at hbank hxbank
  rcases h.origin hx with ⟨y, hy, hcore⟩ | hnew
  · have hrequest : y.request = x.request := request_of_core hcore
    have hsequence : y.sequence = x.sequence := sequence_of_core hcore
    rw [← hrequest] at hxbank
    exact (he.first bank hbank y (mem_kept.mp hy).1 hxbank).trans_eq hsequence
  · have hlt := (mem_ledger_sequence hnew).1
    have hle := hb.numbered e he.mem
    exact (hle.trans_lt hlt).le

theorem advance : b'.Coherent := by
  refine ⟨?_, ?_, ?_, ?_, ?_, ?_⟩
  · rw [h.queue]
    exact (hb.marked_ordered done).of_core (completeTickets_core true)
  · intro x hx
    rw [h.sequence]
    rcases h.origin hx with ⟨y, hy, hcore⟩ | hnew
    · have hsequence : y.sequence = x.sequence := sequence_of_core hcore
      have hold := hb.numbered y (mem_kept.mp hy).1
      omega
    · exact (mem_ledger_sequence hnew).2
  · intro i r hr
    rw [h.held] at hr
    dsimp only at hr
    split at hr
    · cases hr
    · rename_i hready
      obtain ⟨e, he, rfl, rfl⟩ := hb.preview_head hr
      exact ⟨e, hb.head_stays h he fun htaken => hready htaken.2, rfl, rfl⟩
  · rw [h.config]
    refine le_trans (validCount_le_of_imp fun i hi => ?_) hb.preview_bandwidth
    rw [h.held] at hi
    dsimp only at hi
    split at hi
    · cases hi
    · exact hi
  · have hlength := congrArg List.length h.queue_core
    have hkept : (b.kept input).length ≤ b.queue.length := List.length_filter_le _ _
    have harrivals : (b.arrivals input).length ≤ b.config.maxInflight - b.queue.length :=
      length_arrivals
    have hinflight := hb.inflight
    rw [List.length_map, List.length_append, List.length_map, length_ledger] at hlength
    rw [h.config]
    omega
  · intro x rest hx hticket
    rw [h.queue] at hx
    exact completeTickets_head hx hticket

end AsyncBackend.Coherent

end VortexSim.Memsys
