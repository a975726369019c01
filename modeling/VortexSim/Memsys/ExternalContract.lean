import VortexSim.Memsys.Bytes
import VortexSim.Memsys.ExternalProgress

/-!
# The contract of the external backend

What the clients of an `AsyncBackend` may rely on, for every session and every behaviour of
the DRAM model that the backend does not refuse.  Requests are numbered from one in the order
of acceptance, and this number is the sequence number of the response.

What the requests mean is said byte by byte: the byte at an address is the data of the last
accepted write that enables it, and else the byte before the session.  A write that the owner of
the bytes refuses is not counted; its response carries the error.
-/

namespace VortexSim.Memsys

variable {σ : Type} {n : Nat}

/-- The request with number `k`. -/
def History.Numbered (h : History n) (k : Nat) (a : Accepted n) : Prop :=
  0 < k ∧ h.accepted[k - 1]? = some a

/-- An access of the history the DRAM model was asked for. -/
def History.Submitted (h : History n) (k : Nat) : Prop :=
  ∃ a, h.Numbered k a ∧ a.request.operation ≠ .visibility

/-- The bus bank of the request with number `k`. -/
def History.bankOf (h : History n) (banks k : Nat) : Option Nat :=
  h.accepted[k - 1]?.bind fun a => a.request.busBank banks

/-- The response to a request that is served after all earlier ones. -/
def History.answer (service : AtomicService σ) (s : LineState σ) (h : History n) (k : Nat)
    (a : Accepted n) (completedCycle : Nat) : Response :=
  let served := (serveLine service (lineAfter service s (h.accepted.take (k - 1))) a.request).2
  { a.request.pending a.cycle k with data := served.data, err := served.err, completedCycle }

/-- The error of the request with number `k`. -/
def History.fault (service : AtomicService σ) (s : LineState σ) (h : History n) (k : Nat) :
    Option Error :=
  h.accepted[k - 1]?.bind fun a => (h.answer service s k a 0).err

/-- The byte at an address after the first `k` requests: that of the last write among them which
gives one and has no error, and else the initial one. -/
def History.byteAfter (h : History n) (fault : Nat → Option Error) (initial : Nat → Option Byte)
    (i : Nat) : Nat → Option Byte
  | 0 => initial i
  | k + 1 => (h.accepted[k]?.bind fun a =>
      if fault (k + 1) = none then a.request.byteFor i else none).or
        (h.byteAfter fault initial i k)

/-- The requests accepted at one edge: the well-formed offers of the ports that show it. -/
structure Admitted (input : EdgeInput n) (edge : Edge n) (group : List (Accepted n)) : Prop where
  once : (group.map Accepted.client).Nodup
  offered : ∀ a ∈ group, input.offers a.client = some a.request ∧ a.cycle = input.cycle
  shown : ∀ i, edge.accepted i = true ↔ ∃ a ∈ group, a.client = i
  wellFormed : ∀ a ∈ group, ¬ a.request.Malformed

/-- What holds of every session of a backend. -/
structure Contract [NeZero n] (service : AtomicService σ) (owner : σ) (config : Config)
    (banks : Nat) (signals : List (EdgeInput n × DRAMAnswer)) (b : AsyncBackend σ n)
    (h : History n) : Prop where
  /-- The history is that of the edges: each appends what its ports show as accepted. -/
  admitted : h.edges.length = signals.length ∧ ∃ groups, h.accepted = groups.flatten ∧
    List.Forall₂ (fun edge group => Admitted edge.1 edge.2 group)
      ((signals.map Prod.fst).zip h.edges) groups
  /-- Every accepted request has been answered once or is still in the queue. -/
  once : (h.deliveries.map (fun d => d.2.sequence) ++ b.queue.map Entry.sequence).Perm
    (List.range' 1 h.accepted.length)
  /-- An answer goes to its client with the data of the sequential order. -/
  answers : ∀ d ∈ h.deliveries, ∃ a, h.Numbered d.2.sequence a ∧ a.client = d.1 ∧
    d.2 = h.answer service { owner } d.2.sequence a d.2.completedCycle
  memory : b.line = lineAfter service { owner } h.accepted
  /-- A reply carries the identity, tag, operation and cycle of its request, and its error. -/
  headers : ∀ d ∈ h.deliveries, ∃ a, h.Numbered d.2.sequence a ∧ a.client = d.1 ∧
    d.2.identity = a.request.identity ∧ d.2.tag = a.request.tag ∧
    d.2.operation = a.request.operation ∧ d.2.acceptedCycle = a.cycle ∧
    d.2.err = h.fault service { owner } d.2.sequence
  /-- The error of an access is one that the owner reported. -/
  errors : ∀ k a err, h.Numbered k a → a.request.operation ≠ .visibility →
    h.fault service { owner } k = some err → Blame service a.request err
  /-- The bytes at the end are those of the last writes. -/
  bytes : ∀ look, service.Lawful look → ∀ i, look b.line.owner i =
    h.byteAfter (h.fault service { owner }) (look owner) i h.accepted.length
  /-- A read returns the 64 bytes after all earlier requests. -/
  reads : ∀ look, service.Lawful look → ∀ d ∈ h.deliveries, ∀ a, h.Numbered d.2.sequence a →
    a.request.operation = .read → d.2.err = none → ∀ j : Fin sectorBytes, some (d.2.data j) =
      h.byteAfter (h.fault service { owner }) (look owner) (a.request.address.toNat + j)
        (d.2.sequence - 1)
  bankOrder : ∀ bank, ((h.deliveries.map fun d => d.2.sequence).filter
    fun k => h.bankOf banks k = some bank).Pairwise (· < ·)
  returns : ∀ edge ∈ h.edges, edge.replyCount ≤ config.returnsPerCycle
  inflight : b.queue.length ≤ config.maxInflight
  /-- A ticket that was taken, or that the next edge shows, has waited for every older access. -/
  tickets : ∀ i r, (i, r) ∈ h.deliveries ∨ b.preview i = some r → r.operation = .visibility →
    ∀ k < r.sequence, h.Submitted k → k ∈ h.completed
  /-- A model that takes every submission and returns submitted numbers once each is not
  refused. -/
  lawful : ∀ input dram done, b.check input = .ok () → dram.tick = .ok done →
    (∀ id address write, dram.submit id address write = none) → done.Nodup →
    (∀ id ∈ done, h.Submitted id ∧ id ∉ h.completed) →
    ∃ after, b.step service input dram = .ok after
  /-- Once the accesses up to number `k` are complete, `k` is answered within a bounded number
  of rounds. -/
  progress : ∀ k a, h.Numbered k a → (∀ j ≤ k, h.Submitted j → j ∈ h.completed) →
    ∀ (rounds : List (List (EdgeInput n × DRAMAnswer))) b' h',
    3 * config.maxInflight ≤ rounds.length → (∀ r ∈ rounds, Round r) →
    b.run service h rounds.flatten = .ok (b', h') →
    k ∈ h'.deliveries.map fun d => d.2.sequence

/-! ## The ledger by number -/

section

variable {service : AtomicService σ} {s : LineState σ} {sequence : Nat}

theorem getElem?_ledger (accepted : List (Accepted n)) (i : Nat) :
    (ledger service s sequence accepted)[i]? = accepted[i]?.map fun a =>
      acceptEntry a.cycle (sequence + i + 1) a.client a.request
        (serveLine service (lineAfter service s (accepted.take i)) a.request).2 := by
  induction accepted generalizing s sequence i with
  | nil => rfl
  | cons a accepted ih =>
    cases i with
    | zero => rfl
    | succ i =>
      rw [ledger, List.getElem?_cons_succ, List.getElem?_cons_succ, ih,
        Nat.add_right_comm sequence 1 i]
      rfl

variable {h : History n} {e : Entry n}

theorem mem_ledger_numbered (he : e ∈ ledger service s 0 h.accepted) :
    ∃ a, h.Numbered e.sequence a ∧ a.client = e.client ∧ a.request = e.request ∧
      e.response = h.answer service s e.sequence a 0 := by
  obtain ⟨i, hi⟩ := List.getElem?_of_mem he
  rw [getElem?_ledger] at hi
  obtain ⟨a, ha, rfl⟩ := Option.map_eq_some_iff.mp hi
  have hsequence : (acceptEntry a.cycle (0 + i + 1) a.client a.request
      (serveLine service (lineAfter service s (h.accepted.take i)) a.request).2).sequence = i + 1 :=
    congrArg (· + 1) (Nat.zero_add i)
  rw [hsequence]
  refine ⟨a, ⟨Nat.succ_pos i, ha⟩, rfl, rfl, ?_⟩
  rw [Nat.zero_add]
  rfl

theorem exists_mem_ledger (hk : h.Numbered k a) :
    ∃ e ∈ ledger service s 0 h.accepted, e.sequence = k ∧ e.request = a.request := by
  obtain ⟨hpos, ha⟩ := hk
  have hi : (ledger service s 0 h.accepted)[k - 1]? = _ := getElem?_ledger h.accepted (k - 1)
  rw [ha] at hi
  refine ⟨_, List.mem_of_getElem? hi, ?_, rfl⟩
  exact (congrArg (· + 1) (Nat.zero_add _)).trans (Nat.sub_add_cancel hpos)

end

/-! ## Acceptance -/

/-- The arbitration asks every port once. -/
theorem rotated_nodup [NeZero n] (start : Nat) : (rotated n start).Nodup := by
  refine List.Nodup.map_on (fun x hx y hy hxy => ?_) List.nodup_range
  have hmod : (start + x) % n = (start + y) % n := congrArg Fin.val hxy
  have hsame : x % n = y % n := Nat.ModEq.add_left_cancel' start hmod
  rw [Nat.mod_eq_of_lt (List.mem_range.mp hx), Nat.mod_eq_of_lt (List.mem_range.mp hy)] at hsame
  exact hsame

/-- An edge accepts the offers that its flags show. -/
theorem Advanced.admitted [NeZero n] {b b' : AsyncBackend σ n} {input : EdgeInput n}
    (hadv : Advanced service b input done b' edge) : Admitted input edge (b.arrivals input) := by
  have hoffer : ∀ p ∈ b.acceptedRequests input.offers, input.offers p.1 = some p.2 := by
    intro p hp
    obtain ⟨i, -, hi⟩ := List.mem_filterMap.mp hp
    obtain ⟨r, hr, rfl⟩ := Option.map_eq_some_iff.mp hi
    exact hr
  unfold AsyncBackend.arrivals
  refine ⟨?_, ?_, ?_, ?_⟩
  · have hports : (b.admitted input.offers).Nodup :=
      ((rotated_nodup b.nextClient).filter _).sublist (List.take_sublist _ _)
    unfold Backend.acceptedRequests
    rw [List.map_map, List.map_filterMap]
    refine hports.filterMap fun i j k hi hj => ?_
    simp only [Option.mem_def, Option.map_map, Option.map_eq_some_iff] at hi hj
    obtain ⟨_, -, rfl⟩ := hi
    obtain ⟨_, -, h⟩ := hj
    exact h.symm
  · intro a ha
    obtain ⟨p, hp, rfl⟩ := List.mem_map.mp ha
    exact ⟨hoffer p hp, rfl⟩
  · intro i
    rw [hadv.accepted, acceptedFlags, List.lookup_isSome_iff]
    constructor
    · rintro ⟨p, hp, hi⟩
      exact ⟨_, List.mem_map_of_mem hp, (eq_of_beq hi).symm⟩
    · rintro ⟨a, ha, rfl⟩
      obtain ⟨p, hp, rfl⟩ := List.mem_map.mp ha
      exact ⟨p, hp, beq_self_eq_true _⟩
  · intro a ha
    obtain ⟨p, hp, rfl⟩ := List.mem_map.mp ha
    exact hadv.wellFormed p.1 p.2 (hoffer p hp)

/-- Every edge of a run appends what it accepts. -/
theorem run_admitted [NeZero n] {b b' : AsyncBackend σ n} (hb : b.Coherent)
    (hrun : b.run service h signals = .ok (b', h')) : ∃ edges groups,
      h'.edges = h.edges ++ edges ∧ h'.accepted = h.accepted ++ groups.flatten ∧
      edges.length = signals.length ∧ List.Forall₂ (fun edge group => Admitted edge.1 edge.2 group)
        ((signals.map Prod.fst).zip edges) groups := by
  induction signals generalizing b h with
  | nil =>
    cases hrun
    exact ⟨[], [], (List.append_nil _).symm, (List.append_nil _).symm, rfl, .nil⟩
  | cons signal signals ih =>
    obtain ⟨⟨b1, h1⟩, hedge, hrest⟩ := Session.run_cons_eq_ok.mp hrun
    obtain ⟨done, edge, -, hadv, rfl⟩ := edge_eq_ok hb hedge
    obtain ⟨edges, groups, hedges, haccepted, hlength, hall⟩ := ih (hb.advance hadv) hrest
    refine ⟨edge :: edges, b.arrivals signal.1 :: groups, ?_, ?_, congrArg (· + 1) hlength,
      .cons hadv.admitted hall⟩
    · rw [hedges]
      exact List.append_assoc ..
    · rw [haccepted]
      exact List.append_assoc ..

theorem wellFormed_of_admitted {edges : List (EdgeInput n × Edge n)}
    (h : List.Forall₂ (fun edge group => Admitted edge.1 edge.2 group) edges groups)
    (ha : a ∈ groups.flatten) : ¬ a.request.Malformed := by
  induction h with
  | nil => cases ha
  | cons hgroup _ ih => exact (List.mem_append.mp ha).elim (hgroup.wellFormed a) ih

/-! ## Bytes -/

section

variable {service : AtomicService σ} {s : LineState σ} {h : History n}
  (hwell : ∀ a ∈ h.accepted, ¬ a.request.Malformed)
include hwell

/-- The bytes behind the state that serves the first `k` requests. -/
theorem History.look_lineAfter (hl : service.Lawful look) (i k : Nat) :
    look (lineAfter service s (h.accepted.take k)).owner i =
      h.byteAfter (h.fault service s) (look s.owner) i k := by
  induction k with
  | zero => rfl
  | succ k ih =>
    rw [List.take_add_one, lineAfter_append, byteAfter, ← ih]
    cases ha : h.accepted[k]? with
    | none => rfl
    | some a =>
      have hfault : h.fault service s (k + 1) =
          (serveLine service (lineAfter service s (h.accepted.take k)) a.request).2.err := by
        unfold fault
        rw [Nat.add_sub_cancel, ha]
        rfl
      rw [hfault]
      exact hl.serveLine (hwell a (List.mem_of_getElem? ha)) _ i

end

namespace Tracks

variable {service : AtomicService σ} {s : LineState σ} {h : History n}
  {returned : List (Entry n)} {b b' : AsyncBackend σ n} (ht : Tracks service s h returned b)
include ht

theorem numbers_perm : (h.deliveries.map (fun d => d.2.sequence) ++
    b.queue.map Entry.sequence).Perm (List.range' 1 h.accepted.length) := by
  have hperm := ht.all.map Entry.sequence
  rw [ledger_sequences, List.map_map, List.map_append] at hperm
  rw [ht.deliveries, List.map_map]
  exact hperm

theorem returned_answer (he : e ∈ returned) :
    ∃ a, h.Numbered e.sequence a ∧ a.client = e.client ∧ a.request = e.request ∧
      e.response = h.answer service s e.sequence a e.response.completedCycle := by
  obtain ⟨a, ha, hclient, hrequest, hresponse⟩ :=
    mem_ledger_numbered (ht.core_mem (List.mem_append_left _ he))
  refine ⟨a, ha, hclient, hrequest, ?_⟩
  -- the response at acceptance with the cycle of the completion put back
  have hback : e.response =
      { e.core.response with completedCycle := e.response.completedCycle } := rfl
  rw [hback, hresponse]
  rfl

/-- On one bank the responses come back in the order of acceptance. -/
theorem bank_sorted (bank : Nat) : ((h.deliveries.map fun d => d.2.sequence).filter
    fun k => h.bankOf b.banks k = some bank).Pairwise (· < ·) := by
  have hbank : ∀ e ∈ returned, h.bankOf b.banks e.sequence = e.request.busBank b.banks := by
    intro e he
    obtain ⟨a, ⟨-, ha⟩, -, hrequest, -⟩ := ht.returned_answer he
    unfold History.bankOf
    rw [ha, ← hrequest]
    rfl
  have hsequences : (h.deliveries.map fun d => d.2.sequence) = returned.map Entry.sequence := by
    rw [ht.deliveries, List.map_map]
    rfl
  have hahead := (List.pairwise_append.mp ht.inOrder).1
  rw [hsequences, List.filter_map]
  refine List.pairwise_map.mpr ((hahead.sublist List.filter_sublist).imp_of_mem ?_)
  intro x y hx hy hxy
  obtain ⟨hxin, hxbank⟩ := List.mem_filter.mp hx
  obtain ⟨hyin, hybank⟩ := List.mem_filter.mp hy
  refine hxy bank ?_ ?_
  · rw [← hbank x hxin]
    exact of_decide_eq_true hxbank
  · rw [← hbank y hyin]
    exact of_decide_eq_true hybank

/-- A complete ticket has waited for the accesses before it. -/
theorem submitted_settled (he : e ∈ returned ++ b.queue) (hserviced : e.serviced = true)
    (hticket : e.request.operation = .visibility) (hk : k < e.sequence)
    (hsubmitted : h.Submitted k) :
    k ∈ h.completed := by
  obtain ⟨a, ha, hoperation⟩ := hsubmitted
  obtain ⟨x, hx, rfl, hrequest⟩ := exists_mem_ledger ha
  refine (ht.settled e he hserviced).older hticket x hx ?_ hk
  rw [hrequest]
  exact hoperation

/-- A submitted access that was not reported is awaited, whatever is taken now. -/
theorem awaited_of_submitted (hsubmitted : h.Submitted k) (hopen : k ∉ h.completed) :
    Awaited (b.kept input) k := by
  obtain ⟨a, ha, hoperation⟩ := hsubmitted
  obtain ⟨x, hx, rfl, hrequest⟩ := exists_mem_ledger ha
  obtain ⟨e, he, rfl⟩ := ht.exists_of_mem_ledger hx
  have haccess : e.request.operation ≠ .visibility := by
    rw [← hrequest] at hoperation
    exact hoperation
  have hunserviced : e.serviced = false := by
    refine Bool.eq_false_of_not_eq_true fun hserviced => hopen ?_
    exact (ht.settled e he hserviced).own haccess
  have hqueue : e ∈ b.queue := by
    refine (List.mem_append.mp he).resolve_left fun hreturned => ?_
    exact Bool.false_ne_true (hunserviced.symm.trans (ht.complete e hreturned))
  refine ⟨e, mem_kept.mpr ⟨hqueue, fun htaken => ?_⟩, rfl, hunserviced, haccess⟩
  have hhead := ht.coherent.taken_head (ht.coherent.mem_taken.mpr ⟨hqueue, htaken⟩)
  exact Bool.false_ne_true (hunserviced.symm.trans hhead.serviced)

/-- When the accesses up to `k` are reported they are complete in the queue. -/
theorem served (hk : k ≤ h.accepted.length) (hreturns : 0 < b.config.returnsPerCycle)
    (hdone : ∀ j ≤ k, h.Submitted j → j ∈ h.completed) : Served k b := by
  refine ⟨ht.coherent, hk.trans_eq ht.sequence.symm, hreturns, ?_⟩
  intro e he hle hoperation
  have hmem : e ∈ returned ++ b.queue := List.mem_append_right _ he
  obtain ⟨a, ha, -, hrequest, -⟩ := mem_ledger_numbered (ht.core_mem hmem)
  refine ht.serviced_of_completed hmem (hdone _ hle ⟨a, ha, ?_⟩)
  rw [hrequest]
  exact hoperation

end Tracks

/-! ## Every session keeps the contract -/

section

variable {service : AtomicService σ} {owner : σ} {config : Config} {banks : Nat}
  {b b' : AsyncBackend σ n} {h h' : History n} {returned : List (Entry n)}

theorem new_fields (hnew : AsyncBackend.new owner config n banks = .ok b) :
    b.config = config ∧ b.banks = banks ∧ 0 < config.returnsPerCycle := by
  unfold AsyncBackend.new Backend.new at hnew
  simp only [Checked.bind_eq_ok, Checked.rejectIf_eq_ok, Checked.exists_unit, Checked.pure_eq_ok,
    not_or, not_not] at hnew
  obtain ⟨-, _, ⟨⟨hvalid, -⟩, rfl⟩, rfl⟩ := hnew
  exact ⟨rfl, rfl, hvalid.returns⟩

theorem Tracks.tickets (ht : Tracks service { owner } h returned b)
    (hr : (i, r) ∈ h.deliveries ∨ b.preview i = some r) (hticket : r.operation = .visibility)
    (hk : k < r.sequence) (hsubmitted : h.Submitted k) : k ∈ h.completed := by
  have hentry : ∃ e ∈ returned ++ b.queue, e.serviced = true ∧ e.response = r := by
    rcases hr with hr | hr
    · rw [ht.deliveries] at hr
      obtain ⟨e, he, hreply⟩ := List.mem_map.mp hr
      exact ⟨e, List.mem_append_left _ he, ht.complete e he, congrArg Prod.snd hreply⟩
    · obtain ⟨e, he, -, hresponse⟩ := ht.coherent.preview_head hr
      exact ⟨e, List.mem_append_right _ he.mem, he.serviced, hresponse⟩
  obtain ⟨e, he, hserviced, rfl⟩ := hentry
  refine ht.submitted_settled he hserviced ?_ hk hsubmitted
  -- the response repeats the operation of its request
  obtain ⟨a, -, -, hrequest, hresponse⟩ := mem_ledger_numbered (ht.core_mem he)
  have hoperation : e.response.operation = a.request.operation :=
    congrArg Response.operation hresponse
  rw [hoperation, hrequest] at hticket
  exact hticket

variable [NeZero n]

/-- With enough rounds nothing up to `k` is left in the queue. -/
theorem Tracks.answered (ht : Tracks service { owner } h returned b)
    (hreturns : 0 < b.config.returnsPerCycle) (hk : h.Numbered k a)
    (hdone : ∀ j ≤ k, h.Submitted j → j ∈ h.completed)
    {rounds : List (List (EdgeInput n × DRAMAnswer))}
    (hlong : 3 * b.config.maxInflight ≤ rounds.length) (hrounds : ∀ r ∈ rounds, Round r)
    (hrun : b.run service h rounds.flatten = .ok (b', h')) :
    k ∈ h'.deliveries.map fun d => d.2.sequence := by
  obtain ⟨hpos, ha⟩ := hk
  have hbound : k ≤ h.accepted.length := by
    have hlt := (List.getElem?_eq_some_iff.mp ha).1
    omega
  have hserved := ht.served hbound hreturns hdone
  have hcount : (b.older k).length ≤ b.config.maxInflight := by
    refine (List.length_filter_le _ _).trans ?_
    rw [List.length_map]
    exact ht.coherent.inflight
  have hempty := hserved.drain hcount hlong hrounds hrun
  have hnumber := (hserved.run_older hrun).1.number
  obtain ⟨⟨returned', ht'⟩, -⟩ := run_tracks ht hrun
  -- the number was accepted, so it is answered or queued
  have hin : k ∈ h'.deliveries.map (fun d => d.2.sequence) ++ b'.queue.map Entry.sequence := by
    refine ht'.numbers_perm.symm.subset (List.mem_range'_1.mpr ⟨hpos, ?_⟩)
    rw [← ht'.sequence]
    omega
  refine (List.mem_append.mp hin).resolve_right fun hqueued => ?_
  have hold : k ∈ b'.older k := List.mem_filter.mpr ⟨hqueued, decide_eq_true (Nat.le_refl k)⟩
  rw [hempty] at hold
  cases hold

omit [NeZero n] in
/-- Every response taken answers the request with its number. -/
theorem Tracks.delivered (ht : Tracks service { owner } h returned b) (hd : d ∈ h.deliveries) :
    ∃ a, h.Numbered d.2.sequence a ∧ a.client = d.1 ∧
      d.2 = h.answer service { owner } d.2.sequence a d.2.completedCycle := by
  rw [ht.deliveries] at hd
  obtain ⟨e, he, rfl⟩ := List.mem_map.mp hd
  obtain ⟨a, ha, hclient, -, hresponse⟩ := ht.returned_answer he
  exact ⟨a, ha, hclient, hresponse⟩

/-- Every session of a new backend keeps the contract. -/
theorem AsyncBackend.keeps_contract {b0 : AsyncBackend σ n}
    {signals : List (EdgeInput n × DRAMAnswer)}
    (hnew : AsyncBackend.new owner config n banks = .ok b0)
    (hrun : b0.run service {} signals = .ok (b, h)) :
    Contract service owner config banks signals b h := by
  obtain ⟨edges, groups, hedges, haccepted, hlength, hall⟩ := run_admitted (new_coherent hnew) hrun
  rw [List.nil_append] at hedges haccepted
  subst hedges
  have hwell : ∀ a ∈ h.accepted, ¬ a.request.Malformed := by
    intro a ha
    rw [haccepted] at ha
    exact wellFormed_of_admitted hall ha
  obtain ⟨⟨returned, ht⟩, hconfig, hbanks⟩ := run_tracks (new_tracks hnew) hrun
  obtain ⟨hconfig0, hbanks0, hreturns⟩ := new_fields hnew
  rw [hconfig0] at hconfig
  rw [hbanks0] at hbanks
  subst hconfig hbanks
  have hfault : ∀ {k a}, h.Numbered k a → ∀ completedCycle,
      h.fault service { owner } k = (h.answer service { owner } k a completedCycle).err := by
    intro k a ha completedCycle
    unfold History.fault
    rw [ha.2]
    rfl
  exact {
    admitted := ⟨hlength, groups, haccepted, hall⟩
    once := ht.numbers_perm
    answers := fun d hd => ht.delivered hd
    memory := ht.line
    headers := fun d hd => by
      obtain ⟨a, ha, hclient, hresponse⟩ := ht.delivered hd
      rw [hfault ha d.2.completedCycle, ← hresponse]
      exact ⟨a, ha, hclient, congrArg Response.identity hresponse,
        congrArg Response.tag hresponse, congrArg Response.operation hresponse,
        congrArg Response.acceptedCycle hresponse, rfl⟩
    errors := fun k a err ha haccess herr => by
      rw [hfault ha 0] at herr
      exact serveLine_blame (hwell a (List.mem_of_getElem? ha.2)) haccess herr
    bytes := fun look hl i => by
      rw [ht.line, ← History.look_lineAfter hwell hl, List.take_length]
    reads := fun look hl d hd a ha hread hok j => by
      obtain ⟨a', ha', -, hresponse⟩ := ht.delivered hd
      obtain rfl : a' = a := Option.some.inj (ha'.2.symm.trans ha.2)
      rw [← History.look_lineAfter hwell hl]
      rw [hresponse] at hok ⊢
      exact hl.read_data hread hok j
    bankOrder := ht.bank_sorted
    returns := ht.bandwidth
    inflight := ht.coherent.inflight
    tickets := fun i r hr hticket k hk hsubmitted => ht.tickets hr hticket hk hsubmitted
    lawful := fun input dram done hcheck htick hsubmit hfresh hdone => by
      refine step_of_lawful ht.coherent hcheck htick hfresh (fun id hid => ?_) hsubmit
      exact ht.awaited_of_submitted (hdone id hid).1 (hdone id hid).2
    progress := fun k a hk hdone rounds b' h' hlong hrounds hrun' =>
      ht.answered hreturns hk hdone hlong hrounds hrun' }

end

/-! A session of two clients over a memory of one sector: a write of the bytes 0 and 2, a read of
the same line that the DRAM model completes first, and a ticket behind both. -/

def sampleConfig : Config where
  latency := 1
  acceptsPerCycle := 2
  maxInflight := 4
  returnsPerCycle := 1

def sampleRequest (transaction tag : Nat) (operation : Operation) : LineRequest where
  identity := { transaction }
  tag := tag
  operation := operation
  address := 0#32
  byteEnable := BitVec.ofNat sectorBytes 5
  data := fun _ => 5#8

def sampleSignals : List (EdgeInput 2 × DRAMAnswer) :=
  let signal cycle (offers : List LineRequest) done :=
    ({ cycle, offers := fun i => offers[i.val]?, ready := fun _ => true : EdgeInput 2 },
      { tick := .ok done, submit := fun _ _ _ => none : DRAMAnswer })
  [signal 0 [sampleRequest 1 7 .write, sampleRequest 1 8 .read] [],
    signal 1 [sampleRequest 2 9 .visibility] [2], signal 2 [] [1], signal 3 [] [], signal 4 [] [],
    signal 5 [] []]

def sampleSession : Except Error (AsyncBackend Memory 2 × History 2) := do
  let m ← Memory.new sectorBytes
  let b ← AsyncBackend.new m sampleConfig 2 2
  b.run memoryService {} sampleSignals

/-- What the session shows: tag and first bytes of the replies, and the first bytes at the end. -/
def sampleView (s : AsyncBackend Memory 2 × History 2) : List (Nat × List Byte) × List Byte :=
  (s.2.deliveries.map fun d =>
    (d.2.tag, (List.finRange 3).map fun j => d.2.data (j.castLE (by decide))),
    s.1.line.owner.data.take 3)

theorem sample_keeps_contract : ∃ (m : Memory) (b : AsyncBackend Memory 2) (h : History 2),
    sampleView (b, h) =
        ([(7, [0#8, 0#8, 0#8]), (8, [5#8, 0#8, 5#8]), (9, [0#8, 0#8, 0#8])], [5#8, 0#8, 5#8]) ∧
      memoryService.Lawful (fun m i => m.data[i]?) ∧
      Contract memoryService m sampleConfig 2 sampleSignals b h := by
  have hseen : sampleSession.toOption.map sampleView = some
      ([(7, [0#8, 0#8, 0#8]), (8, [5#8, 0#8, 5#8]), (9, [0#8, 0#8, 0#8])], [5#8, 0#8, 5#8]) := by
    decide +kernel
  obtain ⟨⟨b, h⟩, hsession, hview⟩ := Option.map_eq_some_iff.mp hseen
  obtain ⟨m, -, hsession⟩ := Checked.bind_eq_ok.mp (Checked.toOption_eq_some.mp hsession)
  obtain ⟨b0, hnew, hrun⟩ := Checked.bind_eq_ok.mp hsession
  exact ⟨m, b, h, hview, memoryService_lawful, AsyncBackend.keeps_contract hnew hrun⟩

end VortexSim.Memsys
