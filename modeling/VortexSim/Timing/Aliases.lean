import VortexSim.Timing.Occupancy

/-!
# Micro operations in several places

Some registers hold a copy of a token that is also somewhere else: the sequencer remembers the
instruction at the head of its buffer, the operand collector the head of the issue queue, the pools
of the fetch, load and float units the requests under way, and a lock its owner.  The copies
agree with the originals.
-/

namespace VortexSim.Timing

open Checked Elastic

/-! ## Locks -/

namespace Frontend

variable {f : Frontend}

theorem Lanes.cancel (hf : f.Lanes P) (x : Cancellation) : (f.cancel x).Lanes P := by
  refine ⟨fun w t ht => hf.ibuf w t (List.mem_of_mem_filter ht), fun w t ht => ?_,
    fun w t ht => hf.staging w t (List.mem_of_mem_filter ht)⟩
  have hactive : t ∈ ((f.seq w).cancel x).active := ht
  unfold Sequencer.cancel at hactive
  split at hactive
  · cases hactive
  · exact hf.active w t hactive

end Frontend

/-- A micro operation that takes a lock and gives it back at once. -/
def Token.Passing (t : Token) : Prop := t.fuLock = t.fuUnlock

theorem decodeToken_passing (t d : Token) (h : decodeToken t = .ok d) : d.Passing := by
  unfold decodeToken at h
  simp only [ok_iff] at h
  obtain ⟨_, -, -, -, rfl⟩ := h
  rfl

namespace Frontend

/-- No decoded micro operation keeps a lock, so that no lock is held. -/
structure Unlocked (f : Frontend) : Prop where
  lanes : f.Lanes Token.Passing
  reserved : ∀ t ∈ f.issue.reservations, t.Passing
  open_ : ∀ k, f.issue.locked k = false

variable {f : Frontend}

theorem Edge.unlocked (e : Edge f input r f') (hf : f.Unlocked) : f'.Unlocked := by
  obtain ⟨-, s₁, hrelease, -, -, hs'⟩ := Scoreboard.evaluate_eq_ok e.issue
  have hissued : ∀ t ∈ f.issue.issuing e.opcR.transfer.inputReady, t.Passing := by
    intro t ht
    obtain ⟨w, -, hw⟩ := Scoreboard.issuing_staged ht
    exact hf.lanes.staging w t hw
  have hreleased : (∀ t ∈ s₁.reservations, t.Passing) ∧ ∀ k, s₁.locked k = false := by
    rcases Scoreboard.release_cases hrelease with ⟨rfl, -⟩ | ⟨t, -, -, rfl⟩
    · exact ⟨hf.reserved, hf.open_⟩
    · exact ⟨fun x hx => hf.reserved x (List.mem_of_mem_eraseP hx), hf.open_⟩
  refine ⟨e.lanes decodeToken_passing (fun _ h _ _ => h) hf.lanes, fun t ht => ?_, fun k => ?_⟩
  · have hnext : f'.issue.reservations =
        s₁.reservations ++ (f.issue.issuing e.opcR.transfer.inputReady).toList := by
      rw [hs', ← Scoreboard.reserve_reservations]
      rfl
    rw [hnext] at ht
    rcases List.mem_append.mp ht with hold | hnew
    · exact hreleased.1 t hold
    · exact hissued t (Option.mem_toList.mp hnew)
  · have hlocked : f'.issue.locked =
        (s₁.reserve (f.issue.issuing e.opcR.transfer.inputReady)).locked := by
      rw [hs']
      rfl
    rw [hlocked]
    cases hissue : f.issue.issuing e.opcR.transfer.inputReady with
    | none => exact hreleased.2 k
    | some t =>
      have hkeep : (s₁.reserve (some t)).locked = s₁.locked := if_pos (hissued t hissue)
      rw [hkeep]
      exact hreleased.2 k

theorem Unlocked.cancel (hf : f.Unlocked) (x : Cancellation) : (f.cancel x).Unlocked := by
  refine ⟨hf.lanes.cancel x, fun t ht => hf.reserved t (List.mem_of_mem_filter ht), fun k => ?_⟩
  have hlocked : (f.cancel x).issue.locked k =
    (f.issue.locked k && x.spares (f.issue.lockOwner k)) := rfl
  rw [hlocked, hf.open_, Bool.false_and]

end Frontend

/-! ## Sequencer -/

namespace Sequencer

/-- The instruction that is being split is at the head of its buffer, unchanged. -/
def Kept (s : Sequencer) (queue : List Token) : Prop :=
  s.active.isSome = true → queue.head? = some s.original

variable {s : Sequencer} {t : Transfer Token}

theorem evaluate_kept (new : List Token) (h : s.evaluate queue.head? downstream = .ok (t, s')) :
    s'.Kept (Buffer.rest queue t.inputReady ++ new) := by
  obtain ⟨hsame, rfl, rfl⟩ := evaluate_eq_ok h
  obtain ⟨active, original⟩ := s
  intro hnext
  cases active with
  | none =>
    cases queue with
    | nil => cases hnext
    | cons x rest =>
      by_cases hpack : x.pack = 0
      · simp [next, hpack] at hnext
      · simp [next, ready, transfer, Buffer.rest, hpack]
  | some a =>
    have hhead := hsame rfl
    cases queue with
    | nil => cases hhead
    | cons x rest =>
      obtain rfl : x = original := Option.some.inj hhead
      by_cases hend : a.uop + 1 = a.uops
      · cases downstream with
        | true => simp [next, ready, transfer, output, hend] at hnext
        | false => simp [next, ready, transfer, output, Buffer.rest]
      · cases downstream <;> simp [next, ready, transfer, output, Buffer.rest, hend]

theorem Kept.cancel (hs : s.Kept queue) (hlinked : s.Linked queue) (x : Cancellation) :
    (s.cancel x).Kept (queue.filter x.spares) := by
  intro hactive
  unfold Sequencer.cancel at hactive ⊢
  cases ha : s.active with
  | none =>
    rw [ha] at hactive
    rw [Option.any_none, if_neg Bool.false_ne_true, ha] at hactive
    cases hactive
  | some a =>
    rw [ha, Option.any_some] at hactive
    cases hhits : x.hits a with
    | true =>
      rw [hhits, if_pos rfl] at hactive
      cases hactive
    | false =>
      obtain ⟨head, rest, rfl, hname⟩ := hlinked a ha
      have hkept : x.spares head = true := by
        rw [spares_of_instruction x hname, Cancellation.spares, hhits]
        rfl
      have hhead := hs (by rw [ha]; rfl)
      rw [Option.any_some, hhits, if_neg Bool.false_ne_true, List.filter_cons, hkept, if_pos rfl]
      exact hhead

end Sequencer

/-! ## Operand collector -/

/-- While operands are missing, the collector keeps its micro operation waiting. -/
theorem Collector.evaluate_fetched {c : Collector} (h : c.evaluate input downstream = .ok (r, c'))
    (hfetched : c'.fetched ≠ 0#3) : r.transfer.inputReady = false ∧ input = some c'.held := by
  unfold evaluate at h
  simp only [ok_iff, Prod.mk.injEq] at h
  obtain ⟨hsame, rfl, rfl⟩ := h
  split at hfetched
  · exact absurd rfl hfetched
  · rename_i hfinal
    rw [if_neg hfinal]
    refine ⟨Bool.eq_false_iff.mpr hfinal, ?_⟩
    split at hfetched
    · rename_i haccepted
      rw [if_pos haccepted]
      -- a pass is taken from an input
      cases input with
      | none => cases haccepted
      | some t => rfl
    · rename_i hrefused
      rw [if_neg hrefused]
      by_contra hother
      exact hsame ⟨hfetched, hother⟩

namespace Frontend

/-- A micro operation of which some operands are read is at the head of the issue queue. -/
def Collecting (f : Frontend) : Prop := f.opc.fetched ≠ 0#3 → f.issue.output = some f.opc.held

variable {f : Frontend}

theorem Edge.collecting (e : Edge f input r f') : f'.Collecting := by
  have hqueue := e.issueQueue_eq
  intro hfetched
  -- until its last pass the micro operation stays in the issue queue
  have hstay (hready : e.opcR.transfer.inputReady = false) {t : Token}
      (ht : f.issue.output = some t) : f'.issue.output = some t := by
    unfold Scoreboard.output at ht ⊢
    rw [hready, crossing_false, List.nil_append] at hqueue
    rw [← hqueue, List.head?_append, ht]
    rfl
  obtain ⟨hready, hhead⟩ := Collector.evaluate_fetched e.opc hfetched
  exact hstay hready hhead

theorem Collecting.cancel (hf : f.Collecting) (x : Cancellation) : (f.cancel x).Collecting := by
  intro hfetched
  have hnext : (f.cancel x).opc = f.opc.cancel x := rfl
  rw [hnext] at hfetched ⊢
  unfold Collector.cancel at hfetched ⊢
  dsimp only at hfetched ⊢
  split at hfetched
  · exact absurd rfl hfetched
  · rename_i hspared
    have hhead := hf hfetched
    obtain ⟨rest, hqueue⟩ := List.head?_eq_some_iff.mp hhead
    have hkept : x.spares f.opc.held = true := by
      rw [Cancellation.spares, Bool.eq_false_iff.mpr hspared]
      rfl
    have hout : (f.cancel x).issue.out.out.queue = f.issue.out.out.queue.filter x.spares := rfl
    unfold Scoreboard.output
    rw [hout, hqueue, List.filter_cons, hkept, if_pos rfl, if_neg hspared]
    rfl

end Frontend

/-! ## Pools -/

/-- The token has the identity. -/
def Token.hasIdentity (k : Fin 4 × Nat × Nat × Nat) (t : Token) : Bool := decide (t.identity = k)

/-- Whether a token is spared can be read off its identity. -/
theorem spares_of_identity (x : Cancellation) (k : Fin 4 × Nat × Nat × Nat) (t : Token)
    (h : t.hasIdentity k = true) :
    x.spares t = x.spares { warp := k.1, epoch := k.2.1, id := k.2.2.1 } := by
  rw [← of_decide_eq_true h]
  rfl

theorem exists_of_count {l l' : List Token}
    (h : l.countP (Token.hasIdentity k) ≤ l'.countP (Token.hasIdentity k))
    (hl : ∃ t ∈ l, t.identity = k) : ∃ t ∈ l', t.identity = k := by
  obtain ⟨t, ht, hk⟩ := hl
  have hpos : 0 < l.countP (Token.hasIdentity k) :=
    List.countP_pos_iff.mpr ⟨t, ht, decide_eq_true hk⟩
  obtain ⟨x, hx, hsame⟩ := List.countP_pos_iff.mp (Nat.lt_of_lt_of_le hpos h)
  exact ⟨x, hx, of_decide_eq_true hsame⟩

/-- An answered request is struck off the list of those under way. -/
theorem countP_struck {issued : List Token} {r : Response} {t : Token}
    (hknown : ∃ x ∈ issued, x.identity = r.identity) (ht : t.identity = r.identity)
    (k : Fin 4 × Nat × Nat × Nat) :
    issued.countP (Token.hasIdentity k) = (if t.hasIdentity k then 1 else 0) +
      (issued.eraseP fun x => decide (x.identity = r.identity)).countP (Token.hasIdentity k) := by
  obtain ⟨x, hx, hsame⟩ := hknown
  obtain ⟨old, hfind⟩ :
      ∃ old, issued.find? (fun x => decide (x.identity = r.identity)) = some old :=
    Option.isSome_iff_exists.mp (List.find?_isSome.mpr ⟨x, hx, decide_eq_true hsame⟩)
  have hold : old.identity = t.identity := by
    have hfound := List.find?_some hfind
    rw [of_decide_eq_true hfound, ht]
  have herase := BitOwner.countP_eraseP (p := Token.hasIdentity k) hfind
  rw [herase, Token.hasIdentity, Token.hasIdentity, hold]

/-- A response that is not refused has a request under way. -/
theorem exists_called {issued : List Token} {response : Option Response}
    (h : ¬ ∃ r ∈ response, ∀ t ∈ issued, t.identity ≠ r.identity) (hr : r ∈ response) :
    ∃ t ∈ issued, t.identity = r.identity := by
  by_contra hno
  exact h ⟨r, hr, fun t ht hsame => hno ⟨t, ht, hsame⟩⟩

/-- The requests under way after a response: the answered one is struck off when its result is
taken and is one of those that `ends` picks. -/
theorem countP_answered {w : WaitPool kind} {issued : List Token} (ends : Token → Bool)
    (h : w.evaluate input response ready = .ok (t, w'))
    (hcalled : ∀ r ∈ response, ∃ t ∈ issued, t.identity = r.identity)
    (k : Fin 4 × Nat × Nat × Nat) :
    (unanswered issued response (t.completed && t.output.any ends)).countP (Token.hasIdentity k) +
        ((crossing t.output ready).filter ends).countP (Token.hasIdentity k) =
      issued.countP (Token.hasIdentity k) := by
  obtain ⟨-, hrespond⟩ := WaitPool.evaluate_ports h
  rw [WaitPool.evaluate_completed h]
  unfold unanswered
  cases houtput : t.output with
  | none => cases response <;> simp
  | some x =>
    obtain ⟨r, rfl, hsame⟩ := WaitPool.respond_identity hrespond houtput
    have hstruck := countP_struck (hcalled r rfl) hsame k
    cases ready with
    | false => simp
    | true =>
      cases hends : ends x with
      | false => simp [hends]
      | true =>
        simp only [Option.isSome_some, Bool.true_and, Option.any_some, hends, if_true,
          crossing_true,
          Option.toList_some, List.filter_cons, List.filter_nil, List.countP_singleton]
        omega

namespace Fetch

/-- Every fetch under way is in a queue or with the instruction service. -/
def Tagged (f : Fetch) : Prop := ∀ k, f.tags.tokens.countP (Token.hasIdentity k) =
    f.request.queue.countP (Token.hasIdentity k) + f.iflush.queue.countP (Token.hasIdentity k) +
      f.issued.countP (Token.hasIdentity k)

variable {f : Fetch}

theorem evaluate_tagged (hf : f.Tagged)
    (h : f.evaluate input response requestReady decodeReady = .ok (r, f')) : f'.Tagged := by
  intro k
  have htokens := evaluate_tokens h (Token.hasIdentity k) fun _ _ => rfl
  have hold := hf k
  unfold evaluate at h
  simp only [ok_iff, Prod.mk.injEq, Prod.exists] at h
  obtain ⟨hknown, probe, _, hprobe, tagsT, tags, htags, rfl, rfl⟩ := h
  have hrequest := f.request.evaluate_countP (gated probe.inputReady input)
    (f.iflush.ready requestReady) (Token.hasIdentity k)
  have hflush := f.iflush.evaluate_countP f.request.queue.head? requestReady (Token.hasIdentity k)
  rw [crossing_gated] at hrequest
  dsimp only [transfer] at htokens ⊢
  simp only [Buffer.evaluate_inputReady, Buffer.evaluate_output, List.countP_append] at htokens ⊢
  rw [Bool.and_comm] at hrequest
  have hleft := countP_answered (fun _ => true) htags (fun _ => exists_called hknown) k
  have hended : (tagsT.completed && tagsT.output.any fun _ => true) = tagsT.completed := by
    rw [WaitPool.evaluate_completed htags]
    cases tagsT.output <;> simp
  rw [hended, List.filter_true] at hleft
  omega

theorem Tagged.cancel (hf : f.Tagged) (x : Cancellation) : (f.cancel x).Tagged := by
  intro k
  have hsame := spares_of_identity x k
  have htags : (f.cancel x).tags.tokens = f.tags.tokens.filter x.spares := f.tags.tokens_cancel x
  have hrequest : (f.cancel x).request.queue = f.request.queue.filter x.spares := rfl
  have hiflush : (f.cancel x).iflush.queue = f.iflush.queue.filter x.spares := rfl
  have hissued : (f.cancel x).issued = f.issued.filter x.spares := rfl
  rw [htags, hrequest, hiflush, hissued, countP_filter_spares x hsame, countP_filter_spares x hsame,
    countP_filter_spares x hsame, countP_filter_spares x hsame, hf k]
  split <;> rfl

end Fetch

namespace LSU

/-- Every load under way is in the request queue or with the memory service. -/
def Tagged (l : LSU) : Prop := ∀ k, l.tags.tokens.countP (Token.hasIdentity k) =
    (l.request.queue.filter fun t => t.path ≠ .store).countP (Token.hasIdentity k) +
      l.sent.countP (Token.hasIdentity k)

/-- The fence lock is held for the one fence under way. -/
def Fenced (l : LSU) : Prop :=
  l.tags.tokens.countP (fun t => t.path = .fence) = if l.fence then 1 else 0

variable {l : LSU}

/-- A request that waits for an answer enters the request queue together with the pool. -/
theorem crossing_request (l : LSU) (requestReady store : Bool) (p : Token → Bool) :
    let slice := l.sliceReady requestReady (l.tags.ready l.tagInput) store
    (crossing (l.tagAdmitted slice) (l.tags.ready (l.tagAdmitted slice))).countP p =
      ((crossing (l.requestInput (l.tags.ready l.tagInput) store)
        (l.request.ready requestReady)).filter fun t => t.path ≠ .store).countP p := by
  intro slice
  obtain ⟨htags, hrequest, -⟩ := l.crossing_parts requestReady store
  rw [htags, hrequest, List.filter_filter]
  congr 2
  funext t
  rw [Token.awaits, Bool.not_or, decide_not]

/-- What an edge does to the pool and to the requests under way. -/
theorem evaluate_pool (h : l.evaluate input response requestReady downstream = .ok (r, l')) :
    ∃ (tagsT : Transfer Token) (loadReady storeReady : Bool),
      l.tags.evaluate
        (l.tagAdmitted (l.sliceReady requestReady (l.tags.ready l.tagInput) storeReady))
        response loadReady = .ok (tagsT, l'.tags) ∧
      (∀ x ∈ response, ∃ t ∈ l.sent, t.identity = x.identity) ∧
      l'.request = (l.request.evaluate (l.requestInput (l.tags.ready l.tagInput) storeReady)
        requestReady).2 ∧
      (∀ k, l'.sent.countP (Token.hasIdentity k) +
          ((crossing tagsT.output loadReady).filter Token.last).countP (Token.hasIdentity k) =
        l.sent.countP (Token.hasIdentity k) + ((crossing l.request.queue.head? requestReady).filter
          fun t => t.path ≠ .store).countP (Token.hasIdentity k)) ∧
      l'.fence = ((l.fence || ((l.requestInput (l.tags.ready l.tagInput) storeReady).isSome &&
          l.request.ready requestReady && l.execute.any fun t => t.path = .fence && t.last)) &&
        !(((crossing tagsT.output loadReady).filter Token.last).any fun t => t.path = .fence)) := by
  unfold evaluate at h
  simp only [ok_iff, Prod.mk.injEq, Prod.exists] at h
  obtain ⟨-, hknown, probe, _, hprobe, tagsT, tags, htags, rfl, rfl⟩ := h
  rw [(WaitPool.evaluate_ports hprobe).1] at htags
  refine ⟨tagsT, _, _, htags, fun _ => exists_called hknown,
    by rw [(WaitPool.evaluate_ports hprobe).1], fun k => ?_, ?_⟩
  · have hleft := countP_answered Token.last htags (fun _ => exists_called hknown) k
    rw [List.countP_append, Buffer.evaluate_output, Nat.add_right_comm]
    exact congrArg (· + _) hleft
  · rw [WaitPool.evaluate_completed htags, (WaitPool.evaluate_ports hprobe).1]
    have hended (ready : Bool) : ((tagsT.output.isSome && ready) &&
        (tagsT.output.any fun t => t.last) && onPath tagsT.output .fence) =
        ((crossing tagsT.output ready).filter Token.last).any fun t => t.path = .fence := by
      cases tagsT.output with
      | none => simp
      | some t => cases ready <;> cases hlast : t.last <;> simp [onPath, hlast]
    rw [hended]
    rfl

theorem evaluate_tagged (hl : l.Tagged)
    (h : l.evaluate input response requestReady downstream = .ok (r, l')) : l'.Tagged := by
  intro k
  obtain ⟨tagsT, loadReady, storeReady, htags, -, hrequest, hsent, -⟩ := evaluate_pool h
  have hold := hl k
  have hpool := WaitPool.evaluate_countP (by decide) htags (Token.hasIdentity k) fun _ _ => rfl
  have hin := l.crossing_request requestReady storeReady (Token.hasIdentity k)
  have hqueue := l.request.evaluate_countP (l.requestInput (l.tags.ready l.tagInput) storeReady)
    requestReady fun t => t.hasIdentity k && decide (t.path ≠ .store)
  have hout := hsent k
  rw [(WaitPool.evaluate_ports htags).1] at hpool
  rw [hrequest]
  rw [List.countP_filter] at hin hold ⊢
  rw [List.countP_filter (l := crossing l.request.queue.head? requestReady)] at hout
  omega

theorem Tagged.cancel (hl : l.Tagged) (x : Cancellation) : (l.cancel x).Tagged := by
  intro k
  have hsame := spares_of_identity x k
  have htags : (l.cancel x).tags.tokens = l.tags.tokens.filter x.spares := l.tags.tokens_cancel x
  have hrequest : (l.cancel x).request.queue.filter (fun t => t.path ≠ .store) =
      (l.request.queue.filter fun t => t.path ≠ .store).filter x.spares := by
    have hqueue : (l.cancel x).request.queue = l.request.queue.filter x.spares := rfl
    rw [hqueue, List.filter_filter, List.filter_filter]
    exact List.filter_congr fun t _ => Bool.and_comm ..
  have hsent : (l.cancel x).sent = l.sent.filter x.spares := rfl
  rw [htags, hrequest, hsent, countP_filter_spares x hsame, countP_filter_spares x hsame,
    countP_filter_spares x hsame, hl k]
  split <;> rfl

/-- A response ends a request that waits. -/
theorem mem_tokens_of_output {w : WaitPool .load}
    (h : w.evaluate input response downstream = .ok (t, w')) (hx : x ∈ t.output) :
    ∃ y ∈ w.tokens, y.path = x.path := by
  obtain ⟨-, hrespond⟩ := WaitPool.evaluate_ports h
  rcases WaitPool.respond_eq_ok hrespond with ⟨-, hnone⟩ | ⟨y, e, -, hlookup, hsome, -⟩
  · rw [hnone] at hx
    cases hx
  · rw [hsome] at hx
    obtain rfl := Option.some.inj hx
    exact ⟨e.token, List.mem_map_of_mem (List.mem_of_find?_eq_some hlookup), rfl⟩

theorem countP_crossing (item : Signal) (ready : Bool) (q p : Token → Bool) :
    ((crossing item ready).filter q).countP p =
      if ((crossing item ready).filter q).any p then 1 else 0 := by
  cases item with
  | none => simp
  | some t => cases ready <;> cases hq : q t <;> cases hp : p t <;> simp [hq, hp]

theorem evaluate_fenced (hl : l.Fenced)
    (h : l.evaluate input response requestReady downstream = .ok (r, l')) : l'.Fenced := by
  obtain ⟨tagsT, loadReady, storeReady, htags, -, -, -, hfence⟩ := evaluate_pool h
  have hpool := WaitPool.evaluate_countP (by decide) htags (fun t => t.path = .fence) fun _ _ => rfl
  have hin := l.crossing_request requestReady storeReady fun t => t.path = .fence
  rw [(WaitPool.evaluate_ports htags).1] at hpool
  rw [hin, countP_crossing tagsT.output] at hpool
  unfold Fenced at hl ⊢
  rw [hl] at hpool
  cases hlocked : l.fence with
  | true =>
    -- nothing is admitted while the lock is held
    have hnone : l.requestInput (l.tags.ready l.tagInput) storeReady = none := by
      unfold requestInput
      rw [hlocked, Bool.not_true, Bool.and_false, Bool.false_and, Bool.false_and, gated_false]
    rw [hlocked, hnone, crossing_none, List.filter_nil, List.countP_nil, if_pos rfl] at hpool
    rw [hlocked, Bool.true_or, Bool.true_and] at hfence
    rw [hfence]
    cases hgone : ((crossing tagsT.output loadReady).filter Token.last).any
        fun t => decide (t.path = .fence) <;>
      simp only [hgone, Bool.not_true, Bool.not_false, if_true, if_false, Bool.false_eq_true]
        at hpool ⊢ <;>
      omega
  | false =>
    have hgone : ((crossing tagsT.output loadReady).filter Token.last).any
        (fun t => decide (t.path = .fence)) = false := by
      refine List.any_eq_false.mpr fun t ht hpath => ?_
      obtain ⟨y, hy, hsame⟩ := mem_tokens_of_output htags (mem_crossing (List.mem_of_mem_filter ht))
      rw [hlocked, if_neg Bool.false_ne_true] at hl
      refine List.countP_eq_zero.mp hl y hy (decide_eq_true ?_)
      rw [hsame]
      exact of_decide_eq_true hpath
    rw [hlocked, hgone, if_neg Bool.false_ne_true] at hpool
    rw [hlocked, hgone, Bool.false_or, Bool.not_false, Bool.and_true] at hfence
    rw [hfence]
    have hset : ((crossing (l.requestInput (l.tags.ready l.tagInput) storeReady)
        (l.request.ready requestReady)).filter fun t => t.path ≠ .store).countP
          (fun t => decide (t.path = .fence)) =
        if ((l.requestInput (l.tags.ready l.tagInput) storeReady).isSome &&
          l.request.ready requestReady && l.execute.any fun t => t.path = .fence && t.last) then 1
        else 0 := by
      unfold requestInput
      cases hexecute : l.execute with
      | none => simp
      | some t =>
        have hskips : l.skips = (decide (t.path = .fence) && !t.last) := by
          rw [skips, hexecute]; rfl
        rw [hskips]
        generalize l.request.ready requestReady = request
        generalize (!l.noResponse || storeReady) = stored
        generalize (l.stores || l.tags.ready l.tagInput) = tagged
        by_cases hpath : t.path = .fence <;> cases hlast : t.last <;> cases request <;>
          cases stored <;> cases tagged <;> simp [hpath, hlast, hlocked]
    omega

theorem Fenced.cancel (hl : l.Fenced) (x : Cancellation) : (l.cancel x).Fenced := by
  unfold Fenced at hl ⊢
  have htags : (l.cancel x).tags.tokens = l.tags.tokens.filter x.spares := l.tags.tokens_cancel x
  have hfence : (l.cancel x).fence = (l.fence &&
      !l.tags.tokens.any fun t => decide (t.path = .fence) && x.hits t) := by
    unfold WaitPool.tokens
    rw [List.any_map]
    rfl
  have hsplit := Frontend.countP_spares (x := x) l.tags.tokens fun t => t.path = .fence
  have hcut : ((l.tags.tokens.filter x.hits).countP (fun t => decide (t.path = .fence)) = 0) ↔
      (l.tags.tokens.any fun t => decide (t.path = .fence) && x.hits t) = false := by
    rw [List.countP_filter, List.countP_eq_zero, List.any_eq_false]
  rw [htags, hfence]
  cases hlocked : l.fence with
  | false =>
    rw [hlocked, if_neg Bool.false_ne_true] at hl
    rw [Bool.false_and, if_neg Bool.false_ne_true]
    omega
  | true =>
    rw [hlocked, if_pos rfl] at hl
    cases hany : l.tags.tokens.any fun t => decide (t.path = .fence) && x.hits t with
    | false =>
      have hnone := hcut.mpr hany
      rw [Bool.true_and, Bool.not_false, if_pos rfl]
      omega
    | true =>
      have hsome :
          ¬ (l.tags.tokens.filter x.hits).countP (fun t => decide (t.path = .fence)) = 0 := by
        rw [hcut, hany]
        exact Bool.noConfusion
      rw [Bool.true_and, Bool.not_true, if_neg Bool.false_ne_true]
      omega

end LSU

namespace STDFPU

/-- Every micro operation in the float unit has its tag. -/
def Tagged (f : STDFPU) : Prop := ∀ k,
  f.tags.tokens.countP (Token.hasIdentity k) = f.held.countP (Token.hasIdentity k)

variable {f : STDFPU}

/-- What an edge does to the tags. -/
theorem evaluate_pool (h : f.evaluate input downstream = .ok (r, f')) :
    ∃ (ready : Bool) (tagsT : Transfer Token),
      f.tags.evaluate (gated ready input) (f.output.map responseFor) downstream =
        .ok (tagsT, f'.tags) ∧
      r.transfer.inputReady = (ready && f.tags.ready input) := by
  unfold evaluate at h
  simp only [ok_iff, Prod.mk.injEq, Prod.exists] at h
  obtain ⟨-, probe, _, hprobe, tagsT, tags, htags, rfl, rfl⟩ := h
  exact ⟨_, tagsT, htags, by rw [← (WaitPool.evaluate_ports hprobe).1]; rfl⟩

/-- A result has the identity of the tag that it gives up. -/
theorem respond_held {output : Signal} (h : f.tags.respond (f.output.map responseFor) = .ok output)
    (k : Fin 4 × Nat × Nat × Nat) :
    (crossing output downstream).countP (Token.hasIdentity k) =
      (crossing f.output downstream).countP (Token.hasIdentity k) := by
  cases hhead : f.output with
  | none =>
    rw [hhead] at h
    cases h
    rfl
  | some x =>
    rw [hhead] at h
    rcases WaitPool.respond_eq_ok h with ⟨hnone, -⟩ | ⟨y, e, hsome, -, rfl, -⟩
    · cases hnone
    · obtain ⟨z, hz, hidentity⟩ := WaitPool.respond_identity h rfl
      have hsame : Token.hasIdentity k (WaitPool.result .fpu e y) = Token.hasIdentity k x := by
        unfold Token.hasIdentity
        rw [hidentity, ← Option.some.inj hz]
        rfl
      cases downstream with
      | false => rfl
      | true =>
        rw [crossing_true, crossing_true, Option.toList_some, Option.toList_some,
          List.countP_singleton, List.countP_singleton, hsame]

theorem evaluate_tagged (hf : f.Tagged) (h : f.evaluate input downstream = .ok (r, f')) :
    f'.Tagged := by
  intro k
  have hheld := evaluate_held h (Token.hasIdentity k)
  have hold := hf k
  obtain ⟨ready, tagsT, htags, hready⟩ := evaluate_pool h
  have hpool := WaitPool.evaluate_whole (by decide) htags (Token.hasIdentity k) fun _ _ => rfl
  obtain ⟨hports, hrespond⟩ := WaitPool.evaluate_ports htags
  rw [hports, respond_held hrespond] at hpool
  rw [hready] at hheld
  cases ready with
  | false =>
    rw [gated_false, crossing_none] at hpool
    rw [Bool.false_and, crossing_false] at hheld
    omega
  | true =>
    rw [gated_true] at hpool
    rw [Bool.true_and] at hheld
    omega

theorem Tagged.cancel (hf : f.Tagged) (x : Cancellation) : (f.cancel x).Tagged := by
  intro k
  have hsame := spares_of_identity x k
  have htags : (f.cancel x).tags.tokens = f.tags.tokens.filter x.spares := f.tags.tokens_cancel x
  rw [htags, held_cancel_fpu, countP_filter_spares x hsame, countP_filter_spares x hsame, hf k]

/-- The tags are whole: no two have one identity, every tag waits for all its lanes, and what is
under way has the lanes of its tag. -/
structure Covered (f : STDFPU) : Prop where
  once : (f.tags.entries.map fun e => e.token.identity).Nodup
  whole : ∀ e ∈ f.tags.entries, e.remaining = e.token.mask ∧ e.token.mask ≠ 0#8
  lanes : ∀ e ∈ f.tags.entries, ∀ t ∈ f.held, t.identity = e.token.identity → t.mask = e.token.mask

/-- What is in the unit after an edge was there or has come in. -/
theorem mem_held_cases (h : f.evaluate input downstream = .ok (r, f')) (ht : t ∈ f'.held) :
    t ∈ f.held ∨ t ∈ crossing input r.transfer.inputReady := by
  have hcount := evaluate_held h fun x => decide (x = t)
  have hpos : 0 < f'.held.countP fun x => decide (x = t) :=
    List.countP_pos_iff.mpr ⟨t, ht, decide_eq_true rfl⟩
  have hback {l : List Token} (hl : 0 < l.countP fun x => decide (x = t)) : t ∈ l := by
    obtain ⟨x, hx, hsame⟩ := List.countP_pos_iff.mp hl
    rw [← of_decide_eq_true hsame]
    exact hx
  rcases Nat.eq_zero_or_pos (f.held.countP fun x => decide (x = t)) with hzero | hold
  · exact .inr (hback (by omega))
  · exact .inl (hback hold)

/-- A micro operation that is under way has a tag. -/
theorem Tagged.exists_tag (hf : f.Tagged) (ht : t ∈ f.held) :
    ∃ e ∈ f.tags.entries, e.token.identity = t.identity := by
  obtain ⟨x, hx, hsame⟩ := exists_of_count (hf t.identity).ge ⟨t, ht, rfl⟩
  obtain ⟨e, he, rfl⟩ := List.mem_map.mp hx
  exact ⟨e, he, hsame⟩

theorem evaluate_covered (htagged : f.Tagged) (hf : f.Covered)
    (h : f.evaluate input downstream = .ok (r, f')) : f'.Covered := by
  obtain ⟨ready, tagsT, htags, hready⟩ := evaluate_pool h
  obtain ⟨left, hleft, hmask, hentries⟩ := WaitPool.evaluate_entries (by decide) htags
  -- the unit and the pool take in the same micro operation
  have hin : crossing (gated ready input) (f.tags.ready (gated ready input)) =
      crossing input r.transfer.inputReady := by
    rw [hready]
    cases ready with
    | false => rw [gated_false, crossing_none, Bool.false_and, crossing_false]
    | true => rw [gated_true, Bool.true_and]
  have hnew : ∀ x ∈ crossing input r.transfer.inputReady, ∀ e ∈ f.tags.entries,
      e.token.identity ≠ x.identity := by
    intro x hx e he
    rw [← hin] at hx
    cases hopen : f.tags.ready (gated ready input) with
    | false =>
      rw [hopen] at hx
      cases hx
    | true => exact WaitPool.new_of_ready hopen (mem_crossing hx) he
  rw [hin] at hentries
  refine ⟨?_, ?_, ?_⟩
  · rw [hentries, List.map_append, List.map_map]
    refine List.nodup_append.mpr ⟨hf.once.sublist (hleft.map _), ?_, ?_⟩
    · cases input <;> cases r.transfer.inputReady <;> simp
    · intro k hk l hl
      obtain ⟨e, he, rfl⟩ := List.mem_map.mp hk
      obtain ⟨x, hx, rfl⟩ := List.mem_map.mp hl
      exact hnew x hx e (hleft.subset he)
  · intro e he
    rw [hentries] at he
    rcases List.mem_append.mp he with hold | he
    · exact hf.whole e (hleft.subset hold)
    · obtain ⟨x, hx, rfl⟩ := List.mem_map.mp he
      rw [← hin] at hx
      exact ⟨rfl, hmask x (mem_crossing hx)⟩
  · intro e he t ht hsame
    rw [hentries] at he
    rcases List.mem_append.mp he with hold | he <;> rcases mem_held_cases h ht with hthere | htcame
    · exact hf.lanes e (hleft.subset hold) t hthere hsame
    · exact absurd hsame.symm (hnew t htcame e (hleft.subset hold))
    · obtain ⟨x, hx, rfl⟩ := List.mem_map.mp he
      obtain ⟨y, hy, hy'⟩ := htagged.exists_tag hthere
      exact absurd (hy'.trans hsame) (hnew x hx y hy)
    · obtain ⟨x, hx, rfl⟩ := List.mem_map.mp he
      have hx' := mem_crossing hx
      rw [Option.mem_unique hx' (mem_crossing htcame)]

theorem Covered.cancel (hf : f.Covered) (x : Cancellation) : (f.cancel x).Covered := by
  have hentries : ∀ e ∈ (f.cancel x).tags.entries, e ∈ f.tags.entries :=
    fun e he => List.mem_of_mem_filter he
  refine ⟨hf.once.sublist (List.filter_sublist.map _), fun e he => hf.whole e (hentries e he),
    fun e he t ht => hf.lanes e (hentries e he) t ?_⟩
  rw [held_cancel_fpu] at ht
  exact List.mem_of_mem_filter ht

/-- The result at the head is accepted by its tag. -/
theorem Covered.respond_ok (hf : f.Covered) (htagged : f.Tagged) :
    ∃ output, f.tags.respond (f.output.map responseFor) = .ok output := by
  cases hhead : f.output with
  | none => exact ⟨none, rfl⟩
  | some t =>
    have ht : t ∈ f.held := List.mem_append_right _ (List.mem_of_mem_head? hhead)
    obtain ⟨y, hy, hsame⟩ := htagged.exists_tag ht
    obtain ⟨e, hfind⟩ : ∃ e, f.tags.lookup (responseFor t) = some e :=
      Option.isSome_iff_exists.mp (List.find?_isSome.mpr ⟨y, hy, decide_eq_true hsame⟩)
    have he := List.mem_of_find?_eq_some hfind
    have hidentity := List.find?_some hfind
    obtain ⟨hremaining, hmask⟩ := hf.whole e he
    have hlanes : (responseFor t).mask = e.remaining :=
      (hf.lanes e he t ht (of_decide_eq_true hidentity).symm).trans hremaining.symm
    refine ⟨some (WaitPool.result .fpu e (responseFor t)), ?_⟩
    rw [Option.map_some, WaitPool.respond, hfind, hlanes]
    simp [hremaining, hmask]

end STDFPU

end VortexSim.Timing
