import VortexSim.Lib.BitMask
import VortexSim.Lib.Elastic
import VortexSim.Timing.Token

/-!
# Pools of waiting requests

A pool keeps the context of a request until its responses cover all lanes of the request.  A
response goes straight to the output; it names its request by identity.
-/

namespace VortexSim.Timing

open Checked Elastic

/-- A response of a service outside the pipeline. -/
structure Response where
  id : Nat
  epoch : Nat
  warp : Fin 4
  uop : Nat
  mask : LaneMask
  word : Word := 0#32
  deriving DecidableEq

/-- A request and the lanes not answered. -/
structure Pending where
  token : Token
  remaining : LaneMask
  deriving DecidableEq

/-- The three pools of the pipeline. -/
inductive WaitKind where
  | fetch
  | load
  | fpu
  deriving Repr, DecidableEq

/-- The size of a pool. -/
def WaitKind.capacity : WaitKind → Nat
  | .fetch => 4
  | .load => 8
  | .fpu => 2

/-- The requests waiting for a response. -/
structure WaitPool (kind : WaitKind) where
  entries : List Pending := []

/-- `sameIdentity` compares these. -/
def Response.identity (r : Response) : Fin 4 × Nat × Nat × Nat := (r.warp, r.epoch, r.id, r.uop)

/-- The requests with a service after a response: an answer that ends one takes it out. -/
def unanswered (issued : List Token) (response : Option Response) (ended : Bool) : List Token :=
  match response with
  | some r => if ended then issued.eraseP fun t => decide (t.identity = r.identity) else issued
  | none => issued

namespace WaitPool

variable {kind : WaitKind} (w : WaitPool kind)

/-- A request waits while its identity is in the pool; fetches, while their warp is. -/
def ready (input : Signal) : Bool :=
  decide (w.entries.length < kind.capacity) && match input with
    | none => true
    | some t => w.entries.all fun p => decide (p.token.identity ≠ t.identity) &&
        !(decide (kind = .fetch) && decide (p.token.warp = t.warp))

/-- The first entry that a response belongs to. -/
def lookup (r : Response) : Option Pending :=
  w.entries.find? fun p => decide (p.token.identity = r.identity)

/-- The result that a response makes. -/
def result (kind : WaitKind) (p : Pending) (r : Response) : Token :=
  { p.token with
    mask := r.mask
    last := if kind = .fpu then p.token.last else decide (r.mask = p.remaining)
    word := if kind = .fetch then r.word else p.token.word }

/-- Match a response with its entry. -/
def respond (response : Option Response) : Except Error Signal :=
  match response with
  | none => .ok none
  | some r =>
    match w.lookup r with
    | none => .error (.text "unknown or stale response identity")
    | some p => do
        rejectIf (r.mask = 0#8 ∨ r.mask &&& ~~~p.remaining ≠ 0#8 ∨
            (kind ≠ .load ∧ r.mask ≠ p.remaining))
          (.text "invalid or duplicate response coverage")
        pure (some (result kind p r))

/-- Take the lanes of a response out of its entry. -/
def consume (r : Response) : List Pending → List Pending
  | [] => []
  | p :: rest =>
    if p.token.identity = r.identity then
      if p.remaining &&& ~~~r.mask = 0#8 then rest
      else { p with remaining := p.remaining &&& ~~~r.mask } :: rest
    else p :: consume r rest

/-- `Evaluate`. -/
def evaluate (input : Signal) (response : Option Response) (downstream : Bool) :
    Except Error (Transfer Token × WaitPool kind) := do
  rejectIf (∃ t ∈ input, t.mask = 0#8 ∨ t.mask &&& ~~~allLanes ≠ 0#8)
    (.text "invalid request lane mask")
  let output ← w.respond response
  let t := transfer input output (w.ready input) downstream
  let left := match response with
    | some r => if t.completed then consume r w.entries else w.entries
    | none => w.entries
  let new := (crossing input t.inputReady).map fun token => { token, remaining := token.mask }
  pure (t, { entries := left ++ new })

/-! ## Conservation -/

/-- The requests that wait. -/
def tokens : List Token := w.entries.map Pending.token

variable {w} {response : Option Response} {t : Transfer Token} {input : Signal}
  {downstream : Bool}

/-- A response that is taken belongs to an entry and covers some of its open lanes. -/
theorem respond_eq_ok (h : w.respond response = .ok output) : (response = none ∧ output = none) ∨
      ∃ r e, response = some r ∧ w.lookup r = some e ∧ output = some (result kind e r) ∧
        r.mask &&& ~~~e.remaining = 0#8 ∧ (kind = .load ∨ r.mask = e.remaining) ∧ r.mask ≠ 0#8 := by
  cases response with
  | none =>
    cases h
    exact .inl ⟨rfl, rfl⟩
  | some r =>
    unfold respond at h
    dsimp only at h
    cases hlookup : w.lookup r with
    | none =>
      rw [hlookup] at h
      cases h
    | some e =>
      rw [hlookup] at h
      simp only [ok_iff, not_or, ne_eq, not_and, not_not] at h
      obtain ⟨⟨hmask, hcover, hwhole⟩, rfl⟩ := h
      refine .inr ⟨r, e, rfl, hlookup, rfl, hcover, ?_, hmask⟩
      by_cases hkind : kind = .load
      · exact .inl hkind
      · exact .inr (hwhole hkind)

/-- A result carries the identity of its response. -/
theorem respond_identity (h : w.respond response = .ok output) {t : Token} (ht : t ∈ output) :
    ∃ r ∈ response, t.identity = r.identity := by
  rcases respond_eq_ok h with ⟨-, rfl⟩ | ⟨r, e, rfl, hlookup, rfl, -⟩
  · cases ht
  · obtain rfl := Option.some.inj ht
    have hfound := List.find?_some hlookup
    exact ⟨r, rfl, of_decide_eq_true hfound⟩

/-- A response changes the one entry that it is for. -/
theorem consume_eq {entries : List Pending}
    (hlookup : entries.find? (fun p => decide (p.token.identity = r.identity)) = some e) :
    ∃ before after, entries = before ++ e :: after ∧ consume r entries = before ++
      if e.remaining &&& ~~~r.mask = 0#8 then after
      else { e with remaining := e.remaining &&& ~~~r.mask } :: after := by
  induction entries with
  | nil => cases hlookup
  | cons x rest ih =>
    by_cases hx : x.token.identity = r.identity
    · rw [List.find?_cons, decide_eq_true hx] at hlookup
      obtain rfl : x = e := Option.some.inj hlookup
      exact ⟨[], rest, rfl, if_pos hx⟩
    · rw [List.find?_cons, decide_eq_false hx] at hlookup
      obtain ⟨before, after, rfl, hrest⟩ := ih hlookup
      refine ⟨x :: before, after, rfl, ?_⟩
      rw [consume, if_neg hx, hrest]
      rfl

/-- An entry leaves the pool with the response that covers the rest of its lanes. -/
theorem consume_countP {entries : List Pending}
    (hlookup : entries.find? (fun p => decide (p.token.identity = r.identity)) = some e)
    (hcover : r.mask &&& ~~~e.remaining = 0#8) (p : Token → Bool) :
    (entries.map Pending.token).countP p =
      (if r.mask = e.remaining then [e.token] else []).countP p +
        ((consume r entries).map Pending.token).countP p := by
  obtain ⟨before, after, rfl, hconsume⟩ := consume_eq hlookup
  simp only [hconsume, BitMask.and_not_eq_zero_iff hcover]
  split <;>
    simp only [List.map_append, List.map_cons, List.countP_append, List.countP_cons,
      List.countP_nil] <;>
    omega

theorem tokens_new (l : List Token) :
    (l.map fun token => (⟨token, token.mask⟩ : Pending)).map Pending.token = l := by
  rw [List.map_map]
  exact List.map_id l

/-- What the pool held and took in is what it holds and what has gone: an entry, if the response
that leaves covers the rest of its lanes. -/
theorem evaluate_gone (h : w.evaluate input response downstream = .ok (t, w')) (p : Token → Bool) :
    ∃ gone : List Token, w.tokens.countP p + (crossing input t.inputReady).countP p =
        gone.countP p + w'.tokens.countP p ∧
      ((crossing t.output downstream = [] ∧ gone = []) ∨
        ∃ e r, crossing t.output downstream = [result kind e r] ∧
          (kind = .load ∨ r.mask = e.remaining) ∧
          gone = if r.mask = e.remaining then [e.token] else []) := by
  unfold evaluate at h
  simp only [ok_iff, Prod.mk.injEq] at h
  obtain ⟨-, output, hrespond, rfl, rfl⟩ := h
  unfold tokens
  dsimp only [transfer]
  rw [List.map_append, tokens_new, List.countP_append]
  rcases respond_eq_ok hrespond with ⟨rfl, rfl⟩ | ⟨r, e, rfl, hlookup, rfl, hcover, hwhole, -⟩
  · exact ⟨[], (Nat.zero_add _).symm, .inl ⟨crossing_none _, rfl⟩⟩
  · cases downstream with
    | false => exact ⟨[], by simp, .inl ⟨rfl, rfl⟩⟩
    | true =>
      refine ⟨_, ?_, .inr ⟨e, r, rfl, hwhole, rfl⟩⟩
      rw [consume_countP hlookup hcover p, Nat.add_assoc]
      rfl

/-- An entry leaves with its last response. -/
theorem evaluate_countP (hkind : kind ≠ .fpu)
    (h : w.evaluate input response downstream = .ok (t, w')) (p : Token → Bool)
    (hp : ∀ e r, p (result kind e r) = p e.token) :
    w.tokens.countP p + (crossing input t.inputReady).countP p =
      ((crossing t.output downstream).filter Token.last).countP p + w'.tokens.countP p := by
  obtain ⟨gone, hcount, ⟨hout, rfl⟩ | ⟨e, r, hout, -, rfl⟩⟩ := evaluate_gone h p
  · rw [hcount, hout]
    rfl
  · have hlast : (result kind e r).last = decide (r.mask = e.remaining) := if_neg hkind
    rw [hcount, hout]
    by_cases hall : r.mask = e.remaining <;> simp [hlast, hall, hp]

/-- A pool whose responses cover all lanes gives up an entry with each of them. -/
theorem evaluate_whole (hkind : kind ≠ .load)
    (h : w.evaluate input response downstream = .ok (t, w')) (p : Token → Bool)
    (hp : ∀ e r, p (result kind e r) = p e.token) :
    w.tokens.countP p + (crossing input t.inputReady).countP p =
      (crossing t.output downstream).countP p + w'.tokens.countP p := by
  obtain ⟨gone, hcount, ⟨hout, rfl⟩ | ⟨e, r, hout, hload | hall, rfl⟩⟩ := evaluate_gone h p
  · rw [hcount, hout]
  · exact absurd hload hkind
  · rw [hcount, hout, if_pos hall, List.countP_singleton, List.countP_singleton, hp]

/-- Readiness and output do not depend on each other. -/
theorem evaluate_ports (h : w.evaluate input response downstream = .ok (t, w')) :
    t.inputReady = w.ready input ∧ w.respond response = .ok t.output := by
  unfold evaluate at h
  simp only [ok_iff, Prod.mk.injEq] at h
  obtain ⟨-, output, hrespond, rfl, -⟩ := h
  exact ⟨rfl, hrespond⟩

theorem evaluate_completed (h : w.evaluate input response downstream = .ok (t, w')) :
    t.completed = (t.output.isSome && downstream) := by
  unfold evaluate at h
  simp only [ok_iff, Prod.mk.injEq] at h
  obtain ⟨-, output, -, rfl, -⟩ := h
  rfl

/-- A response to all lanes takes its entry out. -/
theorem consume_sublist {entries : List Pending}
    (hlookup : entries.find? (fun p => decide (p.token.identity = r.identity)) = some e)
    (hall : r.mask = e.remaining) : (consume r entries).Sublist entries := by
  obtain ⟨before, after, rfl, hconsume⟩ := consume_eq hlookup
  have hdone : e.remaining &&& ~~~e.remaining = 0#8 := BitVec.and_not_self _
  rw [hconsume, hall, if_pos hdone]
  exact (List.sublist_cons_self e after).append_left before

/-- What an edge leaves in a pool whose responses cover all lanes: old entries as they were, and
the request that was taken in with all its lanes. -/
theorem evaluate_entries (hkind : kind ≠ .load)
    (h : w.evaluate input response downstream = .ok (t, w')) : ∃ left : List Pending,
      left.Sublist w.entries ∧ (∀ x ∈ input, x.mask ≠ 0#8) ∧
      w'.entries = left ++ (crossing input (w.ready input)).map fun x => ⟨x, x.mask⟩ := by
  unfold evaluate at h
  simp only [ok_iff, Prod.mk.injEq] at h
  obtain ⟨hmask, output, hrespond, rfl, rfl⟩ := h
  refine ⟨_, ?_, fun x hx hzero => hmask ⟨x, hx, .inl hzero⟩, rfl⟩
  rcases respond_eq_ok hrespond with ⟨rfl, rfl⟩ | ⟨r, e, rfl, hlookup, rfl, -, hload | hall, -⟩
  · exact List.Sublist.refl _
  · exact absurd hload hkind
  · dsimp only
    split
    · exact consume_sublist hlookup hall
    · exact List.Sublist.refl _

/-- A request is taken in only when its identity is not in the pool. -/
theorem new_of_ready (hready : w.ready input = true) (hx : x ∈ input) (he : e ∈ w.entries) :
    e.token.identity ≠ x.identity := by
  obtain rfl := Option.mem_def.mp hx
  have hall := List.all_eq_true.mp (Bool.and_eq_true_iff.mp hready).2 e he
  exact of_decide_eq_true (Bool.and_eq_true_iff.mp hall).1

end WaitPool

end VortexSim.Timing
