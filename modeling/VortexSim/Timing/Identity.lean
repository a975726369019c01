import VortexSim.Timing.InFlight

/-!
# Identities

An instruction is named by its warp, its epoch and its number, and one of its micro operations
also by a position.  From the schedule buffer to the ledger of the scoreboard there is at most one
claim to a name: an instruction that is not yet split claims the names of all its micro
operations, a split one those that are still to come.
-/

namespace VortexSim.Timing

open Checked Elastic

/-- The name of an instruction. -/
def Token.instruction (t : Token) : Fin 4 × Nat × Nat := (t.warp, t.epoch, t.id)

/-! ## Fetch and decode -/

theorem decodeToken_instruction (h : decodeToken t = .ok d) :
    d.instruction = t.instruction ∧ d.last = true := by
  unfold decodeToken at h
  simp only [ok_iff] at h
  obtain ⟨_, -, -, -, rfl⟩ := h
  exact ⟨rfl, rfl⟩

theorem decodeSignal_mem (h : Frontend.decodeSignal s = .ok d) (ht : t ∈ d) :
    ∃ x ∈ s, decodeToken x = .ok t := by
  cases s with
  | none =>
    cases h
    cases ht
  | some x =>
    obtain ⟨y, hy, hpure⟩ := bind_eq_ok.mp h
    rw [← pure_eq_ok.mp hpure] at ht
    obtain rfl := Option.some.inj ht
    exact ⟨x, rfl, hy⟩

theorem decodeSignal_instruction (h : Frontend.decodeSignal s = .ok d) :
    d.map Token.instruction = s.map Token.instruction := by
  cases s with
  | none =>
    cases h
    rfl
  | some t =>
    unfold Frontend.decodeSignal at h
    simp only [ok_iff] at h
    obtain ⟨d, hd, rfl⟩ := h
    exact congrArg some (decodeToken_instruction hd).1

namespace Fetch

variable {f : Fetch}

/-- A fetched instruction leaves the pool of waiting fetches when it is decoded. -/
theorem evaluate_tokens (h : f.evaluate input response requestReady decodeReady = .ok (r, f'))
    (p : Token → Bool) (hp : ∀ e x, p (WaitPool.result .fetch e x) = p e.token) :
    f.tags.tokens.countP p + (crossing input r.transfer.inputReady).countP p =
      (crossing r.transfer.output decodeReady).countP p + f'.tags.tokens.countP p := by
  unfold evaluate at h
  simp only [ok_iff, Prod.mk.injEq, Prod.exists] at h
  obtain ⟨-, probe, _, hprobe, tagsT, tags, htags, rfl, rfl⟩ := h
  have hpool := WaitPool.evaluate_whole (by decide) htags p hp
  rw [(WaitPool.evaluate_ports htags).1, crossing_gated] at hpool
  rw [(WaitPool.evaluate_ports hprobe).1]
  simp only [Buffer.evaluate_inputReady] at hpool ⊢
  cases hgate : f.request.ready (f.iflush.ready requestReady) with
  | true =>
    rw [hgate] at hpool
    exact hpool
  | false =>
    rw [hgate, Bool.and_false] at hpool
    rw [Bool.and_false]
    exact hpool

/-- A fetched instruction belongs to the warp of its response. -/
theorem evaluate_output (h : f.evaluate input response requestReady decodeReady = .ok (r, f'))
    (ht : t ∈ r.transfer.output) : ∃ x ∈ response, t.warp = x.warp := by
  unfold evaluate at h
  simp only [ok_iff, Prod.mk.injEq, Prod.exists] at h
  obtain ⟨-, _, _, -, tagsT, tags, htags, rfl, -⟩ := h
  obtain ⟨x, hx, hidentity⟩ := WaitPool.respond_identity (WaitPool.evaluate_ports htags).2 ht
  exact ⟨x, hx, congrArg Prod.fst hidentity⟩

end Fetch

/-! ## Sequencer -/

/-- A claim to the micro operation `u` of the instruction `m`. -/
def Token.isUop (m : Fin 4 × Nat × Nat) (u : Nat) (t : Token) : Bool :=
  decide (t.instruction = m) && decide (t.uop = u)

/-- A claim to the micro operations of `m` from a position on. -/
def Token.fromUop (m : Fin 4 × Nat × Nat) (u : Nat) (t : Token) : Bool :=
  decide (t.instruction = m) && decide (t.uop ≤ u)

/-- A claim to all micro operations of `m`. -/
def Token.isInstruction (m : Fin 4 × Nat × Nat) (t : Token) : Bool := decide (t.instruction = m)

theorem Token.isUop_le (m : Fin 4 × Nat × Nat) (u : Nat) (t : Token) :
    (if t.isUop m u then 1 else 0) ≤ if t.isInstruction m then 1 else 0 := by
  unfold isUop isInstruction
  by_cases hm : t.instruction = m
  · rw [decide_eq_true hm, Bool.true_and]
    split <;> simp
  · rw [decide_eq_false hm, Bool.false_and]

/-- The claims from a position on are the one at the position and those after it. -/
theorem Token.fromUop_succ (m : Fin 4 × Nat × Nat) (u : Nat) (t : Token) :
    (if t.fromUop m u then 1 else 0) = (if t.isUop m u then 1 else 0) +
        if ({ t with uop := t.uop + 1 } : Token).fromUop m u then 1 else 0 := by
  have hname : ({ t with uop := t.uop + 1 } : Token).instruction = t.instruction := rfl
  unfold fromUop isUop
  rw [hname]
  by_cases hm : t.instruction = m
  · rw [decide_eq_true hm]
    simp only [Bool.true_and, decide_eq_true_eq]
    split <;> split <;> split <;> omega
  · rw [decide_eq_false hm]
    rfl

namespace Sequencer

variable {s : Sequencer} {t : Transfer Token}

/-- The instructions of a buffer that are not split yet. -/
def waiting (s : Sequencer) (queue : List Token) : List Token :=
  if s.active.isSome then queue.tail else queue

/-- A split instruction is at the head of its buffer. -/
def Linked (s : Sequencer) (queue : List Token) : Prop :=
  ∀ a ∈ s.active, ∃ head rest, queue = head :: rest ∧ head.instruction = a.instruction

theorem evaluate_eq_ok (h : s.evaluate input downstream = .ok (t, s')) :
    (s.active.isSome = true → input = some s.original) ∧
      t = transfer input (s.output input) (s.ready input downstream) downstream ∧
      s' = s.next input t := by
  unfold evaluate at h
  simp only [ok_iff, Prod.mk.injEq] at h
  obtain ⟨-, hsame, rfl, rfl⟩ := h
  refine ⟨fun hactive => ?_, rfl, rfl⟩
  by_contra hother
  exact hsame ⟨hactive, hother⟩

/-- Splitting an instruction passes its claims on, one micro operation at a time. -/
theorem evaluate_claims (new : List Token) (h : s.evaluate queue.head? downstream = .ok (t, s'))
    (m : Fin 4 × Nat × Nat) (u : Nat) : s'.active.toList.countP (Token.fromUop m u) +
        (s'.waiting (Buffer.rest queue t.inputReady ++ new)).countP (Token.isInstruction m) +
        (crossing (s.output queue.head?) downstream).countP (Token.isUop m u) ≤
      s.active.toList.countP (Token.fromUop m u) +
        (s.waiting queue).countP (Token.isInstruction m) + new.countP (Token.isInstruction m) := by
  obtain ⟨horiginal, rfl, rfl⟩ := evaluate_eq_ok h
  obtain ⟨active, original⟩ := s
  cases active with
  | none =>
    cases queue with
    | nil => cases downstream <;> simp [waiting, next, output, Buffer.rest]
    | cons x rest =>
      by_cases hpack : x.pack = 0
      · have hone := Token.isUop_le m u x
        cases downstream with
        | false =>
          simp [waiting, next, output, ready, transfer, Buffer.rest, hpack, List.countP_cons]
          omega
        | true =>
          simp [waiting, next, output, ready, transfer, Buffer.rest, hpack,
            Option.filter_some, List.countP_cons]
          omega
      · -- the claims of the whole instruction pass to its first micro operation
        have hfirst : Token.fromUop m u { x with uop := 0, uops := packedUops x.pack } =
            Token.isInstruction m x := by
          rw [Token.fromUop, decide_eq_true (Nat.zero_le u), Bool.and_true]
          rfl
        simp [waiting, next, output, ready, transfer, Buffer.rest, hpack, Option.filter_some,
          List.countP_cons, hfirst]
        omega
  | some a =>
    cases queue with
    | nil => exact absurd (horiginal rfl) (by simp)
    | cons x rest =>
      have hsplit := Token.fromUop_succ m u a
      cases downstream with
      | false =>
        simp [waiting, next, output, ready, transfer, Buffer.rest]
        omega
      | true =>
        by_cases hend : a.uop + 1 = a.uops
        · simp [waiting, next, output, ready, transfer, Buffer.rest, hend, List.countP_cons]
          omega
        · simp [waiting, next, output, ready, transfer, Buffer.rest, hend, List.countP_cons]
          omega

/-- The next micro operation stays at the head of the buffer until the last is taken. -/
theorem evaluate_linked (new : List Token) (hs : s.Linked queue)
    (h : s.evaluate queue.head? downstream = .ok (t, s')) :
    s'.Linked (Buffer.rest queue t.inputReady ++ new) := by
  obtain ⟨-, rfl, rfl⟩ := evaluate_eq_ok h
  obtain ⟨active, original⟩ := s
  intro b hb
  cases active with
  | none =>
    cases queue with
    | nil => cases hb
    | cons x rest =>
      by_cases hpack : x.pack = 0
      · simp [next, hpack] at hb
      · simp [next, hpack] at hb
        refine ⟨x, rest ++ new, ?_, by rw [← hb]; rfl⟩
        simp [ready, transfer, Buffer.rest, hpack]
  | some a =>
    obtain ⟨x, rest, rfl, hname⟩ := hs a rfl
    by_cases hend : a.uop + 1 = a.uops
    · cases downstream with
      | true => simp [next, ready, transfer, output, hend] at hb
      | false =>
        simp [next, transfer, output] at hb
        exact ⟨x, rest ++ new, by simp [ready, transfer, Buffer.rest], by rw [← hb, hname]⟩
    · refine ⟨x, rest ++ new, by simp [ready, transfer, Buffer.rest, hend], ?_⟩
      cases downstream with
      | true =>
        simp [next, ready, transfer, output, hend] at hb
        rw [← hb, hname]
        rfl
      | false =>
        simp [next, transfer, output] at hb
        rw [← hb, hname]

/-- What a sequencer shows and keeps inherits a property of its inputs. -/
theorem evaluate_all {p : Token → Prop}
    (hp : ∀ x : Token, p x → ∀ u v, p { x with uop := u, uops := v })
    (hinput : ∀ x ∈ input, p x) (hactive : ∀ x ∈ s.active, p x)
    (h : s.evaluate input downstream = .ok (t, s')) :
    (∀ x ∈ s.output input, p x) ∧ ∀ x ∈ s'.active, p x := by
  obtain ⟨-, rfl, rfl⟩ := evaluate_eq_ok h
  obtain ⟨active, original⟩ := s
  cases active with
  | none =>
    refine ⟨fun x hx => ?_, fun x hx => ?_⟩
    · exact hinput x (Option.filter_eq_some_iff.mp hx).1
    · cases input with
      | none => cases hx
      | some i =>
        by_cases hpack : i.pack = 0
        · simp [next, hpack] at hx
        · simp [next, hpack] at hx
          rw [← hx]
          exact hp i (hinput i rfl) _ _
  | some a =>
    have ha : p a := hactive a rfl
    refine ⟨fun x hx => ?_, fun x hx => ?_⟩
    · rwa [← Option.some.inj hx]
    · unfold next at hx
      dsimp only at hx
      split at hx
      · split at hx
        · cases hx
        · rw [← Option.some.inj hx]
          exact hp a ha _ a.uops
      · rwa [← Option.some.inj hx]

end Sequencer

/-! ## Claims -/

namespace Frontend

/-- The claims to one micro operation. -/
def claims (f : Frontend) (m : Fin 4 × Nat × Nat) (u : Nat) : Nat :=
  f.issue.reservations.countP (Token.isUop m u) +
    (f.issue.staging m.1).queue.countP (Token.isUop m u) +
    (f.seq m.1).active.toList.countP (Token.fromUop m u) +
    ((f.seq m.1).waiting (f.ibuf m.1).queue).countP (Token.isInstruction m) +
    f.fetch.tags.tokens.countP (Token.isInstruction m) +
    f.schedule.queue.countP (Token.isInstruction m)

variable {f : Frontend}

/-- The ledger grows by the issued micro operation and gives back what ends its writeback. -/
theorem Edge.reservations_countP (e : Edge f input r f') (hans : f.issue.Answers input.writeback)
    (p : Token → Bool) (hp : ∀ t : Token, p t.stem = p t) :
    f'.issue.reservations.countP p + (input.writeback.filter Token.last).toList.countP p =
      f.issue.reservations.countP p + r.issued.toList.countP p := by
  obtain ⟨-, s₁, hrelease, -, -, hs'⟩ := Scoreboard.evaluate_eq_ok e.issue
  have hnext : f'.issue.reservations = s₁.reservations ++ r.issued.toList := by
    rw [hs', e.issued_eq, ← Scoreboard.reserve_reservations]
    rfl
  rw [hnext, List.countP_append]
  rcases Scoreboard.release_cases hrelease with ⟨rfl, hopen⟩ | ⟨t, ht, hlast, rfl⟩
  · have hnone : input.writeback.filter Token.last = none :=
      Option.filter_eq_none_iff.mpr fun t ht => by
        rw [hopen t ht]
        exact Bool.false_ne_true
    rw [hnone, Option.toList_none, List.countP_nil, Nat.add_zero]
  · obtain ⟨old, hfind, hstem⟩ := hans t ht hlast
    have herase := BitOwner.countP_eraseP (p := p) hfind
    have hsame : p old = p t := by rw [← hp old, hstem, hp]
    have hended : input.writeback.filter Token.last = some t :=
      Option.filter_eq_some_iff.mpr ⟨ht, hlast⟩
    rw [hended, Option.toList_some, List.countP_singleton, ← hsame]
    dsimp only
    omega

/-- A staging register hands its micro operation to the ledger. -/
theorem Edge.staging_le (e : Edge f input r f') (hs : f.issue.Sound) (w : Fin 4)
    (hp : ∀ t, p t = true → t.warp = w) :
    r.issued.toList.countP p + (f'.issue.staging w).queue.countP p ≤
      (f.issue.staging w).queue.countP p + (crossing (f.uops w) (e.issueR.ready w)).countP p := by
  obtain ⟨-, s₁, -, -, hready, hs'⟩ := Scoreboard.evaluate_eq_ok e.issue
  have hstage := (f.issue.staging w).evaluate_countP (f.uops w)
    ((f.issue.arbitrate e.opcR.transfer.inputReady).1.ready w && f.issue.ready w) p
  have hnext : f'.issue.staging w =
      (f.issue.stage f.uops e.opcR.transfer.inputReady w).2 := by rw [hs']
  have hissued : r.issued.toList.countP p ≤ (crossing (f.issue.staging w).queue.head?
      ((f.issue.arbitrate e.opcR.transfer.inputReady).1.ready w && f.issue.ready w)).countP p := by
    rw [e.issued_eq]
    cases hissue : f.issue.issuing e.opcR.transfer.inputReady with
    | none => exact Nat.zero_le _
    | some t =>
      cases hpt : p t with
      | false =>
        rw [Option.toList_some, List.countP_singleton, hpt]
        exact Nat.zero_le _
      | true =>
        -- the issued micro operation is the one staged for its own warp
        obtain ⟨haccepted, hselected⟩ := gated_eq_some hissue
        obtain ⟨v, hv, hrequest⟩ := Option.bind_eq_some_iff.mp hselected
        obtain ⟨hvready, hhead⟩ := gated_eq_some hrequest
        have hwarp : v = w := by
          rw [← hp t hpt, (hs.staged v t (List.mem_of_mem_head? hhead)).1]
        subst hwarp
        have hout : (f.issue.arbitrate e.opcR.transfer.inputReady).1.ready v = true := by
          have hboth : (((f.issue.arbitrate e.opcR.transfer.inputReady).1.selected.bind
              f.issue.requests).isSome &&
              f.issue.out.out.ready e.opcR.transfer.inputReady) = true := haccepted
          have hvalue : (f.issue.arbitrate e.opcR.transfer.inputReady).1.ready v =
              (decide ((f.issue.arbitrate e.opcR.transfer.inputReady).1.selected = some v) &&
                f.issue.out.out.ready e.opcR.transfer.inputReady) := rfl
          rw [hvalue, decide_eq_true hv]
          exact (Bool.and_eq_true_iff.mp hboth).2
        rw [hout, hvready, hhead]
        exact Nat.le_refl _
  rw [hnext, hready]
  exact (Nat.add_le_add_right hissued _).trans hstage.ge

/-- An instruction that enters the buffer of its warp comes from the pool of fetches. -/
theorem Edge.decoded_countP (e : Edge f input r f') (w : Fin 4)
    (hname : ∀ a b : Token, a.instruction = b.instruction → p a = p b)
    (hwarp : ∀ t, p t = true → t.warp = w) : (crossing (e.decoded.filter fun t => t.warp = w)
        ((f.ibuf w).ready (e.seqT w).inputReady)).countP p =
      (crossing e.fetchR.transfer.output
        (f.decodeReady input.response fun w => (e.seqT w).inputReady)).countP p := by
  have hsame := decodeSignal_instruction e.decode
  cases hdecoded : e.decoded with
  | none =>
    rw [hdecoded, Option.map_none] at hsame
    have hnone : e.fetchR.transfer.output = none := Option.map_eq_none_iff.mp hsame.symm
    rw [hnone, Option.filter_none, crossing_none, crossing_none]
  | some d =>
    rw [hdecoded, Option.map_some] at hsame
    obtain ⟨t, ht, hinstruction⟩ := Option.map_eq_some_iff.mp hsame.symm
    have htd : t.warp = d.warp := congrArg Prod.fst hinstruction
    rw [ht]
    by_cases hd : d.warp = w
    · obtain ⟨x, hx, hxt⟩ := Fetch.evaluate_output e.fetch ht
      have hready : f.decodeReady input.response (fun w => (e.seqT w).inputReady) =
          (f.ibuf w).ready (e.seqT w).inputReady := by
        rw [hx, ← hd, ← htd, hxt]
        rfl
      have hkeep : (some d).filter (fun t => decide (t.warp = w)) = some d :=
        Option.filter_eq_some_iff.mpr ⟨rfl, decide_eq_true hd⟩
      rw [hready, hkeep]
      cases (f.ibuf w).ready (e.seqT w).inputReady with
      | false => rfl
      | true =>
        rw [crossing_true, crossing_true, Option.toList_some, Option.toList_some,
          List.countP_singleton, List.countP_singleton, hname d t hinstruction.symm]
    · have hdrop : (some d).filter (fun t => decide (t.warp = w)) = none :=
        Option.filter_eq_none_iff.mpr fun x hx => by
          rw [← Option.some.inj hx, decide_eq_true_eq]
          exact hd
      have hother : ∀ x ∈ crossing (some t)
          (f.decodeReady input.response fun w => (e.seqT w).inputReady), ¬ p x = true := by
        intro x hx hpx
        obtain rfl := Option.some.inj (mem_crossing hx)
        exact hd (htd.symm.trans (hwarp t hpx))
      rw [hdrop, crossing_none, List.countP_nil, List.countP_eq_zero.mpr hother]

/-- Claims come in with a scheduled instruction and go with the end of a writeback. -/
theorem Edge.claims_le (e : Edge f input r f') (hs : f.issue.Sound)
    (hans : f.issue.Answers input.writeback) (m : Fin 4 × Nat × Nat) (u : Nat) :
    f'.claims m u + (input.writeback.filter Token.last).toList.countP (Token.isUop m u) ≤
      f.claims m u + r.scheduled.toList.countP (Token.isInstruction m) := by
  have hledger := e.reservations_countP hans (Token.isUop m u) fun _ => rfl
  have hstaging := e.staging_le hs m.1 (p := Token.isUop m u) fun t ht => by
    rw [Token.isUop, Bool.and_eq_true, decide_eq_true_eq] at ht
    rw [← ht.1]
    rfl
  have hseq := Sequencer.evaluate_claims (crossing (e.decoded.filter fun t => t.warp = m.1)
    ((f.ibuf m.1).ready (e.seqT m.1).inputReady)) (e.seq m.1) m u
  have hdecoded := e.decoded_countP m.1 (p := Token.isInstruction m)
    (fun a b h => by unfold Token.isInstruction; rw [h])
    fun t ht => congrArg Prod.fst (of_decide_eq_true ht)
  have hfetch := Fetch.evaluate_tokens e.fetch (Token.isInstruction m) fun _ _ => rfl
  have hschedule := f.schedule.evaluate_countP (f.offered input.instruction)
    e.fetchR.transfer.inputReady (Token.isInstruction m)
  have hscheduled : r.scheduled.toList = crossing (f.offered input.instruction)
      (f.schedule.ready e.fetchR.transfer.inputReady) := by
    rw [e.scheduled]
    exact toList_gated ..
  unfold claims
  rw [e.schedule, e.ibuf, hscheduled]
  have hqueue : (f.insert e.decoded (fun w => (e.seqT w).inputReady) m.1).2.queue =
      Buffer.rest (f.ibuf m.1).queue (e.seqT m.1).inputReady ++
        crossing (e.decoded.filter fun t => t.warp = m.1)
          ((f.ibuf m.1).ready (e.seqT m.1).inputReady) := rfl
  rw [hqueue]
  unfold uops ibufOut at hstaging
  omega

end Frontend

end VortexSim.Timing
