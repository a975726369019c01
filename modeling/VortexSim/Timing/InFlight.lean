import VortexSim.Timing.Frontend
import VortexSim.Timing.Scoreboard

/-!
# From issue to the execution units

An issued micro operation passes the issue queue, the operand collector and the dispatch queue of
its class, and the micro operations of a class keep their order.  The ledger of credits of a class
lists exactly the micro operations on this way.
-/

namespace VortexSim.Timing

open Checked Elastic

/-- A token without the marks of an operand pass. -/
def Token.plain (t : Token) : Token := { t with readMask := 0#3, lastRead := false }

/-! ## Operand collector -/

namespace Collector

/-- The micro operations in the collector, oldest first.  A pass that is not the last leaves its
micro operation in the issue queue. -/
def contents (c : Collector) : List Token :=
  c.out.queue ++ c.second.queue ++ c.first.queue.filter fun t => t.lastRead

variable {c : Collector}

theorem filter_crossing (item : Signal) (ready : Bool) (p : Token → Bool) :
    (crossing item ready).filter p = crossing (item.filter p) ready := by
  cases ready with
  | false => rfl
  | true =>
    cases item with
    | none => rfl
    | some t => cases h : p t <;> simp [h, Option.filter_some]

/-- The last pass of a micro operation enters for good. -/
theorem plain_pass (input : Signal) (granted : BitVec 3) (final ready : Bool) :
    ((crossing (input.map fun t => { t with readMask := granted, lastRead := final }) ready).filter
      fun t => t.lastRead).map Token.plain = (crossing input (ready && final)).map Token.plain := by
  cases input with
  | none => simp
  | some t => cases ready <;> cases final <;> simp [Token.plain]

theorem evaluate_accepted (h : c.evaluate input downstream = .ok (r, c')) :
    r.transfer.accepted = (input.isSome && r.transfer.inputReady) := by
  unfold evaluate at h
  simp only [ok_iff, Prod.mk.injEq] at h
  obtain ⟨-, rfl, -⟩ := h
  rfl

theorem evaluate_contents (h : c.evaluate input downstream = .ok (r, c')) :
    (c.contents ++ crossing input r.transfer.inputReady).map Token.plain =
      (crossing c.out.queue.head? downstream ++ c'.contents).map Token.plain := by
  unfold evaluate at h
  simp only [ok_iff, Prod.mk.injEq] at h
  obtain ⟨-, rfl, rfl⟩ := h
  have hout := c.out.evaluate_queue c.second.queue.head? downstream
  have hsecond := c.second.evaluate_queue (c.first.queue.head?.filter fun t => t.lastRead)
    (c.out.ready downstream)
  have hfirst := congrArg (List.filter fun t => t.lastRead) (c.first.evaluate_queue
    (input.map fun t => { t with
      readMask := (c.passes input).2
      lastRead := decide ((c.passes input).1 = (c.passes input).2) })
    (c.second.ready (c.out.ready downstream)))
  rw [List.filter_append, List.filter_append, filter_crossing c.first.queue.head?] at hfirst
  dsimp only [transfer, Buffer.evaluate_inputReady]
  rw [List.map_append, ← plain_pass input (c.passes input).2, ← List.map_append]
  refine congrArg (List.map Token.plain) ?_
  unfold contents
  rw [List.append_assoc, hfirst, ← List.append_assoc, List.append_assoc c.out.queue, hsecond,
    ← List.append_assoc c.out.queue, hout]
  simp only [List.append_assoc]

end Collector

/-! ## Queues before and after -/

/-- The queue of a class takes the inputs of its class, in order. -/
theorem Dispatch.evaluate_queue (d : Dispatch) (input : Signal) (downstream : Fin 4 → Bool)
    (c : Fin 4) :
    (d.queues c).queue ++
        (crossing input (d.evaluate input downstream).1.inputReady).filter (fun t => t.unit = c) =
      crossing (d.outputs c) (downstream c) ++
        ((d.evaluate input downstream).2.queues c).queue := by
  have hshare : (crossing input (d.evaluate input downstream).1.inputReady).filter
      (fun t => t.unit = c) =
      crossing (input.filter fun t => t.unit = c) ((d.queues c).ready (downstream c)) := by
    rw [Collector.filter_crossing]
    cases input with
    | none => simp
    | some t =>
      by_cases hc : t.unit = c
      · subst hc
        rfl
      · rw [Option.filter_some, decide_eq_false hc, if_neg Bool.false_ne_true, crossing_none,
          crossing_none]
  rw [hshare]
  exact (d.queues c).evaluate_queue (input.filter fun t => t.unit = c) (downstream c)

namespace Scoreboard

variable (s : Scoreboard) (downstream : Bool)

theorem issuing_toList : (s.issuing downstream).toList =
    crossing ((s.out.selected s.requests).bind s.requests) (s.out.out.ready downstream) :=
  toList_gated ((s.out.selected s.requests).bind s.requests) (s.out.out.ready downstream)

/-- The issue queue takes what is issued. -/
theorem arbitrate_queue : s.out.out.queue ++ (s.issuing downstream).toList =
    crossing s.output downstream ++ (s.arbitrate downstream).2.out.queue := by
  rw [issuing_toList]
  exact s.out.out.evaluate_queue ((s.out.selected s.requests).bind s.requests) downstream

/-- The ledger of a class after an edge. -/
theorem settled_creditTokens (issued : Signal) (releases : Fin 4 → Bool) (c : Fin 4) :
    ((s.reserve issued).giveBack releases).creditTokens c = if releases c then
        (s.creditTokens c ++ issued.toList.filter fun t => t.unit = c).tail
      else s.creditTokens c ++ issued.toList.filter fun t => t.unit = c := by
  have hreserve : (s.reserve issued).creditTokens c =
      s.creditTokens c ++ issued.toList.filter fun t => t.unit = c := by
    cases issued with
    | none => exact (List.append_nil _).symm
    | some t =>
      by_cases hc : t.unit = c
      · subst hc
        rw [Option.toList_some, List.filter_cons, decide_eq_true rfl]
        exact Function.update_self ..
      · rw [Option.toList_some, List.filter_cons, decide_eq_false hc, List.filter_nil,
          if_neg Bool.false_ne_true, List.append_nil]
        exact Function.update_of_ne (Ne.symm hc) ..
  unfold giveBack
  dsimp only
  rw [hreserve]

end Scoreboard

/-! ## The way of an issued micro operation -/

namespace Frontend

/-- The issued micro operations before the dispatch queues, oldest first. -/
def path (f : Frontend) : List Token := f.opc.contents ++ f.issue.out.out.queue

/-- The micro operations of a class between issue and its execution unit, oldest first. -/
def flight (f : Frontend) (c : Fin 4) : List Token :=
  (f.dispatch.queues c).queue ++ f.path.filter fun t => t.unit = c

variable {f : Frontend}

theorem Edge.issued_eq (e : Edge f input r f') :
    r.issued = f.issue.issuing e.opcR.transfer.inputReady := by
  obtain ⟨-, _, -, hissued, -⟩ := Scoreboard.evaluate_eq_ok e.issue
  rw [e.issued, hissued]

/-- The issue queue takes what is issued and hands its head to the operand collector. -/
theorem Edge.issueQueue_eq (e : Edge f input r f') :
    f.issue.out.out.queue ++ r.issued.toList =
      crossing f.issue.output e.opcR.transfer.inputReady ++ f'.issue.out.out.queue := by
  obtain ⟨-, _, -, -, -, hs'⟩ := Scoreboard.evaluate_eq_ok e.issue
  have hout : f'.issue.out = (f.issue.arbitrate e.opcR.transfer.inputReady).2 := by rw [hs']
  rw [e.issued_eq, f.issue.arbitrate_queue, hout]

theorem Edge.path_eq (e : Edge f input r f') : (f.path ++ r.issued.toList).map Token.plain =
      (crossing f.opc.out.queue.head? (f.dispatching input.downstream).1.inputReady ++
        f'.path).map Token.plain := by
  have hopc := Collector.evaluate_contents e.opc
  unfold path
  rw [List.append_assoc, e.issueQueue_eq, ← List.append_assoc, List.map_append, hopc,
    ← List.map_append, List.append_assoc]

/-- What a class held and what is issued to it is what its unit takes and what it holds. -/
theorem Edge.flight_eq (e : Edge f input r f') (c : Fin 4) :
    (f.flight c ++ r.issued.toList.filter fun t => t.unit = c).map Token.plain =
      (crossing (f.dispatch.outputs c) (input.downstream c) ++ f'.flight c).map Token.plain := by
  have hunit : ((fun t : Token => decide (t.unit = c)) ∘ Token.plain) =
      fun t : Token => decide (t.unit = c) := rfl
  have hpath := congrArg (List.filter fun t => decide (t.unit = c)) e.path_eq
  rw [List.filter_map, List.filter_map, hunit, List.filter_append, List.filter_append] at hpath
  have hqueue := f.dispatch.evaluate_queue f.opc.out.queue.head? input.downstream c
  unfold flight
  rw [e.dispatch, List.append_assoc, List.map_append, hpath, ← List.map_append, ← List.append_assoc]
  unfold dispatching
  rw [hqueue, List.append_assoc]

/-! ## Credits -/

/-- The ledger of every class lists the micro operations of its flight. -/
def Credited (f : Frontend) : Prop :=
  ∀ c, (f.issue.creditTokens c).map Token.plain = (f.flight c).map Token.plain ∧
    f.issue.credits c = (f.issue.creditTokens c).length

theorem releases_eq (f : Frontend) (downstream : Fin 4 → Bool) (c : Fin 4) :
    (f.dispatching downstream).1.releases c = ((f.dispatch.outputs c).isSome && downstream c) := rfl

/-- A released credit belongs to the micro operation that its unit takes. -/
theorem tail_of_crossing {l : List Token}
    (h : l.map Token.plain = (crossing item ready ++ rest).map Token.plain) :
    (if item.isSome && ready then l.tail else l).map Token.plain = rest.map Token.plain ∧
      (if item.isSome && ready then l.tail else l).length =
        l.length - (if item.isSome && ready then 1 else 0) := by
  cases item with
  | none =>
    rw [crossing_none, List.nil_append] at h
    exact ⟨h, rfl⟩
  | some t =>
    cases ready with
    | false => exact ⟨h, rfl⟩
    | true =>
      refine ⟨?_, List.length_tail⟩
      cases l with
      | nil => cases h
      | cons x l => exact (List.cons.inj h).2

theorem Edge.credited (e : Edge f input r f') (hf : f.Credited) : f'.Credited := by
  intro c
  obtain ⟨-, s₁, hrelease, hissued, -, hs'⟩ := Scoreboard.evaluate_eq_ok e.issue
  obtain ⟨htokens, hcredits⟩ := Scoreboard.release_credits hrelease
  obtain ⟨hledger, hcount⟩ := hf c
  have hnow :
      (f.issue.creditTokens c ++ r.issued.toList.filter fun t => t.unit = c).map Token.plain =
      (crossing (f.dispatch.outputs c) (input.downstream c) ++ f'.flight c).map Token.plain := by
    rw [List.map_append, hledger, ← List.map_append, e.flight_eq]
  obtain ⟨hmap, hlength⟩ := tail_of_crossing hnow
  have htokens' : f'.issue.creditTokens c =
      if (f.dispatch.outputs c).isSome && input.downstream c then
        (f.issue.creditTokens c ++ r.issued.toList.filter fun t => t.unit = c).tail
      else f.issue.creditTokens c ++ r.issued.toList.filter fun t => t.unit = c := by
    rw [hs', e.issued, hissued, ← htokens, ← releases_eq]
    exact Scoreboard.settled_creditTokens ..
  refine ⟨by rw [htokens', hmap], ?_⟩
  have hcredits' : f'.issue.credits c =
      f.issue.credits c + (r.issued.toList.filter fun t => t.unit = c).length -
        (if (f.dispatch.outputs c).isSome && input.downstream c then 1 else 0) := by
    rw [hs', e.issued, hissued, ← hcredits, ← releases_eq]
    exact Scoreboard.settled_credits ..
  rw [hcredits', htokens', hlength, hcount, List.length_append]

end Frontend

end VortexSim.Timing
