import VortexSim.Timing.Execute

/-!
# Conservation in the execution units

A unit neither loses nor duplicates a micro operation: what it held and took in is what it
handed to the commit stage and what it holds.  The laws are stated by counting, for an arbitrary
property of tokens, and follow from the laws of the components.
-/

namespace VortexSim.Timing

open Checked Elastic

/-! ## Integer unit -/

namespace ALU

variable {a : ALU} {downstream : Bool}

/-- The routes of the unit share out its input. -/
theorem crossing_routeReady (hpath : ∀ t ∈ input, t.path = .int ∨ t.path = .mul ∨ t.path = .div)
    (integer mul div : Bool) (p : Token → Bool) :
    (crossing input (routeReady input integer mul div)).countP p =
      (crossing (routed input .int) integer).countP p +
        (crossing (routed input .mul) mul).countP p +
        (crossing (routed input .div) div).countP p := by
  cases input with
  | none => simp [routed]
  | some t => rcases hpath t rfl with h | h | h <;> simp [routed, routeReady, h, Option.filter_some]

theorem evaluate_residents (h : a.evaluate input downstream = .ok (r, a')) (p : Token → Bool) :
    a.residents.countP p + (crossing input r.transfer.inputReady).countP p =
      (crossing a.output downstream).countP p + a'.residents.countP p := by
  unfold evaluate at h
  simp only [ok_iff, Prod.mk.injEq] at h
  obtain ⟨hroute, rfl, rfl⟩ := h
  have hpath : ∀ t ∈ input, t.path = .int ∨ t.path = .mul ∨ t.path = .div := by
    intro t ht
    by_contra hother
    rw [not_or, not_or] at hother
    exact hroute ⟨t, ht, .inr hother⟩
  have hresult := a.result.evaluate_countP
    (pair a.integer.queue.head? a.md.out.queue.head?) downstream p
  generalize hr : a.result.evaluate (pair a.integer.queue.head? a.md.out.queue.head?) downstream =
    result at *
  have hmd := a.md.evaluate_countP (pair a.mul.output a.div.output) (result.1.ready 1) p
  generalize hm : a.md.evaluate (pair a.mul.output a.div.output) (result.1.ready 1) = md at *
  rw [Fin.sum_univ_two, pair_zero, pair_one] at hresult hmd
  have hinteger := a.integer.evaluate_countP (routed input .int) (result.1.ready 0) p
  have hmul := a.mul.evaluate_countP (routed input .mul) (md.1.ready 0) p
  have hdiv := a.div.evaluate_countP (routed input .div) (md.1.ready 1) p
  have hin := crossing_routeReady hpath (a.integer.ready (result.1.ready 0))
    (a.mul.ready (md.1.ready 0)) a.div.ready p
  simp only [residents, List.countP_append]
  dsimp only [transfer] at *
  simp only [Buffer.evaluate_inputReady, Pipeline.evaluate_inputReady, Divider.evaluate_inputReady]
  unfold output
  omega

end ALU

/-! ## Control unit -/

theorem CSR.evaluate_countP (c : CSR) (input : Signal) (downstream : Bool) (p : Token → Bool) :
    c.out.queue.countP p +
        (crossing input (c.evaluate input downstream).1.transfer.inputReady).countP p =
      (crossing c.out.queue.head? downstream).countP p +
        (c.evaluate input downstream).2.out.queue.countP p := by
  have hout := c.out.evaluate_countP (gated (decide (c.wait = csrLatency)) input) downstream p
  rw [crossing_gated] at hout
  exact hout

namespace SFU

/-- The two kinds of micro operations that the unit executes. -/
def Routed (queue : List Token) : Prop := ∀ t ∈ queue, t.path = .wctl ∨ t.path = .csr

variable {s : SFU} {downstream : Bool}

/-- The head of the queue goes to the path it is routed to. -/
theorem crossing_execute (hpath : ∀ t ∈ execute, t.path = .wctl ∨ t.path = .csr)
    (wctl csr allowed : Bool) (p : Token → Bool) :
    (crossing execute (if onPath execute .csr then csr else wctl && allowed)).countP p =
      (crossing (gated allowed (routed execute .wctl)) wctl).countP p +
        (crossing (routed execute .csr) csr).countP p := by
  cases execute with
  | none => simp [routed]
  | some t =>
    rcases hpath t rfl with h | h <;> cases allowed <;>
      simp [routed, onPath, h, Option.filter_some]

theorem evaluate_residents (h : s.evaluate input downstream controlAllowed = .ok (r, s'))
    (hrouted : Routed s.dispatch.queue) (p : Token → Bool) :
    s.residents.countP p + (crossing input r.transfer.inputReady).countP p =
      (crossing s.output downstream).countP p + s'.residents.countP p := by
  unfold evaluate at h
  simp only [ok_iff, Prod.mk.injEq] at h
  obtain ⟨-, rfl, rfl⟩ := h
  have hpath : ∀ t ∈ s.dispatch.queue.head?, t.path = .wctl ∨ t.path = .csr :=
    fun t ht => hrouted t (List.mem_of_mem_head? ht)
  have hgather := s.gather.evaluate_countP s.result.out.queue.head? downstream p
  have hresult := s.result.evaluate_countP (pair s.wctl.queue.head? s.csr.out.queue.head?)
    (s.gather.ready downstream) p
  simp only [residents, List.countP_append, Buffer.evaluate_inputReady]
  dsimp only [transfer] at *
  generalize s.result.evaluate (pair s.wctl.queue.head? s.csr.out.queue.head?)
    (s.gather.ready downstream) = result at *
  rw [Fin.sum_univ_two, pair_zero, pair_one] at hresult
  have hwctl := s.wctl.evaluate_countP
    (gated controlAllowed (routed s.dispatch.queue.head? .wctl)) (result.1.ready 0) p
  have hcsr := s.csr.evaluate_countP (routed s.dispatch.queue.head? .csr) (result.1.ready 1) p
  generalize s.csr.evaluate (routed s.dispatch.queue.head? .csr) (result.1.ready 1) = csr at *
  have hdispatch := s.dispatch.evaluate_countP input
    (if onPath s.dispatch.queue.head? .csr then csr.1.transfer.inputReady
      else s.wctl.ready (result.1.ready 0) && controlAllowed) p
  rw [crossing_execute hpath] at hdispatch
  unfold output
  omega

/-- The queue of the unit holds only what it accepted. -/
theorem evaluate_routed (h : s.evaluate input downstream controlAllowed = .ok (r, s'))
    (hrouted : Routed s.dispatch.queue) : Routed s'.dispatch.queue := by
  unfold evaluate at h
  simp only [ok_iff, Prod.mk.injEq] at h
  obtain ⟨hroute, -, rfl⟩ := h
  intro t ht
  rcases Buffer.mem_of_mem_evaluate ht with hold | hnew
  · exact hrouted t hold
  · by_contra hother
    rw [not_or] at hother
    exact hroute ⟨t, hnew, .inr hother⟩

end SFU

/-! ## Float unit -/

namespace STDPath

variable {depth : Nat} [NeZero depth]

/-- The tokens of a path. -/
def held (x : STDPath depth) : List Token := x.pipe.contents ++ x.out.queue

/-- The path is ready when its pipeline can shift. -/
def ready (x : STDPath depth) (downstream : Bool) : Bool := x.pipe.ready (x.out.ready downstream)

@[simp] theorem evaluate_inputReady (x : STDPath depth) (input : Signal) (downstream : Bool) :
    (x.evaluate input downstream).1.inputReady = x.ready downstream := rfl

theorem evaluate_countP (x : STDPath depth) (input : Signal) (downstream : Bool)
    (p : Token → Bool) :
    x.held.countP p + (crossing input (x.ready downstream)).countP p =
      (crossing x.out.queue.head? downstream).countP p +
        (x.evaluate input downstream).2.held.countP p := by
  have hpipe := x.pipe.evaluate_countP input (x.out.ready downstream) p
  have hout := x.out.evaluate_countP x.pipe.output downstream p
  unfold held ready
  dsimp only [evaluate]
  simp only [List.countP_append, Pipeline.evaluate_output]
  omega

end STDPath

namespace STDFPU

/-- The micro operations in the unit; the tags are aliases of them. -/
def held (f : STDFPU) : List Token :=
  ((List.finRange 4).flatMap fun i => (f.paths i).held) ++ f.result.out.queue

theorem mem_residents_of_mem_held {f : STDFPU} (h : t ∈ f.held) : t ∈ f.residents := by
  simp only [held, STDPath.held, residents, List.mem_append] at h ⊢
  exact h.elim .inr fun h => .inl (.inr h)

theorem held_countP (f : STDFPU) (p : Token → Bool) :
    f.held.countP p = ∑ i, (f.paths i).held.countP p + f.result.out.queue.countP p := by
  rw [held, List.countP_append, List.countP_flatMap, Fin.sum_univ_def]
  rfl

theorem stdPaths_injective : ∀ i j, stdPaths i = stdPaths j → i = j := by decide

variable {f : STDFPU} {downstream : Bool}

/-- The paths share out the input. -/
theorem crossing_selected (hroute : ∀ t ∈ input, selected input ≠ none) (gate : Bool)
    (ready : Fin 4 → Bool) (p : Token → Bool) :
    ∑ i, (crossing (gated gate (routed input (stdPaths i))) (ready i)).countP p =
      (crossing input ((selected input).any ready && gate)).countP p := by
  cases input with
  | none => simp [routed]
  | some t =>
    obtain ⟨i, hi⟩ := Option.ne_none_iff_exists'.mp (hroute t rfl)
    have hpath : t.path = stdPaths i := by
      have hfound := List.find?_some hi
      exact of_decide_eq_true hfound
    simp only [crossing_gated]
    rw [hi, Option.any_some, Finset.sum_eq_single i]
    · rw [routed, Option.filter_some, decide_eq_true hpath, if_pos rfl]
    · intro j _ hne
      have hother : ¬ t.path = stdPaths j := fun h =>
        hne (stdPaths_injective _ _ (h.symm.trans hpath))
      rw [routed, Option.filter_some, decide_eq_false hother, if_neg Bool.false_ne_true,
        crossing_none, List.countP_nil]
    · exact fun h => absurd (Finset.mem_univ i) h

theorem evaluate_held (h : f.evaluate input downstream = .ok (r, f')) (p : Token → Bool) :
    f.held.countP p + (crossing input r.transfer.inputReady).countP p =
      (crossing f.output downstream).countP p + f'.held.countP p := by
  unfold evaluate at h
  simp only [ok_iff, Prod.mk.injEq, Prod.exists] at h
  obtain ⟨hroute, probe, _, -, _, _, -, rfl, rfl⟩ := h
  have hselected : ∀ t ∈ input, selected input ≠ none :=
    fun t ht hnone => hroute ⟨t, ht, .inr hnone⟩
  have hresult := f.result.evaluate_countP (fun i => (f.paths i).out.queue.head?) downstream p
  simp only [held_countP]
  dsimp only [transfer] at *
  generalize f.result.evaluate (fun i => (f.paths i).out.queue.head?) downstream = result at *
  have hin := crossing_selected hselected probe.inputReady
    (fun i => (f.paths i).ready (result.1.ready i)) p
  have hpaths := fun i => (f.paths i).evaluate_countP
    (gated probe.inputReady (routed input (stdPaths i))) (result.1.ready i) p
  have hsum := Finset.sum_congr rfl fun (i : Fin 4) (_ : i ∈ Finset.univ) => hpaths i
  rw [Finset.sum_add_distrib, Finset.sum_add_distrib] at hsum
  simp only [STDPath.evaluate_inputReady]
  unfold output
  omega

end STDFPU

/-! ## Load and store unit -/

/-- A part of a fence before its end. -/
def Token.skipped (t : Token) : Bool := t.path = .fence && !t.last

/-- A micro operation of the load and store unit that waits for an answer. -/
def Token.awaits (t : Token) : Bool := !(decide (t.path = .store) || t.skipped)

namespace LSU

/-- The micro operations in the unit.  A load waits in the tag pool; of its results only the
last counts, since the others leave it waiting. -/
def held (l : LSU) : List Token :=
  l.dispatch.queue ++ l.tags.tokens ++
    (l.load.queue ++ l.store.queue ++ l.result.out.queue ++ l.gather.queue).filter Token.last

theorem mem_residents_of_mem_held {l : LSU} (h : t ∈ l.held) : t ∈ l.residents := by
  simp only [held, WaitPool.tokens, residents, List.mem_append, List.mem_filter] at h ⊢
  tauto

variable {l : LSU} {downstream : Bool}

/-- The head of the queue enters the tag pool, the request queue and the result queue at the edge
at which it leaves. -/
theorem crossing_parts (l : LSU) (requestReady store : Bool) :
    let slice := l.sliceReady requestReady (l.tags.ready l.tagInput) store
    crossing (l.tagAdmitted slice) (l.tags.ready (l.tagAdmitted slice)) =
        (crossing l.execute slice).filter Token.awaits ∧
      crossing (l.requestInput (l.tags.ready l.tagInput) store) (l.request.ready requestReady) =
        (crossing l.execute slice).filter (fun t => !t.skipped) ∧
      crossing (l.storeInput requestReady (l.tags.ready l.tagInput)) store =
        (crossing l.execute slice).filter fun t => !t.awaits := by
  unfold tagAdmitted sliceReady requestInput storeInput schedulerReady tagInput noResponse
  cases hexecute : l.execute with
  | none => simp
  | some t =>
    have hskips : l.skips = t.skipped := by rw [skips, hexecute]; rfl
    have hstores : l.stores = decide (t.path = .store) := by rw [stores, hexecute]; rfl
    rw [hskips, hstores]
    generalize l.request.ready requestReady = request
    cases l.fence with
    | true => simp
    | false =>
      cases hskip : t.skipped <;> cases hstore : decide (t.path = .store) <;> cases request <;>
        cases store <;> cases hready : l.tags.ready (some t) <;>
        simp [Token.awaits, hskip, hstore, hready]

/-- The head of the queue goes to the tag pool or, for a store, to the result queue. -/
theorem crossing_slice (hlast : ∀ t ∈ l.execute, t.last = true) (requestReady store : Bool)
    (p : Token → Bool) :
    let slice := l.sliceReady requestReady (l.tags.ready l.tagInput) store
    (crossing l.execute slice).countP p =
      (crossing (l.tagAdmitted slice) (l.tags.ready (l.tagAdmitted slice))).countP p +
        (crossing (l.storeInput requestReady (l.tags.ready l.tagInput)) store).countP
          fun t => p t && t.last := by
  intro slice
  obtain ⟨htags, -, hstore⟩ := l.crossing_parts requestReady store
  rw [htags, hstore, List.countP_eq_countP_filter_add _ p Token.awaits]
  congr 1
  refine List.countP_congr fun t ht => ?_
  rw [hlast t (mem_crossing (List.mem_of_mem_filter ht)), Bool.and_true]

theorem evaluate_held (h : l.evaluate input response requestReady downstream = .ok (r, l'))
    (hlast : ∀ t ∈ l.dispatch.queue, t.last = true)
    (p : Token → Bool) (hp : ∀ e r, p (WaitPool.result .load e r) = p e.token) :
    l.held.countP p + (crossing input r.transfer.inputReady).countP p =
      ((crossing l.output downstream).filter Token.last).countP p + l'.held.countP p := by
  unfold evaluate at h
  simp only [ok_iff, Prod.mk.injEq, Prod.exists] at h
  obtain ⟨-, -, probe, _, hprobe, tagsT, tags, htags, rfl, rfl⟩ := h
  have hhead : ∀ t ∈ l.execute, t.last = true := fun t ht => hlast t (List.mem_of_mem_head? ht)
  have hpool := WaitPool.evaluate_countP (by decide) htags p hp
  rw [(WaitPool.evaluate_ports htags).1, (WaitPool.evaluate_ports hprobe).1] at hpool
  rw [(WaitPool.evaluate_ports hprobe).1]
  -- a result is counted when it is the last of its micro operation
  have hgather := l.gather.evaluate_countP l.result.out.queue.head? downstream
    fun t => p t && t.last
  have hresult := l.result.evaluate_countP (pair l.load.queue.head? l.store.queue.head?)
    (l.gather.ready downstream) fun t => p t && t.last
  simp only [held, List.countP_append, List.countP_filter] at hpool ⊢
  dsimp only [transfer] at *
  simp only [Buffer.evaluate_inputReady] at *
  generalize l.result.evaluate (pair l.load.queue.head? l.store.queue.head?)
    (l.gather.ready downstream) = result at *
  rw [Fin.sum_univ_two, pair_zero, pair_one] at hresult
  have hslice := crossing_slice hhead requestReady (l.store.ready (result.1.ready 1)) p
  have hstore := l.store.evaluate_countP (l.storeInput requestReady (l.tags.ready l.tagInput))
    (result.1.ready 1) fun t => p t && t.last
  have hdispatch := l.dispatch.evaluate_countP input (l.sliceReady requestReady
    (l.tags.ready l.tagInput) (l.store.ready (result.1.ready 1))) p
  have hloads := l.load.evaluate_countP tagsT.output (result.1.ready 0) fun t => p t && t.last
  unfold execute at hslice
  unfold output
  omega

/-- The queue of the unit holds only what it was offered. -/
theorem mem_of_mem_evaluate (h : l.evaluate input response requestReady downstream = .ok (r, l'))
    (ht : t ∈ l'.dispatch.queue) : t ∈ l.dispatch.queue ∨ t ∈ input := by
  unfold evaluate at h
  simp only [ok_iff, Prod.mk.injEq, Prod.exists] at h
  obtain ⟨-, -, _, _, -, _, _, -, -, rfl⟩ := h
  exact Buffer.mem_of_mem_evaluate ht

end LSU

/-! ## Commit -/

theorem Commit.evaluate_countP (c : Commit) (inputs : Fin 4 → Signal) (p : Token → Bool) :
    c.out.queue.countP p + ∑ i, (crossing (inputs i) ((c.evaluate inputs).1.ready i)).countP p =
      ((c.evaluate inputs).1.writeback.toList).countP p +
        (c.evaluate inputs).2.out.queue.countP p := by
  have hout := c.out.evaluate_countP ((selected inputs).bind inputs) true p
  rw [← crossing_selected] at hout
  exact hout

end VortexSim.Timing
