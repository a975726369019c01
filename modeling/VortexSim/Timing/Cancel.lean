import VortexSim.Timing.Hazards

/-!
# Software recovery

A cancellation takes the micro operations of a range out of every place of the pipeline and leaves
the others where they are, with all that the registers remember of them.  All registers then say
what the remaining micro operations imply, and no later edge trips over what was removed.
-/

namespace VortexSim.Timing

open Checked Elastic

/-! ## Places -/

section

variable (x : Cancellation)

/-- What fetch holds. -/
def Fetch.places (f : Fetch) : List (List Token) :=
  [f.request.queue, f.iflush.queue, f.tags.tokens, f.issued]

/-- A lock that is held counts as a place of its owner. -/
def Scoreboard.places (s : Scoreboard) : List (List Token) :=
  [s.reservations, s.out.out.queue] ++ (List.finRange 4).map s.creditTokens ++
    ((List.finRange 4).map fun w => (s.staging w).queue) ++
    (List.finRange 4).map fun k => if s.locked k then [s.lockOwner k] else []

/-- The micro operation of which some operands are read is remembered. -/
def Collector.places (c : Collector) : List (List Token) :=
  [c.first.queue, c.second.queue, c.out.queue, if c.fetched = 0#3 then [] else [c.held]]

/-- What the front end holds. -/
def Frontend.places (f : Frontend) : List (List Token) :=
  [f.schedule.queue, (f.scheduler.bind fun s => s.state.decodeUnlock).toList] ++
    ((List.finRange 4).map fun w => (f.ibuf w).queue) ++
    ((List.finRange 4).map fun w => (f.seq w).active.toList) ++
    ((List.finRange 4).map fun k => (f.dispatch.queues k).queue) ++
    f.fetch.places ++ f.issue.places ++ f.opc.places

/-- What the integer unit holds. -/
def ALU.places (a : ALU) : List (List Token) :=
  [a.integer.queue, a.div.loaded.toList, a.md.out.queue, a.result.out.queue, a.branch.toList] ++
    a.mul.stages.map Option.toList

/-- What the load and store unit holds. -/
def LSU.places (l : LSU) : List (List Token) :=
  [l.dispatch.queue, l.request.queue, l.load.queue, l.store.queue, l.gather.queue,
    l.result.out.queue, l.tags.tokens, l.sent]

/-- What the control unit holds. -/
def SFU.places (s : SFU) : List (List Token) :=
  [s.dispatch.queue, s.wctl.queue, s.gather.queue, s.csr.out.queue, s.result.out.queue,
    s.control.toList]

/-- What the float unit holds. -/
def STDFPU.places (f : STDFPU) : List (List Token) :=
  [f.result.out.queue, f.tags.tokens, f.flags.toList] ++ (List.finRange 4).flatMap fun i =>
    (f.paths i).out.queue :: (f.paths i).pipe.stages.map Option.toList

/-- The contents of every buffer, pipeline stage, pool, sequencer, ledger and registered signal. -/
def Core.places (c : Core) : List (List Token) :=
  c.front.places ++ c.alu.places ++ c.lsu.places ++ c.sfu.places ++ c.fpu.places ++
    [c.commit.out.queue, c.commit.feedback.toList, c.account.pending, c.account.issued.toList]

theorem Scoreboard.places_cancel (s : Scoreboard) :
    (s.cancel x).places = s.places.map (List.filter x.spares) := by
  have hlock (k : Fin 4) : (if (s.cancel x).locked k then [(s.cancel x).lockOwner k] else []) =
      (if s.locked k then [s.lockOwner k] else []).filter x.spares := by
    have hlocked : (s.cancel x).locked k = (s.locked k && x.spares (s.lockOwner k)) := rfl
    have howner : (s.cancel x).lockOwner k =
        if x.hits (s.lockOwner k) then {} else s.lockOwner k := rfl
    rw [hlocked, howner]
    cases s.locked k <;> cases hhits : x.hits (s.lockOwner k) <;> simp [Cancellation.spares, hhits]
  unfold places
  simp only [hlock, List.map_append, List.map_map, List.map_cons, List.map_nil]
  rfl

theorem Collector.places_cancel (c : Collector) :
    (c.cancel x).places = c.places.map (List.filter x.spares) := by
  have hheld : (if (c.cancel x).fetched = 0#3 then [] else [(c.cancel x).held]) =
      (if c.fetched = 0#3 then [] else [c.held]).filter x.spares := by
    unfold cancel
    by_cases hfetched : c.fetched = 0#3 <;> cases hhits : x.hits c.held <;>
      simp [Cancellation.spares, hhits, hfetched]
  unfold places
  rw [hheld]
  rfl

theorem Fetch.places_cancel (f : Fetch) :
    (f.cancel x).places = f.places.map (List.filter x.spares) := by
  have htags : (f.cancel x).tags.tokens = f.tags.tokens.filter x.spares := f.tags.tokens_cancel x
  unfold places
  rw [htags]
  rfl

theorem Sequencer.active_cancel (s : Sequencer) :
    (s.cancel x).active.toList = s.active.toList.filter x.spares := by
  unfold cancel
  cases hactive : s.active with
  | none => simp [hactive]
  | some a => cases hhits : x.hits a <;> simp [Cancellation.spares, hhits, hactive]

theorem Frontend.places_cancel (f : Frontend) :
    (f.cancel x).places = f.places.map (List.filter x.spares) := by
  have hunlock : ((f.cancel x).scheduler.bind fun s => s.state.decodeUnlock).toList =
      (f.scheduler.bind fun s => s.state.decodeUnlock).toList.filter x.spares := by
    have hscheduler : (f.cancel x).scheduler =
        f.scheduler.map fun s => s.cancel x (f.cancelledIDs x).length := rfl
    rw [hscheduler]
    cases f.scheduler with
    | none => rfl
    | some s => exact Option.toList_filter ..
  have hseq (w : Fin 4) : ((f.cancel x).seq w).active.toList =
      (f.seq w).active.toList.filter x.spares := (f.seq w).active_cancel x
  have hfetch : (f.cancel x).fetch.places = f.fetch.places.map (List.filter x.spares) :=
    f.fetch.places_cancel x
  have hissue : (f.cancel x).issue.places = f.issue.places.map (List.filter x.spares) :=
    f.issue.places_cancel x
  have hopc : (f.cancel x).opc.places = f.opc.places.map (List.filter x.spares) :=
    f.opc.places_cancel x
  unfold places
  simp only [hunlock, hseq, hfetch, hissue, hopc, List.map_append, List.map_map, List.map_cons,
    List.map_nil]
  rfl

/-- The stages of a pipeline keep their positions. -/
theorem stages_filter (p : Pipeline Token depth) : (p.filter x.spares).stages.map Option.toList =
      (p.stages.map Option.toList).map (List.filter x.spares) := by
  unfold Pipeline.filter
  rw [List.map_map, List.map_map]
  exact List.map_congr_left fun stage _ => Option.toList_filter ..

theorem ALU.places_cancel (a : ALU) :
    (a.cancel x).places = a.places.map (List.filter x.spares) := by
  unfold places ALU.cancel mergeCancel
  dsimp only [Buffer.filter]
  rw [stages_filter, Divider.loaded_filter, Option.toList_filter]
  simp only [List.map_append, List.map_cons, List.map_nil]

theorem LSU.places_cancel (l : LSU) :
    (l.cancel x).places = l.places.map (List.filter x.spares) := by
  unfold places LSU.cancel mergeCancel
  rw [WaitPool.tokens_cancel]
  rfl

theorem SFU.places_cancel (s : SFU) :
    (s.cancel x).places = s.places.map (List.filter x.spares) := by
  unfold places SFU.cancel mergeCancel
  rw [Option.toList_filter]
  rfl

theorem STDFPU.places_cancel (f : STDFPU) :
    (f.cancel x).places = f.places.map (List.filter x.spares) := by
  unfold places STDFPU.cancel mergeCancel
  dsimp only [Buffer.filter]
  simp only [stages_filter, WaitPool.tokens_cancel, Option.toList_filter, List.map_append,
    List.map_flatMap, List.map_cons, List.map_nil]

end

/-- Whether the request of a response is in the range. -/
def Cancellation.answers (x : Cancellation) (r : Response) : Bool :=
  x.hits { warp := r.warp, epoch := r.epoch, id := r.id, uop := r.uop }

theorem Cancellation.hits_of_identity (x : Cancellation) {t : Token} {r : Response}
    (h : t.identity = r.identity) : x.hits t = x.answers r := by
  obtain ⟨hwarp, hrest⟩ := Prod.mk.inj h
  obtain ⟨hepoch, hrest⟩ := Prod.mk.inj hrest
  unfold answers hits
  rw [hwarp, hepoch, (Prod.mk.inj hrest).1]

/-- After a cancellation a pool treats a response as before, or does not know it any more. -/
theorem WaitPool.respond_cancel {kind : WaitKind} (w : WaitPool kind) (x : Cancellation)
    (r : Response) : (w.cancel x).respond (some r) = if x.answers r then
      .error (.text "unknown or stale response identity") else w.respond (some r) := by
  have hlookup : (w.cancel x).lookup r = if x.answers r then none else w.lookup r := by
    have hsame (p : Pending) : (x.spares p.token && decide (p.token.identity = r.identity)) =
        (!x.answers r && decide (p.token.identity = r.identity)) := by
      by_cases hp : p.token.identity = r.identity
      · rw [Cancellation.spares, x.hits_of_identity hp]
      · rw [decide_eq_false hp, Bool.and_false, Bool.and_false]
    unfold lookup cancel
    dsimp only
    rw [List.find?_filter]
    simp only [← Bool.and_eq_true, Bool.decide_eq_true, hsame]
    cases x.answers r <;> simp
  unfold respond
  dsimp only
  rw [hlookup]
  cases x.answers r <;> rfl

namespace Core

variable {c c' : Core} {x : Cancellation}

/-- Every place keeps the micro operations that are spared, in order. -/
theorem places_cancel (h : c.cancel x = .ok c') :
    c'.places = c.places.map (List.filter x.spares) := by
  unfold Core.cancel at h
  simp only [ok_iff] at h
  obtain ⟨-, -, rfl⟩ := h
  unfold places Accounting.cancel
  dsimp only [Buffer.filter]
  simp only [Frontend.places_cancel, ALU.places_cancel, LSU.places_cancel, SFU.places_cancel,
    STDFPU.places_cancel, Option.toList_filter, List.map_append, List.map_cons, List.map_nil]

/-! ## What the registers say -/

/-- The registers say what the micro operations in the pipeline imply. -/
structure Settled (c : Core) : Prop where
  /-- The reservations are the micro operations between issue and the end of their writeback. -/
  reservations : (c.front.issue.reservations.map Token.stem).Perm (c.live.map Token.stem)
  busy : ∀ w (i : Fin 64), (c.front.issue.busy w).getLsbD i.val = true ↔
    ∃ t ∈ c.front.issue.reservations, t.warp = w ∧ t.writeback = true ∧ t.destination = i
  special : ∀ w (i : Fin 2), (c.front.issue.special w).getLsbD i.val = true ↔
    ∃ t ∈ c.front.issue.reservations, t.warp = w ∧ t.writeSpecial.getLsbD i.val = true
  /-- The credits of a class are the micro operations on their way to its unit. -/
  credits : ∀ k, c.front.issue.credits k = (c.front.flight k).length
  /-- No micro operation keeps a lock, and none is held. -/
  locks : (∀ t ∈ c.front.issue.reservations, t.fuLock = t.fuUnlock) ∧
    ∀ k, c.front.issue.locked k = false
  /-- The fence lock is held while a fence waits for its answer. -/
  fence : c.lsu.fence = true ↔ ∃ t ∈ c.lsu.tags.tokens, t.path = .fence
  /-- The counters are the instructions between schedule and pop. -/
  counts : ∀ s ∈ c.front.scheduler, ∀ w, s.state.ibufferCount w = c.front.occupancy w ∧
    s.state.ibufferFull w = decide (c.front.occupancy w = 4)
  /-- The pending instructions are those behind the issue queue and the registered commit. -/
  pending : ((c.account.waiting ++ c.front.issue.out.out.queue).map Token.stem).Perm
    ((c.live ++ c.commit.feedback.toList).map Token.stem)

theorem Reachable.settled (h : c.Reachable) : c.Settled := by
  have hfree := h.sound.free_of_hazards
  have hall := h.consistent
  refine ⟨hfree.ledger, hfree.busy, hfree.special, fun k => (hfree.credits k).2.1,
    ⟨hall.aliased.unlocked.reserved, hall.aliased.unlocked.open_⟩, ?_, fun s hs w => ?_, ?_⟩
  · have hfence := hall.aliased.fence
    unfold LSU.Fenced at hfence
    constructor
    · intro hlocked
      rw [hlocked, if_pos rfl] at hfence
      have hpos : 0 < c.lsu.tags.tokens.countP fun t => decide (t.path = .fence) := by omega
      obtain ⟨t, ht, hpath⟩ := List.countP_pos_iff.mp hpos
      exact ⟨t, ht, of_decide_eq_true hpath⟩
    · rintro ⟨t, ht, hpath⟩
      by_contra hopen
      rw [if_neg hopen] at hfence
      exact List.countP_eq_zero.mp hfence t ht (decide_eq_true hpath)
  · have hcounts := hall.counted.counts s hs
    exact ⟨hcounts.count w, hcounts.full w⟩
  · refine List.perm_iff_count.mpr fun k => ?_
    have hledger := hall.balanced.ledger (fun t => decide (t.stem = k)) fun _ => rfl
    rw [List.count_eq_countP, List.count_eq_countP, List.countP_map, List.countP_map,
      List.countP_append, List.countP_append]
    exact hledger

/-! ## What the others keep -/

/-- What a cancellation leaves of the registers around the tokens. -/
structure Undisturbed (x : Cancellation) (c c' : Core) : Prop where
  /-- The pools keep the entries of spared requests with the lanes that they wait for. -/
  pools : c'.front.fetch.tags.entries =
      c.front.fetch.tags.entries.filter (fun p => x.spares p.token) ∧
    c'.lsu.tags.entries = c.lsu.tags.entries.filter (fun p => x.spares p.token) ∧
    c'.fpu.tags.entries = c.fpu.tags.entries.filter fun p => x.spares p.token
  /-- A response to a spared request is taken or refused as before. -/
  responses : ∀ r, c'.front.fetch.tags.respond (some r) = (if x.answers r then
      .error (.text "unknown or stale response identity")
        else c.front.fetch.tags.respond (some r)) ∧
    c'.lsu.tags.respond (some r) = if x.answers r then
      .error (.text "unknown or stale response identity") else c.lsu.tags.respond (some r)
  /-- The services are waited for as before. -/
  calls : ∀ r, x.answers r = false →
    ((∃ t ∈ c'.front.fetch.issued, t.identity = r.identity) ↔
      ∃ t ∈ c.front.fetch.issued, t.identity = r.identity) ∧
    ((∃ t ∈ c'.lsu.sent, t.identity = r.identity) ↔ ∃ t ∈ c.lsu.sent, t.identity = r.identity)
  /-- A spared division goes on, with the cycles that it has left. -/
  divider : c.alu.div.loaded.all x.spares = true → c'.alu.div = c.alu.div
  /-- The operands read for a spared micro operation are not read again. -/
  collector : x.spares c.front.opc.held = true →
    c'.front.opc.held = c.front.opc.held ∧ c'.front.opc.fetched = c.front.opc.fetched
  /-- A spared instruction is split on from where it was. -/
  sequencers : ∀ w, (c.front.seq w).active.all x.spares = true → c'.front.seq w = c.front.seq w
  /-- The CSR access at the head waits on, unless it is cancelled. -/
  csr : (c.sfu.dispatch.queue.head?).all x.spares = true → c'.sfu.csr.wait = c.sfu.csr.wait
  /-- The arbiters keep their history. -/
  arbiters : c'.front.issue.out = { c.front.issue.out with out := c'.front.issue.out.out } ∧
    c'.alu.md = { c.alu.md with out := c'.alu.md.out } ∧
    c'.alu.result = { c.alu.result with out := c'.alu.result.out } ∧
    c'.lsu.result = { c.lsu.result with out := c'.lsu.result.out } ∧
    c'.sfu.result = { c.sfu.result with out := c'.sfu.result.out } ∧
    c'.fpu.result = { c.fpu.result with out := c'.fpu.result.out }

theorem exists_filter_spares {l : List Token} {r : Response} (h : x.answers r = false) :
    (∃ t ∈ l.filter x.spares, t.identity = r.identity) ↔ ∃ t ∈ l, t.identity = r.identity := by
  constructor
  · rintro ⟨t, ht, hsame⟩
    exact ⟨t, List.mem_of_mem_filter ht, hsame⟩
  · rintro ⟨t, ht, hsame⟩
    refine ⟨t, List.mem_filter.mpr ⟨ht, ?_⟩, hsame⟩
    rw [Cancellation.spares, x.hits_of_identity hsame, h]
    rfl

theorem any_hits_of_spared {s : Signal} (h : s.all x.spares = true) : s.any x.hits = false := by
  cases s with
  | none => rfl
  | some t => simpa [Cancellation.spares] using h

theorem undisturbed_cancel (h : c.cancel x = .ok c') : Undisturbed x c c' := by
  unfold Core.cancel at h
  simp only [ok_iff] at h
  obtain ⟨-, -, rfl⟩ := h
  refine ⟨⟨rfl, rfl, rfl⟩, fun r => ⟨WaitPool.respond_cancel _ x r, WaitPool.respond_cancel _ x r⟩,
    fun r hr => ⟨exists_filter_spares hr, exists_filter_spares hr⟩, fun hspared => if_pos hspared,
    fun hspared => ?_, fun w hspared => ?_, fun hspared => ?_, ⟨rfl, rfl, rfl, rfl, rfl, rfl⟩⟩
  · have hhits : ¬ x.hits c.front.opc.held = true := by
      simpa [Cancellation.spares] using hspared
    exact ⟨if_neg hhits, if_neg hhits⟩
  · exact if_neg (Bool.not_eq_true _ ▸ any_hits_of_spared hspared)
  · refine if_neg (Bool.not_eq_true _ ▸ any_hits_of_spared ?_)
    unfold routed
    cases hhead : c.sfu.dispatch.queue.head? with
    | none => rfl
    | some t =>
      rw [hhead, Option.all_some] at hspared
      rw [Option.filter_some]
      split
      · exact hspared
      · rfl

/-! ## Later edges -/

/-- One operation on a core. -/
inductive Step (c : Core) : Core → Prop where
  | edge {c' : Core} {input : CoreInputs} {r : CoreReport} :
      c.Fresh input.instruction → c.evaluate input = .ok (r, c') → Step c c'
  | dispatchWarp {c' : Core} {warp : Fin 4} {pc : Word} {mask : LaneMask} :
      c.dispatchWarp warp pc mask = .ok c' → Step c c'
  | flush : Step c c.flush
  | cancel {c' : Core} {x : Cancellation} : c.cancel x = .ok c' → Step c c'
  | restart {c' : Core} {warp : Fin 4} {context : WarpContext} {after : Nat} :
      c.restart warp context after = .ok c' → Step c c'
  | clockIdleCounters {c' : Core} : c.clockIdleCounters = .ok c' → Step c c'
  | continueCounters {previous c' : Core} : c.continueCounters previous = .ok c' → Step c c'

theorem Reachable.step (h : c.Reachable) (hstep : Step c c') : c'.Reachable := by
  cases hstep with
  | edge hfresh hedge => exact .edge h hfresh hedge
  | dispatchWarp hlaunch => exact .dispatchWarp h hlaunch
  | flush => exact .flush h
  | cancel hcancel => exact .cancel h hcancel
  | restart hrestart => exact .restart h hrestart
  | clockIdleCounters hclock => exact .clockIdleCounters h hclock
  | continueCounters hcontinue => exact .continueCounters h hcontinue

theorem Reachable.steps (h : c.Reachable) (hsteps : Relation.ReflTransGen Step c c') :
    c'.Reachable := by
  induction hsteps with
  | refl => exact h
  | tail _ hstep ih => exact ih.step hstep

/-- No edge fails because two parts of the core disagree.  The requests of the float unit are all
its own, so that it fails on its input only. -/
structure Accounted (c : Core) : Prop where
  edge : ∀ input err, c.evaluate input = .error err → err ∉ accountingErrors
  floats : ∀ input downstream err, c.fpu.evaluate input downstream = .error err →
    err ∈ [.text "invalid STD route", .text "invalid request lane mask"]

theorem Consistent.accounted (h : c.Consistent) : c.Accounted := by
  constructor
  · intro input err herr
    have hends := h.evaluate_accountable input
    rw [herr] at hends
    exact hends
  · intro input downstream err herr
    have hends := STDFPU.evaluate_ends h.aliased.floats h.aliased.covered input downstream
    rw [herr] at hends
    exact hends

/-- A cancellation removes exactly its range, leaves the others and the registers exact, and no
later edge fails because of it. -/
theorem Reachable.cancel_exact (h : c.Reachable) (hcancel : c.cancel x = .ok c') :
    c'.places = c.places.map (List.filter x.spares) ∧ c'.Settled ∧ Undisturbed x c c' ∧
      ∀ later, Relation.ReflTransGen Step c' later → later.Accounted := by
  have hnext : c'.Reachable := .cancel h hcancel
  exact ⟨places_cancel hcancel, hnext.settled, undisturbed_cancel hcancel,
    fun later hsteps => (hnext.steps hsteps).consistent.accounted⟩

/-- The first instruction of warp 0. -/
def sampleRange : Cancellation where
  warp := 0
  epoch := 0
  after := 0
  through := 1

/-- The reservations, the credits of the first class, and number and open lanes of the fetches under
way. -/
def sampleView (c : Core) : List (List Nat) :=
  [c.front.issue.reservations.map Token.id, [c.front.issue.credits 0],
    c.front.fetch.tags.entries.flatMap fun p => [p.token.id, p.remaining.toNat]]

theorem sample_cancel_exact : ∃ c c' : Core,
    sampleView c = [[1, 2], [2], [3, 15]] ∧ sampleView c' = [[2], [1], [3, 15]] ∧
      c'.places = c.places.map (List.filter sampleRange.spares) ∧ c'.Settled ∧
      Undisturbed sampleRange c c' ∧
      ∀ later, Relation.ReflTransGen Step c' later → later.Accounted := by
  have hseen : sampleCore.toOption.map (fun c =>
      (sampleView c, (c.cancel sampleRange).toOption.map sampleView)) =
      some ([[1, 2], [2], [3, 15]], some [[2], [1], [3, 15]]) := by
    decide +kernel
  obtain ⟨c, hcore, hvalue⟩ := Option.map_eq_some_iff.mp hseen
  obtain ⟨hbefore, hafter⟩ := Prod.mk.inj hvalue
  obtain ⟨c', hc', hkept⟩ := Option.map_eq_some_iff.mp hafter
  exact ⟨c, c', hbefore, hkept,
    Reachable.cancel_exact (sampleCore_reachable hcore) (toOption_eq_some.mp hc')⟩

end Core

end VortexSim.Timing
