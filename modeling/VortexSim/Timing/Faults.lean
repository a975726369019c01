import VortexSim.Lib.Session
import VortexSim.Timing.Aliases
import VortexSim.Timing.Balance

/-!
# Errors of an edge

An edge can fail because of its inputs: a response nobody waits for, an illegal word, feedback that
the scheduler refuses.  Other checks compare a ledger, a counter or a copy of a token with the
pipeline.  In a reachable state these never fail.
-/

namespace VortexSim.Timing

open Checked Elastic

/-- The errors of the checks that compare two parts of the core. -/
def accountingErrors : List Error :=
  [.text "writeback without reserved destination", .text "writeback without reserved special state",
    .text "FU release without old in-flight credit",
    .text "unbalanced FU 0 credits",
    .text "unbalanced FU 1 credits",
    .text "unbalanced FU 2 credits",
    .text "unbalanced FU 3 credits",
    .text "packed input changed before final handshake",
    .text "operand input changed before final acceptance",
    .text "IBuffer pop without scheduled instruction",
    .text "commit notification without hardware pending issue",
    .text "unknown or stale response identity"]

/-- A computation that raises no accounting error. -/
def Accountable {α : Type} (x : Except Error α) : Prop :=
  Ends x (fun _ => True) fun err => err ∉ accountingErrors

/-! ## Pools -/

/-- A response that belongs to an entry is not unknown. -/
theorem WaitPool.evaluate_accountable {w : WaitPool kind} (input : Signal) (downstream : Bool)
    (hknown : ∀ r ∈ response, ∃ t ∈ w.tokens, t.identity = r.identity) :
    Accountable (w.evaluate input response downstream) := by
  refine .refuse (fun _ => by decide) fun _ => ?_
  refine .bind (Q := fun _ => True) ?_ fun _ _ => trivial
  cases response with
  | none => exact trivial
  | some r =>
    obtain ⟨t, ht, hsame⟩ := hknown r rfl
    obtain ⟨p, hp, rfl⟩ := List.mem_map.mp ht
    obtain ⟨e, hfind⟩ : ∃ e, w.lookup r = some e :=
      Option.isSome_iff_exists.mp (List.find?_isSome.mpr ⟨p, hp, decide_eq_true hsame⟩)
    unfold respond
    dsimp only
    rw [hfind]
    exact .refuse (fun _ => by decide) fun _ => trivial

theorem Fetch.evaluate_accountable {f : Fetch} (hf : f.Tagged) (input : Signal)
    (response : Option Response) (requestReady decodeReady : Bool) :
    Accountable (f.evaluate input response requestReady decodeReady) := by
  refine .refuse (fun _ => by decide) fun hcalled => ?_
  have hknown : ∀ r ∈ response, ∃ t ∈ f.tags.tokens, t.identity = r.identity := by
    intro r hr
    refine exists_of_count (l := f.issued) (by rw [hf r.identity]; omega) ?_
    exact exists_called hcalled hr
  refine .bind (WaitPool.evaluate_accountable _ _ hknown) fun probe _ => ?_
  exact .bind (WaitPool.evaluate_accountable _ _ hknown) fun _ _ => trivial

/-! ## Units -/

theorem ALU.evaluate_accountable (a : ALU) (input : Signal) (downstream : Bool) :
    Accountable (a.evaluate input downstream) :=
  Ends.refuse (fun _ => by decide) fun _ => trivial

theorem SFU.evaluate_accountable (s : SFU) (input : Signal) (downstream controlAllowed : Bool) :
    Accountable (s.evaluate input downstream controlAllowed) :=
  Ends.refuse (fun _ => by decide) fun _ => trivial

theorem LSU.evaluate_accountable {l : LSU} (hl : l.Tagged) (input : Signal)
    (response : Option Response) (requestReady downstream : Bool) :
    Accountable (l.evaluate input response requestReady downstream) := by
  refine .refuse (fun _ => by decide) fun _ => .refuse (fun _ => by decide) fun hcalled => ?_
  have hknown : ∀ r ∈ response, ∃ t ∈ l.tags.tokens, t.identity = r.identity := by
    intro r hr
    refine exists_of_count (l := l.sent) (by rw [hl r.identity]; omega) ?_
    exact exists_called hcalled hr
  refine .bind (WaitPool.evaluate_accountable _ _ hknown) fun probe _ => ?_
  exact .bind (WaitPool.evaluate_accountable _ _ hknown) fun _ _ => trivial

/-- The float unit fails on its input only: what it has under way is accepted by its tags. -/
theorem STDFPU.evaluate_ends {f : STDFPU} (hf : f.Tagged) (hcovered : f.Covered) (input : Signal)
    (downstream : Bool) : Ends (f.evaluate input downstream) (fun _ => True) fun err =>
      err ∈ [.text "invalid STD route", .text "invalid request lane mask"] := by
  obtain ⟨output, hrespond⟩ := hcovered.respond_ok hf
  have htags (input : Signal) : Ends (f.tags.evaluate input (f.output.map responseFor) downstream)
      (fun _ => True) fun err =>
        err ∈ [.text "invalid STD route", .text "invalid request lane mask"] := by
    refine .refuse (fun _ => by decide) fun _ => ?_
    exact .bind (.of_eq (Q := fun _ => True) hrespond trivial) fun _ _ => trivial
  refine .refuse (fun _ => by decide) fun _ => .bind (htags input) fun probe _ => ?_
  exact .bind (htags _) fun _ _ => trivial

theorem STDFPU.evaluate_accountable {f : STDFPU} (hf : f.Tagged) (hcovered : f.Covered)
    (input : Signal) (downstream : Bool) : Accountable (f.evaluate input downstream) := by
  have hends := evaluate_ends hf hcovered input downstream
  unfold Accountable
  cases hresult : f.evaluate input downstream with
  | ok result => exact trivial
  | error err =>
    rw [hresult] at hends
    exact (by decide : ∀ err ∈ [Error.text "invalid STD route", .text "invalid request lane mask"],
      err ∉ accountingErrors) err hends

/-! ## Front end -/

theorem Sequencer.evaluate_accountable {s : Sequencer} (hs : s.Kept queue) (downstream : Bool) :
    Accountable (s.evaluate queue.head? downstream) := by
  refine .refuse (fun _ => by decide) fun _ => .check ?_ trivial
  rintro ⟨hactive, hchanged⟩
  exact hchanged (hs hactive)

theorem decodeSignal_accountable (s : Signal) : Accountable (Frontend.decodeSignal s) := by
  cases s with
  | none => exact trivial
  | some t =>
    refine .bind (Q := fun _ => True) ?_ fun _ _ => trivial
    refine .bind (Q := fun _ => True) ?_ fun d _ => ?_
    · unfold decode
      split
      · simp [Ends, accountingErrors]
      · exact trivial
      · simp [Ends, accountingErrors]
    · exact .refuse (fun _ => by decide) fun _ => .refuse (fun _ => by decide) fun _ => trivial

namespace Scoreboard

variable {s : Scoreboard} {writeback : Signal}

/-- A writeback that answers its reservation finds its bits. -/
theorem Sound.release_accountable (hs : s.Sound) (hans : s.Answers writeback) :
    Accountable (s.release writeback) := by
  unfold release
  cases hlast : writeback.filter fun t => t.last with
  | none => exact trivial
  | some t =>
    obtain ⟨ht, htlast⟩ := Option.filter_eq_some_iff.mp hlast
    obtain ⟨old, hfind, hstem⟩ := hans t ht htlast
    have hold := List.mem_of_find?_eq_some hfind
    obtain ⟨hwarp, hbits, hspecial⟩ := Token.reserves_of_stem hstem
    refine .check ?_ (.check ?_ trivial)
    · rintro ⟨hw, hfree⟩
      have hbit : (s.busy t.warp).getLsbD t.destination.val = true := by
        refine (hs.busy.mem_iff t.warp t.destination.val).mpr ⟨old, hold, hwarp, ?_⟩
        rw [hbits]
        exact getLsbD_reserved.mpr ⟨hw, rfl⟩
      refine not_and_eq_zero hbit ?_ hfree
      rw [getLsbD_registerBit, decide_eq_true rfl]
    · refine not_not.mpr (BitVec.eq_of_getLsbD_eq fun i _ => ?_)
      rw [BitVec.getLsbD_and]
      cases hflag : t.writeSpecial.getLsbD i with
      | false => rw [Bool.and_false]
      | true =>
        have hbit : (s.special t.warp).getLsbD i = true :=
          (hs.special.mem_iff t.warp i).mpr ⟨old, hold, hwarp, by rw [hspecial, hflag]⟩
        rw [hbit, Bool.and_true]

theorem evaluate_accountable (hs : s.Sound) (hans : s.Answers writeback) (inputs : Fin 4 → Signal)
    (downstream : Bool) (enabled : Bool) (hreleases : ∀ k, releases k = true → s.credits k ≠ 0) :
    Accountable (s.evaluate inputs writeback downstream releases enabled) := by
  refine .bind (Q := fun _ => True) (.each fun _ w _ => ?_) fun _ _ => ?_
  · unfold checkInput
    cases inputs w with
    | none => exact trivial
    | some t =>
      exact .refuse (fun _ => by decide) fun _ => .reject (fun _ => by decide) fun _ => trivial
  refine .bind (Q := fun _ => True) ?_ fun _ _ => ?_
  · cases writeback with
    | none => exact trivial
    | some t => exact .reject (fun _ => by decide) fun _ => trivial
  refine .bind (hs.release_accountable hans).result fun s₁ hrelease => ?_
  refine .bind (Q := fun _ => True) (.each fun _ k _ => ?_) fun _ _ => trivial
  refine .check (fun hbad => hreleases k hbad.1 hbad.2) (.reject (fun hover => ?_) fun _ => trivial)
  exact absurd (hs.settled_bounded hrelease.1 k) (Nat.not_le.mpr hover)

end Scoreboard

namespace Scheduler

variable {s : Scheduler}

theorem checkKind_accountable (state : SchedulerState) (e : SchedulerFeedback) :
    Accountable (checkKind state e) := by
  unfold checkKind
  split
  · refine .refuse (fun _ => by decide) fun _ => .each fun _ w _ => ?_
    exact .refuse (fun _ => by decide) fun _ => .reject (fun _ => by decide) fun _ => trivial
  · exact trivial
  · exact trivial
  · exact .reject (fun _ => by decide) fun _ => trivial
  · exact .reject (fun _ => by decide) fun _ => trivial
  · exact .reject (fun _ => by decide) fun _ => trivial

theorem validateFeedback_accountable (state : SchedulerState) (events : List SchedulerFeedback) :
    Accountable (validateFeedback state events) := by
  refine .bind (.foldEach (fun _ _ => True) (fun _ e earlier _ _ => ?_) trivial) fun _ _ => trivial
  refine .refuse (fun _ => by decide) fun _ => .refuse (fun _ => by decide) fun _ => ?_
  refine .bind (Q := fun _ => True) ?_ fun _ _ => trivial
  refine .refuse (fun _ => by decide) fun _ => .refuse (fun _ => by decide) fun _ => ?_
  refine .refuse (fun _ => by decide) fun _ => .bind (checkKind_accountable state e) fun _ _ => ?_
  exact .reject (fun _ => by decide) fun _ => trivial

theorem evaluate_accountable (scheduleReady : Bool) (fetchAccepted : Signal) (decode : Signal)
    (feedback : List SchedulerFeedback) (hpops : ∀ w, pops w = true → s.state.ibufferCount w ≠ 0) :
    Accountable (s.evaluate scheduleReady fetchAccepted pops decode feedback) := by
  refine .bind (validateFeedback_accountable s.state feedback) fun _ _ => ?_
  refine .refuse (fun _ => by decide) fun _ => ?_
  refine .bind (Q := fun _ => True) (.each fun _ w _ => ?_) fun _ _ => trivial
  exact .reject (fun hbad => absurd hbad.2.1 (hpops w hbad.1)) fun _ => trivial

end Scheduler

/-! ## The core -/

namespace Core

/-- The states of a core between operations.  An operation that fails changes nothing. -/
inductive Reachable : Core → Prop where
  /-- A core without a scheduler. -/
  | new : Reachable {}
  | newScheduled {c : Core} {warps : Fin 4 → WarpContext} :
      Core.newScheduled warps = .ok c → Reachable c
  | edge {c c' : Core} {input : CoreInputs} {r : CoreReport} : Reachable c →
      c.Fresh input.instruction → c.evaluate input = .ok (r, c') → Reachable c'
  | dispatchWarp {c c' : Core} {warp : Fin 4} {pc : Word} {mask : LaneMask} : Reachable c →
      c.dispatchWarp warp pc mask = .ok c' → Reachable c'
  | flush {c : Core} : Reachable c → Reachable c.flush
  | cancel {c c' : Core} {x : Cancellation} : Reachable c → c.cancel x = .ok c' → Reachable c'
  | restart {c c' : Core} {warp : Fin 4} {context : WarpContext} {after : Nat} : Reachable c →
      c.restart warp context after = .ok c' → Reachable c'
  | clockIdleCounters {c c' : Core} : Reachable c → c.clockIdleCounters = .ok c' → Reachable c'
  | continueCounters {c previous c' : Core} : Reachable c →
      c.continueCounters previous = .ok c' → Reachable c'

/-- The copies of tokens agree with their originals. -/
structure Aliased (c : Core) : Prop where
  unlocked : c.front.Unlocked
  kept : ∀ w, (c.front.seq w).Kept (c.front.ibuf w).queue
  collecting : c.front.Collecting
  fetches : c.front.fetch.Tagged
  loads : c.lsu.Tagged
  fence : c.lsu.Fenced
  floats : c.fpu.Tagged
  covered : c.fpu.Covered

/-- Ledgers, counters and copies agree with the pipeline. -/
structure Consistent (c : Core) : Prop where
  sound : c.Sound
  counted : c.front.Counted
  balanced : c.Balanced
  aliased : c.Aliased

variable {c : Core} {input : CoreInputs}

theorem Edge.aliased (e : Edge c input r c') (ha : c.Aliased) : c'.Aliased := by
  obtain ⟨ef⟩ := Frontend.evaluate_edge e.front
  refine ⟨ef.unlocked ha.unlocked, fun w => ?_, ef.collecting,
    Fetch.evaluate_tagged ha.fetches ef.fetch,
    LSU.evaluate_tagged ha.loads e.lsu, LSU.evaluate_fenced ha.fence e.lsu,
    STDFPU.evaluate_tagged ha.floats e.fpu, STDFPU.evaluate_covered ha.floats ha.covered e.fpu⟩
  rw [ef.ibuf]
  exact Sequencer.evaluate_kept _ (ef.seq w)

theorem Edge.consistent (e : Edge c input r c') (h : c.Consistent)
    (hfresh : c.Fresh input.instruction) : c'.Consistent := by
  obtain ⟨ef⟩ := Frontend.evaluate_edge e.front
  exact ⟨e.sound h.sound hfresh, ef.counted h.counted, e.balanced h.balanced h.sound hfresh,
    e.aliased h.aliased⟩

theorem Consistent.cancel (h : c.Consistent) (hcancel : c.cancel x = .ok c') : c'.Consistent := by
  refine ⟨h.sound.cancel x hcancel, ?_, h.balanced.cancel h.sound hcancel, ?_⟩
  all_goals
    unfold Core.cancel at hcancel
    simp only [ok_iff] at hcancel
    obtain ⟨-, -, rfl⟩ := hcancel
  · exact h.counted.cancel h.sound.linked h.sound.unique
  · exact ⟨h.aliased.unlocked.cancel x, fun w => (h.aliased.kept w).cancel (h.sound.linked w) x,
      h.aliased.collecting.cancel x, h.aliased.fetches.cancel x, h.aliased.loads.cancel x,
      h.aliased.fence.cancel x, h.aliased.floats.cancel x, h.aliased.covered.cancel x⟩

/-- A core with nothing in its pipeline and its counters at zero. -/
theorem consistent_empty {account : Accounting} (haccount : account.waiting = [])
    (hcounts : ∀ s ∈ scheduler, s.state.Counts fun _ => 0) :
    Consistent { account, front := { scheduler } } := by
  have hnone : ∀ {P : Token → Prop} (t : Token), t ∈ ([] : List Token) → P t :=
    fun t ht => absurd ht List.not_mem_nil
  refine ⟨sound_empty account scheduler, ⟨hcounts, fun _ => Nat.zero_le 1, fun _ => hnone⟩,
    balanced_empty account haccount scheduler,
    ⟨⟨⟨fun _ => hnone, ?_, fun _ => hnone⟩, hnone, fun _ => rfl⟩,
      ?_, ?_, fun _ => rfl, fun _ => rfl, rfl, fun k => ?_, ⟨List.nodup_nil, ?_, ?_⟩⟩⟩
  · intro w t ht
    cases ht
  · intro w hactive
    cases hactive
  · exact fun hfetched => absurd rfl hfetched
  · rfl
  · intro e he
    cases he
  · intro e he
    cases he

/-- The scheduler may go on to larger numbers with its counters unchanged. -/
theorem Consistent.setScheduler (h : c.Consistent) (hs : c.front.scheduler = some s)
    (hnext : s.nextID ≤ s'.nextID) (hcounts : s'.state.Counts c.front.occupancy) :
    Consistent { c with front.scheduler := some s' } := by
  refine ⟨h.sound.setScheduler hs hnext, ⟨fun x hx => ?_, h.counted.single, h.counted.own⟩,
    h.balanced.setScheduler _, ⟨⟨h.aliased.unlocked.lanes.ibuf, h.aliased.unlocked.lanes.active,
      h.aliased.unlocked.lanes.staging⟩, h.aliased.unlocked.reserved, h.aliased.unlocked.open_⟩,
    h.aliased.kept, h.aliased.collecting, h.aliased.fetches, h.aliased.loads, h.aliased.fence,
    h.aliased.floats, h.aliased.covered⟩
  obtain rfl := Option.some.inj hx
  exact hcounts

theorem Consistent.setAccount (h : c.Consistent) {account : Accounting}
    (haccount : account.waiting = c.account.waiting) : Consistent { c with account } :=
  ⟨h.sound.setAccount account, h.counted, h.balanced.setAccount haccount,
    h.aliased.unlocked, h.aliased.kept, h.aliased.collecting, h.aliased.fetches, h.aliased.loads,
    h.aliased.fence, h.aliased.floats, h.aliased.covered⟩

theorem Consistent.dispatchWarp (h : c.Consistent)
    (hlaunch : c.dispatchWarp warp pc mask = .ok c') : c'.Consistent := by
  unfold Core.dispatchWarp at hlaunch
  cases hs : c.front.scheduler with
  | none =>
    rw [hs] at hlaunch
    cases hlaunch
  | some s =>
    rw [hs] at hlaunch
    simp only [ok_iff] at hlaunch
    obtain ⟨-, -, rfl⟩ := hlaunch
    exact h.setScheduler hs (Nat.le_refl s.nextID) (h.counted.counts s hs)

theorem Consistent.restart (h : c.Consistent) (hrestart : c.restart warp context after = .ok c') :
    c'.Consistent := by
  unfold Core.restart at hrestart
  cases hs : c.front.scheduler with
  | none =>
    rw [hs] at hrestart
    cases hrestart
  | some s =>
    rw [hs] at hrestart
    simp only [ok_iff] at hrestart
    obtain ⟨-, -, -, -, rfl⟩ := hrestart
    have hcounts := h.counted.counts s hs
    refine h.setScheduler hs ?_ ⟨hcounts.count, hcounts.full, hcounts.all⟩
    dsimp only
    split <;> omega

theorem Consistent.clockIdleCounters (h : c.Consistent) (hclock : c.clockIdleCounters = .ok c') :
    c'.Consistent := by
  unfold Core.clockIdleCounters at hclock
  simp only [ok_iff] at hclock
  obtain ⟨hidle, account, haccount, rfl⟩ := hclock
  simp only [not_or, Bool.not_eq_true, Bool.not_eq_false, Option.isSome_eq_false_iff,
    Option.isNone_iff_eq_none, List.isEmpty_iff] at hidle
  refine h.setAccount ?_
  obtain ⟨-, rfl⟩ := haccount
  unfold Accounting.waiting
  rw [hidle.1, hidle.2.1]
  rfl

/-- The invariant holds in every reachable state. -/
theorem Reachable.consistent (h : c.Reachable) : c.Consistent := by
  induction h with
  | new => exact consistent_empty rfl fun s hs => by cases hs
  | newScheduled hnew =>
    unfold Core.newScheduled at hnew
    simp only [ok_iff] at hnew
    obtain ⟨s, hs, rfl⟩ := hnew
    refine consistent_empty rfl fun x hx => ?_
    obtain rfl := Option.some.inj hx
    unfold Scheduler.new at hs
    simp only [ok_iff] at hs
    obtain ⟨-, rfl⟩ := hs
    exact ⟨fun _ => rfl, fun _ => rfl, rfl⟩
  | edge _ hfresh hedge ih =>
    obtain ⟨e⟩ := evaluate_edge hedge
    exact e.consistent ih hfresh
  | dispatchWarp _ hlaunch ih => exact ih.dispatchWarp hlaunch
  | flush _ _ =>
    refine consistent_empty rfl fun s hs => ?_
    obtain ⟨old, -, rfl⟩ := Option.map_eq_some_iff.mp hs
    exact ⟨fun _ => rfl, fun _ => rfl, rfl⟩
  | cancel _ hcancel ih => exact ih.cancel hcancel
  | restart _ hrestart ih => exact ih.restart hrestart
  | clockIdleCounters _ hclock ih => exact ih.clockIdleCounters hclock
  | continueCounters _ hcontinue ih =>
    unfold Core.continueCounters at hcontinue
    simp only [ok_iff] at hcontinue
    obtain ⟨-, -, rfl⟩ := hcontinue
    exact ih.setAccount rfl

theorem Reachable.sound (h : c.Reachable) : c.Sound := h.consistent.sound

/-! ## An edge of a consistent core -/

/-- A unit takes a micro operation only from a class that holds a credit. -/
theorem Sound.credit_of_release (h : c.Sound)
    (hrelease : (c.front.dispatching downstream).1.releases k = true) :
    c.front.issue.credits k ≠ 0 := by
  obtain ⟨hledger, hcount⟩ := h.credited k
  have hcompleted : ((c.front.dispatch.outputs k).isSome && downstream k) = true := hrelease
  obtain ⟨t, ht⟩ := Option.isSome_iff_exists.mp (Bool.and_eq_true_iff.mp hcompleted).1
  have hflight : t ∈ c.front.flight k := List.mem_append_left _ (List.mem_of_mem_head? ht)
  have hlength := congrArg List.length hledger
  rw [List.length_map, List.length_map] at hlength
  have hpos := List.length_pos_of_mem hflight
  omega

/-- A popped instruction is counted. -/
theorem pop_counted {f : Frontend} (hf : f.Counted) (hs : s ∈ f.scheduler)
    (hpop : (f.insert decoded pops w).1.completed = true) : s.state.ibufferCount w ≠ 0 := by
  have hcompleted : ((f.ibufOut w).isSome && pops w) = true := hpop
  obtain ⟨t, ht⟩ := Option.isSome_iff_exists.mp (Bool.and_eq_true_iff.mp hcompleted).1
  have hpos := List.length_pos_of_mem (List.mem_of_mem_head? ht)
  rw [(hf.counts s hs).count w, Frontend.occupancy]
  omega

theorem Consistent.front_accountable (h : c.Consistent) {input : FrontendInputs}
    (hwriteback : input.writeback = (c.commit.evaluate c.results).1.writeback) :
    Accountable (c.front.evaluate input) := by
  refine .refuse (fun _ => by decide) fun _ => .refuse (fun _ => by decide) fun _ => ?_
  refine .bind (Q := fun _ => True) (.check ?_ trivial) fun opcR _ => ?_
  · rintro ⟨hfetched, hchanged⟩
    exact hchanged (h.aliased.collecting hfetched)
  refine .bind (Scoreboard.evaluate_accountable h.sound.scoreboard (hwriteback ▸ h.sound.answers)
    _ _ _ fun k hk => h.sound.credit_of_release hk) fun issueR _ => ?_
  refine .bind (.collect fun w => Sequencer.evaluate_accountable (h.aliased.kept w) _)
    fun seq _ => ?_
  refine .bind (Fetch.evaluate_accountable h.aliased.fetches _ _ _ _) fun fetchR _ => ?_
  refine .bind (decodeSignal_accountable _) fun decoded _ => ?_
  refine .bind (Q := fun _ => True) ?_ fun _ _ => trivial
  cases hs : c.front.scheduler with
  | none => exact trivial
  | some s =>
    refine .bind (Scheduler.evaluate_accountable _ _ _ _ fun w hpop => ?_) fun _ _ => trivial
    exact pop_counted h.counted hs hpop

/-- An edge of a consistent core raises no accounting error. -/
theorem Consistent.evaluate_accountable (h : c.Consistent) (input : CoreInputs) :
    Accountable (c.evaluate input) := by
  refine .bind (ALU.evaluate_accountable _ _ _) fun alu _ => ?_
  refine .bind (LSU.evaluate_accountable h.aliased.loads _ _ _ _) fun lsu _ => ?_
  refine .bind (SFU.evaluate_accountable _ _ _ _) fun sfu _ => ?_
  refine .bind (STDFPU.evaluate_accountable h.aliased.floats h.aliased.covered _ _) fun fpu _ => ?_
  refine .bind (h.front_accountable rfl) fun front _ => ?_
  refine .bind (Q := fun _ => True) (.check ?_ trivial) fun _ _ => trivial
  rintro ⟨t, ht, hmissing⟩
  obtain ⟨old, hfind, -⟩ := h.balanced.entry h.sound ht
  have hsame := List.find?_some hfind
  exact hmissing old (List.mem_of_find?_eq_some hfind) (of_decide_eq_true hsame)

/-! ## A run -/

/-- The state after a list of edges. -/
def drive (c : Core) (inputs : List CoreInputs) : Except Error Core :=
  Session.run (fun c input => do
    let (_, c) ← c.evaluate input
    pure c) c inputs

theorem Reachable.drive {c : Core} (h : c.Reachable)
    (hnone : ∀ input ∈ inputs, input.instruction = none) (hdrive : c.drive inputs = .ok c') :
    c'.Reachable := by
  induction inputs generalizing c with
  | nil =>
    cases hdrive
    exact h
  | cons input rest ih =>
    obtain ⟨next, hstep, hrest⟩ := Session.run_cons_eq_ok.mp hdrive
    simp only [ok_iff, Prod.exists] at hstep
    obtain ⟨r, _, hedge, rfl⟩ := hstep
    have hfresh : Core.Fresh c input.instruction := fun _ t ht => by
      rw [hnone input List.mem_cons_self] at ht
      cases ht
    exact ih (.edge h hfresh hedge) (fun i hi => hnone i (List.mem_cons_of_mem input hi)) hrest

/-- Two warps that start at different addresses. -/
def sampleWarps : Fin 4 → WarpContext
  | 0 => { active := true, pc := 0x100#32, mask := 0xf#8 }
  | 1 => { active := true, pc := 0x200#32, mask := 0xf#8 }
  | _ => {}

def sampleInput (fetchResponse : Option Response) : CoreInputs where
  fetchResponse
  fetchReady := true
  memoryReady := true
  controlAllowed := true

/-- Both warps fetch `addi x1, x0, 1` and issue it. -/
def sampleInputs : List CoreInputs :=
  let fetched (id : Nat) (warp : Fin 4) : Option Response :=
    some { id, epoch := 0, warp, uop := 0, mask := 0xf#8, word := 0x00100093#32 }
  [none, none, none, none, fetched 1 0, fetched 2 1, none, none].map sampleInput

/-- The core after these edges. -/
def sampleCore : Except Error Core := do
  let c ← Core.newScheduled sampleWarps
  c.drive sampleInputs

theorem sampleCore_reachable {c : Core} (h : sampleCore.toOption = some c) : c.Reachable := by
  obtain ⟨start, hnew, hdrive⟩ := bind_eq_ok.mp (toOption_eq_some.mp h)
  refine (Reachable.newScheduled hnew).drive (fun input hinput => ?_) hdrive
  obtain ⟨_, -, rfl⟩ := List.mem_map.mp hinput
  rfl

/-! ## Every reachable core -/

/-- What is live has a claim. -/
theorem Sound.live_le_claims (h : c.Sound) (m : Fin 4 × Nat × Nat) (u : Nat) :
    c.live.countP (Token.isUop m u) ≤ c.front.claims m u := by
  have hledger := countP_of_stems h.ledger (p := Token.isUop m u) fun _ => rfl
  unfold Frontend.claims
  omega

/-- No two micro operations between issue and the end of their writeback have one identity, and
all of them are older than what the scheduler names next. -/
theorem Reachable.identities_apart (h : c.Reachable) : (c.live.map Token.identity).Nodup ∧
    ∀ s ∈ c.front.scheduler, ∀ t ∈ c.live, t.id < s.nextID := by
  have hclaims := h.sound.live_le_claims
  have hown : ∀ t : Token, t.isUop t.instruction t.uop = true :=
    fun t => Bool.and_eq_true_iff.mpr ⟨decide_eq_true rfl, decide_eq_true rfl⟩
  constructor
  · refine List.nodup_iff_count_le_one.mpr fun k => ?_
    have hone := h.sound.unique (k.1, k.2.1, k.2.2.1) k.2.2.2
    refine le_trans ?_ ((hclaims _ _).trans hone)
    rw [List.count, List.countP_map]
    refine List.countP_mono_left fun t _ hk => ?_
    obtain rfl : t.identity = k := eq_of_beq hk
    exact hown t
  · intro s hs t ht
    by_contra hlate
    have hnone := h.sound.fresh s hs t.instruction t.uop (Nat.not_lt.mp hlate)
    have hpos := List.countP_pos_iff.mpr ⟨t, ht, hown t⟩
    have hclaim := hclaims t.instruction t.uop
    omega

theorem sampleCore_runs : ∃ (c : Core) (s : Scheduler), c.Reachable ∧ s ∈ c.front.scheduler ∧
    c.live.length = 2 := by
  have hseen : sampleCore.toOption.map (fun c => (c.front.scheduler.isSome, c.live.length)) =
      some (true, 2) := by decide +kernel
  obtain ⟨c, hcore, hvalue⟩ := Option.map_eq_some_iff.mp hseen
  obtain ⟨s, hs⟩ := Option.isSome_iff_exists.mp (congrArg Prod.fst hvalue)
  exact ⟨c, s, sampleCore_reachable hcore, hs, congrArg Prod.snd hvalue⟩

theorem sample_identities_apart : ∃ (c : Core) (s : Scheduler), s ∈ c.front.scheduler ∧
    c.live.length = 2 ∧ (c.live.map Token.identity).Nodup ∧ ∀ t ∈ c.live, t.id < s.nextID := by
  obtain ⟨c, s, hc, hs, htwo⟩ := sampleCore_runs
  obtain ⟨hapart, hold⟩ := Reachable.identities_apart hc
  exact ⟨c, s, hs, htwo, hapart, hold s hs⟩

/-- The three bits of an instruction counter are enough: it is the number of instructions of the
warp from their schedule to their pop, of which one at most waits for its fetch. -/
theorem Reachable.counters_fit (h : c.Reachable) {s : Scheduler} (hs : s ∈ c.front.scheduler)
    (w : Fin 4) : s.state.ibufferCount w = c.front.occupancy w ∧ c.front.occupancy w < 8 ∧
      c.front.fetch.tags.tokens.countP (Token.onWarp w) ≤ 1 := by
  have hcounted := h.consistent.counted
  exact ⟨(hcounted.counts s hs).count w, c.front.occupancy_lt hcounted.single w, hcounted.single w⟩

theorem sample_counters_fit : ∃ (c : Core) (s : Scheduler), s ∈ c.front.scheduler ∧
    ∀ w, s.state.ibufferCount w = c.front.occupancy w ∧ c.front.occupancy w < 8 ∧
      c.front.fetch.tags.tokens.countP (Token.onWarp w) ≤ 1 := by
  obtain ⟨c, s, hc, hs, -⟩ := sampleCore_runs
  exact ⟨c, s, hs, Reachable.counters_fit hc hs⟩

end Core

end VortexSim.Timing
