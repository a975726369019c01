import VortexSim.Timing.Recovery

/-!
# Occupancy of the instruction buffers

For each warp the scheduler counts the instructions between their schedule and their pop from the
instruction buffer.  The count is three bits wide; at most seven instructions fit into the schedule
buffer, the pool of fetches and the instruction buffer, so that it never wraps.
-/

namespace VortexSim.Timing

open Checked Elastic

/-- The token is of the warp. -/
def Token.onWarp (w : Fin 4) (t : Token) : Bool := decide (t.warp = w)

/-! ## One fetch for each warp -/

namespace WaitPool

/-- A warp waits for one fetch at most. -/
def Single (w : WaitPool .fetch) : Prop := ∀ v, w.tokens.countP (Token.onWarp v) ≤ 1

theorem ready_fetch {w : WaitPool .fetch} (h : w.ready (some t) = true) :
    w.tokens.countP (Token.onWarp t.warp) = 0 := by
  obtain ⟨-, hall⟩ := Bool.and_eq_true_iff.mp h
  refine List.countP_eq_zero.mpr fun x hx hwarp => ?_
  obtain ⟨p, hp, rfl⟩ := List.mem_map.mp hx
  have hother := List.all_eq_true.mp hall p hp
  have hsame : p.token.warp = t.warp := of_decide_eq_true hwarp
  simp [hsame] at hother

theorem Single.step {w w' : WaitPool .fetch} (hw : w.Single)
    (hready : inputReady = true → w.ready input = true)
    (hflow : ∀ v, w'.tokens.countP (Token.onWarp v) ≤
      w.tokens.countP (Token.onWarp v) + (crossing input inputReady).countP (Token.onWarp v)) :
    w'.Single := by
  intro v
  have hv := hflow v
  have hold := hw v
  cases hgate : inputReady with
  | false =>
    rw [hgate, crossing_false, List.countP_nil] at hv
    omega
  | true =>
    cases input with
    | none =>
      rw [crossing_none, List.countP_nil] at hv
      omega
    | some t =>
      have hfree := ready_fetch (hready hgate)
      rw [hgate, crossing_true, Option.toList_some, List.countP_singleton] at hv
      by_cases hwarp : t.warp = v
      · rw [hwarp] at hfree
        split at hv <;> omega
      · have hno : Token.onWarp v t = false := decide_eq_false hwarp
        rw [hno, if_neg Bool.false_ne_true] at hv
        omega

end WaitPool

theorem Fetch.evaluate_ready {f : Fetch}
    (h : f.evaluate input response requestReady decodeReady = .ok (r, f'))
    (hready : r.transfer.inputReady = true) : f.tags.ready input = true := by
  unfold evaluate at h
  simp only [ok_iff, Prod.mk.injEq, Prod.exists] at h
  obtain ⟨-, probe, _, hprobe, tagsT, tags, htags, rfl, rfl⟩ := h
  rw [← (WaitPool.evaluate_ports hprobe).1]
  exact (Bool.and_eq_true_iff.mp hready).1

/-! ## Instructions before their pop -/

namespace Frontend

/-- The instructions of a warp from their schedule to their pop. -/
def occupancy (f : Frontend) (w : Fin 4) : Nat :=
  f.schedule.queue.countP (Token.onWarp w) + f.fetch.tags.tokens.countP (Token.onWarp w) +
    (f.ibuf w).queue.length

theorem occupancy_lt (f : Frontend) (hs : f.fetch.tags.Single) (w : Fin 4) : f.occupancy w < 8 := by
  have hschedule := (List.countP_le_length (p := Token.onWarp w)).trans f.schedule.fits
  have hibuf := (f.ibuf w).fits
  have htags := hs w
  unfold occupancy
  omega

variable {f f' : Frontend} {input : FrontendInputs} {r : FrontendResult}

/-- The pop of an instruction buffer. -/
def Edge.pop (e : Edge f input r f') (w : Fin 4) : Nat :=
  (crossing (f.ibufOut w) (e.seqT w).inputReady).length

theorem Edge.pop_eq (e : Edge f input r f') (w : Fin 4) :
    e.pop w =
      if (f.insert e.decoded (fun w => (e.seqT w).inputReady) w).1.completed then 1 else 0 := by
  have hcompleted : (f.insert e.decoded (fun w => (e.seqT w).inputReady) w).1.completed =
      ((f.ibufOut w).isSome && (e.seqT w).inputReady) := rfl
  rw [hcompleted, Edge.pop]
  cases f.ibufOut w <;> cases (e.seqT w).inputReady <;> rfl

theorem Edge.occupancy_eq (e : Edge f input r f') (w : Fin 4) :
    f'.occupancy w + e.pop w = f.occupancy w + r.scheduled.toList.countP (Token.onWarp w) := by
  have hfetch := Fetch.evaluate_tokens e.fetch (Token.onWarp w) fun _ _ => rfl
  have hdecoded := e.decoded_countP w (p := Token.onWarp w)
    (fun a b h => congrArg (fun m : Fin 4 × Nat × Nat => decide (m.1 = w)) h)
    fun t ht => of_decide_eq_true ht
  have hschedule := f.schedule.evaluate_countP (f.offered input.instruction)
    e.fetchR.transfer.inputReady (Token.onWarp w)
  have hscheduled : r.scheduled.toList = crossing (f.offered input.instruction)
      (f.schedule.ready e.fetchR.transfer.inputReady) := by
    rw [e.scheduled]
    exact toList_gated ..
  have hqueue := congrArg List.length ((f.ibuf w).evaluate_queue
    (e.decoded.filter fun t => t.warp = w) (e.seqT w).inputReady)
  -- only instructions of the warp are inserted
  have hown : (crossing (e.decoded.filter fun t => t.warp = w)
      ((f.ibuf w).ready (e.seqT w).inputReady)).countP (Token.onWarp w) =
      (crossing (e.decoded.filter fun t => t.warp = w)
        ((f.ibuf w).ready (e.seqT w).inputReady)).length :=
    List.countP_eq_length.mpr fun t ht => (Option.filter_eq_some_iff.mp (mem_crossing ht)).2
  rw [List.length_append, List.length_append] at hqueue
  unfold occupancy pop
  rw [e.schedule, e.ibuf, hscheduled]
  unfold insert ibufOut
  dsimp only
  omega

end Frontend

/-! ## The counters -/

namespace SchedulerState

/-- The counters say `n`. -/
structure Counts (s : SchedulerState) (n : Fin 4 → Nat) : Prop where
  count : ∀ w, s.ibufferCount w = n w
  full : ∀ w, s.ibufferFull w = decide (n w = 4)
  all : s.allIBuffersFull = (List.finRange 4).all fun w => decide (n w = 4)

variable {s : SchedulerState} {n : Fin 4 → Nat}

theorem Counts.resolved (h : s.Counts n) (e : SchedulerFeedback) : (s.resolved e).Counts n := by
  unfold SchedulerState.resolved SchedulerState.spawned
  dsimp only
  split <;> exact ⟨h.count, h.full, h.all⟩

theorem Counts.foldl_resolved (h : s.Counts n) (events : List SchedulerFeedback) :
    (events.foldl SchedulerState.resolved s).Counts n := by
  induction events generalizing s with
  | nil => exact h
  | cons e rest ih => exact ih (h.resolved e)

theorem Counts.advanced (h : s.Counts n) (scheduled fetched : Signal) :
    (s.advanced scheduled fetched).Counts n := by
  cases scheduled <;> cases fetched <;> exact ⟨h.count, h.full, h.all⟩

end SchedulerState

theorem SchedulerState.counted_counts {s t : SchedulerState} (h : s.Counts n)
    (ht : t.ibufferCount = s.ibufferCount) (scheduled : Signal) (pops : Fin 4 → Bool)
    (hn : ∀ w, n' w + (if pops w then 1 else 0) = n w + scheduled.toList.countP (Token.onWarp w))
    (hfits : ∀ w, n' w < 8) : (t.counted scheduled pops).Counts n' := by
  have hcount : (t.counted scheduled pops).ibufferCount = n' := by
    funext w
    have hflow := hn w
    have hone : (if scheduled.any (fun t => t.warp = w) then 1 else 0) =
        scheduled.toList.countP (Token.onWarp w) := by
      cases scheduled with
      | none => rfl
      | some t => rw [Option.any_some, Option.toList_some, List.countP_singleton, Token.onWarp]
    have hvalue : (t.counted scheduled pops).ibufferCount w =
        (t.ibufferCount w + (if scheduled.any fun t => t.warp = w then 1 else 0) -
          (if pops w then 1 else 0)) % 8 := rfl
    rw [hvalue, ht, h.count, hone, ← hflow, Nat.add_sub_cancel, Nat.mod_eq_of_lt (hfits w)]
  exact ⟨fun w => congrFun hcount w,
    fun w => congrArg (fun k => decide (k = 4)) (congrFun hcount w),
    by rw [← hcount]; rfl⟩

/-- The counters follow what is scheduled and popped. -/
theorem Scheduler.evaluate_counts {s s' : Scheduler} {decode : Signal}
    (h : s.evaluate scheduleReady fetched pops decode feedback = .ok (t, s'))
    (hs : s.state.Counts n)
    (hn : ∀ w, n' w + (if pops w then 1 else 0) =
      n w + (crossing s.output scheduleReady).countP (Token.onWarp w)) (hfits : ∀ w, n' w < 8) :
    s'.state.Counts n' := by
  unfold Scheduler.evaluate at h
  simp only [ok_iff, Prod.mk.injEq] at h
  obtain ⟨-, -, -, -, rfl⟩ := h
  have hscheduled : (gated (transfer none s.output false scheduleReady).completed s.output).toList =
      crossing s.output scheduleReady := toList_gated ..
  have hbase : ((s.state.launched s.launch).unlocked s.state.decodeUnlock).ibufferCount =
      s.state.ibufferCount := by
    unfold SchedulerState.unlocked SchedulerState.launched
    cases s.launch <;> cases s.state.decodeUnlock <;> dsimp only <;> (try split) <;> rfl
  have hcounted := SchedulerState.counted_counts hs hbase
    (gated (transfer none s.output false scheduleReady).completed s.output) pops
    (fun w => by rw [hscheduled]; exact hn w) hfits
  refine SchedulerState.Counts.advanced (SchedulerState.Counts.foldl_resolved ?_ _) _ _
  exact ⟨hcounted.count, hcounted.full, hcounted.all⟩

namespace Frontend

/-- The counters of the scheduler are the occupancy, a warp waits for one fetch at most, and an
instruction buffer holds the instructions of its warp. -/
structure Counted (f : Frontend) : Prop where
  counts : ∀ s ∈ f.scheduler, s.state.Counts f.occupancy
  single : f.fetch.tags.Single
  own : ∀ w, ∀ t ∈ (f.ibuf w).queue, t.warp = w

variable {f f' : Frontend} {input : FrontendInputs} {r : FrontendResult}

theorem Edge.single (e : Edge f input r f') (hf : f.fetch.tags.Single) : f'.fetch.tags.Single := by
  refine hf.step (Fetch.evaluate_ready e.fetch) fun v => ?_
  have hfetch := Fetch.evaluate_tokens e.fetch (Token.onWarp v) fun _ _ => rfl
  omega

theorem Edge.own (e : Edge f input r f') (hf : ∀ w, ∀ t ∈ (f.ibuf w).queue, t.warp = w) :
    ∀ w, ∀ t ∈ (f'.ibuf w).queue, t.warp = w := by
  intro w t ht
  rw [e.ibuf] at ht
  rcases Buffer.mem_of_mem_evaluate ht with hold | hnew
  · exact hf w t hold
  · exact of_decide_eq_true (Option.filter_eq_some_iff.mp hnew).2

theorem Edge.counted (e : Edge f input r f') (hf : f.Counted) : f'.Counted := by
  have hsingle := e.single hf.single
  refine ⟨fun s' hs' => ?_, hsingle, e.own hf.own⟩
  have hstep := e.scheduler
  cases hscheduler : f.scheduler with
  | none =>
    rw [hscheduler] at hstep
    rw [Core.scheduler_none hstep] at hs'
    cases hs'
  | some s =>
    have hscheduled : r.scheduled.toList =
        crossing s.output (f.schedule.ready e.fetchR.transfer.inputReady) := by
      rw [e.scheduled]
      unfold offered
      rw [hscheduler]
      exact toList_gated ..
    rw [hscheduler] at hstep
    unfold stepScheduler at hstep
    simp only [ok_iff, Prod.exists] at hstep
    obtain ⟨t, s₁, hevaluate, hnext⟩ := hstep
    rw [← hnext] at hs'
    obtain rfl := Option.some.inj hs'
    refine Scheduler.evaluate_counts hevaluate (hf.counts s hscheduler) (fun w => ?_)
      (f'.occupancy_lt hsingle)
    rw [← hscheduled, ← e.pop_eq w]
    exact e.occupancy_eq w

/-! ## Cancellation -/

/-- The instructions between schedule and pop from the buffer of a warp. -/
def early (f : Frontend) (w : Fin 4) : List Token :=
  f.schedule.queue ++ f.fetch.tags.tokens ++ (f.ibuf w).queue

/-- An instruction is in one place before its pop. -/
theorem early_unique (hlinked : f.Linked) (hunique : ∀ m u, f.claims m u ≤ 1)
    (m : Fin 4 × Nat × Nat) : (f.early m.1).countP (Token.isInstruction m) ≤ 1 := by
  unfold early
  rw [List.countP_append, List.countP_append]
  cases hactive : (f.seq m.1).active with
  | none =>
    have h := hunique m 0
    unfold claims Sequencer.waiting at h
    rw [hactive, Option.isSome_none, if_neg Bool.false_ne_true] at h
    omega
  | some a =>
    -- the head of the buffer is the instruction that is being split
    obtain ⟨head, rest, hqueue, hname⟩ := hlinked m.1 a hactive
    have h := hunique m a.uop
    unfold claims Sequencer.waiting at h
    rw [hactive, Option.isSome_some, if_pos rfl, hqueue, List.tail_cons, Option.toList_some,
      List.countP_singleton] at h
    have hhead : Token.fromUop m a.uop a = Token.isInstruction m head := by
      unfold Token.fromUop Token.isInstruction
      rw [hname, decide_eq_true (Nat.le_refl a.uop), Bool.and_true]
    rw [hqueue, List.countP_cons, ← hhead]
    omega

variable {x : Cancellation}

theorem hits_instruction (h : x.hits t = true) : t.warp = x.warp ∧ t.epoch = x.epoch := by
  unfold Cancellation.hits at h
  simp only [Bool.and_eq_true, decide_eq_true_eq] at h
  exact ⟨h.1.1.1, h.1.1.2⟩

/-- Every cancelled instruction is counted once. -/
theorem cancelledIDs_length (hlinked : f.Linked) (hunique : ∀ m u, f.claims m u ≤ 1) :
    (f.cancelledIDs x).length = (f.early x.warp).countP x.hits := by
  have hnodup : (((f.early x.warp).filter x.hits).map Token.id).Nodup := by
    refine List.nodup_iff_count_le_one.mpr fun i => ?_
    refine Nat.le_trans ?_ (early_unique hlinked hunique (x.warp, x.epoch, i))
    rw [List.count_eq_countP, List.countP_map, List.countP_filter]
    refine List.countP_mono_left fun t _ ht => ?_
    obtain ⟨hid, hhits⟩ := Bool.and_eq_true_iff.mp ht
    obtain ⟨hwarp, hepoch⟩ := hits_instruction hhits
    refine decide_eq_true ?_
    unfold Token.instruction
    rw [hwarp, hepoch, eq_of_beq hid]
  have hids : f.cancelledIDs x = (((f.early x.warp).filter x.hits).map Token.id).dedup := rfl
  rw [hids, hnodup.dedup, List.length_map, List.countP_eq_length_filter]

theorem countP_spares (l : List Token) (p : Token → Bool) :
    l.countP p = (l.filter x.spares).countP p + (l.filter x.hits).countP p := by
  induction l with
  | nil => rfl
  | cons t rest ih =>
    cases hhits : x.hits t <;>
      simp only [List.countP_cons, List.filter_cons, Cancellation.spares, hhits, ih, Bool.not_true,
        Bool.not_false, if_true, Bool.false_eq_true, if_false] <;> omega

theorem countP_hits (l : List Token) (w : Fin 4) :
    (l.filter x.hits).countP (Token.onWarp w) = if w = x.warp then l.countP x.hits else 0 := by
  have hwarp : ∀ t ∈ l.filter x.hits, t.warp = x.warp := fun t ht =>
    (hits_instruction (List.mem_filter.mp ht).2).1
  split
  · rename_i hw
    rw [List.countP_eq_length_filter (p := x.hits)]
    exact List.countP_eq_length.mpr fun t ht => decide_eq_true ((hwarp t ht).trans hw.symm)
  · rename_i hw
    exact List.countP_eq_zero.mpr fun t ht hon =>
      hw ((of_decide_eq_true hon).symm.trans (hwarp t ht))

theorem occupancy_eq_early (hown : ∀ w, ∀ t ∈ (f.ibuf w).queue, t.warp = w) (w : Fin 4) :
    f.occupancy w = (f.early w).countP (Token.onWarp w) := by
  have hall : (f.ibuf w).queue.countP (Token.onWarp w) = (f.ibuf w).queue.length :=
    List.countP_eq_length.mpr fun t ht => decide_eq_true (hown w t ht)
  unfold occupancy early
  rw [List.countP_append, List.countP_append, hall]

theorem early_cancel (w : Fin 4) : (f.cancel x).early w = (f.early w).filter x.spares := by
  unfold early cancel Fetch.cancel
  dsimp only [Buffer.filter]
  rw [WaitPool.tokens_cancel, List.filter_append, List.filter_append]

/-- What a cancellation takes from the occupancy of a warp. -/
theorem occupancy_cancel (hown : ∀ w, ∀ t ∈ (f.ibuf w).queue, t.warp = w) (w : Fin 4) :
    f.occupancy w =
      (f.cancel x).occupancy w + if w = x.warp then (f.early w).countP x.hits else 0 := by
  have hleft : ∀ w, ∀ t ∈ ((f.cancel x).ibuf w).queue, t.warp = w := fun w t ht =>
    hown w t (List.mem_of_mem_filter ht)
  rw [occupancy_eq_early hown, occupancy_eq_early hleft, early_cancel, ← countP_hits]
  exact countP_spares _ _

theorem Counted.cancel (hf : f.Counted) (hlinked : f.Linked) (hunique : ∀ m u, f.claims m u ≤ 1) :
    (f.cancel x).Counted := by
  have hsingle : (f.cancel x).fetch.tags.Single := fun v =>
    ((List.filter_sublist.map Pending.token).countP_le).trans (hf.single v)
  refine ⟨fun s' hs' => ?_, hsingle, fun w t ht => hf.own w t (List.mem_of_mem_filter ht)⟩
  obtain ⟨s, hs, rfl⟩ := Option.map_eq_some_iff.mp hs'
  have hold := hf.counts s hs
  have hcount : (s.cancel x (f.cancelledIDs x).length).state.ibufferCount =
    (f.cancel x).occupancy := by
    funext w
    have hflow := occupancy_cancel (x := x) hf.own w
    have hfits := f.occupancy_lt hf.single w
    by_cases hw : w = x.warp
    · subst hw
      rw [if_pos rfl, ← cancelledIDs_length hlinked hunique] at hflow
      have hvalue : (s.cancel x (f.cancelledIDs x).length).state.ibufferCount x.warp =
          (s.state.ibufferCount x.warp + 256 - (f.cancelledIDs x).length % 256) % 8 :=
        Function.update_self ..
      rw [hvalue, hold.count]
      omega
    · rw [if_neg hw, Nat.add_zero] at hflow
      have hvalue : (s.cancel x (f.cancelledIDs x).length).state.ibufferCount w =
          s.state.ibufferCount w := Function.update_of_ne hw ..
      rw [hvalue, hold.count, hflow]
  have hfull : (s.cancel x (f.cancelledIDs x).length).state.ibufferFull =
      fun w => decide ((f.cancel x).occupancy w = 4) := by
    funext w
    rw [← hcount]
    by_cases hw : w = x.warp
    · subst hw
      exact Function.update_self ..
    · have hsame : (s.cancel x (f.cancelledIDs x).length).state.ibufferCount w =
          s.state.ibufferCount w := Function.update_of_ne hw ..
      have hkept : (s.cancel x (f.cancelledIDs x).length).state.ibufferFull w =
          s.state.ibufferFull w := Function.update_of_ne hw ..
      rw [hkept, hsame, hold.count, hold.full]
  refine ⟨fun w => congrFun hcount w, fun w => congrFun hfull w, ?_⟩
  rw [← hfull]
  rfl

end Frontend

end VortexSim.Timing
