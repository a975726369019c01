import VortexSim.Core.Completion
import VortexSim.Device.Calls

/-!
# Two calls instead of one

A call that stops for its budget leaves a state in which the first part of a turn has nothing
to do, so that the next call goes on with the attempt the first one could not afford.  What a
call emits is appended to what was emitted before, and nothing in the loop looks at it but the
budget and the context.  So two calls in a row do what one call with both budgets does, unless
the first of them stopped for another reason that the second one steps over.
-/

namespace VortexSim

open Checked Stateful Act

variable {σ : Type}

/-! ## What a call adds -/

/-- The same record in a call that has made attempts before. -/
def KernelObservation.shift (n : Nat) : KernelObservation → KernelObservation
  | .cta event => .cta event
  | .core attempt step => .core (n + attempt) step

def KernelTraceRecord.shift (n : Nat) (record : KernelTraceRecord) : KernelTraceRecord :=
  { record with observed := record.observed.shift n }

/-- The result of two calls as one. -/
def KernelRunResult.followedBy (first second : KernelRunResult) : KernelRunResult where
  attempts := first.attempts + second.attempts
  retired := first.retired + second.retired
  generated := first.generated + second.generated
  admitted := first.admitted + second.admitted
  completed := first.completed + second.completed
  ctaEvents := first.ctaEvents ++ second.ctaEvents
  last := (second.last.map (KernelTraceRecord.shift first.attempts)).or first.last
  lastCore := second.lastCore.or first.lastCore

/-- Two calls as one: the second goes on where the first has stopped. -/
def Running.followedBy (first second : Running σ) : Running σ where
  execution := second.execution
  result := first.result.followedBy second.result
  trace := first.trace ++ second.trace.map (KernelTraceRecord.shift first.result.attempts)

/-- A stop for the budget names the budget of both calls. -/
def KernelStop.extend (n : Nat) (stop : KernelStop) : KernelStop :=
  { stop with err := stop.err.map fun
      | .budgetExceeded budget => .budgetExceeded (n + budget)
      | err => err }

namespace Running

variable (first s : Running σ)

theorem followedBy_emitEvent (event : CTAEvent) :
    (first.followedBy s).emitEvent event = first.followedBy (s.emitEvent event) := by
  simp [emitEvent, record, followedBy, KernelRunResult.followedBy, KernelTraceRecord.shift,
    KernelObservation.shift, List.append_assoc]

theorem followedBy_completes (slot : CTASlot) (cta : CTA) (reclaimed : CTAState) :
    (first.followedBy s).completes slot cta reclaimed =
      first.followedBy (s.completes slot cta reclaimed) := by
  unfold completes
  rw [← followedBy_emitEvent]
  rfl

theorem followedBy_generates (cta : CTA) (walker : GridWalker) :
    (first.followedBy s).generates cta walker = first.followedBy (s.generates cta walker) := by
  unfold generates
  rw [← followedBy_emitEvent]
  rfl

theorem followedBy_admits (cta : CTA) (snapshot : CTAState) :
    (first.followedBy s).admits cta snapshot = first.followedBy (s.admits cta snapshot) := by
  unfold admits
  rw [← followedBy_emitEvent]
  rfl

theorem followedBy_attempts (step : CoreStep) :
    (first.followedBy s).attempts step = first.followedBy (s.attempts step) := by
  simp [attempts, emitCore, record, followedBy, KernelRunResult.followedBy,
    KernelTraceRecord.shift, KernelObservation.shift, List.append_assoc, Nat.add_assoc]

end Running

/-! ## A turn after another call -/

namespace Kernel

/-- A part of a turn does the same after another call. -/
abbrev Resumes {α : Type} (first : Running σ) (x y : KernelAct σ α) : Prop :=
  Commutes first.followedBy (KernelStop.extend first.result.attempts) x y

variable (first : Running σ)

variable {α : Type} {second both : KernelRunOptions} {s t : Running σ} {stop : KernelStop}

theorem onCore_resumes (x : Act (World σ) Error α) :
    Resumes first (onCore x) (onCore x) := fun _ => rfl

theorem check_resumes (f : KernelRuntime σ → Except Error α) :
    Resumes first (check f) (check f) := by
  refine .examine fun s => ?_
  change (f s.runtime).mapError _ = ((f s.runtime).mapError _).mapError _
  cases f s.runtime with
  | error err => rfl
  | ok a => rfl

theorem reclaimCompleted_resumes : Resumes first reclaimCompleted (reclaimCompleted (σ := σ)) := by
  refine .bind (check_resumes first _) fun completions =>
    Commutes.forEach (fun completion => ?_) _
  refine .ite (.pure _) (.bind (check_resumes first _) fun cta => ?_)
  refine .bind (onCore_resumes first _) fun r => ?_
  cases r with
  | error err => exact .fail rfl
  | ok reclaimed => exact .update fun s => first.followedBy_completes s _ _ _

theorem finishComplete_resumes : Resumes first finishComplete (finishComplete (σ := σ)) := by
  refine .bind (check_resumes first _) fun complete => .ite ?_ (.pure _)
  exact .bind (.update fun _ => rfl) fun _ => .fail rfl

theorem generate_resumes : Resumes first generate (generate (σ := σ)) := by
  refine .bind (.gets fun _ => rfl) fun e => .ite ?_ (.pure _)
  refine .forEach (fun i => ?_) _
  exact .bind (check_resumes first _) fun found =>
    Commutes.update fun s => first.followedBy_generates s _ _

theorem settle_resumes : Resumes first settle (settle (σ := σ)) :=
  Commutes.bind (reclaimCompleted_resumes first) fun _ =>
    Commutes.bind (finishComplete_resumes first) fun _ => generate_resumes first

theorem admitPending_resumes : Resumes first admitPending (admitPending (σ := σ)) := by
  refine .bind (.gets fun _ => rfl) fun pending =>
    Commutes.ite (.pure _) (.bind (onCore_resumes first _) fun r => ?_)
  cases r with
  | error err =>
    refine .ite (.fail rfl) ?_
    exact .bind (.gets fun _ => rfl) fun r =>
      Commutes.ite (.fail rfl) (.pure _)
  | ok admitted =>
    refine .bind (.bind (.forEach (fun entry => ?_) _)
      fun _ => .update fun _ => rfl) fun _ => .pure _
    exact .update fun s => first.followedBy_admits s _ _

theorem takeStep_resumes (sf : SoftFloat) (context : ReadContext) :
    Resumes first (takeStep sf context) (takeStep (σ := σ) sf context) := by
  refine .bind (onCore_resumes first _) fun r => ?_
  rcases r with err | _ | step
  · exact .fail rfl
  · exact .bind (.gets fun _ => rfl) fun r => .fail rfl
  · refine .bind (.update fun s => first.followedBy_attempts s _) fun _ => ?_
    unfold afterStep
    cases step.error with
    | some err => exact .fail rfl
    | none =>
      cases step.warpResult.outcome with
      | retired => exact .update fun _ => rfl
      | deferred | finished => exact .fail rfl
      | trap | fault =>
        refine .fail ?_
        cases step.warpResult.fault with
        | none => rfl
        | some fault => rfl

/-- The options of the second call, seen from the one call that makes both. -/
structure Extends (first : Running σ) (second both : KernelRunOptions) : Prop where
  budget : both.stepBudget = first.result.attempts + second.stepBudget
  context : ∀ attempt, both.context (first.result.attempts + attempt) = second.context attempt

variable {first}

theorem attemptStep_resumes (sf : SoftFloat) (h : Extends first second both) :
    Resumes first (attemptStep sf second) (attemptStep (σ := σ) sf both) := by
  intro s
  change (if both.stepBudget ≤ first.result.attempts + s.result.attempts then _ else
    takeStep sf (both.context (first.result.attempts + s.result.attempts))) (first.followedBy s) =
    _
  have hsecond : attemptStep sf second s = (if second.stepBudget ≤ s.result.attempts then
      Act.fail { outcome := .budgetExceeded, err := some (.budgetExceeded second.stepBudget) }
      else takeStep sf (second.context s.result.attempts)) s := rfl
  rw [hsecond, h.context, h.budget]
  by_cases hbudget : second.stepBudget ≤ s.result.attempts
  · rw [if_pos hbudget, if_pos (Nat.add_le_add_left hbudget _)]
    rfl
  · rw [if_neg hbudget, if_neg fun hle => hbudget (Nat.le_of_add_le_add_left hle)]
    exact takeStep_resumes first sf _ s

theorem iterate_resumes (sf : SoftFloat) (h : Extends first second both) :
    Resumes first (iterate sf second) (iterate (σ := σ) sf both) :=
  Commutes.bind (settle_resumes first) fun _ =>
    Commutes.bind (admitPending_resumes first) fun _ =>
      Commutes.ite (.pure _) (attemptStep_resumes sf h)

theorem runLoop_resumes (sf : SoftFloat) (h : Extends first second both) (fuel : Nat) :
    Resumes first (runLoop sf second fuel) (runLoop (σ := σ) sf both fuel) := by
  induction fuel with
  | zero => exact .pure _
  | succ fuel ih => exact .bind (iterate_resumes sf h) fun _ => ih

/-! ## States a call rests in -/

/-- The first part of a turn has nothing to do: no resident CTA is complete, the pending
cluster exists where one is left, and the core refuses it. -/
structure Rested (r : KernelRuntime σ) : Prop where
  completions : ∃ completions, r.core.ctaCompletions = .ok completions ∧
    ∀ completion ∈ completions, completion.complete = false
  unfinished : r.complete = .ok false
  generated : ¬ (r.pending.length = 0 ∧ r.walker.remaining ≠ 0#32)
  refused : r.pending.length ≠ 0 →
    ∃ err, World.admitCTACluster (r.pending.map CTA.coreConfig) r.core = (.error err, r.core) ∧
      resourcesUnavailable err = true ∧ r.residents.length ≠ 0

theorem onCore_of (h : x s.runtime.core = (r, s.runtime.core)) : onCore x s = (.ok r, s) := by
  unfold onCore
  rw [h]
  rfl

theorem check_of (h : f s.runtime = .ok a) : check f s = (.ok a, s) := by
  refine examine_of ?_
  rw [h]
  rfl

theorem Rested.settle (h : Rested s.runtime) : Kernel.settle s = (.ok (), s) := by
  obtain ⟨completions, hcompletions, hincomplete⟩ := h.completions
  have hreclaim : reclaimCompleted s = (.ok (), s) := by
    unfold reclaimCompleted
    rw [bind_of_ok (check_of hcompletions)]
    refine forEach_of_idle fun completion hin => ?_
    unfold reclaim
    rw [if_pos (hincomplete completion hin)]
    rfl
  have hfinish : finishComplete s = (.ok (), s) := by
    unfold finishComplete
    rw [bind_of_ok (check_of h.unfinished)]
    rfl
  have hgenerate : generate s = (.ok (), s) := by
    unfold generate
    rw [gets_bind, if_neg h.generated]
    rfl
  unfold Kernel.settle
  rw [bind_of_ok hreclaim, bind_of_ok hfinish, hgenerate]

theorem Rested.admitPending (h : Rested s.runtime) : Kernel.admitPending s = (.ok false, s) := by
  unfold Kernel.admitPending
  rw [gets_bind]
  by_cases hpending : s.runtime.pending.length = 0
  · rw [if_pos hpending]
    rfl
  · obtain ⟨err, hrun, hscarce, hbusy⟩ := h.refused hpending
    rw [if_neg hpending, bind_of_ok (onCore_of hrun)]
    dsimp only
    rw [if_neg (by rw [hscarce]; decide), gets_bind, if_neg hbusy]
    rfl

/-! ### Reclaim leaves no complete CTA -/

theorem reclaim_ok (h : reclaim completion s = (.ok (), s')) :
    (completion.complete = false ∧ s' = s) ∨
      ∃ cta reclaimed core, World.reclaimCTA completion.ctaID s.runtime.core =
          (.ok reclaimed, core) ∧
        s' = (s.setRuntime { s.runtime with core }).completes
          (Fin.ofNat frozenWarpCount completion.ctaID) cta reclaimed := by
  unfold reclaim at h
  split at h
  · rename_i hcomplete
    cases h
    exact .inl ⟨hcomplete, rfl⟩
  · refine .inr ?_
    obtain ⟨cta, t, hcheck, h⟩ := bind_ok h
    obtain rfl : s = t := congrArg Prod.snd hcheck
    obtain ⟨r, t, hcore, h⟩ := bind_ok h
    cases hcore
    rcases hrun : World.reclaimCTA completion.ctaID s.runtime.core with ⟨err | reclaimed, core⟩
    · rw [hrun] at h
      cases h
    · rw [hrun] at h
      cases h
      exact ⟨cta, reclaimed, core, rfl, rfl⟩

/-- Every complete CTA is still to be reclaimed. -/
def Reclaiming (rest : List World.CTACompletionSnapshot) (s : Running σ) : Prop :=
  ∀ slot completion, s.runtime.core.completionAt 0 slot = .ok completion →
    completion.complete = true → completion ∈ rest

variable {launch : LaunchState} {hv : launch.Valid}

theorem Reclaiming.reclaim (h : Reclaiming (completion :: rest) s)
    (hdriven : s.runtime.core.Driven 0) (hrun : Kernel.reclaim completion s = (.ok (), s')) :
    Reclaiming rest s' := by
  rcases reclaim_ok hrun with ⟨hincomplete, rfl⟩ | ⟨cta, reclaimed, core, hcore, rfl⟩
  · intro slot found hfound hcomplete
    refine (List.mem_cons.mp (h slot found hfound hcomplete)).resolve_left ?_
    rintro rfl
    rw [hincomplete] at hcomplete
    cases hcomplete
  · rcases World.reclaimCTA_run hdriven.alone completion.ctaID with
      ⟨err, herr⟩ | ⟨other, slot, removed, hslot, hr, hdone⟩
    · rw [hcore] at herr
      cases herr
    · obtain ⟨rfl, -, htables⟩ := hdriven.reclaimed hr
      rw [hcore] at hdone
      cases hdone
      intro found result hfound hcomplete
      change (s.runtime.core.reclaimed 0 slot reclaimed).completionAt 0 found = _ at hfound
      obtain ⟨⟨resident, hresident⟩, hid⟩ := World.completionAt_resident hfound
      have hne : found ≠ slot := by
        rintro rfl
        exact absurd ((CTAManager.remove_none _ found found reclaimed).mpr (.inl rfl))
          (hresident ▸ Option.some_ne_none resident)
      rw [hdriven.completion_reclaimed hr hne] at hfound
      refine (List.mem_cons.mp (h found result hfound hcomplete)).resolve_left ?_
      rintro rfl
      exact hne (Fin.ext (hid.symm.trans hslot.symm))

theorem reclaimCompleted_rest (h : Looping hv past s) (hrun : reclaimCompleted s = (.ok (), s')) :
    ∃ completions, s'.runtime.core.ctaCompletions = .ok completions ∧
      ∀ completion ∈ completions, completion.complete = false := by
  obtain ⟨k, hsound, -⟩ := h.1.sound
  obtain ⟨completions, hcompletions, hmem⟩ := hsound.core.completions
  unfold reclaimCompleted at hrun
  rw [bind_of_ok (check_of hcompletions)] at hrun
  have hloop := Leads.forEach (f := Kernel.reclaim (σ := σ)) (E := fun _ _ => True)
    (I := fun rest s => Looping hv past s ∧ Reclaiming rest s) ?_ completions
  · obtain ⟨hlooping, hreclaiming⟩ := hloop.of_ok ⟨h, fun slot completion hat _ =>
      (hmem completion).mpr ⟨slot, hat⟩⟩ hrun
    obtain ⟨_, hsound', -⟩ := hlooping.1.sound
    obtain ⟨completions', hcompletions', hmem'⟩ := hsound'.core.completions
    refine ⟨completions', hcompletions', fun completion hin => ?_⟩
    obtain ⟨slot, hslot⟩ := (hmem' completion).mp hin
    by_contra hne
    exact absurd (hreclaiming slot completion hslot (Bool.not_eq_false _ ▸ hne)) List.not_mem_nil
  · rintro completion rest t ⟨hlooping, hreclaiming⟩
    refine ⟨fun u hu => ?_, fun _ _ => trivial⟩
    obtain ⟨_, hsound', -⟩ := hlooping.1.sound
    have hstep : reclaim completion t = (.ok (), (reclaim completion t).2) := Prod.ext hu rfl
    exact ⟨(reclaim_leads completion).of_ok hlooping hstep, hreclaiming.reclaim hsound'.core hstep⟩

/-! ### The other parts -/

theorem finishComplete_ok (h : finishComplete s = (.ok (), s')) :
    s' = s ∧ s.runtime.complete = .ok false := by
  obtain ⟨complete, t, hcheck, h⟩ := bind_ok h
  obtain rfl : s = t := congrArg Prod.snd hcheck
  cases complete with
  | true => cases h
  | false =>
    cases h
    have hok : (s.runtime.complete.mapError KernelStop.fault) = .ok false :=
      congrArg Prod.fst hcheck
    rw [mapError_eq_ok] at hok
    exact ⟨rfl, hok⟩

/-- The call has generated some CTAs, and nothing else has changed. -/
structure Generated (s : Running σ) (n : Nat) (t : Running σ) : Prop where
  core : t.runtime.core = s.runtime.core
  resident : t.runtime.resident = s.runtime.resident
  pending : n ≤ t.runtime.pending.length

theorem generateNext_generated (s : Running σ) (n i : Nat) :
    Triple (Generated s n) (generateNext i) (fun _ => Generated s (n + 1)) (fun _ => True) := by
  refine .bind (.examine (fun _ _ hs _ => hs) fun _ _ => trivial) fun found =>
    Triple.update ?_
  intro t ht
  refine ⟨ht.core, ht.resident, ?_⟩
  change n + 1 ≤ (t.runtime.pending ++ [found.1]).length
  rw [List.length_append, List.length_singleton]
  exact Nat.succ_le_succ ht.pending

theorem generate_ok (hsize : 0 < s.execution.launch.clusterSize.toNat)
    (h : generate s = (.ok (), t)) :
    t = s ∧ ¬ (s.runtime.pending.length = 0 ∧ s.runtime.walker.remaining ≠ 0#32) ∨
      t.runtime.core = s.runtime.core ∧ t.runtime.resident = s.runtime.resident ∧
        t.runtime.pending.length ≠ 0 := by
  unfold generate at h
  rw [gets_bind] at h
  split at h
  · have hloop := Leads.forEach (E := fun _ _ => True) (f := generateNext (σ := σ))
      (I := fun rest t => ∃ n, n + rest.length = s.execution.launch.clusterSize.toNat ∧
        Generated s n t) ?_ (List.range s.execution.launch.clusterSize.toNat)
    · obtain ⟨n, hn, hdone⟩ := hloop.of_ok
        ⟨0, by rw [List.length_range, Nat.zero_add], rfl, rfl, Nat.zero_le _⟩ h
      have hcount := hdone.pending
      rw [List.length_nil] at hn
      exact .inr ⟨hdone.core, hdone.resident, by omega⟩
    · rintro i rest u ⟨n, hn, hu⟩
      rw [List.length_cons] at hn
      refine ⟨fun _ hok => ⟨n + 1, by omega, ?_⟩, fun _ _ => trivial⟩
      exact (generateNext_generated s n i u hu).1 () hok
  · rename_i hnone
    cases h
    exact .inl ⟨rfl, hnone⟩

theorem admitPending_false (h : admitPending s = (.ok false, t)) :
    t = s ∧ (s.runtime.pending.length ≠ 0 →
      ∃ err, World.admitCTACluster (s.runtime.pending.map CTA.coreConfig) s.runtime.core =
          (.error err, s.runtime.core) ∧
        resourcesUnavailable err = true ∧ s.runtime.residents.length ≠ 0) := by
  unfold admitPending at h
  rw [gets_bind] at h
  split at h
  · rename_i hzero
    cases h
    exact ⟨rfl, fun hne => absurd hzero hne⟩
  · cases hprepare : World.prepareAdmission (s.runtime.pending.map CTA.coreConfig)
        s.runtime.core with
    | error err =>
      have hrun := World.admitCTACluster_refused hprepare
      rw [bind_of_ok (onCore_of hrun)] at h
      dsimp only at h
      split at h
      · cases h
      · rename_i hscarce
        rw [gets_bind] at h
        split at h
        · cases h
        · rename_i hbusy
          cases h
          exact ⟨rfl, fun _ => ⟨err, hrun, Bool.not_eq_false _ ▸ hscarce, hbusy⟩⟩
    | ok admitted =>
      obtain ⟨r, u, hr, h⟩ := bind_ok h
      unfold onCore at hr
      rw [World.admitCTACluster_done hprepare] at hr
      cases hr
      obtain ⟨_, v, -, h⟩ := bind_ok h
      cases h

/-- A turn that has come to its attempt rests. -/
theorem rested_of_settle (h : Looping hv past s) (hsettle : settle s = (.ok (), t))
    (hanswer : admitPending t = (.ok false, u)) : u = t ∧ Rested t.runtime := by
  obtain ⟨rfl, hrefused⟩ := admitPending_false hanswer
  refine ⟨rfl, ?_⟩
  obtain ⟨_, s1, hreclaim, hsettle⟩ := bind_ok hsettle
  obtain ⟨_, s2, hfinish, hgenerate⟩ := bind_ok hsettle
  obtain ⟨rfl, hunfinished⟩ := finishComplete_ok hfinish
  have hlooping := reclaimCompleted_leads.of_ok h hreclaim
  obtain ⟨_, hsound, -⟩ := hlooping.1.sound
  have hsize : 0 < s2.execution.launch.clusterSize.toNat := hsound.launched ▸ hv.size_pos
  have hcompletions := reclaimCompleted_rest h hreclaim
  rcases generate_ok hsize hgenerate with ⟨rfl, hnone⟩ | ⟨hcore, hresident, hpending⟩
  · exact ⟨hcompletions, hunfinished, hnone, hrefused⟩
  · refine ⟨hcore ▸ hcompletions, ?_, fun hboth => hpending hboth.1, hrefused⟩
    unfold KernelRuntime.complete
    rw [if_pos (.inr (.inl hpending))]
    rfl

/-- A step stops a call as blocked only where it finds no warp to run. -/
theorem takeStep_outcome (h : takeStep sf context s = (.error stop, s')) :
    stop.outcome ≠ .budgetExceeded ∧ stop.outcome ≠ .complete ∧ (stop.outcome = .blocked →
      World.step sf context s.runtime.core = (.ok none, s'.runtime.core) ∧
      s' = s.setRuntime { s.runtime with core := s'.runtime.core }) := by
  rcases bind_cases h with ⟨r, t, hcore, h⟩ | ⟨_, hcore, -⟩
  · rcases hstep : World.step sf context s.runtime.core with ⟨r', core⟩
    unfold onCore at hcore
    rw [hstep] at hcore
    cases hcore
    rcases r' with err | _ | step
    · cases h
      simp [KernelStop.fault]
    · cases h
      exact ⟨by simp, by simp, fun _ => ⟨rfl, rfl⟩⟩
    · rcases bind_cases h with ⟨_, u, -, h⟩ | ⟨_, hupdate, -⟩
      · unfold afterStep at h
        cases herr : step.error with
        | some err =>
          rw [herr] at h
          cases h
          simp [KernelStop.fault]
        | none =>
          rw [herr] at h
          cases hout : step.warpResult.outcome with
          | retired =>
            rw [hout] at h
            cases h
          | _ =>
            rw [hout] at h
            cases h
            simp [KernelStop.fault]
      · cases hupdate
  · cases hcore

/-! ## A larger budget -/

section

variable {sf : SoftFloat}

variable {s : Running σ} {stop : KernelStop}

theorem attemptStep_over (h : options.stepBudget ≤ s.result.attempts) : attemptStep sf options s =
      (.error { outcome := .budgetExceeded, err := some (.budgetExceeded options.stepBudget) },
        s) := by
  unfold attemptStep
  rw [gets_bind, if_pos h]
  rfl

theorem attemptStep_within (h : ¬ options.stepBudget ≤ s.result.attempts) :
    attemptStep sf options s = takeStep sf (options.context s.result.attempts) s := by
  unfold attemptStep
  rw [gets_bind, if_neg h]

theorem iterate_eq (options : KernelRunOptions) (s : Running σ) : iterate sf options s =
    (settle >>= fun _ => admitPending >>= fun admitted =>
      if admitted = true then pure () else attemptStep sf options) s := rfl

theorem iterate_attempts (hsettle : settle s = (.ok (), t))
    (hanswer : admitPending t = (.ok false, u)) :
    iterate sf options s = attemptStep sf options u := by
  unfold iterate
  rw [bind_of_ok hsettle, bind_of_ok hanswer]
  rfl

theorem Rested.iterate (h : Rested s.runtime) (options : KernelRunOptions) :
    Kernel.iterate sf options s = attemptStep sf options s :=
  iterate_attempts h.settle h.admitPending

variable {small large : KernelRunOptions} (hctx : small.context = large.context)
  (hle : small.stepBudget ≤ large.stepBudget)
include hctx hle

/-- An attempt within a budget is one within a larger budget. -/
theorem attemptStep_more (h : ¬ small.stepBudget ≤ s.result.attempts) :
    attemptStep sf large s = attemptStep sf small s := by
  rw [attemptStep_within h, attemptStep_within fun hlarge => h (Nat.le_trans hle hlarge), hctx]

/-- A turn with these options finds no warp to run. -/
def Stuck (sf : SoftFloat) (options : KernelRunOptions) (s : Running σ) : Prop :=
  Rested s.runtime ∧ World.step sf (options.context s.result.attempts) s.runtime.core =
    (.ok none, s.runtime.core)

/-- What a stop of a turn can be. -/
theorem iterate_stops (h : Looping hv past s) (hrun : iterate sf small s = (.error stop, s')) :
    (stop.outcome ≠ .budgetExceeded ∧ iterate sf large s = (.error stop, s') ∧
      (stop.outcome = .blocked → Stuck sf small s')) ∨
    stop.outcome = .budgetExceeded ∧ Rested s'.runtime ∧
      small.stepBudget ≤ s'.result.attempts ∧ iterate sf large s = iterate sf large s' := by
  rcases bind_cases hrun with ⟨_, t, hsettle, hrest⟩ | ⟨e, hsettle, he⟩
  · have hlooping := settle_leads.of_ok h hsettle
    rcases bind_cases hrest with ⟨admitted, u, hanswer, hattempt⟩ | ⟨e, hanswer, he⟩
    · cases admitted with
      | true => cases hattempt
      | false =>
        obtain ⟨rfl, hrested⟩ := rested_of_settle h hsettle hanswer
        change attemptStep sf small u = _ at hattempt
        by_cases hbudget : small.stepBudget ≤ u.result.attempts
        · rw [attemptStep_over hbudget] at hattempt
          cases hattempt
          refine .inr ⟨rfl, hrested, hbudget, ?_⟩
          rw [iterate_attempts hsettle hanswer, hrested.iterate]
        · have htake := hattempt
          rw [attemptStep_within hbudget] at htake
          obtain ⟨hnot, -, hblocked⟩ := takeStep_outcome htake
          refine .inl ⟨hnot, ?_, fun hb => ?_⟩
          · rw [iterate_attempts hsettle hanswer, attemptStep_more hctx hle hbudget, hattempt]
          · obtain ⟨hidle, hstate⟩ := hblocked hb
            obtain ⟨_, hsound, -⟩ := hlooping.1.sound
            have hcore := World.step_idle hsound.core.alone hidle
            rw [hcore] at hstate
            obtain rfl : s' = u := hstate
            exact ⟨hrested, hidle⟩
    · exact (admitPending_leads (E := fun _ _ => False).of_error hlooping hanswer).elim
  · cases he
    obtain ⟨-, hout⟩ := settle_leads.of_error h hsettle
    refine .inl ⟨?_, ?_, ?_⟩
    · rcases hout with hout | hout <;> simp [hout]
    · rw [iterate_eq, bind_of_error hsettle]
    · rcases hout with hout | hout <;> simp [hout]

/-- A turn that goes on does so with a larger budget. -/
theorem iterate_goes_on (hrun : iterate sf small s = (.ok (), s')) :
    iterate sf large s = (.ok (), s') := by
  obtain ⟨_, t, hsettle, hrest⟩ := bind_ok hrun
  obtain ⟨admitted, u, hanswer, hattempt⟩ := bind_ok hrest
  cases admitted with
  | true =>
    rw [iterate_eq, bind_of_ok hsettle, bind_of_ok hanswer]
    exact hattempt
  | false =>
    change attemptStep sf small u = _ at hattempt
    by_cases hbudget : small.stepBudget ≤ u.result.attempts
    · rw [attemptStep_over hbudget] at hattempt
      cases hattempt
    · rw [iterate_attempts hsettle hanswer, attemptStep_more hctx hle hbudget, hattempt]

/-! ## The loop -/

variable (small large) in
theorem runLoop_extends (h : Looping hv past s)
    (hrun : runLoop sf small fuel s = (.error stop, s')) :
    (stop.outcome ≠ .budgetExceeded ∧ runLoop sf large fuel s = (.error stop, s') ∧
      (stop.outcome = .blocked → Stuck sf small s')) ∨
    stop.outcome = .budgetExceeded ∧ small.stepBudget ≤ s'.result.attempts ∧
      ∀ n stop' s'', runLoop sf large n s' = (.error stop', s'') →
        ∃ m, runLoop sf large m s = (.error stop', s'') := by
  induction fuel generalizing s with
  | zero => cases hrun
  | succ fuel ih =>
    rcases bind_cases hrun with ⟨_, t, hturn, hrest⟩ | ⟨e, hturn, he⟩
    · have hlarge := iterate_goes_on hctx hle hturn
      have hlooping := (iterate_leads sf small).of_ok h hturn
      rcases ih hlooping hrest with ⟨hnot, hloop, hblocked⟩ | ⟨hbudget, hover, hmore⟩
      · refine .inl ⟨hnot, ?_, hblocked⟩
        rw [runLoop, bind_of_ok hlarge]
        exact hloop
      · refine .inr ⟨hbudget, hover, fun n stop' s'' hn => ?_⟩
        obtain ⟨m, hm⟩ := hmore n stop' s'' hn
        refine ⟨m + 1, ?_⟩
        rw [runLoop, bind_of_ok hlarge]
        exact hm
    · cases he
      rcases iterate_stops hctx hle h hturn with ⟨hnot, hlarge, hblocked⟩ |
        ⟨hbudget, -, hover, hsame⟩
      · refine .inl ⟨hnot, ?_, hblocked⟩
        rw [runLoop, bind_of_error hlarge]
      · refine .inr ⟨hbudget, hover, fun n stop' s'' hn => ⟨n, ?_⟩⟩
        cases n with
        | zero => cases hn
        | succ n =>
          change (iterate sf large >>= fun _ => runLoop sf large n) s = _
          change (iterate sf large >>= fun _ => runLoop sf large n) s' = _ at hn
          rcases hturn' : iterate sf large s' with ⟨e | _, t⟩
          · rw [bind_of_error hturn'] at hn
            rw [bind_of_error (hsame.trans hturn')]
            exact hn
          · rw [bind_of_ok hturn'] at hn
            rw [bind_of_ok (hsame.trans hturn')]
            exact hn

omit hctx hle

/-- More fuel does not change how a call stops. -/
theorem runLoop_fuel (h : runLoop sf options fuel s = (.error stop, s')) (hle : fuel ≤ more) :
    runLoop sf options more s = (.error stop, s') := by
  induction fuel generalizing more s with
  | zero => cases h
  | succ fuel ih =>
    obtain ⟨more, rfl⟩ := Nat.exists_eq_add_of_le' (Nat.lt_of_lt_of_le (Nat.succ_pos fuel) hle)
    rcases bind_cases h with ⟨_, t, hturn, hrest⟩ | ⟨e, hturn, he⟩
    · rw [runLoop, bind_of_ok hturn]
      exact ih hrest (Nat.le_of_succ_le_succ hle)
    · cases he
      rw [runLoop, bind_of_error hturn]

/-- Two stops of one loop are the same. -/
theorem runLoop_unique (h : runLoop sf options fuel s = (.error stop, s'))
    (h' : runLoop sf options fuel' s = (.error stop', s'')) : stop = stop' ∧ s' = s'' := by
  have hmax := (runLoop_fuel h (Nat.le_max_left fuel fuel')).symm.trans
    (runLoop_fuel h' (Nat.le_max_right fuel fuel'))
  rw [Prod.mk.injEq, Except.error.injEq] at hmax
  exact hmax

end

end Kernel

theorem Running.followedBy_new (s : Running σ) : s.followedBy { execution := s.execution } = s := by
  simp [Running.followedBy, KernelRunResult.followedBy]

/-- A call on a blocked execution changes nothing where the context has not changed. -/
theorem KernelExecution.run_blocked (options : KernelRunOptions) {e : KernelExecution σ}
    (hrested : Kernel.Rested e.runtime) (hopen : e.complete = false)
    (hidle : World.step sf (options.context 0) e.runtime.core = (.ok none, e.runtime.core)) :
    (e.run sf options).2 = { execution := e } := by
  have hturn : ∃ stop, Kernel.iterate sf options { execution := e } =
      (.error stop, { execution := e }) := by
    rw [hrested.iterate]
    by_cases hbudget : options.stepBudget ≤ 0
    · exact ⟨_, Kernel.attemptStep_over hbudget⟩
    · rw [Kernel.attemptStep_within hbudget]
      unfold Kernel.takeStep
      rw [bind_of_ok (Kernel.onCore_of hidle)]
      exact ⟨_, rfl⟩
  obtain ⟨stop, hturn⟩ := hturn
  unfold KernelExecution.run Kernel.turns
  rw [if_neg (by rw [hopen]; decide), Kernel.runLoop, bind_of_error hturn]

/-- Two calls are one.  Every call returns within its budget, and a second call after one that
has stopped for its budget, as blocked or as complete leaves what one call with both budgets
leaves: the same execution, the records of both, and the sums of the counters. -/
theorem KernelExecutor.run_followed {input : LaunchState} {backing : BackingMemory σ}
    {executor : KernelExecutor σ} (hexecutor : newKernelExecutor input backing = .ok executor)
    {memory : σ} {e : KernelExecution σ} (hnew : executor.newExecution memory = .ok e)
    (sf : SoftFloat) (calls : List KernelCall) (b1 b2 : Nat) (context : Nat → ReadContext) :
    let c := KernelSession.performAll sf calls { execution := e }
    ∃ stop1 s1 stop2 s2 stop s,
      c.execution.run sf { stepBudget := b1, context } = (.error stop1, s1) ∧
      s1.execution.run sf { stepBudget := b2
                            context := fun n => context (s1.result.attempts + n) } =
        (.error stop2, s2) ∧
      c.execution.run sf { stepBudget := b1 + b2, context } = (.error stop, s) ∧
      s1.result.attempts ≤ b1 ∧ s2.result.attempts ≤ b2 ∧ s.result.attempts ≤ b1 + b2 ∧
      (stop1.outcome = .budgetExceeded ∨ stop1.outcome = .blocked ∨ stop1.outcome = .complete →
        s = s1.followedBy s2) := by
  intro c
  obtain ⟨hv, hok⟩ := session_ok hexecutor hnew sf calls
  obtain ⟨stop1, s1, hrun1, hle1⟩ := c.execution.run_stops sf { stepBudget := b1, context }
  let second : KernelRunOptions :=
    { stepBudget := b2, context := fun n => context (s1.result.attempts + n) }
  obtain ⟨stop2, s2, hrun2, hle2⟩ := s1.execution.run_stops sf second
  obtain ⟨stop, s, hrun, hle⟩ := c.execution.run_stops sf { stepBudget := b1 + b2, context }
  refine ⟨stop1, s1, stop2, s2, stop, s, hrun1, hrun2, hrun, hle1, hle2, hle, fun houtcome => ?_⟩
  have hstopped := hok.run hrun1
  -- a call on a complete execution adds nothing
  have hfinished : s1.execution.complete = true → s2 = { execution := s1.execution } := by
    intro hcomplete
    unfold KernelExecution.run at hrun2
    rw [if_pos hcomplete] at hrun2
    exact (congrArg Prod.snd hrun2).symm
  by_cases hcomplete : c.execution.complete = true
  · unfold KernelExecution.run at hrun1 hrun
    rw [if_pos hcomplete] at hrun1 hrun
    cases hrun1
    cases hrun
    rw [hfinished hcomplete, Running.followedBy_new]
  · have hlooping : Kernel.Looping hv (logOf c.events)
        { execution := c.execution } := ⟨hok.settled, Bool.eq_false_iff.mpr hcomplete⟩
    unfold KernelExecution.run at hrun1 hrun
    rw [if_neg hcomplete] at hrun1 hrun
    have hle' : b1 ≤ b1 + b2 := Nat.le_add_right b1 b2
    rcases Kernel.runLoop_extends { stepBudget := b1, context } { stepBudget := b1 + b2, context }
      rfl hle' hlooping hrun1 with ⟨hnot, hloop, hblocked⟩ | ⟨hbudget, hover, hmore⟩
    · obtain ⟨-, rfl⟩ := Kernel.runLoop_unique hloop hrun
      have hsecond : s2 = { execution := s1.execution } := by
        rcases houtcome with hbudget | hb | hc
        · exact absurd hbudget hnot
        · obtain ⟨hrested, hidle⟩ := hblocked hb
          have hopen : s1.execution.complete = false := by
            rw [Bool.eq_false_iff]
            intro hc
            rw [hstopped.complete.mp hc] at hb
            cases hb
          have hsame := KernelExecution.run_blocked second hrested hopen hidle
          rw [← hsame]
          exact (congrArg Prod.snd hrun2).symm
        · exact hfinished (hstopped.complete.mpr hc)
      rw [hsecond, Running.followedBy_new]
    · have hattempts : s1.result.attempts = b1 := Nat.le_antisymm hle1 hover
      have hextends : Kernel.Extends s1 second { stepBudget := b1 + b2, context } :=
        ⟨by rw [hattempts], fun _ => rfl⟩
      have hopen : ¬ s1.execution.complete = true := by
        intro hc
        rw [hstopped.complete.mp hc] at hbudget
        cases hbudget
      unfold KernelExecution.run at hrun2
      rw [if_neg hopen] at hrun2
      have hresumed := Kernel.runLoop_resumes sf hextends
        (Kernel.turns second s1.execution.runtime) { execution := s1.execution }
      rw [hrun2, Running.followedBy_new] at hresumed
      obtain ⟨m, hm⟩ := hmore _ _ _ hresumed
      exact (Kernel.runLoop_unique hm hrun).2.symm

/-! ### One CTA of two warps -/

/-- Two calls of one attempt each end the two warps of the CTA as one call of two does. -/
theorem KernelExecutor.run_followed_solo : ∃ executor e,
    newKernelExecutor soloGrid imageBacking = .ok executor ∧
    executor.newExecution stopImage = .ok e ∧
    outcomeOf (e.run zeroFloat { stepBudget := 1 }) = some .budgetExceeded ∧
    ∃ s1 s2 s, (e.run zeroFloat { stepBudget := 1 }).2 = s1 ∧
      (s1.execution.run zeroFloat { stepBudget := 1 }).2 = s2 ∧
      (e.run zeroFloat { stepBudget := 2 }).2 = s ∧ s = s1.followedBy s2 := by
  have hfirst : gridRun soloGrid stopImage (fun _ e =>
      outcomeOf (e.run zeroFloat { stepBudget := 1 })) = some (some .budgetExceeded) := by
    decide +kernel
  obtain ⟨executor, e, hexecutor, hnew, houtcome⟩ := gridRun_eq hfirst
  refine ⟨executor, e, hexecutor, hnew, houtcome, ?_⟩
  obtain ⟨stop1, s1, stop2, s2, stop, s, hrun1, hrun2, hrun, -, -, -, hsame⟩ :=
    run_followed hexecutor hnew zeroFloat [] 1 1 fun _ => {}
  refine ⟨s1, s2, s, congrArg Prod.snd hrun1, congrArg Prod.snd hrun2, congrArg Prod.snd hrun,
    hsame (.inl ?_)⟩
  change e.run zeroFloat { stepBudget := 1 } = _ at hrun1
  rw [hrun1] at houtcome
  exact Option.some_inj.mp houtcome

/-- `addi x5, x0, 2` and `wspawn x5, x0`: the first warp waits until it is alone. -/
def spawnImage : Memory where
  data := [0x93#8, 0x02#8, 0x20#8, 0x00#8, 0x0B#8, 0x90#8, 0x02#8, 0x00#8]
  fits := by decide

/-- After a call that has stopped as deferred the next one goes on, while one call with both
budgets stops there. -/
theorem KernelExecutor.deferred_call_goes_on : ∃ executor e,
    newKernelExecutor soloGrid imageBacking = .ok executor ∧
    executor.newExecution spawnImage = .ok e ∧
    let s1 := (e.run zeroFloat { stepBudget := 3 }).2
    let s2 := (s1.execution.run zeroFloat { stepBudget := 1 }).2
    let s := (e.run zeroFloat { stepBudget := 4 }).2
    outcomeOf (e.run zeroFloat { stepBudget := 3 }) = some .deferred ∧
    s1.result.attempts + s2.result.attempts = 4 ∧ s.result.attempts = 3 := by
  have hall : gridRun soloGrid spawnImage (fun _ e =>
      let s1 := (e.run zeroFloat { stepBudget := 3 }).2
      let s2 := (s1.execution.run zeroFloat { stepBudget := 1 }).2
      let s := (e.run zeroFloat { stepBudget := 4 }).2
      (outcomeOf (e.run zeroFloat { stepBudget := 3 }),
        s1.result.attempts + s2.result.attempts, s.result.attempts)) =
      some (some .deferred, 4, 3) := by decide +kernel
  obtain ⟨executor, e, hexecutor, hnew, hvalues⟩ := gridRun_eq hall
  rw [Prod.mk.injEq, Prod.mk.injEq] at hvalues
  exact ⟨executor, e, hexecutor, hnew, hvalues⟩

end VortexSim
