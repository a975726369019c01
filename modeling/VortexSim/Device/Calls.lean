import VortexSim.Core.Cluster
import VortexSim.Device.Turns

/-!
# The calls on one execution

A new execution has its books in order, every call keeps them, and so the events of any calls
show each CTA of the grid generated, admitted and completed at most once and in that order.  A
call ends as complete only when all of them are completed and the core is empty again, and no
call ends because an empty core has refused a cluster.
-/

namespace VortexSim

open Checked Stateful Ledger

variable {σ : Type}

/-- A call on an execution. -/
inductive KernelCall where
  | run (options : KernelRunOptions)
  | completeBarrierEvent (key : RawBarrierKey)

/-- An execution with the CTA events of the calls so far. -/
structure KernelSession (σ : Type) where
  execution : KernelExecution σ
  events : List CTAEvent := []

namespace KernelSession

def perform (sf : SoftFloat) (c : KernelSession σ) : KernelCall → KernelSession σ
  | .run options =>
    let s := (c.execution.run sf options).2
    { execution := s.execution, events := c.events ++ s.result.ctaEvents }
  | .completeBarrierEvent key =>
    { c with execution := (KernelExecution.completeBarrierEvent key c.execution).2 }

def performAll (sf : SoftFloat) (calls : List KernelCall) (c : KernelSession σ) : KernelSession σ :=
  calls.foldl (perform sf) c

end KernelSession

/-! ## A new execution -/

namespace KernelExecutor

variable (e : KernelExecutor σ)

/-- The local memory of a new runtime. -/
def zeroMemory : Memory where
  data := List.replicate frozenLocalMemSize 0#8
  fits := by
    rw [List.length_replicate]
    decide

/-- The core of a new runtime before its manager is attached. -/
def coldCore (memory : σ) : World σ where
  core := { slots := ![{ executor := e.executor 0 }, { executor := e.executor 1 },
    { executor := e.executor 2 }, { executor := e.executor 3 }] }
  owners := e.owners
  managers := fun _ => .newDynamic
  localMemories := fun _ => zeroMemory
  memory := memory

theorem coldCore_new (memory : σ) : World.new ((List.finRange frozenWarpCount).map e.executor)
    e.owners (fun _ => CTAManager.newDynamic) (fun _ => zeroMemory) memory =
      .ok (e.coldCore memory) := rfl

theorem owners_wf (hpc : ¬ misaligned e.launch.startupPC) : e.owners.WF := by
  intro o
  have hfresh : (freshWarp (o % frozenWarpCount)).WF := freshWarp_wf (Nat.mod_lt o (by decide))
  have hzero : LaneMask.Valid 0#8 := by decide
  exact { hfresh with active := hzero, lifecycle := rfl, pc := hpc }

theorem coldCore_driven (memory : σ) (hpc : ¬ misaligned e.launch.startupPC) :
    (World.setCTAManager 0 (e.coldCore memory)).2.Driven 0 := by
  have hinv : (e.coldCore memory).Inv :=
    World.new_inv (e.owners_wf hpc) (fun _ => .inr rfl) (e.coldCore_new memory)
  have hheld : World.Held (e.coldCore memory) (World.setCTAManager 0 (e.coldCore memory)).2 :=
    (World.setCTAManager_held 0).after hinv.held
  exact ⟨hheld.inv, rfl, rfl, rfl⟩

variable {e}

/-- Where a new execution starts. -/
theorem newExecution_eq_ok {memory : σ} (h : e.newExecution memory = .ok execution) :
    ¬ misaligned e.launch.startupPC ∧ ∃ walker, newGridWalker e.launch = .ok walker ∧
      execution = { runtime := {
        core := (World.setCTAManager 0 (e.coldCore memory)).2, walker }, launch := e.launch } := by
  unfold newExecution newRuntime at h
  simp only [ok_iff] at h
  obtain ⟨runtime, ⟨hpc, localMemory, hlocal, core, hcore, -, walker, hwalker, rfl⟩, rfl⟩ := h
  obtain rfl : zeroMemory = localMemory := by
    exact Except.ok.inj hlocal
  cases hcore
  exact ⟨hpc, walker, hwalker, rfl⟩

end KernelExecutor

/-! ## The books between the calls -/

section

variable {launch : LaunchState} {hv : launch.Valid}

/-- The events of a call are part of the past of the next one. -/
theorem Kernel.Settled.rebase (h : Kernel.Settled hv past s) :
    Kernel.Settled hv (past ++ logOf s.result.ctaEvents) { execution := s.execution } := by
  obtain ⟨⟨k, hsound, hdvd⟩, hrecorded, hpending⟩ := h
  have hlog : past ++ logOf s.result.ctaEvents ++ logOf [] = past ++ logOf s.result.ctaEvents :=
    List.append_nil _
  refine ⟨⟨k, ⟨hsound.launched, hsound.walker, hsound.core, ?_, ?_, KernelRunResult.counts_zero⟩,
    hdvd⟩, hrecorded, hpending⟩
  · exact hlog.symm ▸ hsound.books
  · exact hlog.symm ▸ hsound.orderly

/-- The books of a session are in order. -/
structure KernelSession.Ok (hv : launch.Valid) (c : KernelSession σ) : Prop where
  settled : Kernel.Settled hv (logOf c.events) { execution := c.execution }
  done : c.execution.complete = true → Kernel.Done c.execution.runtime

namespace KernelSession.Ok

variable {c : KernelSession σ}

theorem run (h : c.Ok hv) (hrun : c.execution.run sf options = (.error stop, s)) :
    Kernel.Stopped hv (logOf c.events) stop s := by
  unfold KernelExecution.run at hrun
  split at hrun
  · rename_i hcomplete
    cases hrun
    exact ⟨h.settled, ⟨fun _ => rfl, fun _ => hcomplete⟩, fun _ => h.done hcomplete, fun err =>
      ⟨(Option.some_ne_none _).symm, (Option.some_ne_none _).symm⟩⟩
  · rename_i hcomplete
    exact (Kernel.runLoop_leads sf options _).of_error
      ⟨h.settled, Bool.eq_false_iff.mpr hcomplete⟩ hrun

theorem perform (h : c.Ok hv) (sf : SoftFloat) (call : KernelCall) : (c.perform sf call).Ok hv := by
  cases call with
  | run options =>
    obtain ⟨stop, s, hrun, -⟩ := c.execution.run_stops sf options
    have hstopped := h.run hrun
    have hperform : c.perform sf (.run options) =
        { execution := s.execution, events := c.events ++ s.result.ctaEvents } := by
      unfold KernelSession.perform
      dsimp only
      rw [hrun]
    rw [hperform]
    refine ⟨?_, fun hcomplete => hstopped.done (hstopped.complete.mp hcomplete)⟩
    have hsettled := hstopped.settled.rebase
    have hlog : logOf (c.events ++ s.result.ctaEvents) =
        logOf c.events ++ logOf s.result.ctaEvents := List.map_append
    exact hlog.symm ▸ hsettled
  | completeBarrierEvent key =>
    unfold KernelSession.perform KernelExecution.completeBarrierEvent
    dsimp only
    split
    · exact h
    · rename_i hcomplete
      rw [Bool.not_eq_true] at hcomplete
      obtain ⟨k, hsound, -⟩ := h.settled.sound
      obtain ⟨hdriven, who, hsteady⟩ := hsound.core.completeBarrierEvent key
      have hlooping : Kernel.Looping hv (logOf c.events) { execution := c.execution } :=
        ⟨h.settled, hcomplete⟩
      refine ⟨(hlooping.setCore hdriven (hsteady.managers 0).residents.none_iff).1, fun hc => ?_⟩
      exact absurd (hcomplete.symm.trans hc) Bool.false_ne_true

theorem performAll (h : c.Ok hv) (sf : SoftFloat) (calls : List KernelCall) :
    (c.performAll sf calls).Ok hv := by
  induction calls generalizing c with
  | nil => exact h
  | cons call calls ih => exact ih (h.perform sf call)

end KernelSession.Ok

end

/-- A new execution has its books in order. -/
theorem KernelExecutor.newExecution_ok {executor : KernelExecutor σ} (hv : executor.launch.Valid)
    (hnormal : validateLaunch executor.launch = .ok executor.launch) {memory : σ}
    (h : executor.newExecution memory = .ok e) : KernelSession.Ok hv { execution := e } := by
  obtain ⟨hpc, walker, hwalker, rfl⟩ := newExecution_eq_ok h
  unfold newGridWalker at hwalker
  rw [hnormal] at hwalker
  cases hwalker
  refine ⟨⟨⟨0, ?_, Nat.dvd_zero _⟩, fun _ => ⟨fun _ => rfl, fun _ => rfl⟩, .inl rfl⟩, ?_⟩
  · exact ⟨rfl, GridWalker.at_initial hv, executor.coldCore_driven memory hpc, books_nil,
      orderly_nil _, KernelRunResult.counts_zero⟩
  · intro hcomplete
    exact absurd hcomplete Bool.false_ne_true

/-! ## Any calls -/

theorem newKernelExecutor_ok (h : newKernelExecutor input memory = .ok executor) :
    validateLaunch input = .ok executor.launch := by
  unfold newKernelExecutor at h
  simp only [ok_iff] at h
  obtain ⟨launch, hlaunch, rfl⟩ := h
  exact hlaunch

/-- The session of an executor after some calls on a new execution. -/
theorem KernelExecutor.session_ok {input : LaunchState} {memory : BackingMemory σ}
    {executor : KernelExecutor σ} (hexecutor : newKernelExecutor input memory = .ok executor)
    (hnew : executor.newExecution m = .ok e) (sf : SoftFloat) (calls : List KernelCall) :
    ∃ hv : executor.launch.Valid, (KernelSession.performAll sf calls { execution := e }).Ok hv := by
  have hlaunch := newKernelExecutor_ok hexecutor
  have hv := validateLaunch_valid hlaunch
  exact ⟨hv, (newExecution_ok hv (validateLaunch_normalized hlaunch) hnew).performAll sf calls⟩

/-- No CTA leaves local memory in use behind it. -/
theorem CTAManager.allocationIntervals_nil {m : CTAManager} (h : ∀ slot, m.ctas slot = none) :
    m.allocationIntervals = [] := by
  unfold CTAManager.allocationIntervals
  rw [List.filterMap_eq_nil_iff]
  intro slot _
  rw [h slot]
  rfl

/-- The boundaries a CTA passes: over any calls on a new execution, and at each point of the
next one, each CTA of the grid is generated, admitted and completed at most once and in that
order.  The next call returns, its counters count its events, and where it reports completion
every CTA has been completed and the core is empty. -/
theorem KernelExecutor.calls_orderly {input : LaunchState} {memory : BackingMemory σ}
    {executor : KernelExecutor σ} (hexecutor : newKernelExecutor input memory = .ok executor)
    {m : σ} {e : KernelExecution σ} (hnew : executor.newExecution m = .ok e) (sf : SoftFloat)
    (calls : List KernelCall) (options : KernelRunOptions) :
    let c := KernelSession.performAll sf calls { execution := e }
    let total := executor.launch.totalCTAs.toNat
    ∃ stop s, c.execution.run sf options = (.error stop, s) ∧ s.result.Counts ∧
      (∀ before, before <+: c.events ++ s.result.ctaEvents → Ledger.Sound total (logOf before) ∧
        (passed .left (logOf before)).length ≤ (passed .entered (logOf before)).length ∧
        (passed .entered (logOf before)).length ≤ (passed .created (logOf before)).length ∧
        (passed .created (logOf before)).length ≤ total) ∧
      (stop.outcome = .complete →
        (∀ stage, (passed stage (logOf (c.events ++ s.result.ctaEvents))).length = total) ∧
        (∀ id, (s.runtime.core.core.slots id).lifecycle = .inactive ∧
          (s.runtime.core.warp id).lifecycle = .inactive) ∧
        (∀ slot, (s.runtime.core.managers 0).ctas slot = none) ∧
        (s.runtime.core.managers 0).allocationIntervals = []) := by
  intro c total
  obtain ⟨hv, hok⟩ := session_ok hexecutor hnew sf calls
  obtain ⟨stop, s, hrun, -⟩ := c.execution.run_stops sf options
  have hstopped := hok.run hrun
  obtain ⟨k, hsound, -⟩ := hstopped.settled.sound
  have hlog : logOf (c.events ++ s.result.ctaEvents) =
      logOf c.events ++ logOf s.result.ctaEvents := List.map_append
  refine ⟨stop, s, hrun, hsound.counts, ?_, ?_⟩
  · intro before hbefore
    have hpoint := hsound.orderly (logOf before) (hlog ▸ hbefore.map CTAEvent.entry)
    exact ⟨hpoint, hpoint.counts⟩
  · intro hcomplete
    have hdone := hstopped.done hcomplete
    have hctas : ∀ slot, (s.runtime.core.managers 0).ctas slot = none := fun slot =>
      (hstopped.settled.recorded slot).mp (hdone.resident slot)
    refine ⟨fun stage => ?_, fun id => ⟨(hdone.quiet id).1, (hdone.quiet id).2.2.2.1⟩, hctas,
      CTAManager.allocationIntervals_nil hctas⟩
    have hwalked := hsound.walker.remaining
    rw [hdone.walked] at hwalked
    have hk : k = total := by
      have hbounded := hsound.walker.bounded
      change 0 = _ at hwalked
      omega
    have hbooks := hsound.books
    rw [hdone.pending] at hbooks
    rw [hlog, ← hk]
    refine hbooks.closed (fun slot => ?_) stage
    rw [hdone.resident slot]
    rfl

/-! ### CTAs of two warps -/

def imageBacking : BackingMemory Memory where
  read := Memory.read
  write := Memory.write
  writeBatch := Memory.writeBatch

/-- A grid of one CTA with two warps. -/
def soloGrid : LaunchState where
  gridDimensions := fun _ => 1#32
  blockDimensions := ![8#32, 1#32, 1#32]
  blockSize := 8#32
  warpStep := ![4#32, 0#32, 0#32]
  clusterDimensions := fun _ => 1#32

/-- Three such CTAs.  A warp that is used again goes back by the dispatch window. -/
def rowGrid : LaunchState :=
  { soloGrid with gridDimensions := ![3#32, 1#32, 1#32], startupPC := frozenCTAReentryBytes }

/-- A warp ends wherever it enters. -/
def stopsImage : Memory where
  data := (List.replicate 8 stopImage.data).flatten
  fits := by decide

/-- What is computed from an executor of a grid and a new execution. -/
def gridRun {α : Type} (grid : LaunchState) (image : Memory)
    (f : KernelExecutor Memory → KernelExecution Memory → α) : Option α :=
  (do
    let executor ← newKernelExecutor grid imageBacking
    let e ← executor.newExecution image
    pure (f executor e)).toOption

theorem gridRun_eq (h : gridRun grid image f = some a) : ∃ executor e,
      newKernelExecutor grid imageBacking = .ok executor ∧
      executor.newExecution image = .ok e ∧ f executor e = a := by
  unfold gridRun at h
  generalize hrun : newKernelExecutor grid imageBacking >>= _ = r at h
  cases r with
  | error err => cases h
  | ok b =>
    cases h
    simp only [ok_iff] at hrun
    obtain ⟨executor, hexecutor, e, hnew, rfl⟩ := hrun
    exact ⟨executor, e, hexecutor, hnew, rfl⟩

/-- The outcome of a call. -/
def outcomeOf (ended : Except KernelStop Unit × Running σ) : Option KernelOutcome :=
  match ended.1 with
  | .error stop => some stop.outcome
  | .ok () => none

/-- Three CTAs on a core with room for two: each of them passes every boundary. -/
theorem KernelExecutor.calls_orderly_row : ∃ executor e,
    newKernelExecutor rowGrid imageBacking = .ok executor ∧
    executor.newExecution stopsImage = .ok e ∧
    ∃ stop s, e.run zeroFloat { stepBudget := 6 } = (.error stop, s) ∧
      (∀ stage, (passed stage (logOf s.result.ctaEvents)).length = 3) ∧
      (s.runtime.core.managers 0).allocationIntervals = [] := by
  have hcomplete : gridRun rowGrid stopsImage (fun executor e =>
      (executor.launch.totalCTAs, outcomeOf (e.run zeroFloat { stepBudget := 6 }))) =
        some (3#32, some .complete) := by decide +kernel
  obtain ⟨executor, e, hexecutor, hnew, hvalues⟩ := gridRun_eq hcomplete
  obtain ⟨htotal, houtcome⟩ := Prod.mk.inj hvalues
  obtain ⟨stop, s, hrun, -, -, hend⟩ :=
    calls_orderly hexecutor hnew zeroFloat [] { stepBudget := 6 }
  change e.run zeroFloat { stepBudget := 6 } = _ at hrun
  rw [hrun] at houtcome
  obtain ⟨hpassed, -, -, hempty⟩ := hend (Option.some_inj.mp houtcome)
  rw [htotal] at hpassed
  exact ⟨executor, e, hexecutor, hnew, stop, s, hrun, hpassed, hempty⟩

/-! ## Clusters and cores -/

/-- A cluster of an accepted launch is admitted by every core with a dynamic manager, or refused
for a lack of resources where some CTA is resident.  So no call on an execution of the launch
ends because of a refused cluster, least of all one that an empty core refuses. -/
theorem LaunchState.clusters_admitted {input launch : LaunchState}
    (h : validateLaunch input = .ok launch) :
    (∀ k, launch.clusterSize.toNat ∣ k → k + launch.clusterSize.toNat ≤ launch.totalCTAs.toNat →
      ∀ (σ : Type) (sf : SoftFloat) (executors : List (Executor σ)) (owners : Owners)
        (managers : Managers) (localMemories : LocalMemories) (memory : σ) (w : World σ),
      owners.WF → managers.Fresh →
      World.new executors owners managers localMemories memory = .ok w →
      ∀ (ops : List (CoreOp σ)) (manager : ManagerID),
      (w.run sf ops).core.ctas = some manager →
      ((w.run sf ops).managers manager).dynamic = true →
      let cluster := ((GridWalker.after k { launch }).emit launch.clusterSize.toNat).map
        CTA.coreConfig
      (∃ admitted, (World.admitCTACluster cluster (w.run sf ops)).1 = .ok admitted) ∨
        (∃ detail, (World.admitCTACluster cluster (w.run sf ops)).1 =
          .error (.resourcesUnavailable detail)) ∧
        ∃ slot, ((w.run sf ops).managers manager).ctas slot ≠ none) ∧
    ∀ (σ : Type) (sf : SoftFloat) (backing : BackingMemory σ) (executor : KernelExecutor σ)
      (memory : σ) (e : KernelExecution σ), newKernelExecutor input backing = .ok executor →
      executor.newExecution memory = .ok e →
      ∀ (calls : List KernelCall) (options : KernelRunOptions) (stop : KernelStop) (s : Running σ),
      (KernelSession.performAll sf calls { execution := e }).execution.run sf options =
        (.error stop, s) →
      ∀ err, stop.err ≠ some (.admission err) ∧ stop.err ≠ some (.refusedByEmptyCore err) := by
  have hv := validateLaunch_valid h
  refine ⟨?_, ?_⟩
  · intro k hdvd hk σ sf executors owners managers localMemories memory w howners hmanagers hnew
      ops manager hctas hdynamic cluster
    have hpos := hv.size_pos
    have hfull := hv.full (by omega)
    have hstands := (GridWalker.stands_initial hv hfull).after (n := k) (by omega)
    rw [Nat.zero_add] at hstands
    have hinv : (w.run sf ops).Inv := (World.new_inv howners hmanagers hnew).run sf ops
    have hends := (hstands.cluster hdvd hk).prepare hv hinv hctas hdynamic
    cases hprepare : World.prepareAdmission cluster (w.run sf ops) with
    | ok admitted =>
      rw [World.admitCTACluster_done hprepare]
      exact .inl ⟨_, rfl⟩
    | error err =>
      rw [hprepare] at hends
      obtain ⟨hbusy, detail, rfl⟩ := hends
      rw [World.admitCTACluster_refused hprepare]
      exact .inr ⟨⟨detail, rfl⟩, hbusy⟩
  · intro σ sf backing executor memory e hexecutor hnew calls options stop s hrun
    obtain ⟨_, hok⟩ := KernelExecutor.session_ok hexecutor hnew sf calls
    exact (hok.run hrun).admission

/-- The cluster of the single CTA, on a core that has just been attached. -/
theorem LaunchState.clusters_admitted_solo : ∃ launch, validateLaunch soloGrid = .ok launch ∧
    ∃ admitted, (World.admitCTACluster
      ((GridWalker.emit launch.clusterSize.toNat { launch }).map CTA.coreConfig)
      ((World.imageWorld stopImage).run zeroFloat [.setCTAManager 0])).1 = .ok admitted := by
  have hone : gridRun soloGrid stopImage (fun executor _ =>
      (executor.launch.clusterSize.toNat, executor.launch.totalCTAs.toNat)) = some (1, 1) := by
    decide +kernel
  obtain ⟨executor, -, hexecutor, -, hsizes⟩ := gridRun_eq hone
  obtain ⟨hsize, htotal⟩ := Prod.mk.inj hsizes
  have hlaunch := newKernelExecutor_ok hexecutor
  have hroom : 0 + executor.launch.clusterSize.toNat ≤ executor.launch.totalCTAs.toNat := by
    rw [hsize, htotal]
  refine ⟨executor.launch, hlaunch, ?_⟩
  rcases (clusters_admitted hlaunch).1 0 (Nat.dvd_zero _) hroom Memory zeroFloat _ _ _ _ _ _
    World.idleWarps_wf (fun _ => .inr rfl) (World.imageWorld_new stopImage) [.setCTAManager 0] 0
    (by decide +kernel) (by decide +kernel) with hok | ⟨-, slot, hslot⟩
  · exact hok
  · have hfree : ∀ slot, (((World.imageWorld stopImage).run zeroFloat
        [.setCTAManager 0]).managers 0).ctas slot = none := fun _ => rfl
    exact absurd (hfree slot) hslot

end VortexSim
