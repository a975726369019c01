import VortexSim.Core.Step
import VortexSim.Device.Launch

/-!
# The kernel loop

A `KernelExecution` walks the grid of a launch over one core.  Each turn of its loop reclaims
the CTAs that have completed, generates the next cluster where none is pending, tries to admit
the pending one, and otherwise lets the core take a step.  A call to `Run` ends with an outcome
and can be followed by another one, which goes on with the same owners.

The counters and the CTA events describe one call; the trace is what the sink of the call was
given.
-/

namespace VortexSim

open Checked Stateful

variable {σ : Type}

/-! ## Results -/

/-- How a run ends. -/
inductive KernelOutcome where
  | complete
  | budgetExceeded
  | blocked
  | deferred
  | trap
  | fault
  deriving Repr, DecidableEq

/-- The errors a call to `Run` can end with. -/
inductive KernelError where
  | error (err : Error)
  /-- An error of `AdmitCTACluster` that is not a lack of resources. -/
  | admission (err : Error)
  /-- "validated cluster cannot be admitted to an empty core", with the error that says why. -/
  | refusedByEmptyCore (err : Error)
  /-- `KernelBudgetExceededError`. -/
  | budgetExceeded (budget : Nat)
  /-- `KernelBlockedError`. -/
  | blocked (residentCTAs pendingCluster : Nat)
  /-- `KernelDeferredError`. -/
  | deferred (warpID : WarpID) (reason : BlockReason)
  /-- The error of the step of a warp. -/
  | step (fault : StepFault)

/-- How a call to `Run` ends: the fields `Outcome` and `Err` of its result. -/
structure KernelStop where
  outcome : KernelOutcome
  err : Option KernelError := none

def KernelStop.fault (err : Error) : KernelStop where
  outcome := .fault
  err := some (.error err)

/-- The boundaries of a CTA. -/
inductive CTAEventKind where
  | generated
  | admitted
  | completed
  deriving Repr, DecidableEq

/-- A boundary a CTA has passed, with its resident record where it has one. -/
structure CTAEvent where
  kind : CTAEventKind
  cta : CTA
  resident : Option CTAState := none

/-- What a trace shows. -/
inductive KernelObservation where
  | cta (event : CTAEvent)
  | core (attempt : Nat) (step : CoreStep)

/-- A numbered observation. -/
structure KernelTraceRecord where
  sequence : Nat
  observed : KernelObservation

/-- What one call to `Run` has done. -/
structure KernelRunResult where
  attempts : Nat := 0
  retired : Nat := 0
  generated : Nat := 0
  admitted : Nat := 0
  completed : Nat := 0
  ctaEvents : List CTAEvent := []
  last : Option KernelTraceRecord := none
  lastCore : Option CoreStep := none

/-- A missing `Context` of the source is the constant zero view. -/
structure KernelRunOptions where
  stepBudget : Nat
  context : Nat → ReadContext := fun _ => {}

/-! ## Owners -/

/-- `BackingMemory`: the caller's global memory. -/
structure BackingMemory (σ : Type) where
  read : σ → Word → Nat → Except Error (List Byte)
  write : σ → Word → List Byte → σ × Option Error
  writeBatch : σ → List Word → List (List Byte) → σ × Option Error

/-- As the service of a warp. -/
def BackingMemory.service (memory : BackingMemory σ) : DataService σ where
  read := memory.read
  write := memory.write
  writeBatch := some memory.writeBatch

/-- The core, the grid and the CTAs between them. -/
structure KernelRuntime (σ : Type) where
  core : World σ
  walker : GridWalker
  pending : List CTA := []
  resident : CTASlot → Option CTA := fun _ => none

/-- A launch that may be run in several calls. -/
structure KernelExecution (σ : Type) where
  runtime : KernelRuntime σ
  launch : LaunchState
  sequence : Nat := 0
  complete : Bool := false

/-- `KernelExecutor`. -/
structure KernelExecutor (σ : Type) where
  launch : LaunchState
  memory : BackingMemory σ

/-- `NewKernelExecutor`. -/
def newKernelExecutor (input : LaunchState) (memory : BackingMemory σ) :
    Except Error (KernelExecutor σ) := do
  let launch ← validateLaunch input
  pure { launch, memory }

/-- The state `NewWarp` makes of an inactive warp with nothing set but its PC. -/
def inactiveWarp (id : Nat) (pc : Word) : WarpState where
  id := id
  pc := pc
  activeMask := 0#8
  lifecycle := .inactive
  savedThreadMask := 0#8
  fcsr := 0#8
  trapCSRs := {}
  divergence := {}
  lanes := fun _ => {}

namespace KernelExecutor

variable (e : KernelExecutor σ)

/-- The warp with a number, which is also the identity of its state. -/
def executor (id : WarpID) : Executor σ where
  owner := id.val
  fetch := fun _ s => e.memory.read s.2
  data := .cta { manager := 0, warpID := id, globalMemory := e.memory.service }

/-- The states of the warps.  Only the first four identities are used. -/
def owners : Owners := fun owner =>
  inactiveWarp (owner % frozenWarpCount) e.launch.startupPC

/-- `newRuntime`.  Every manager is new and dynamic; the core is attached to the first. -/
def newRuntime (memory : σ) : Except Error (KernelRuntime σ) := do
  rejectIf (misaligned e.launch.startupPC) (.wrapped "device: initialize warp 0"
      (.text s!"state: PC {hex e.launch.startupPC.toNat} is not four-byte aligned"))
  let localMemory ← Memory.new frozenLocalMemSize
  let core ← (World.new ((List.finRange frozenWarpCount).map e.executor)
    e.owners (fun _ => CTAManager.newDynamic)
    (fun _ => localMemory) memory).mapError (.wrapped "device: create dynamic core")
  let attached := World.setCTAManager 0 core
  attached.1.mapError (.wrapped "device: create dynamic core")
  let walker ← newGridWalker e.launch
  pure { core := attached.2, walker }

/-- `NewExecution`. -/
def newExecution (memory : σ) : Except Error (KernelExecution σ) := do
  let runtime ← e.newRuntime memory
  pure { runtime, launch := e.launch }

end KernelExecutor

/-! ## Completion -/

/-- The slot of a warp retains nothing. -/
def World.RetainsNothing (w : World σ) (id : WarpID) : Prop :=
  (w.core.slots id).lifecycle = .inactive ∧ (w.core.slots id).participated = false ∧
    (w.core.slots id).blockReason = .none ∧ (w.warp id).lifecycle = .inactive ∧
    (w.warp id).activeMask = 0#8 ∧ (w.core.slots id).barrierWait = false ∧
    (w.core.slots id).barrierDrain = false

instance (w : World σ) (id : WarpID) : Decidable (w.RetainsNothing id) :=
  inferInstanceAs (Decidable (_ ∧ _))

namespace KernelRuntime

variable (r : KernelRuntime σ)

/-- The slots with a generation record. -/
def residents : List CTASlot :=
  (List.finRange frozenWarpCount).filter fun slot => (r.resident slot).isSome

/-- `complete`. -/
def complete : Except Error Bool :=
  if r.walker.remaining ≠ 0#32 ∨ r.pending.length ≠ 0 ∨ r.residents.length ≠ 0 then pure false
  else do
    let completions ← r.core.ctaCompletions
    rejectIf (completions.length ≠ 0)
      (.text s!"device: no resident mapping but Core retains {completions.length} CTAs")
    r.core.validate
    each (fun _ (id : WarpID) => rejectIf (¬ r.core.RetainsNothing id)
      (.text s!"device: lower owner retains work in warp slot {id.val}"))
      0 (List.finRange frozenWarpCount)
    pure true

end KernelRuntime

/-- `CompleteBarrierEvent`. -/
def KernelExecution.completeBarrierEvent (key : RawBarrierKey) :
    Act (KernelExecution σ) Error Unit := fun e =>
  if e.complete then
    (.error (.text "device: completed kernel execution has no pending barrier event"), e)
  else
    let ended := World.completeBarrierEvent key e.runtime.core
    (ended.1, { e with runtime := { e.runtime with core := ended.2 } })

/-! ## One call -/

/-- A call to `Run` under way: the execution, the result so far and what the sink was given. -/
structure Running (σ : Type) where
  execution : KernelExecution σ
  result : KernelRunResult := {}
  trace : List KernelTraceRecord := []

/-- A part of `Run`. -/
abbrev KernelAct (σ α : Type) := Act (Running σ) KernelStop α

namespace Running

variable (s : Running σ)

abbrev runtime : KernelRuntime σ := s.execution.runtime

def setRuntime (runtime : KernelRuntime σ) : Running σ :=
  { s with execution := { s.execution with runtime } }

/-- Number a record and hand it out. -/
def record (observed : KernelObservation) : Running σ :=
  let entry := { sequence := s.execution.sequence, observed }
  { execution := { s.execution with sequence := s.execution.sequence + 1 }
    result := { s.result with last := some entry }
    trace := s.trace ++ [entry] }

/-- `emitEvent`. -/
def emitEvent (event : CTAEvent) : Running σ :=
  { s with result := { s.result with ctaEvents := s.result.ctaEvents ++ [event] } }.record
    (.cta event)

/-- `emitCore`. -/
def emitCore (attempt : Nat) (step : CoreStep) : Running σ :=
  { s with result := { s.result with lastCore := some step } }.record (.core attempt step)

/-- A CTA is no longer resident. -/
def completes (slot : CTASlot) (cta : CTA) (reclaimed : CTAState) : Running σ :=
  let s := s.setRuntime { s.runtime with
    resident := Function.update s.runtime.resident slot none }
  { s with result := { s.result with completed := s.result.completed + 1 } }.emitEvent
    { kind := .completed, cta, resident := some reclaimed }

/-- The walker has moved on and its CTA waits for admission. -/
def generates (cta : CTA) (walker : GridWalker) : Running σ :=
  let s := s.setRuntime { s.runtime with walker, pending := s.runtime.pending ++ [cta] }
  { s with result := { s.result with generated := s.result.generated + 1 } }.emitEvent
    { kind := .generated, cta }

/-- A CTA of the cluster has become resident. -/
def admits (cta : CTA) (snapshot : CTAState) : Running σ :=
  let slot : CTASlot := Fin.ofNat frozenWarpCount snapshot.config.id.toNat
  let s := s.setRuntime { s.runtime with
    resident := Function.update s.runtime.resident slot (some cta) }
  { s with result := { s.result with admitted := s.result.admitted + 1 } }.emitEvent
    { kind := .admitted, cta, resident := some snapshot }

/-- The core has made an attempt. -/
def attempts (step : CoreStep) : Running σ :=
  { s with result := { s.result with attempts := s.result.attempts + 1 } }.emitCore
    s.result.attempts step

end Running

namespace Kernel

/-- Run an operation of the core and go on with the way it ended. -/
def onCore {α : Type} (x : Act (World σ) Error α) : KernelAct σ (Except Error α) := fun s =>
  let ended := x s.runtime.core
  (.ok ended.1, s.setRuntime { s.runtime with core := ended.2 })

/-- A check whose error is a fault of the kernel. -/
def check {α : Type} (f : KernelRuntime σ → Except Error α) : KernelAct σ α :=
  Act.examine fun s => (f s.runtime).mapError KernelStop.fault

/-- Reclaim one CTA. -/
def reclaim (completion : World.CTACompletionSnapshot) : KernelAct σ Unit :=
  if completion.complete = false then pure ()
  else do
    let slot : CTASlot := Fin.ofNat frozenWarpCount completion.ctaID
    let cta ← check fun r =>
      match r.resident slot with
      | some cta => .ok cta
      | none => .error (.text
          s!"device: resident CTA slot {completion.ctaID} has no generation record")
    match ← onCore (World.reclaimCTA completion.ctaID) with
    | .error err => Act.fail (.fault (.wrapped s!"device: reclaim CTA slot {completion.ctaID}" err))
    | .ok reclaimed => Act.update fun s => s.completes slot cta reclaimed

/-- `reclaimCompleted`. -/
def reclaimCompleted : KernelAct σ Unit := do
  let completions ← check fun r => r.core.ctaCompletions
  Act.forEach reclaim completions

/-- End the call where everything is done. -/
def finishComplete : KernelAct σ Unit := do
  if ← check KernelRuntime.complete then
    Act.update fun s => { s with execution := { s.execution with complete := true } }
    Act.fail { outcome := .complete }
  else pure ()

/-- Generate the next CTA of a cluster. -/
def generateNext (_ : Nat) : KernelAct σ Unit := do
  let (cta, walker) ← check fun r =>
    match r.walker.next with
    | some found => .ok found
    | none => .error (.text "device: grid walker ended inside a cluster")
  Act.update fun s => s.generates cta walker

/-- Generate the next cluster where none is pending. -/
def generate : KernelAct σ Unit := do
  let e ← Act.gets Running.execution
  if e.runtime.pending.length = 0 ∧ e.runtime.walker.remaining ≠ 0#32 then
    Act.forEach generateNext (List.range e.launch.clusterSize.toNat)
  else pure ()

/-- The part of a turn before the admission. -/
def settle : KernelAct σ Unit := do
  reclaimCompleted
  finishComplete
  generate

/-- `errors.Is` of `ErrCTAResourcesUnavailable`. -/
def resourcesUnavailable : Error → Bool
  | .resourcesUnavailable _ => true
  | .wrapped _ cause => resourcesUnavailable cause
  | _ => false

/-- Enter an admitted cluster into the records. -/
def recordAdmitted (pending : List CTA) (admitted : List CTAState) : KernelAct σ Unit := do
  Act.forEach (fun entry => Act.update fun s => s.admits entry.1 entry.2) (pending.zip admitted)
  Act.update fun s => s.setRuntime { s.runtime with pending := [] }

/-- Try to admit the pending cluster.  The answer is whether it was admitted. -/
def admitPending : KernelAct σ Bool := do
  let pending ← Act.gets fun s : Running σ => s.runtime.pending
  if pending.length = 0 then pure false
  else
    match ← onCore (World.admitCTACluster (pending.map CTA.coreConfig)) with
    | .ok admitted => do
        recordAdmitted pending admitted
        pure true
    | .error err => do
        if resourcesUnavailable err = false then
          Act.fail { outcome := .fault, err := some (.admission err) }
        else if (← Act.gets Running.runtime).residents.length = 0 then
          Act.fail { outcome := .fault, err := some (.refusedByEmptyCore err) }
        else pure false

/-- What follows from a step the core has taken. -/
def afterStep (step : CoreStep) : KernelAct σ Unit :=
  match step.error with
  | some err => Act.fail (.fault err)
  | none =>
    match step.warpResult.outcome with
    | .retired => Act.update fun s =>
      { s with result := { s.result with retired := s.result.retired + 1 } }
    | .deferred => Act.fail {
        outcome := .deferred, err := some (.deferred step.warpID step.blockReason) }
    | .trap => Act.fail { outcome := .trap, err := step.warpResult.fault.map .step }
    | .fault => Act.fail { outcome := .fault, err := step.warpResult.fault.map .step }
    | .finished => Act.fail (.fault (.text
        (s!"device: Core selected warp {step.warpID.val} with unexpected outcome" ++ " finished")))

variable (sf : SoftFloat) (options : KernelRunOptions)

/-- Let the core take a step. -/
def takeStep (context : ReadContext) : KernelAct σ Unit := do
  match ← onCore (World.step sf context) with
  | .error err => Act.fail (.fault err)
  | .ok none => do
      let r ← Act.gets Running.runtime
      Act.fail {
        outcome := .blocked
        err := some (.blocked r.residents.length r.pending.length) }
  | .ok (some step) => do
      Act.update fun s => s.attempts step
      afterStep step

/-- One attempt of the core within the budget. -/
def attemptStep : KernelAct σ Unit := do
  let attempt ← Act.gets fun s : Running σ => s.result.attempts
  if options.stepBudget ≤ attempt then
    Act.fail { outcome := .budgetExceeded, err := some (.budgetExceeded options.stepBudget) }
  else takeStep sf (options.context attempt)

/-- One turn of the loop. -/
def iterate : KernelAct σ Unit := do
  settle
  if ← admitPending then pure () else attemptStep sf options

/-- The loop, as long as it has fuel.  It ends with a `KernelStop`. -/
def runLoop : Nat → KernelAct σ Unit
  | 0 => pure ()
  | fuel + 1 => do
      iterate sf options
      runLoop fuel

/-- The turns a call can take: each admits a pending or a remaining CTA, spends an attempt, or
is the last. -/
def turns (r : KernelRuntime σ) : Nat :=
  r.walker.remaining.toNat + r.pending.length + options.stepBudget + 1

end Kernel

/-- `Run` of an execution. -/
def KernelExecution.run (sf : SoftFloat) (options : KernelRunOptions) (e : KernelExecution σ) :
    Except KernelStop Unit × Running σ :=
  if e.complete then (.error { outcome := .complete }, { execution := e })
  else Kernel.runLoop sf options (Kernel.turns options e.runtime) { execution := e }

end VortexSim
