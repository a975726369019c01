import VortexSim.Timing.Wait

/-!
# Scheduling and fetch

The scheduler picks the lowest warp that may fetch and stalls it until its instruction is
decoded or, for control instructions, until the result of the instruction comes back as
feedback.  All of its decisions look at registers of the edge before.
-/

namespace VortexSim.Timing

open Checked Elastic

/-! ## Fetch -/

/-- The fetch requests under way. -/
structure Fetch where
  request : Buffer Token 2 := .empty
  iflush : Buffer Token 2 := .empty
  tags : WaitPool .fetch := {}
  /-- The requests taken by the instruction service and not answered. -/
  issued : List Token := []

/-- The tokens in all resources. -/
def Fetch.residents (f : Fetch) : List Token :=
  f.request.queue ++ f.iflush.queue ++ f.tags.entries.map Pending.token

/-- The ports of fetch. -/
structure FetchResult where
  transfer : Transfer Token
  request : Signal
  requestAccepted : Bool

/-- `Evaluate`. -/
def Fetch.evaluate (f : Fetch) (input : Signal) (response : Option Response)
    (requestReady decodeReady : Bool) : Except Error (FetchResult × Fetch) := do
  rejectIf (∃ r ∈ response, ∀ t ∈ f.issued, t.identity ≠ r.identity)
    (.text "fetch response before external request acceptance or stale identity")
  let (flushT, iflush) := f.iflush.evaluate f.request.queue.head? requestReady
  let (probe, _) ← f.tags.evaluate input response decodeReady
  let (requestT, request) :=
    f.request.evaluate (gated probe.inputReady input) flushT.inputReady
  let (tagsT, tags) ← f.tags.evaluate (gated requestT.inputReady input) response decodeReady
  let left := unanswered f.issued response tagsT.completed
  pure ({ transfer :=
            transfer input tagsT.output (probe.inputReady && requestT.inputReady) decodeReady
          request := flushT.output
          requestAccepted := flushT.completed },
    { request, iflush, tags, issued := left ++ crossing flushT.output requestReady })

/-! ## Feedback -/

/-- The producers of feedback. -/
inductive FeedbackKind where
  | spawn
  | tmc
  | split
  | join
  | wake
  | branch
  deriving Repr, DecidableEq

/-- A control result that a producer outside the scheduler has resolved. -/
structure SchedulerFeedback where
  targets : WarpMask := 0#8
  targetPC : Word := 0#32
  token : Token
  kind : FeedbackKind
  updatePC : Bool := false
  updateMask : Bool := false
  pc : Word := 0#32
  mask : LaneMask := 0#8

/-- `orderedFeedback`: the events by the priority of their kind. -/
def orderedFeedback (events : List SchedulerFeedback) : List SchedulerFeedback :=
  [FeedbackKind.spawn, .tmc, .split, .join, .wake, .branch].flatMap fun kind =>
    events.filter fun e => e.kind = kind

/-! ## Scheduler -/

/-- Where a warp fetches. -/
structure WarpContext where
  active : Bool := false
  stalled : Bool := false
  pc : Word := 0#32
  mask : LaneMask := 0#8
  epoch : Nat := 0
  deriving DecidableEq

/-- What the scheduler knows of the warps. -/
structure SchedulerState where
  parked : Fin 4 → Bool := fun _ => false
  singleActive : Bool := false
  warps : Fin 4 → WarpContext
  /-- Instructions between schedule acceptance and the pop from the instruction buffer. -/
  ibufferCount : Fin 4 → Nat := fun _ => 0
  ibufferFull : Fin 4 → Bool := fun _ => false
  allIBuffersFull : Bool := false
  decodeUnlock : Signal := none
  lastControl : Fin 4 → Nat := fun _ => 0

/-- The scheduler with its launch and the next identity. -/
structure Scheduler where
  state : SchedulerState
  launch : Signal := none
  nextID : Nat := 1

/-- The last identity. -/
def maxIdentity : Nat := 2 ^ 64 - 1

/-- `NewScheduler`. -/
def Scheduler.new (warps : Fin 4 → WarpContext) : Except Error Scheduler := do
  each (fun _ w => rejectIf ((warps w).mask &&& ~~~allLanes ≠ 0#8 ∨
      ((warps w).active = true ∧ (warps w).mask = 0#8) ∨ (warps w).pc &&& 3#32 ≠ 0#32)
    (.text "invalid initial front-end context")) 0 (List.finRange 4)
  pure { state := { warps } }

namespace SchedulerState

variable (s : SchedulerState)

/-- A warp that may fetch. -/
def selectable (w : Fin 4) : Bool :=
  (s.warps w).active && !(s.warps w).stalled && !s.parked w &&
    (s.allIBuffersFull || !s.ibufferFull w)

/-- Replace the context of one warp. -/
def setWarp (w : Fin 4) (c : WarpContext) : SchedulerState :=
  { s with warps := Function.update s.warps w c }

/-- A launched warp becomes active. -/
def launched (launch : Signal) : SchedulerState :=
  match launch with
  | none => s
  | some t =>
    { s.setWarp t.warp { s.warps t.warp with active := true, pc := t.pc, mask := t.mask } with
      parked := Function.update s.parked t.warp false }

/-- The decode event of the last edge lets its warp go on, unless the instruction stalls. -/
def unlocked (unlock : Signal) : SchedulerState :=
  match unlock with
  | none => s
  | some t =>
    if t.warpStall then s else s.setWarp t.warp { s.warps t.warp with stalled := false }

/-- The counters of the instruction buffers; full means equal to four. -/
def counted (scheduled : Signal) (pops : Fin 4 → Bool) : SchedulerState :=
  let count := fun w => (s.ibufferCount w + (if scheduled.any fun t => t.warp = w then 1 else 0) -
    (if pops w then 1 else 0)) % 8
  { s with
    ibufferCount := count
    ibufferFull := fun w => decide (count w = 4)
    allIBuffersFull := (List.finRange 4).all fun w => decide (count w = 4) }

/-- The warps started by a spawn. -/
def spawned (e : SchedulerFeedback) : SchedulerState :=
  if e.kind = .spawn then
    { s with warps := fun w =>
        if e.targets.getLsbD w.val then
          { s.warps w with active := true, stalled := false, pc := e.targetPC, mask := 1#8 }
        else s.warps w }
  else s

/-- One feedback event. -/
def resolved (e : SchedulerFeedback) : SchedulerState :=
  let w := e.token.warp
  let c := s.warps w
  let s := s.setWarp w { c with
    pc := if e.updatePC then e.pc else c.pc
    mask := if e.updateMask then e.mask else c.mask
    active := if e.kind = .tmc then decide (e.mask ≠ 0#8) else c.active
    stalled := false }
  { s with
    lastControl := Function.update s.lastControl w (max (s.lastControl w) e.token.id) }.spawned e

/-- The stall of a scheduled warp and the advance of the program counter, after feedback. -/
def advanced (scheduled fetched : Signal) : SchedulerState :=
  let s := match scheduled with
    | none => s
    | some t => s.setWarp t.warp { s.warps t.warp with stalled := true }
  match fetched with
  | none => s
  | some t => s.setWarp t.warp { s.warps t.warp with pc := t.pc + 4#32 }

end SchedulerState

namespace Scheduler

/-- The lowest warp that may fetch. -/
def output (s : Scheduler) : Signal :=
  ((List.finRange 4).find? s.state.selectable).map fun w =>
    { id := s.nextID, epoch := (s.state.warps w).epoch, warp := w, pc := (s.state.warps w).pc,
      mask := (s.state.warps w).mask }

/-- What a kind of event may do. -/
def checkKind (s : SchedulerState) (e : SchedulerFeedback) : Except Error Unit :=
  match e.kind with
  | .spawn => do
      rejectIf (s.singleActive = false ∨ e.targets &&& ~~~allWarps ≠ 0#8 ∨
          e.targets.getLsbD e.token.warp.val = true ∨ e.targetPC &&& 3#32 ≠ 0#32)
        (.text "invalid spawn gate/targets")
      each (fun _ target => do
        rejectIf (target ≠ e.token.warp ∧ (s.warps target).active = true)
          (.text "spawn requires one active warp")
        rejectIf (e.targets.getLsbD target.val = true ∧ s.ibufferCount target ≠ 0)
          (.text "spawn target has pending frontend")) 0 (List.finRange 4)
  | .branch | .join => pure ()
  | .tmc =>
    rejectIf (e.updateMask = false ∨ e.updatePC = true) (.text "TMC requires mask-only update")
  | .split => rejectIf (e.updatePC = true) (.text "SPLIT does not redirect PC")
  | .wake =>
    rejectIf (e.updatePC = true ∨ e.updateMask = true)
      (.text "external wake cannot replace context")

/-- The checks of one event against the registers. -/
def checkFeedback (s : SchedulerState) (e : SchedulerFeedback) : Except Error Unit := do
  rejectIf (e.token.epoch ≠ (s.warps e.token.warp).epoch ∨ e.token.id ≤ s.lastControl e.token.warp)
    (.text "stale or repeated scheduler feedback")
  rejectIf ((s.warps e.token.warp).active = false) (.text "feedback requires an active warp")
  rejectIf ((e.updatePC = true ∧ e.pc &&& 3#32 ≠ 0#32) ∨
      (e.updateMask = true ∧ e.mask &&& ~~~allLanes ≠ 0#8))
    (.text "invalid feedback PC/mask")
  checkKind s e
  rejectIf (e.updateMask = true ∧ e.mask = 0#8 ∧ e.kind ≠ .tmc)
    (.text "only TMC may deactivate a warp")

/-- `validateFeedback`: one event for a producer and for an instruction of a warp. -/
def validateFeedback (s : SchedulerState) (events : List SchedulerFeedback) :
    Except Error Unit := do
  let _ ← foldEach (fun _ (earlier : List SchedulerFeedback) e => do
    rejectIf (e.token.id = 0) (.text "invalid feedback identity")
    rejectIf (∃ x ∈ earlier, x.token.warp = e.token.warp ∧
        (x.kind = e.kind ∨ x.token.id = e.token.id))
      (.text "duplicate scheduler producer or instruction feedback")
    checkFeedback s e
    pure (earlier ++ [e])) 0 [] events

/-- `Evaluate`. -/
def evaluate (s : Scheduler) (scheduleReady : Bool) (fetchAccepted : Signal)
    (pops : Fin 4 → Bool) (decode : Signal) (feedback : List SchedulerFeedback) :
    Except Error (Transfer Token × Scheduler) := do
  let t := transfer none s.output false scheduleReady
  let scheduled := gated t.completed s.output
  validateFeedback s.state feedback
  rejectIf (t.completed = true ∧ s.nextID = maxIdentity) (.text "instruction identity exhausted")
  each (fun _ w => rejectIf (pops w = true ∧ s.state.ibufferCount w = 0 ∧
      ∀ t ∈ scheduled, t.warp ≠ w)
    (.text "IBuffer pop without scheduled instruction")) 0 (List.finRange 4)
  let active := (List.finRange 4).countP fun w => (s.state.warps w).active
  let state := ((s.state.launched s.launch).unlocked s.state.decodeUnlock).counted scheduled pops
  let state := (orderedFeedback feedback).foldl SchedulerState.resolved
    { state with decodeUnlock := decode, singleActive := decide (active = 1) }
  pure (t, { state := state.advanced scheduled fetchAccepted
             launch := none
             nextID := if t.completed then s.nextID + 1 else s.nextID })

/-- `Flush`: the warps stop and the transient accounting is dropped. -/
def flush (s : Scheduler) : Scheduler :=
  { s with
    launch := none
    state := { s.state with
      warps := fun w => { s.state.warps w with active := false, stalled := false }
      singleActive := false
      parked := fun _ => false
      ibufferCount := fun _ => 0
      ibufferFull := fun _ => false
      allIBuffersFull := false
      decodeUnlock := none } }

end Scheduler

end VortexSim.Timing
