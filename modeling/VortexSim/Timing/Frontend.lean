import VortexSim.Timing.Issue
import VortexSim.Timing.Schedule

/-!
# The front end

Four paths from instruction buffer to staging register share one fetch unit, one operand
collector and the dispatch queues.  With a scheduler the front end selects its instructions;
without one the caller offers them.
-/

namespace VortexSim.Timing

open Checked Elastic

/-- The stages from schedule to dispatch. -/
structure Frontend where
  schedule : Buffer Token 2 := .empty
  scheduler : Option Scheduler := none
  fetch : Fetch := {}
  ibuf : Fin 4 → Buffer Token 4 := fun _ => .empty
  seq : Fin 4 → Sequencer := fun _ => {}
  issue : Scoreboard := {}
  opc : Collector := {}
  dispatch : Dispatch := {}

/-- What an edge of the front end reads. -/
structure FrontendInputs where
  /-- For a front end without a scheduler. -/
  instruction : Signal
  response : Option Response
  requestReady : Bool
  /-- The issue gate of a front end without a scheduler. -/
  eligible : Bool
  downstream : Fin 4 → Bool
  writeback : Signal
  feedback : List SchedulerFeedback

/-- What an edge of the front end shows. -/
structure FrontendResult where
  /-- The instruction that enters the schedule buffer. -/
  scheduled : Signal
  request : Signal
  requestAccepted : Bool
  responseReady : Bool
  outputs : Fin 4 → Signal
  releases : Fin 4 → Bool
  read : Signal
  granted : BitVec 3
  issued : Signal
  /-- The instruction that enters its instruction buffer. -/
  decoded : Signal
  /-- The micro operation that enters the operand collector. -/
  pendingIssue : Signal
  ibufferPop : Fin 4 → Bool

namespace Frontend

variable (f : Frontend) (w : Fin 4)

/-- The head of the instruction buffer of a warp. -/
def ibufOut : Signal := (f.ibuf w).queue.head?

/-- The micro operation a warp offers to its staging register. -/
def uops : Signal := (f.seq w).output (f.ibufOut w)

/-- The tokens of one warp before issue. -/
def lane : List Token := (f.ibuf w).queue ++ (f.seq w).active.toList ++ (f.issue.staging w).queue

/-- The tokens in all resources. -/
def residents : List Token :=
  f.schedule.queue ++ (List.finRange 4).flatMap f.lane ++ f.fetch.residents ++
    f.issue.out.out.queue ++ f.opc.residents ++
    (List.finRange 4).flatMap fun c => (f.dispatch.queues c).queue

/-- The instruction offered to the schedule buffer. -/
def offered (instruction : Signal) : Signal :=
  match f.scheduler with
  | none => instruction
  | some s => s.output

/-- The edge of the scheduler, if there is one. -/
def stepScheduler (scheduler : Option Scheduler) (scheduleReady : Bool) (fetchAccepted : Signal)
    (pops : Fin 4 → Bool) (decode : Signal) (feedback : List SchedulerFeedback) :
    Except Error (Option Scheduler) :=
  match scheduler with
  | none => .ok none
  | some s => do
      let (_, s) ← s.evaluate scheduleReady fetchAccepted pops decode feedback
      pure (some s)

/-- The decoded form of a fetched instruction. -/
def decodeSignal (s : Signal) : Except Error Signal :=
  match s with
  | none => .ok none
  | some t => do
      let t ← decodeToken t
      pure (some t)

/-- The dispatch queues at an edge. -/
def dispatching (downstream : Fin 4 → Bool) : DispatchResult × Dispatch :=
  f.dispatch.evaluate f.opc.out.queue.head? downstream

/-- A response is decoded into the instruction buffer of its warp. -/
def decodeReady (response : Option Response) (pops : Fin 4 → Bool) : Bool :=
  match response with
  | none => true
  | some r => (f.ibuf r.warp).ready (pops r.warp)

/-- The edge of an instruction buffer. -/
def insert (decoded : Signal) (pops : Fin 4 → Bool) (w : Fin 4) : Transfer Token × Buffer Token 4 :=
  (f.ibuf w).evaluate (decoded.filter fun t => t.warp = w) (pops w)

/-- `Evaluate`. -/
def evaluate (input : FrontendInputs) : Except Error (FrontendResult × Frontend) := do
  rejectIf (f.scheduler.isNone = true ∧ input.feedback.isEmpty = false)
    (.text "scheduler feedback requires scheduled frontend")
  rejectIf (f.scheduler.isSome = true ∧ input.instruction.isSome = true)
    (.text "scheduled frontend does not accept externally selected instructions")
  let offered := f.offered input.instruction
  let (d, dispatch) := f.dispatching input.downstream
  let (opcR, opc) ← f.opc.evaluate f.issue.output d.inputReady
  let (issueR, issue) ← f.issue.evaluate f.uops input.writeback opcR.transfer.inputReady d.releases
    (f.scheduler.isSome || input.eligible)
  let seq ← collect fun w => (f.seq w).evaluate (f.ibufOut w) (issueR.ready w)
  let pops := fun w => (seq w).1.inputReady
  let decodeReady := f.decodeReady input.response pops
  let (fetchR, fetch) ←
    f.fetch.evaluate f.schedule.queue.head? input.response input.requestReady decodeReady
  let decoded ← decodeSignal fetchR.transfer.output
  let (scheduleT, schedule) := f.schedule.evaluate offered fetchR.transfer.inputReady
  let decodeEvent := decoded.filter fun t => (f.insert decoded pops t.warp).1.accepted
  let fetchAccepted := gated fetchR.transfer.accepted f.schedule.queue.head?
  let scheduler ← stepScheduler f.scheduler scheduleT.inputReady fetchAccepted
    (fun w => (f.insert decoded pops w).1.completed) decodeEvent input.feedback
  pure ({ scheduled := gated scheduleT.accepted offered
          request := fetchR.request
          requestAccepted := fetchR.requestAccepted
          responseReady := decodeReady
          outputs := d.outputs
          releases := d.releases
          read := opcR.read
          granted := opcR.granted
          issued := issueR.issued
          decoded := decodeEvent
          pendingIssue := gated opcR.transfer.accepted f.issue.output
          ibufferPop := fun w => (f.insert decoded pops w).1.completed },
    { schedule, scheduler, fetch
      ibuf := fun w => (f.insert decoded pops w).2
      seq := fun w => (seq w).2
      issue, opc, dispatch })

/-! ## The parts of an edge -/

/-- The edges of the components that make up an edge of the front end. -/
structure Edge (f : Frontend) (input : FrontendInputs) (r : FrontendResult) (f' : Frontend) where
  opcR : OperandResult
  issueR : ScoreboardResult
  seqT : Fin 4 → Transfer Token
  fetchR : FetchResult
  decoded : Signal
  gate : f.scheduler.isSome = true → input.instruction = none
  dispatch : f'.dispatch = (f.dispatching input.downstream).2
  opc : f.opc.evaluate f.issue.output (f.dispatching input.downstream).1.inputReady =
    .ok (opcR, f'.opc)
  issue : f.issue.evaluate f.uops input.writeback opcR.transfer.inputReady
    (f.dispatching input.downstream).1.releases (f.scheduler.isSome || input.eligible) =
      .ok (issueR, f'.issue)
  seq : ∀ w, (f.seq w).evaluate (f.ibufOut w) (issueR.ready w) = .ok (seqT w, f'.seq w)
  fetch : f.fetch.evaluate f.schedule.queue.head? input.response input.requestReady
    (f.decodeReady input.response fun w => (seqT w).inputReady) = .ok (fetchR, f'.fetch)
  decode : decodeSignal fetchR.transfer.output = .ok decoded
  schedule : f'.schedule =
    (f.schedule.evaluate (f.offered input.instruction) fetchR.transfer.inputReady).2
  ibuf : ∀ w, f'.ibuf w = (f.insert decoded (fun w => (seqT w).inputReady) w).2
  scheduler : stepScheduler f.scheduler (f.schedule.ready fetchR.transfer.inputReady)
    (gated fetchR.transfer.accepted f.schedule.queue.head?)
    (fun w => (f.insert decoded (fun w => (seqT w).inputReady) w).1.completed)
    (decoded.filter fun t => (f.insert decoded (fun w => (seqT w).inputReady) t.warp).1.accepted)
    input.feedback = .ok f'.scheduler
  issued : r.issued = issueR.issued
  releases : r.releases = (f.dispatching input.downstream).1.releases
  pendingIssue : r.pendingIssue = gated opcR.transfer.accepted f.issue.output
  scheduled : r.scheduled = gated (f.schedule.evaluate (f.offered input.instruction)
    fetchR.transfer.inputReady).1.accepted (f.offered input.instruction)

variable {f}

theorem evaluate_edge (h : f.evaluate input = .ok (r, f')) : Nonempty (Edge f input r f') := by
  unfold evaluate at h
  simp only [ok_iff, Prod.mk.injEq, Prod.exists, collect_eq_ok] at h
  obtain ⟨-, hgate, opcR, opc, hopc, issueR, issue, hissue, seq, hseq, fetchR, fetch, hfetch,
    decoded, hdecode, scheduler, hscheduler, rfl, rfl⟩ := h
  refine ⟨⟨opcR, issueR, fun w => (seq w).1, fetchR, decoded, fun hscheduled => ?_, rfl, hopc,
    hissue, hseq, hfetch, hdecode, rfl, fun _ => rfl, hscheduler, rfl, rfl, rfl, rfl⟩⟩
  by_contra hsome
  exact hgate ⟨hscheduled, Option.isSome_iff_ne_none.mpr hsome⟩

end Frontend

end VortexSim.Timing
