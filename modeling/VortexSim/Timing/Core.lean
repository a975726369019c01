import VortexSim.Timing.Execute
import VortexSim.Timing.Frontend

/-!
# The pipeline of a core

The front end, the four execution units, the commit stage and the instruction accounting, all
evaluated against their old registers and clocked together.  An edge that fails changes nothing.
Besides edges there are the launch of a warp, the flush of the whole pipeline, and the software
recovery by cancellation and restart.
-/

namespace VortexSim.Timing

open Checked Elastic

/-- The pipeline between edges. -/
structure Core where
  account : Accounting := {}
  front : Frontend := {}
  alu : ALU := {}
  lsu : LSU := {}
  sfu : SFU := {}
  fpu : STDFPU := {}
  commit : Commit := {}

/-- What an edge of the core reads. -/
structure CoreInputs where
  dispatchBusy : Bool := false
  feedback : List SchedulerFeedback := []
  /-- For a core without a scheduler. -/
  instruction : Signal := none
  fetchResponse : Option Response := none
  memoryResponse : Option Response := none
  fetchReady : Bool
  memoryReady : Bool
  /-- The issue gate of a core without a scheduler. -/
  eligible : Bool := true
  controlAllowed : Bool

/-- What an edge of the core shows. -/
structure CoreReport where
  front : FrontendResult
  executed : Fin 4 → Signal
  csrRequest : Signal
  memoryRequest : Signal
  memoryAccepted : Bool
  memoryResponseReady : Bool
  writeback : Signal
  pendingRelease : Signal
  branch : Signal
  control : Signal
  flags : Signal

/-- `NewScheduledCore`; a core without a scheduler is the default value. -/
def Core.newScheduled (warps : Fin 4 → WarpContext) : Except Error Core := do
  let scheduler ← Scheduler.new warps
  pure { front := { scheduler := some scheduler } }

namespace Core

/-- `ActiveWarps`. -/
def activeWarps (c : Core) : WarpMask :=
  match c.front.scheduler with
  | none => 0#8
  | some s => (List.finRange 4).foldl (fun mask w =>
    if (s.state.warps w).active then mask ||| 1#8 <<< w.val else mask) 0#8

/-- The active mask that the registered busy bit samples. -/
def activeNext (c : Core) (feedback : List SchedulerFeedback) : WarpMask :=
  let launched := match c.front.scheduler.bind Scheduler.launch with
    | none => c.activeWarps
    | some t => c.activeWarps ||| 1#8 <<< t.warp.val
  (orderedFeedback feedback).foldl (fun mask e =>
    match e.kind with
    | .spawn => mask ||| e.targets
    | .tmc => if e.mask = 0#8 then mask &&& ~~~(1#8 <<< e.token.warp.val)
        else mask ||| 1#8 <<< e.token.warp.val
    | _ => mask) launched

/-- The results that the units show to the commit stage. -/
def results (c : Core) : Fin 4 → Signal
  | 0 => c.alu.output
  | 1 => c.lsu.output
  | 2 => c.sfu.output
  | 3 => c.fpu.output

/-- The ready signals of the units. -/
def unitReady (alu lsu sfu fpu : Transfer Token) : Fin 4 → Bool
  | 0 => alu.inputReady
  | 1 => lsu.inputReady
  | 2 => sfu.inputReady
  | 3 => fpu.inputReady

/-- `EvaluateExecution` with `CommitEdge`: one edge. -/
def evaluate (c : Core) (input : CoreInputs) : Except Error (CoreReport × Core) := do
  let (wb, commit) := c.commit.evaluate c.results
  let outputs := c.front.dispatch.outputs
  let (aluR, alu) ← c.alu.evaluate (outputs 0) (wb.ready 0)
  let (lsuR, lsu) ← c.lsu.evaluate (outputs 1) input.memoryResponse input.memoryReady (wb.ready 1)
  let (sfuR, sfu) ← c.sfu.evaluate (outputs 2) (wb.ready 2) input.controlAllowed
  let (fpuR, fpu) ← c.fpu.evaluate (outputs 3) (wb.ready 3)
  let (frontR, front) ← c.front.evaluate
    { instruction := input.instruction
      response := input.fetchResponse
      requestReady := input.fetchReady
      eligible := input.eligible
      downstream := unitReady aluR.transfer lsuR.transfer sfuR.transfer fpuR.transfer
      writeback := wb.writeback
      feedback := input.feedback }
  let account ← c.account.evaluate frontR.pendingIssue wb.pendingRelease
    (decide (c.activeNext input.feedback ≠ 0#8)) input.dispatchBusy
  let executed : Fin 4 → Signal
    | 0 => gated aluR.transfer.accepted (outputs 0)
    | 1 => lsuR.execute
    | 2 => sfuR.execute
    | 3 => gated fpuR.transfer.accepted (outputs 3)
  pure ({ front := frontR
          executed
          csrRequest := sfuR.csrRequest
          memoryRequest := lsuR.request
          memoryAccepted := lsuR.requestAccepted
          memoryResponseReady := lsuR.responseReady
          writeback := wb.writeback
          pendingRelease := wb.pendingRelease
          branch := aluR.branch
          control := sfuR.control
          flags := fpuR.flags },
    { account, front, alu, lsu, sfu, fpu, commit })

/-- The edges of the parts that make up an edge of the core. -/
structure Edge (c : Core) (input : CoreInputs) (r : CoreReport) (c' : Core) where
  aluR : ALUResult
  lsuR : LSUResult
  sfuR : SFUResult
  fpuR : FPUResult
  alu : c.alu.evaluate (c.front.dispatch.outputs 0) ((c.commit.evaluate c.results).1.ready 0) =
    .ok (aluR, c'.alu)
  lsu : c.lsu.evaluate (c.front.dispatch.outputs 1) input.memoryResponse input.memoryReady
    ((c.commit.evaluate c.results).1.ready 1) = .ok (lsuR, c'.lsu)
  sfu : c.sfu.evaluate (c.front.dispatch.outputs 2) ((c.commit.evaluate c.results).1.ready 2)
    input.controlAllowed = .ok (sfuR, c'.sfu)
  fpu : c.fpu.evaluate (c.front.dispatch.outputs 3) ((c.commit.evaluate c.results).1.ready 3) =
    .ok (fpuR, c'.fpu)
  front : c.front.evaluate
    { instruction := input.instruction
      response := input.fetchResponse
      requestReady := input.fetchReady
      eligible := input.eligible
      downstream := unitReady aluR.transfer lsuR.transfer sfuR.transfer fpuR.transfer
      writeback := (c.commit.evaluate c.results).1.writeback
      feedback := input.feedback } = .ok (r.front, c'.front)
  commit : c'.commit = (c.commit.evaluate c.results).2
  account : c.account.evaluate r.front.pendingIssue (c.commit.evaluate c.results).1.pendingRelease
    (decide (c.activeNext input.feedback ≠ 0#8)) input.dispatchBusy = .ok c'.account

theorem evaluate_edge (h : c.evaluate input = .ok (r, c')) : Nonempty (Edge c input r c') := by
  unfold evaluate at h
  simp only [ok_iff, Prod.mk.injEq, Prod.exists] at h
  obtain ⟨aluR, alu, halu, lsuR, lsu, hlsu, sfuR, sfu, hsfu, fpuR, fpu, hfpu, frontR, front, hfront,
    account, haccount, rfl, rfl⟩ := h
  exact ⟨⟨aluR, lsuR, sfuR, fpuR, halu, hlsu, hsfu, hfpu, hfront, rfl, haccount⟩⟩

/-! ## Launch and flush -/

/-- `DispatchWarp`: the launch is seen by the next edge. -/
def dispatchWarp (c : Core) (warp : Fin 4) (pc : Word) (mask : LaneMask) : Except Error Core :=
  match c.front.scheduler with
  | none => .error (.text "CTA dispatch requires inactive slot and valid PC/mask")
  | some s => do
      rejectIf ((s.state.warps warp).active = true ∨ (∃ t ∈ s.launch, t.warp = warp) ∨
          pc &&& 3#32 ≠ 0#32 ∨ mask = 0#8 ∨ mask &&& ~~~allLanes ≠ 0#8)
        (.text "CTA dispatch requires inactive slot and valid PC/mask")
      rejectIf (s.launch.isSome = true) (.text "only one CTA Warp fire is supported per edge")
      pure { c with front.scheduler := some { s with launch := some { warp, pc, mask } } }

/-- `Flush`: the transient contents are dropped, identities stay monotonic. -/
def flush (c : Core) : Core where
  front := { scheduler := c.front.scheduler.map Scheduler.flush }
  account := { c.account with pending := [], issued := none }

/-- `ClockIdleCounters`: an edge of the counters alone. -/
def clockIdleCounters (c : Core) : Except Error Core := do
  rejectIf (c.account.issued.isSome = true ∨ c.account.pending.isEmpty = false ∨
      c.activeWarps ≠ 0#8)
    (.text "idle counter edge requires drained inactive core")
  let account ← c.account.evaluate none none false false
  pure { c with account }

/-- `ContinueCounters`: a new launch takes over the counters of the one before. -/
def continueCounters (c previous : Core) : Except Error Core := do
  rejectIf (c.account.cycles ≠ 0 ∨ c.account.instret ≠ 0 ∨ c.account.busy = true ∨
      c.account.issued.isSome = true ∨ c.account.pending.isEmpty = false)
    (.text "counter continuation requires fresh core")
  rejectIf (previous.account.issued.isSome = true ∨ previous.account.pending.isEmpty = false)
    (.text "counter continuation requires drained previous core")
  pure { c with account := { c.account with
    cycles := previous.account.cycles
    instret := previous.account.instret
    busy := previous.account.busy } }

end Core

/-! ## Cancellation -/

/-- A range of instructions of one warp. -/
structure Cancellation where
  warp : Fin 4
  epoch : Nat
  after : Nat
  through : Nat

/-- The tokens in the range. -/
def Cancellation.hits (x : Cancellation) (t : Token) : Bool :=
  decide (t.warp = x.warp) && decide (t.epoch = x.epoch) && decide (x.after < t.id) &&
    decide (t.id ≤ x.through)

/-- The tokens a cancellation leaves alone. -/
def Cancellation.spares (x : Cancellation) (t : Token) : Bool := !x.hits t

section

variable (x : Cancellation)

/-- A merge without its cancelled results. -/
def mergeCancel {k n : Nat} (m : Merge Token k n) : Merge Token k n :=
  { m with out := m.out.filter x.spares }

/-- Spared requests keep waiting. -/
def WaitPool.cancel {kind : WaitKind} (w : WaitPool kind) : WaitPool kind :=
  { w with entries := w.entries.filter fun p => x.spares p.token }

/-- Answers to cancelled fetches are not expected any more. -/
def Fetch.cancel (f : Fetch) : Fetch where
  request := f.request.filter x.spares
  iflush := f.iflush.filter x.spares
  tags := f.tags.cancel x
  issued := f.issued.filter x.spares

/-- The reservations that stay decide busy bits and credits. -/
def Scoreboard.cancel (s : Scoreboard) : Scoreboard :=
  let reservations := s.reservations.filter x.spares
  let creditTokens := fun c => (s.creditTokens c).filter x.spares
  { reservations, creditTokens
    busy := fun w => reservations.foldl (fun bits t =>
      if t.warp = w then bits ||| t.reserved else bits) 0#64
    special := fun w => reservations.foldl (fun bits t =>
      if t.warp = w then bits ||| t.writeSpecial else bits) 0#2
    credits := fun c => (creditTokens c).length
    locked := fun c => s.locked c && x.spares (s.lockOwner c)
    lockOwner := fun c => if x.hits (s.lockOwner c) then {} else s.lockOwner c
    ready := Function.update s.ready x.warp false
    out := mergeCancel x s.out
    staging := fun w => (s.staging w).filter x.spares }

/-- The reads of a cancelled token are forgotten. -/
def Collector.cancel (c : Collector) : Collector :=
  { first := c.first.filter x.spares
    second := c.second.filter x.spares
    out := c.out.filter x.spares
    held := if x.hits c.held then {} else c.held
    fetched := if x.hits c.held then 0#3 else c.fetched }

/-- A cancelled packed load stops. -/
def Sequencer.cancel (s : Sequencer) : Sequencer := if s.active.any x.hits then {} else s

/-- The instructions between schedule and pop that are cancelled, each counted once. -/
def Frontend.cancelledIDs (f : Frontend) : List Nat :=
  (((f.schedule.queue ++ f.fetch.tags.entries.map Pending.token ++ (f.ibuf x.warp).queue).filter
    x.hits).map Token.id).dedup

/-- The warp is parked until it is restarted. -/
def Scheduler.cancel (s : Scheduler) (cancelled : Nat) : Scheduler :=
  let count := Function.update s.state.ibufferCount x.warp
    ((s.state.ibufferCount x.warp + 256 - cancelled % 256) % 8)
  let full := Function.update s.state.ibufferFull x.warp (decide (count x.warp = 4))
  { s with state := { s.state with
      ibufferCount := count
      ibufferFull := full
      allIBuffersFull := (List.finRange 4).all full
      decodeUnlock := s.state.decodeUnlock.filter x.spares
      warps := Function.update s.state.warps x.warp { s.state.warps x.warp with stalled := true }
      parked := Function.update s.state.parked x.warp true } }

/-- The front end without the range. -/
def Frontend.cancel (f : Frontend) : Frontend where
  schedule := f.schedule.filter x.spares
  scheduler := f.scheduler.map fun s => s.cancel x (f.cancelledIDs x).length
  fetch := f.fetch.cancel x
  ibuf w := (f.ibuf w).filter x.spares
  seq w := (f.seq w).cancel x
  issue := f.issue.cancel x
  opc := f.opc.cancel x
  dispatch := { queues := fun c => (f.dispatch.queues c).filter x.spares }

/-- The integer unit without the range. -/
def ALU.cancel (a : ALU) : ALU where
  integer := a.integer.filter x.spares
  mul := a.mul.filter x.spares
  div := a.div.filter x.spares
  md := mergeCancel x a.md
  result := mergeCancel x a.result
  branch := a.branch.filter x.spares

/-- A cancelled fence gives up its lock. -/
def LSU.cancel (l : LSU) : LSU where
  dispatch := l.dispatch.filter x.spares
  request := l.request.filter x.spares
  load := l.load.filter x.spares
  store := l.store.filter x.spares
  gather := l.gather.filter x.spares
  result := mergeCancel x l.result
  tags := l.tags.cancel x
  sent := l.sent.filter x.spares
  fence := l.fence && !l.tags.entries.any fun p => decide (p.token.path = .fence) && x.hits p.token

/-- The wait of a cancelled CSR access starts anew. -/
def SFU.cancel (s : SFU) : SFU where
  dispatch := s.dispatch.filter x.spares
  wctl := s.wctl.filter x.spares
  gather := s.gather.filter x.spares
  csr :=
    { out := s.csr.out.filter x.spares
      wait := if (routed s.dispatch.queue.head? .csr).any x.hits then 0 else s.csr.wait }
  result := mergeCancel x s.result
  control := s.control.filter x.spares

/-- The float unit without the range. -/
def STDFPU.cancel (f : STDFPU) : STDFPU where
  paths i := { pipe := (f.paths i).pipe.filter x.spares, out := (f.paths i).out.filter x.spares }
  result := mergeCancel x f.result
  tags := f.tags.cancel x
  flags := f.flags.filter x.spares

/-- Cancelled micro operations do not commit. -/
def Accounting.cancel (a : Accounting) : Accounting :=
  { a with pending := a.pending.filter x.spares, issued := a.issued.filter x.spares }

/-- `Cancel`. -/
def Core.cancel (c : Core) : Except Error Core := do
  rejectIf (x.through ≤ x.after) (.text "invalid cancellation range")
  rejectIf (∃ s ∈ c.front.scheduler, (s.state.warps x.warp).epoch ≠ x.epoch)
    (.text "cancellation epoch does not own scheduled warp")
  pure {
    account := c.account.cancel x
    front := c.front.cancel x
    alu := c.alu.cancel x
    lsu := c.lsu.cancel x
    sfu := c.sfu.cancel x
    fpu := c.fpu.cancel x
    commit :=
      { out := c.commit.out.filter x.spares, feedback := c.commit.feedback.filter x.spares } }

end

/-! ## Restart -/

namespace Core

/-- The tokens in all resources of the core. -/
def residents (c : Core) : List Token :=
  c.front.residents ++ c.alu.residents ++ c.lsu.residents ++ c.sfu.residents ++ c.fpu.residents ++
    c.commit.out.queue

/-- `Restart`. -/
def restart (c : Core) (warp : Fin 4) (context : WarpContext) (after : Nat) : Except Error Core :=
  match c.front.scheduler with
  | none => .error (.text "invalid restart target")
  | some s => do
      rejectIf (after = maxIdentity) (.text "invalid restart target")
      rejectIf (context.epoch ≠ (s.state.warps warp).epoch ∨ s.state.parked warp = false ∨
          context.stalled = true ∨ context.pc &&& 3#32 ≠ 0#32 ∨
          context.mask &&& ~~~allLanes ≠ 0#8 ∨ (context.active = true ∧ context.mask = 0#8))
        (.text "invalid restart context")
      rejectIf (s.state.ibufferCount warp ≠ 0 ∨ ∃ t ∈ s.state.decodeUnlock, t.warp = warp)
        (.text "restart retains frontend work")
      rejectIf (∃ t ∈ c.residents, t.warp = warp ∧ t.warpStall = true)
        (.text "restart retains control work")
      pure { c with front.scheduler := some { s with
        state := { s.state.setWarp warp context with
          parked := Function.update s.state.parked warp false }
        nextID := if s.nextID ≤ after then after + 1 else s.nextID } }

end Core

end VortexSim.Timing
