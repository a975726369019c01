import VortexSim.Timing.Wait

/-!
# Execution units and commit

Each of the four classes has one unit.  A unit takes the head of its dispatch queue and shows
its result to the commit stage, which takes one result at an edge.  The integer and the control
unit register the control instructions that pass, the float unit those that raise flags.
-/

namespace VortexSim.Timing

open Checked Elastic

/-- The signal on one subpath. -/
def routed (s : Signal) (path : Path) : Signal := s.filter fun t => t.path = path

/-- A token on one of the paths, if there is a token. -/
def onPath (s : Signal) (path : Path) : Bool := s.any fun t => t.path = path

/-! ## Integer unit -/

/-- The integer paths, merged into one result queue. -/
structure ALU where
  integer : Buffer Token 1 := .empty
  mul : Pipeline Token 3 := .empty
  div : Divider Token := { latency := 33 }
  md : Merge Token 2 2 := { policy := .priority, out := .empty }
  result : Merge Token 2 2 := { policy := .rotating false, out := .empty }
  branch : Signal := none

/-- The ports of the integer unit. -/
structure ALUResult where
  transfer : Transfer Token
  branch : Signal

namespace ALU

/-- The result offered to commit. -/
def output (a : ALU) : Signal := a.result.out.queue.head?

/-- The tokens in all resources. -/
def residents (a : ALU) : List Token :=
  a.integer.queue ++ a.mul.contents ++ a.div.loaded.toList ++ a.md.out.queue ++ a.result.out.queue

/-- The ready signal of the path an input takes. -/
def routeReady (input : Signal) (integer mul div : Bool) : Bool :=
  match input.map Token.path with
  | some .int => integer
  | some .mul => mul
  | some .div => div
  | _ => false

/-- `Evaluate`. -/
def evaluate (a : ALU) (input : Signal) (downstream : Bool) : Except Error (ALUResult × ALU) := do
  rejectIf (∃ t ∈ input, t.unit ≠ 0 ∨ (t.path ≠ .int ∧ t.path ≠ .mul ∧ t.path ≠ .div))
    (.text "invalid ALU route")
  let (resultR, result) :=
    a.result.evaluate (pair a.integer.queue.head? a.md.out.queue.head?) downstream
  let (mdR, md) := a.md.evaluate (pair a.mul.output a.div.output) (resultR.ready 1)
  let (integerT, integer) := a.integer.evaluate (routed input .int) (resultR.ready 0)
  let (mulT, mul) := a.mul.evaluate (routed input .mul) (mdR.ready 0)
  let (divT, div) := a.div.evaluate (routed input .div) (mdR.ready 1)
  let ready := routeReady input integerT.inputReady mulT.inputReady divT.inputReady
  pure ({ transfer := transfer input resultR.transfer.output ready downstream, branch := a.branch },
    { integer, mul, div, md, result
      branch := (gated integerT.completed integerT.output).filter
        fun t => t.branch && t.last })

end ALU

/-! ## Control and status registers -/

/-- Edges that a CSR access waits. -/
def csrLatency : Nat := 1

/-- The CSR subunit. -/
structure CSR where
  wait : Nat := 0
  out : Buffer Token 2 := .empty

/-- The ports of the CSR subunit. -/
structure CSRResult where
  transfer : Transfer Token
  requestWindow : Bool

/-- `Evaluate`: an access waits for its context before it enters the result queue. -/
def CSR.evaluate (c : CSR) (input : Signal) (downstream : Bool) : CSRResult × CSR :=
  let done := decide (c.wait = csrLatency)
  let request := gated done input
  let (outT, out) := c.out.evaluate request downstream
  ({ transfer := transfer input outT.output (outT.inputReady && done) downstream
     requestWindow := request.isSome },
    { out
      wait := if outT.accepted || input.isNone then 0
        else if c.wait < csrLatency then c.wait + 1 else c.wait })

/-! ## Control unit -/

/-- Warp control and CSR access. -/
structure SFU where
  dispatch : Buffer Token 2 := .empty
  wctl : Buffer Token 2 := .empty
  gather : Buffer Token 2 := .empty
  csr : CSR := {}
  result : Merge Token 2 2 := { policy := .rotating false, out := .empty }
  control : Signal := none

/-- The ports of the control unit. -/
structure SFUResult where
  transfer : Transfer Token
  control : Signal
  execute : Signal
  csrRequest : Signal

namespace SFU

/-- The result offered to commit. -/
def output (s : SFU) : Signal := s.gather.queue.head?

/-- The tokens in all resources. -/
def residents (s : SFU) : List Token :=
  s.dispatch.queue ++ s.wctl.queue ++ s.csr.out.queue ++ s.result.out.queue ++ s.gather.queue

/-- `Evaluate`. -/
def evaluate (s : SFU) (input : Signal) (downstream controlAllowed : Bool) :
    Except Error (SFUResult × SFU) := do
  rejectIf (∃ t ∈ input, t.unit ≠ 2 ∨ (t.path ≠ .wctl ∧ t.path ≠ .csr)) (.text "invalid SFU route")
  let (gatherT, gather) := s.gather.evaluate s.result.out.queue.head? downstream
  let (resultR, result) :=
    s.result.evaluate (pair s.wctl.queue.head? s.csr.out.queue.head?) gatherT.inputReady
  let execute := s.dispatch.queue.head?
  let wctlIn := gated controlAllowed (routed execute .wctl)
  let (wctlT, wctl) := s.wctl.evaluate wctlIn (resultR.ready 0)
  let (csrR, csr) := s.csr.evaluate (routed execute .csr) (resultR.ready 1)
  let ready := if onPath execute .csr then csrR.transfer.inputReady
    else wctlT.inputReady && controlAllowed
  let (dispatchT, dispatch) := s.dispatch.evaluate input ready
  pure ({ transfer := transfer input gatherT.output dispatchT.inputReady downstream
          control := s.control
          execute := gated dispatchT.completed execute
          csrRequest := gated csrR.requestWindow (routed execute .csr) },
    { dispatch, wctl, gather, csr, result
      control := (gated wctlT.accepted wctlIn).filter fun t => t.last })

end SFU

/-! ## Load and store unit -/

/-- The queues of loads, stores and fences. -/
structure LSU where
  dispatch : Buffer Token 2 := .empty
  request : Buffer Token 4 := .empty
  load : Buffer Token 2 := .empty
  store : Buffer Token 2 := .empty
  gather : Buffer Token 2 := .empty
  result : Merge Token 2 2 := { policy := .priority, out := .empty }
  tags : WaitPool .load := {}
  /-- The requests taken by the memory service and not fully answered. -/
  sent : List Token := []
  fence : Bool := false

/-- The ports of the load and store unit. -/
structure LSUResult where
  transfer : Transfer Token
  execute : Signal
  request : Signal
  requestAccepted : Bool
  responseReady : Bool

namespace LSU

/-- The result offered to commit. -/
def output (l : LSU) : Signal := l.gather.queue.head?

/-- The tokens in all resources. -/
def residents (l : LSU) : List Token :=
  l.dispatch.queue ++ l.request.queue ++ l.tags.entries.map Pending.token ++ l.load.queue ++
    l.store.queue ++ l.result.out.queue ++ l.gather.queue

variable (l : LSU)

/-- The micro operation that is executed. -/
def execute : Signal := l.dispatch.queue.head?

/-- A part of a fence before its end does nothing. -/
def skips : Bool := l.execute.any fun t => t.path = .fence && !t.last

/-- A store is executed. -/
def stores : Bool := onPath l.execute .store

/-- Nothing waits for the memory service. -/
def noResponse : Bool := l.stores || l.skips

/-- The input of the tag pool, before it is known whether the other queues are ready. -/
def tagInput : Signal := gated (!(l.noResponse || l.fence)) l.execute

/-- The request can be sent. -/
def schedulerReady (requestReady tagReady : Bool) : Bool :=
  l.request.ready requestReady && (l.stores || tagReady)

/-- The executed micro operation leaves its queue. -/
def sliceReady (requestReady tagReady storeReady : Bool) : Bool :=
  (l.schedulerReady requestReady tagReady || l.skips) && (!l.noResponse || storeReady) && !l.fence

/-- The input of the tag pool. -/
def tagAdmitted (slice : Bool) : Signal := gated slice l.tagInput

/-- The input of the request queue. -/
def requestInput (tagReady storeReady : Bool) : Signal :=
  gated (!l.skips && !l.fence && (!l.noResponse || storeReady) && (l.stores || tagReady)) l.execute

/-- The input of the queue of stores. -/
def storeInput (requestReady tagReady : Bool) : Signal :=
  gated (l.noResponse && (l.schedulerReady requestReady tagReady || l.skips) && !l.fence) l.execute

/-- `Evaluate`.  The head of the queue enters the request queue together with the tag pool or,
for a store, with the result queue. -/
def evaluate (l : LSU) (input : Signal) (response : Option Response)
    (requestReady downstream : Bool) : Except Error (LSUResult × LSU) := do
  rejectIf (∃ t ∈ input, t.unit ≠ 1 ∨ (t.path ≠ .load ∧ t.path ≠ .store ∧ t.path ≠ .fence))
    (.text "invalid LSU route")
  rejectIf (∃ r ∈ response, ∀ t ∈ l.sent, t.identity ≠ r.identity)
    (.text "LSU response before request acceptance or stale identity")
  let (gatherT, gather) := l.gather.evaluate l.result.out.queue.head? downstream
  let (resultR, result) :=
    l.result.evaluate (pair l.load.queue.head? l.store.queue.head?) gatherT.inputReady
  let storeReady := l.store.ready (resultR.ready 1)
  let loadReady := l.load.ready (resultR.ready 0)
  let (probe, _) ← l.tags.evaluate l.tagInput response loadReady
  let sliceReady := l.sliceReady requestReady probe.inputReady storeReady
  let (requestT, request) :=
    l.request.evaluate (l.requestInput probe.inputReady storeReady) requestReady
  let (tagsT, tags) ← l.tags.evaluate (l.tagAdmitted sliceReady) response loadReady
  let (_, load) := l.load.evaluate tagsT.output (resultR.ready 0)
  let (_, store) :=
    l.store.evaluate (l.storeInput requestReady probe.inputReady) (resultR.ready 1)
  let (dispatchT, dispatch) := l.dispatch.evaluate input sliceReady
  let ended := tagsT.completed && tagsT.output.any fun t => t.last
  let left := unanswered l.sent response ended
  let fenced := l.fence || (requestT.accepted && l.execute.any fun t => t.path = .fence && t.last)
  pure ({ transfer := transfer input gatherT.output dispatchT.inputReady downstream
          execute := gated dispatchT.completed l.execute
          request := requestT.output
          requestAccepted := requestT.completed
          responseReady := loadReady },
    { dispatch, request, load, store, gather, result, tags
      sent := left ++ (crossing requestT.output requestReady).filter fun t => t.path ≠ .store
      fence := fenced && !(ended && onPath tagsT.output .fence) })

end LSU

/-! ## Float unit -/

/-- A subcore of the standard backend: a pipeline with its output queue. -/
structure STDPath (depth : Nat) where
  pipe : Pipeline Token depth := .empty
  out : Buffer Token 2 := .empty

/-- `Evaluate`. -/
def STDPath.evaluate {depth : Nat} [NeZero depth] (p : STDPath depth) (input : Signal)
    (downstream : Bool) : Transfer Token × STDPath depth :=
  let (pipeT, pipe) := p.pipe.evaluate input (p.out.ready downstream)
  let (outT, out) := p.out.evaluate pipeT.output downstream
  (transfer input outT.output pipeT.inputReady downstream, { pipe, out })

/-- The subpaths of the float unit. -/
def stdPaths : Fin 4 → Path
  | 0 => .fma
  | 1 => .divsqrt
  | 2 => .cvt
  | 3 => .ncp

/-- Pipeline stages after the first; the output queue is part of the measured latency. -/
def stdStages : Fin 4 → Nat
  | 0 => 7
  | 1 => 16
  | 2 => 4
  | 3 => 1

/-- The float paths and the tags of what they hold. -/
structure STDFPU where
  paths : (i : Fin 4) → STDPath (stdStages i + 1) := fun _ => {}
  result : Merge Token 4 2 := { policy := .rotating false, out := .empty }
  tags : WaitPool .fpu := {}
  flags : Signal := none

/-- The ports of the float unit. -/
structure FPUResult where
  transfer : Transfer Token
  flags : Signal

/-- The response by which a result releases its tag. -/
def responseFor (t : Token) : Response where
  id := t.id
  epoch := t.epoch
  warp := t.warp
  uop := t.uop
  mask := t.mask

namespace STDFPU

/-- The result offered to commit. -/
def output (f : STDFPU) : Signal := f.result.out.queue.head?

/-- The tokens in all resources. -/
def residents (f : STDFPU) : List Token :=
  f.tags.entries.map Pending.token ++ f.result.out.queue ++
    (List.finRange 4).flatMap fun i => (f.paths i).pipe.contents ++ (f.paths i).out.queue

/-- The path that an input selects. -/
def selected (input : Signal) : Option (Fin 4) :=
  input.bind fun t => (List.finRange 4).find? fun i => t.path = stdPaths i

/-- `Evaluate`. -/
def evaluate (f : STDFPU) (input : Signal) (downstream : Bool) :
    Except Error (FPUResult × STDFPU) := do
  rejectIf (∃ t ∈ input, t.unit ≠ 3 ∨ selected input = none) (.text "invalid STD route")
  let (resultR, result) := f.result.evaluate (fun i => (f.paths i).out.queue.head?) downstream
  let response := resultR.transfer.output.map responseFor
  let (probe, _) ← f.tags.evaluate input response downstream
  let steps := fun i => (f.paths i).evaluate
    (gated probe.inputReady (routed input (stdPaths i))) (resultR.ready i)
  let ready := (selected input).any fun i => (steps i).1.inputReady
  let (_, tags) ← f.tags.evaluate (gated ready input) response downstream
  pure ({ transfer := transfer input resultR.transfer.output (ready && probe.inputReady) downstream
          flags := f.flags },
    { paths := fun i => (steps i).2
      result, tags
      flags := (gated resultR.transfer.completed resultR.transfer.output).filter fun t => t.last })

end STDFPU

/-! ## Commit -/

/-- The writeback register. -/
structure Commit where
  out : Buffer Token 1 := .empty
  feedback : Signal := none

/-- The ports of commit. -/
structure CommitResult where
  ready : Fin 4 → Bool
  writeback : Signal
  pendingRelease : Signal

namespace Commit

/-- The class with the lowest number that has a result. -/
def selected (inputs : Fin 4 → Signal) : Option (Fin 4) :=
  (List.finRange 4).find? fun c => (inputs c).isSome

/-- `Evaluate`: writeback is never blocked. -/
def evaluate (c : Commit) (inputs : Fin 4 → Signal) : CommitResult × Commit :=
  let (outT, out) := c.out.evaluate ((selected inputs).bind inputs) true
  ({ ready := fun i => decide (selected inputs = some i) && outT.inputReady
     writeback := outT.output
     pendingRelease := c.feedback },
    { out, feedback := outT.output.filter fun t => t.last })

end Commit

/-! ## Accounting -/

/-- Issued micro operations that are not committed, and the counters. -/
structure Accounting where
  issued : Signal := none
  pending : List Token := []
  instret : Nat := 0
  cycles : Nat := 0
  busy : Bool := false

/-- The counters have 44 bits. -/
def counterWrap : Nat := 2 ^ 44

/-- `evaluate`. -/
def Accounting.evaluate (a : Accounting) (issue commit : Signal) (anyActive dispatchBusy : Bool) :
    Except Error Accounting := do
  let open_ := a.pending ++ a.issued.toList
  rejectIf (∃ c ∈ commit, ∀ t ∈ open_, t.identity ≠ c.identity)
    (.text "commit notification without hardware pending issue")
  pure {
    issued := issue
    pending := match commit with
      | none => open_
      | some c => open_.eraseP fun t => decide (t.identity = c.identity)
    instret := if commit.isSome then (a.instret + 1) % counterWrap else a.instret
    cycles := if a.busy || dispatchBusy then (a.cycles + 1) % counterWrap else a.cycles
    busy := anyActive || !a.pending.isEmpty }

end VortexSim.Timing
