import VortexSim.Memsys.Backend

/-!
# The backend over an external DRAM model

`AsyncBackend` serves a request at its acceptance and keeps the response until the DRAM model
reports the request complete.  Completions come in any order.  Responses are returned in the
order of acceptance on each interleaved bus bank, and a visibility ticket waits until every
older request is complete.

The DRAM model is outside the package.  What it answers at one edge, the completed requests of
its tick and the verdict of a submission, is part of the input of the edge.  A step that ends
in an error ends the run: only an error of the DRAM model is found after a change.
-/

namespace VortexSim.Memsys

open Checked

variable {σ : Type} {n : Nat}

/-- `AsyncBackend`: the queue and ports of a backend with the responses not taken. -/
structure AsyncBackend (σ : Type) (n : Nat) extends Backend σ n where
  banks : Nat
  returnHeld : Fin n → Option Response := fun _ => none

/-- What the DRAM model answers at one edge. -/
structure DRAMAnswer where
  tick : Except Error (List Nat)
  submit : Nat → Word → Bool → Option Error

/-- `NewAsync`.  The number of banks is a power of two. -/
def AsyncBackend.new (owner : σ) (config : Config) (n banks : Nat) :
    Except Error (AsyncBackend σ n) := do
  rejectIf (banks < 1 ∨ banks &&& (banks - 1) ≠ 0)
    (.text "DRAM bus banks must be a positive power of two")
  let b ← Backend.new owner config n
  pure { b with banks }

/-- The bus bank of a request: a visibility ticket has none. -/
def LineRequest.busBank (banks : Nat) (r : LineRequest) : Option Nat :=
  if r.operation = .visibility then none else some (r.address.toNat / sectorBytes % banks)

/-! ## Return -/

/-- The number of valid responses. -/
def validCount (replies : Fin n → Option Response) : Nat :=
  (List.finRange n).countP fun i => (replies i).isSome

/-- Offer the head of every bank that is complete, as long as its port and the bandwidth
allow.  `seen` are the banks whose head has been passed. -/
def previewBanks (banks returns : Nat) :
    (Fin n → Option Response) → Nat → List Nat → List (Entry n) → Fin n → Option Response
  | replies, _, _, [] => replies
  | replies, count, seen, e :: queue =>
    if ∃ bank ∈ e.request.busBank banks, bank ∈ seen then
      previewBanks banks returns replies count seen queue
    else
      let seen := (e.request.busBank banks).toList ++ seen
      if e.serviced ∧ replies e.client = none ∧ count < returns then
        previewBanks banks returns (Function.update replies e.client (some e.response))
          (count + 1) seen queue
      else previewBanks banks returns replies count seen queue

/-- The responses a preview finds, without its check of the cycle. -/
def AsyncBackend.preview (b : AsyncBackend σ n) : Fin n → Option Response :=
  previewBanks b.banks b.config.returnsPerCycle b.returnHeld (validCount b.returnHeld) [] b.queue

/-- Hand out the previewed responses: those taken leave the queue. -/
def retirePreviewed (preview : Fin n → Option Response) (ready : Fin n → Bool) (returns : Nat) :
    Nat → (Fin n → Option Reply) → List (Entry n) → (Fin n → Option Reply) × List (Entry n)
  | _, replies, [] => (replies, [])
  | count, replies, e :: queue =>
    match preview e.client with
    | none =>
      let (replies, kept) := retirePreviewed preview ready returns count replies queue
      (replies, e :: kept)
    | some p =>
      if p.sequence ≠ e.response.sequence ∨ returns ≤ count then
        let (replies, kept) := retirePreviewed preview ready returns count replies queue
        (replies, e :: kept)
      else
        let replies := Function.update replies e.client
          (some { delivered := ready e.client, response := p })
        if ready e.client then
          retirePreviewed preview ready returns (count + 1) replies queue
        else
          let (replies, kept) := retirePreviewed preview ready returns count replies queue
          (replies, e :: kept)

/-! ## Completion -/

/-- Mark one completed request. -/
def completeEntry (cycle id : Nat) : List (Entry n) → Except Error (List (Entry n))
  | [] => .error (.text s!"unknown DRAM completion {id}")
  | e :: queue =>
    if e.response.sequence ≠ id then do
      let queue ← completeEntry cycle id queue
      pure (e :: queue)
    else do
      rejectIf (e.serviced = true ∨ e.request.operation = .visibility)
        (.text s!"duplicate DRAM completion {id}")
      pure ({ e with
        serviced := true
        response := { e.response with completedCycle := cycle + 1 } } :: queue)

/-- Mark all completed requests of a tick. -/
def completeAll (cycle : Nat) (done : List Nat) (queue : List (Entry n)) :
    Except Error (List (Entry n)) :=
  foldEach (fun _ queue id => completeEntry cycle id queue) 0 queue done

/-- Complete the visibility tickets with nothing incomplete before them. -/
def completeTickets (cycle : Nat) : Bool → List (Entry n) → List (Entry n)
  | _, [] => []
  | olderDone, e :: queue =>
    let e := if e.request.operation = .visibility ∧ e.serviced = false ∧ olderDone = true then
        { e with
          serviced := true
          response := { e.response with completedCycle := cycle + 1 } }
      else e
    e :: completeTickets cycle (olderDone && e.serviced) queue

/-! ## Acceptance -/

/-- The entry of a request served at its acceptance. -/
def acceptEntry (cycle sequence : Nat) (client : Fin n) (r : LineRequest)
    (answer : LineAnswer) : Entry n where
  client := client
  request := r
  due := 0
  response := { r.pending cycle sequence with data := answer.data, err := answer.err }
  serviced := false

/-- Submit and serve newly accepted requests. -/
def acceptAll (service : AtomicService σ) (submit : Nat → Word → Bool → Option Error)
    (cycle : Nat) :
    LineState σ → Nat → List (Fin n × LineRequest) → Except Error (LineState σ × List (Entry n))
  | s, _, [] => .ok (s, [])
  | s, sequence, (client, r) :: rest => do
      match submit (sequence + 1) r.address (r.operation = .write) with
      | some err => rejectIf (r.operation ≠ .visibility) err
      | none => pure ()
      let (s1, answer) := serveLine service s r
      let (s2, entries) ← acceptAll service submit cycle s1 (sequence + 1) rest
      pure (s2, acceptEntry cycle (sequence + 1) client r answer :: entries)

def asyncErrors : PortErrors where
  changed i := .text s!"client {i} changed stalled DRAM request"
  invalid _ := .text "invalid DRAM request"
  stale _ := .text "stale DRAM transaction"

/-- The protocol checks of `Step`. -/
def AsyncBackend.check (b : AsyncBackend σ n) (input : EdgeInput n) : Except Error Unit := do
  rejectIf (b.started = true ∧ (b.cycle = maxUint64 ∨ input.cycle ≠ b.cycle + 1))
    (.text "noncontiguous DRAM cycle")
  rejectIf (input.cycle = maxUint64 ∨ maxUint64 - n < b.sequence) (.text "DRAM counter overflow")
  each (fun _ i => b.checkPort asyncErrors input.offers i) 0 (List.finRange n)

/-- `Step`: return previewed responses, tick the DRAM model, accept, complete tickets. -/
def AsyncBackend.step [NeZero n] (service : AtomicService σ) (b : AsyncBackend σ n)
    (input : EdgeInput n) (dram : DRAMAnswer) :
    Except Error (AsyncBackend σ n × Edge n) := do
  b.check input
  let (replies, kept) := retirePreviewed b.preview input.ready b.config.returnsPerCycle 0
    (fun _ => none) b.queue
  let done ← dram.tick
  let completed ← completeAll input.cycle done kept
  let admitted := b.acceptedRequests input.offers
  let (line, entries) ← acceptAll service dram.submit input.cycle b.line b.sequence admitted
  pure ({ b with
      toBackend := { b.settlePorts input admitted with
        line := line
        queue := completeTickets input.cycle true (completed ++ entries)
        sequence := b.sequence + admitted.length }
      returnHeld := fun i => (replies i).bind fun r =>
        if r.delivered then none else some r.response },
    { accepted := acceptedFlags admitted, replies })

end VortexSim.Memsys
