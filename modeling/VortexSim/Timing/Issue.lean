import VortexSim.Timing.Wait

/-!
# Issue

The path of a micro operation from the instruction buffer of its warp to the queue of its
execution class: the sequencer that splits packed loads, the scoreboard that reserves registers
and credits, the operand collector and the dispatch queues.  Every component is evaluated
against its old registers.
-/

namespace VortexSim.Timing

open Checked Elastic

/-! ## Sequencer -/

/-- Holds a packed load while its micro operations go out one by one. -/
structure Sequencer where
  active : Signal := none
  original : Token := {}

/-- Micro operations of a packed load. -/
def packedUops (pack : Nat) : Nat := if pack = 2 then 2 else 4

namespace Sequencer

variable (s : Sequencer) (input : Signal) (downstream : Bool)

/-- The micro operation on offer. -/
def output : Signal := s.active.or (input.filter fun t => t.pack = 0)

/-- The instruction leaves its buffer with its last micro operation. -/
def ready : Bool :=
  match s.active with
  | some a => downstream && decide (a.uop + 1 = a.uops)
  | none => downstream && input.all fun t => t.pack = 0

/-- The sequencer after a transfer. -/
def next (t : Transfer Token) : Sequencer :=
  match s.active with
  | some a =>
    if t.completed then
      if t.accepted then {} else { s with active := some { a with uop := a.uop + 1 } }
    else s
  | none =>
    match input with
    | some i =>
      if i.pack ≠ 0 then
        { active := some { i with uop := 0, uops := packedUops i.pack }, original := i }
      else s
    | none => s

/-- `Evaluate`. -/
def evaluate : Except Error (Transfer Token × Sequencer) := do
  rejectIf (∃ t ∈ input, 2 < t.pack) (.text "invalid packed kind")
  rejectIf (s.active.isSome = true ∧ input ≠ some s.original)
    (.text "packed input changed before final handshake")
  let t := transfer input (s.output input) (s.ready input downstream) downstream
  pure (t, s.next input t)

end Sequencer

/-! ## Scoreboard -/

/-- Credits of an execution class, equal to the size of its dispatch queue. -/
def creditLimit : Nat := 4

/-- Reservations and credits of what is issued. -/
structure Scoreboard where
  /-- The reserved micro operations. -/
  reservations : List Token := []
  /-- The micro operations that hold a credit of a class, oldest first. -/
  creditTokens : Fin 4 → List Token := fun _ => []
  lockOwner : Fin 4 → Token := fun _ => {}
  staging : Fin 4 → Buffer Token 1 := fun _ => .empty
  out : Merge Token 4 2 := { policy := .rotating true, out := .empty }
  busy : Fin 4 → BitVec 64 := fun _ => 0#64
  special : Fin 4 → BitVec 2 := fun _ => 0#2
  ready : Fin 4 → Bool := fun _ => false
  credits : Fin 4 → Nat := fun _ => 0
  locked : Fin 4 → Bool := fun _ => false

/-- The ports of the scoreboard. -/
structure ScoreboardResult where
  transfer : Transfer Token
  ready : Fin 4 → Bool
  acceptedWarp : Fin 4 → Bool
  /-- The micro operation that leaves staging at this edge. -/
  issued : Signal
  selected : Option (Fin 4)

/-- The register as a mask. -/
def registerBit (r : Fin 64) : BitVec 64 := 1#64 <<< r.val

/-- The destination that a token reserves. -/
def Token.reserved (t : Token) : BitVec 64 :=
  if t.writeback then registerBit t.destination else 0#64

/-- The register of a source that is read. -/
def Token.sourceBit (t : Token) (i : Fin 3) : BitVec 64 :=
  if t.used.getLsbD i.val = true ∧ t.sources i ≠ 0 then registerBit (t.sources i) else 0#64

/-- `dependencyMask`: the registers that must not be reserved. -/
def Token.dependencyMask (t : Token) : BitVec 64 :=
  t.reserved ||| t.sourceBit 0 ||| t.sourceBit 1 ||| t.sourceBit 2

/-- `validateDependencies`. -/
def validateDependencies (t : Token) : Except Error Unit :=
  rejectIf (t.writeback = true ∧ t.destination = 0)
    (.text "integer zero writeback must be suppressed by decode")

namespace Scoreboard

/-- The issued micro operation on offer. -/
def output (s : Scoreboard) : Signal := s.out.out.queue.head?

variable (s : Scoreboard) (inputs : Fin 4 → Signal) (downstream : Bool) (w : Fin 4)

/-- The staged micro operations that are eligible. -/
def requests : Signal := gated (s.ready w) (s.staging w).queue.head?

/-- The end of a writeback gives its reservation back. -/
def release (writeback : Signal) : Except Error Scoreboard :=
  match writeback.filter fun t => t.last with
  | none => .ok s
  | some t => do
      rejectIf (t.writeback = true ∧ s.busy t.warp &&& registerBit t.destination = 0#64)
        (.text "writeback without reserved destination")
      rejectIf (s.special t.warp &&& t.writeSpecial ≠ t.writeSpecial)
        (.text "writeback without reserved special state")
      pure { s with
        reservations := s.reservations.eraseP fun old => decide (old.identity = t.identity)
        busy := Function.update s.busy t.warp (s.busy t.warp &&& ~~~t.reserved)
        special := Function.update s.special t.warp (s.special t.warp &&& ~~~t.writeSpecial) }

/-- An issued micro operation takes its destination and a credit. -/
def reserve (issued : Signal) : Scoreboard :=
  match issued with
  | none => s
  | some t =>
    { s with
      reservations := s.reservations ++ [t]
      creditTokens := Function.update s.creditTokens t.unit (s.creditTokens t.unit ++ [t])
      busy := Function.update s.busy t.warp (s.busy t.warp ||| t.reserved)
      special := Function.update s.special t.warp (s.special t.warp ||| t.writeSpecial)
      credits := Function.update s.credits t.unit (s.credits t.unit + 1)
      locked := if t.fuLock = t.fuUnlock then s.locked else Function.update s.locked t.unit t.fuLock
      lockOwner := if t.fuLock = t.fuUnlock then s.lockOwner
        else Function.update s.lockOwner t.unit (if t.fuLock then t else {}) }

/-- Units that accept a micro operation give its credit back. -/
def giveBack (releases : Fin 4 → Bool) : Scoreboard :=
  { s with
    credits := fun c => if releases c then s.credits c - 1 else s.credits c
    creditTokens := fun c => if releases c then (s.creditTokens c).tail else s.creditTokens c }

/-- Eligibility of a candidate: new reservations and locks, but old credits. -/
def eligible (credits : Fin 4 → Nat) (w : Fin 4) (candidate : Token) : Bool :=
  decide (s.busy w &&& candidate.dependencyMask = 0#64) &&
    decide (s.special w &&& (candidate.readSpecial ||| candidate.writeSpecial) = 0#2) &&
    decide (credits candidate.unit < creditLimit - 1) &&
    !(s.locked candidate.unit && candidate.fuLock)

/-- The arbitration between the staged micro operations. -/
def arbitrate : Merge.Result Token 4 × Merge Token 4 2 := s.out.evaluate s.requests downstream

/-- The micro operation that leaves its staging register. -/
def issuing : Signal :=
  gated (s.arbitrate downstream).1.transfer.accepted
    ((s.arbitrate downstream).1.selected.bind s.requests)

/-- The edge of a staging register. -/
def stage : Transfer Token × Buffer Token 1 :=
  (s.staging w).evaluate (inputs w) ((s.arbitrate downstream).1.ready w && s.ready w)

/-- The micro operation whose eligibility is registered. -/
def candidate : Token :=
  (if (s.stage inputs downstream w).1.accepted then inputs w else (s.staging w).queue.head?).getD {}

/-- The checks of an input. -/
def checkInput : Except Error Unit :=
  match inputs w with
  | none => pure ()
  | some t => do
      validateDependencies t
      rejectIf (t.warp ≠ w) (.text "scoreboard input warp/port mismatch")

/-- The check of what is written back. -/
def checkWriteback (writeback : Signal) : Except Error Unit :=
  match writeback with
  | none => pure ()
  | some t => validateDependencies t

/-- The checks of the credits of a class, before and after the edge. -/
def checkCredits (before after : Scoreboard) (releases : Fin 4 → Bool) (c : Fin 4) :
    Except Error Unit := do
  rejectIf (releases c = true ∧ before.credits c = 0)
    (.text "FU release without old in-flight credit")
  rejectIf (creditLimit < after.credits c) (.text s!"unbalanced FU {c.val} credits")

/-- `evaluate`; without a scheduler the caller decides whether issue is enabled. -/
def evaluate (s : Scoreboard) (inputs : Fin 4 → Signal) (writeback : Signal) (downstream : Bool)
    (releases : Fin 4 → Bool) (enabled : Bool) :
    Except Error (ScoreboardResult × Scoreboard) := do
  each (fun _ w => checkInput inputs w) 0 (List.finRange 4)
  checkWriteback writeback
  let released ← s.release writeback
  let settled := (released.reserve (s.issuing downstream)).giveBack releases
  each (fun _ c => checkCredits s settled releases c) 0 (List.finRange 4)
  pure ({ transfer := (s.arbitrate downstream).1.transfer
          ready := fun w => (s.stage inputs downstream w).1.inputReady
          acceptedWarp := fun w => (s.stage inputs downstream w).1.accepted
          issued := s.issuing downstream
          selected := (s.arbitrate downstream).1.selected },
    { settled with
      out := (s.arbitrate downstream).2
      staging := fun w => (s.stage inputs downstream w).2
      ready := fun w => enabled && settled.eligible s.credits w (s.candidate inputs downstream w) })

end Scoreboard

/-! ## Operand collector -/

/-- Banks of the register file. -/
def registerBanks : Nat := 4

/-- Reads operands in passes without bank conflicts. -/
structure Collector where
  first : Buffer Token 1 := .empty
  second : Buffer Token 1 := .empty
  out : Buffer Token 2 := .empty
  fetched : BitVec 3 := 0#3
  held : Token := {}

/-- The tokens in all resources. -/
def Collector.residents (c : Collector) : List Token :=
  c.first.queue ++ c.second.queue ++ c.out.queue

/-- The ports of the collector. -/
structure OperandResult where
  transfer : Transfer Token
  read : Signal
  granted : BitVec 3

/-- The source positions of a token still to be read. -/
def Token.pendingReads (t : Token) (fetched : BitVec 3) : List (Fin 3) :=
  (List.finRange 3).filter fun i =>
    t.used.getLsbD i.val && !fetched.getLsbD i.val && decide (t.sources i ≠ 0)

/-- The positions read in this pass: the first on each bank. -/
def Token.grantedReads (t : Token) : List (Fin 3) → List Nat → List (Fin 3)
  | [], _ => []
  | i :: rest, banks =>
    let bank := (t.sources i).val % registerBanks
    if bank ∈ banks then t.grantedReads rest banks else i :: t.grantedReads rest (bank :: banks)

/-- A set of source positions as a mask. -/
def sourceMask (positions : List (Fin 3)) : BitVec 3 :=
  positions.foldl (fun mask i => mask ||| 1#3 <<< i.val) 0#3

namespace Collector

/-- The positions of the input that are pending and those granted now. -/
def passes (c : Collector) (input : Signal) : BitVec 3 × BitVec 3 :=
  match input with
  | none => (0#3, 0#3)
  | some t =>
    let pending := t.pendingReads c.fetched
    (sourceMask pending, sourceMask (t.grantedReads pending []))

/-- `Evaluate`. -/
def evaluate (c : Collector) (input : Signal) (downstream : Bool) :
    Except Error (OperandResult × Collector) := do
  rejectIf (c.fetched ≠ 0#3 ∧ input ≠ some c.held)
    (.text "operand input changed before final acceptance")
  let (pending, granted) := c.passes input
  let final := decide (pending = granted)
  let (outT, out) := c.out.evaluate c.second.queue.head? downstream
  let (secondT, second) :=
    c.second.evaluate (c.first.queue.head?.filter fun t => t.lastRead) outT.inputReady
  let (firstT, first) := c.first.evaluate
    (input.map fun t => { t with readMask := granted, lastRead := final }) secondT.inputReady
  let (fetched, held) :=
    if firstT.inputReady && final then (0#3, {})
    else if firstT.accepted then (c.fetched ||| granted, input.getD {})
    else (c.fetched, c.held)
  pure ({ transfer := transfer input outT.output (firstT.inputReady && final) downstream
          read := gated firstT.completed firstT.output
          granted := if firstT.accepted then granted else 0#3 },
    { first, second, out, fetched, held })

end Collector

/-! ## Dispatch queues -/

/-- One queue for each class. -/
structure Dispatch where
  queues : Fin 4 → Buffer Token 4 := fun _ => .empty

/-- The ports of the dispatch queues. -/
structure DispatchResult where
  inputReady : Bool
  accepted : Bool
  outputs : Fin 4 → Signal
  releases : Fin 4 → Bool

namespace Dispatch

/-- The heads of the queues. -/
def outputs (d : Dispatch) (c : Fin 4) : Signal := (d.queues c).queue.head?

/-- `Evaluate`. -/
def evaluate (d : Dispatch) (input : Signal) (downstream : Fin 4 → Bool) :
    DispatchResult × Dispatch :=
  let steps := fun c => (d.queues c).evaluate (input.filter fun t => t.unit = c) (downstream c)
  let unit := (input.map Token.unit).getD 0
  ({ inputReady := (steps unit).1.inputReady
     accepted := (steps unit).1.accepted
     outputs := d.outputs
     releases := fun c => (steps c).1.completed },
    { queues := fun c => (steps c).2 })

end Dispatch

end VortexSim.Timing
