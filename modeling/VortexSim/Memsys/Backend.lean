import VortexSim.Lib.Checked
import VortexSim.Memsys.Line

/-!
# The ports of a backend

A backend takes line requests from several clients.  Its configuration, its queue, the checks of
an offer and the arbitration are the same whether the service answers after a fixed time or on
its own.  The offers of an edge are arbitrated round robin; the occupancy before the edge decides
how many are taken.

All protocol errors are found before anything changes.  Ports are numbered by `Fin n`, an
offer is the request on a port, if there is one, and an invalid reply is `none`.
-/

namespace VortexSim.Memsys

open Checked

/-- The largest `uint64`. -/
def maxUint64 : Nat := 2 ^ 64 - 1

/-- Latency, bandwidths and depth of the queue. -/
structure Config where
  latency : Nat
  acceptsPerCycle : Nat
  maxInflight : Nat
  returnsPerCycle : Nat
  deriving Repr, DecidableEq

/-- What `New` asks of a configuration. -/
structure Config.Valid (c : Config) : Prop where
  latency : 0 < c.latency
  accepts : 0 < c.acceptsPerCycle
  inflight : 0 < c.maxInflight
  returns : 0 < c.returnsPerCycle

instance (c : Config) : Decidable c.Valid :=
  decidable_of_iff (0 < c.latency ∧ 0 < c.acceptsPerCycle ∧ 0 < c.maxInflight ∧
      0 < c.returnsPerCycle)
    ⟨fun h => ⟨h.1, h.2.1, h.2.2.1, h.2.2.2⟩,
      fun h => ⟨h.latency, h.accepts, h.inflight, h.returns⟩⟩

/-- An accepted request that has not been returned. -/
structure Entry (n : Nat) where
  client : Fin n
  request : LineRequest
  due : Nat
  response : Response
  serviced : Bool
  deriving DecidableEq

/-- The queue of accepted requests and what the ports keep. -/
structure Backend (σ : Type) (n : Nat) where
  config : Config
  line : LineState σ
  queue : List (Entry n) := []
  held : Fin n → Option LineRequest := fun _ => none
  last : Fin n → Nat := fun _ => 0
  used : Fin n → Bool := fun _ => false
  nextClient : Nat := 0
  sequence : Nat := 0
  cycle : Nat := 0
  started : Bool := false

/-- The signals a client and the clock apply at one edge. -/
structure EdgeInput (n : Nat) where
  cycle : Nat
  offers : Fin n → Option LineRequest
  ready : Fin n → Bool

variable {σ : Type} {n : Nat}

/-- `New`. -/
def Backend.new (owner : σ) (config : Config) (n : Nat) : Except Error (Backend σ n) := do
  rejectIf (¬ config.Valid ∨ n = 0) (.text "invalid backend configuration")
  pure { config, line := { owner } }

/-! ## Port checks -/

/-- A request no backend serves. -/
def LineRequest.Malformed (r : LineRequest) : Prop :=
  (∃ raw, r.operation = .unknown raw) ∨
    (r.operation ≠ .visibility ∧ r.address.toNat % sectorBytes ≠ 0)

instance (r : LineRequest) : Decidable r.Malformed :=
  have : Decidable (∃ raw, r.operation = .unknown raw) :=
    match r.operation with
    | .unknown raw => .isTrue ⟨raw, rfl⟩
    | .read | .write | .visibility => .isFalse fun ⟨_, hraw⟩ => nomatch hraw
  inferInstanceAs (Decidable (_ ∨ _))

/-- The texts by which the two backends refuse an offer. -/
structure PortErrors where
  changed : Nat → Error
  invalid : Nat → Error
  stale : Nat → Error

/-- The checks of one port: a stalled offer is kept, a request is well formed, and the
transactions of a port increase. -/
def Backend.checkPort (b : Backend σ n) (errors : PortErrors) (offers : Fin n → Option LineRequest)
    (i : Fin n) : Except Error Unit := do
  rejectIf (b.held i ≠ none ∧ offers i ≠ b.held i) (errors.changed i)
  match offers i with
  | none => pure ()
  | some r => do
      rejectIf r.Malformed (errors.invalid i)
      rejectIf (b.used i = true ∧ r.identity.transaction ≤ b.last i) (errors.stale i)

/-! ## Arbitration -/

/-- The ports in the order of the arbitration. -/
def rotated (n start : Nat) [NeZero n] : List (Fin n) :=
  (List.range n).map fun offset => Fin.ofNat n (start + offset)

/-- The ports accepted at an edge, in order: those with an offer, as many as slots and
bandwidth allow. -/
def Backend.admitted [NeZero n] (b : Backend σ n) (offers : Fin n → Option LineRequest) :
    List (Fin n) :=
  ((rotated n b.nextClient).filter fun i => (offers i).isSome).take
    (min b.config.acceptsPerCycle (b.config.maxInflight - b.queue.length))

/-- The requests accepted at an edge, in order. -/
def Backend.acceptedRequests [NeZero n] (b : Backend σ n)
    (offers : Fin n → Option LineRequest) : List (Fin n × LineRequest) :=
  (b.admitted offers).filterMap fun i => (offers i).map fun r => (i, r)

/-- The response of a request before it is served. -/
def LineRequest.pending (r : LineRequest) (cycle sequence : Nat) : Response where
  identity := r.identity
  tag := r.tag
  operation := r.operation
  data := fun _ => 0#8
  byteEnable := r.responseMask
  acceptedCycle := cycle
  completedCycle := 0
  sequence := sequence
  err := none

/-- What the ports keep after an edge: the port to ask first, the last transactions and the
offers not accepted. -/
def Backend.settlePorts [NeZero n] (b : Backend σ n) (input : EdgeInput n)
    (admitted : List (Fin n × LineRequest)) : Backend σ n :=
  { b with
    last := fun i => ((admitted.lookup i).map fun r => r.identity.transaction).getD (b.last i)
    used := fun i => b.used i || (admitted.lookup i).isSome
    nextClient := (admitted.getLast?.map fun a => (a.1.val + 1) % n).getD b.nextClient
    held := fun i => if (admitted.lookup i).isSome then none else input.offers i
    cycle := input.cycle
    started := true }

/-- The acceptance flags of an edge. -/
def acceptedFlags (admitted : List (Fin n × LineRequest)) (i : Fin n) : Bool :=
  (admitted.lookup i).isSome

end VortexSim.Memsys
