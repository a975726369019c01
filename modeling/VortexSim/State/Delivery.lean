import VortexSim.State.Apply

/-!
# Event by event delivery

The timing side makes the effects of one instruction visible in parts: register writes lane
by lane, control, CSR and flags each at their own event.  An `EffectDelivery` keeps the
bundle and the receipts of the events already delivered.  Every event stages a projection
of the bundle against the live warp and commits it at once, so no candidate survives from
one event to the next.

A delivery made through an `EffectStream` also has its instruction order and its fetch
context, and its control event is validated against that context.  A pointer to the owner
or to the stream is passed as the current value and returned in the result.
-/

namespace VortexSim

open Checked

/-- The parts of a bundle that become visible one by one. -/
inductive VisibilityEvent where
  | writeback
  | control
  | csr
  | fflags
  | memory
  | fault
  deriving Repr, DecidableEq

instance : Fintype VisibilityEvent where
  elems := {.writeback, .control, .csr, .fflags, .memory, .fault}
  complete := by intro x; cases x <;> decide

/-- The fetch context of one pipeline token. -/
structure InstructionContext where
  warpID : Nat
  pc : Word
  mask : LaneMask
  deriving Repr, DecidableEq

/-- PC visibility and activation frontiers of one residency. -/
structure EffectStream where
  controlOrder : Nat := 0
  activationOrder : Nat := 0
  deriving Repr, DecidableEq

/-- The place of a delivery in its stream. -/
structure StreamSlot where
  order : Nat
  instruction : InstructionContext
  deriving Repr, DecidableEq

/-- A bundle and what of it is visible. -/
structure EffectDelivery where
  slot : Option StreamSlot := none
  effects : InstructionEffects
  delivered : VisibilityEvent → Bool := fun _ => false
  writes : LaneMask := 0#8
  cancelled : Bool := false
  deriving DecidableEq

/-! ## Staging under a latched context -/

/-- `WithInstructionContext`: the state with the latched PC and mask. -/
def WarpState.withInstructionContext (w : WarpState) (context : InstructionContext) :
    Except Error WarpState := do
  rejectIf (context.warpID ≠ w.id ∨ misaligned context.pc ∨ ¬ context.mask.Valid ∨
      context.mask = 0#8)
    (.text "invalid latched instruction context")
  pure { w with pc := context.pc, activeMask := context.mask, lifecycle := .running }

/-- Validate against the latched context and build the result from the live owner.  What
the context overrode and the bundle does not write is put back. -/
def WarpState.stageInstructionEffects (w : WarpState) (context : InstructionContext)
    (effects : InstructionEffects) : Except Error EffectStage := do
  let logical ← w.withInstructionContext context
  let stage ← logical.stageEffects effects
  let after := stage.after
  let after := if effects.control = none then { after with pc := w.pc } else after
  let after :=
    if effects.warpMasks.length = 0 ∧ effects.divergence = none ∧ effects.trap = none then
      { after with activeMask := w.activeMask, lifecycle := w.lifecycle }
    else after
  pure { stage with before := w, after := after }

/-- The nonblocking BAR.arrive group, the only control part that may be late. -/
def asynchronousArrival (part : InstructionEffects) : Bool :=
  match part.control, part.barriers, part.warpDrains with
  | some control, [b], [drain] =>
    decide (control.reason = .sequential) && decide (b.kind = .arrive) && !b.sync && !b.wait &&
    !b.releaseByCoordinator && b.drainLSU && (b.arrive != b.event) &&
    decide (drain.kind = .lsu) && !drain.wait && !drain.releaseAfterDrain
  | _, _, _ => false

/-- A control part that may not arrive behind the PC frontier. -/
def staleControl (late : Bool) (part : InstructionEffects) : Prop :=
  (∃ c ∈ part.control, c.reason ≠ .sequential) ∨ part.trap ≠ none ∨
  part.warpMasks.length ≠ 0 ∨ part.divergence ≠ none ∨ part.warpSpawn ≠ none ∨
  (late = false ∧ (part.warpDrains.length ≠ 0 ∨ part.barriers.length ≠ 0))

instance (late : Bool) (part : InstructionEffects) : Decidable (staleControl late part) :=
  inferInstanceAs (Decidable (_ ∨ _))

variable {ω : Type} (d : EffectDelivery) (owner : WarpState) (stream : EffectStream) (world : ω)
  (event : VisibilityEvent) (lanes : LaneMask)

/-- Control behind the frontier keeps the PC. -/
def stageStreamControl (slot : StreamSlot) (part : InstructionEffects) : Except Error EffectStage :=
  if slot.order ≤ stream.controlOrder then do
    let lateArrive := decide (stream.activationOrder < slot.order) && asynchronousArrival part
    rejectIf (staleControl lateArrive part) (.text "stale nonsequential control delivery")
    owner.stageEffects { part with control := none }
  else owner.stageInstructionEffects slot.instruction part

/-- `RecordActivation`: move both frontiers up to an admitted order. -/
def EffectStream.recordActivation (s : EffectStream) (through : Nat) : EffectStream where
  activationOrder := max s.activationOrder through
  controlOrder := max s.controlOrder through

/-! ## Creation -/

/-- Validate a bundle at creation and discard the candidate. -/
def WarpState.newEffectDelivery (w : WarpState) (effects : InstructionEffects) :
    Except Error EffectDelivery := do
  let _ ← w.stageEffects effects
  pure { effects }

/-- `NewDelivery`. -/
def EffectStream.newDelivery (order : Nat) (context : InstructionContext)
    (effects : InstructionEffects) : Except Error EffectDelivery := do
  rejectIf (order = 0) (.text "invalid effect stream identity")
  let _ ← owner.stageInstructionEffects context effects
  pure { effects, slot := some { order, instruction := context } }

def EffectDelivery.cancel : EffectDelivery := { d with cancelled := true }

/-! ## Projections -/

/-- The union of the write masks of a bundle. -/
def writtenLanes (writes : List RegisterWriteEffect) : LaneMask :=
  writes.foldl (fun expected write => expected ||| write.mask) 0#8

/-- The register writes of a bundle cut down to some lanes. -/
def restrictWrites (writes : List RegisterWriteEffect) (lanes : LaneMask) :
    List RegisterWriteEffect :=
  (writes.map fun write => { write with mask := write.mask &&& lanes }).filter
    fun write => decide (write.mask ≠ 0#8)

/-- The control part of a bundle: with a trap it has the CSR writes too. -/
def controlPart (e : InstructionEffects) : InstructionEffects where
  control := e.control
  trap := e.trap
  warpMasks := e.warpMasks
  divergence := e.divergence
  warpSpawn := e.warpSpawn
  warpDrains := e.warpDrains
  barriers := e.barriers
  csrWrites := if e.trap = none then [] else e.csrWrites

/-- The part of the bundle that an event makes visible. -/
def EffectDelivery.project : Except Error InstructionEffects :=
  match event with
  | .writeback => do
      let expected := writtenLanes d.effects.registerWrites
      rejectIf (¬ lanes.Valid ∨ lanes &&& ~~~expected ≠ 0#8 ∨ lanes &&& d.writes ≠ 0#8 ∨
          (expected ≠ 0#8 ∧ lanes = 0#8))
        (.text "invalid or repeated writeback coverage")
      pure { registerWrites := restrictWrites d.effects.registerWrites lanes }
  | .control => pure (controlPart d.effects)
  | .csr => do
      rejectIf (d.effects.trap ≠ none) (.text "trap CSR writes belong to control event")
      pure { csrReads := d.effects.csrReads, csrWrites := d.effects.csrWrites }
  | .fflags => pure { fflags := d.effects.fflags }
  | .memory => pure {
      memoryRequests := d.effects.memoryRequests
      packedLoads := d.effects.packedLoads
      ordering := d.effects.ordering }
  | .fault => pure { faults := d.effects.faults }

/-- The receipt after a delivered event. -/
def EffectDelivery.receive : EffectDelivery :=
  match event with
  | .writeback =>
    { d with
      writes := d.writes ||| lanes
      delivered := Function.update d.delivered .writeback
        (decide (d.writes ||| lanes = writtenLanes d.effects.registerWrites)) }
  | event => { d with delivered := Function.update d.delivered event true }

/-! ## Delivery of one event -/

/-- An external owner: it accepts or refuses forwarded effects and moves its world. -/
abbrev ExternalOwner (ω : Type) := InstructionEffects → ω → ω × Option Error

/-- Everything a delivery may change. -/
structure DeliverResult (ω : Type) where
  world : ω
  owner : WarpState
  stream : EffectStream
  delivery : EffectDelivery
  error : Option Error := none

/-- Commit a stage, through the external owner exactly when the stage needs one. -/
def EffectStage.settle {ω : Type} (s : EffectStage) (owner : WarpState) (world : ω)
    (external : Option (ExternalOwner ω)) (needs superfluous : String) : ω × CommitResult :=
  if s.requiresExternal then
    match external with
    | none => (world, s.refuse owner needs)
    | some call => s.commitForwardedWithExternal owner world (call s.forwarded)
  else
    match external with
    | some _ => (world, s.refuse owner superfluous)
    | none => (world, s.commit owner)

/-- The stage of one event against the live owner. -/
def EffectDelivery.stageEvent (part : InstructionEffects) : Except Error EffectStage :=
  match d.slot, event with
  | some slot, .control => stageStreamControl owner stream slot part
  | _, _ => owner.stageEffects part

/-- The PC frontier after a control event. -/
def EffectDelivery.advance (stream : EffectStream) : EffectStream :=
  match d.slot with
  | none => stream
  | some slot =>
    if event = .control ∧ d.effects.control ≠ none ∧ stream.controlOrder < slot.order then
      { stream with controlOrder := slot.order }
    else stream

/-- The refusals that precede staging, and the stage. -/
def EffectDelivery.prepare : Except Error EffectStage := do
  rejectIf (d.cancelled = true) (.text "inactive effect delivery")
  rejectIf (d.delivered event = true) (.text "unknown or repeated visibility event")
  rejectIf (event ≠ .writeback ∧ lanes ≠ 0#8) (.text "lane subset only valid for writeback")
  let part ← d.project event lanes
  d.stageEvent owner stream event part

/-- `Deliver`: apply one event, or one disjoint set of lanes of the writeback event. -/
def EffectDelivery.deliver (external : Option (ExternalOwner ω)) : DeliverResult ω :=
  match d.prepare owner stream event lanes with
  | .error err => { world, owner, stream, delivery := d, error := some err }
  | .ok stage =>
    match stage.settle owner world external "visibility event requires external owner"
        "local event cannot invoke an external owner" with
    | (world', { owner := owner', error := some err, .. }) =>
      { world := world', owner := owner', stream, delivery := d, error := some err }
    | (world', { owner := owner', error := none, .. }) =>
      { world := world', owner := owner', stream := d.advance event stream
        delivery := d.receive event lanes }

/-! ## Joint delivery of CSR, flags and trap -/

/-- A delivery that joins the CSR event of another one.  `peer` says that it is a different
delivery of the same owner, which the source tests on pointers. -/
structure JointPeer where
  delivery : EffectDelivery
  stream : EffectStream
  peer : Bool

/-- The fields the scheduler's trap logic writes, taken over from the control stage. -/
def mergeTrap (after control : WarpState) (trap : TrapEffect) : WarpState :=
  let after := { after with pc := control.pc }
  if trap.kind = .enter then
    { after with
      trapCSRs := { after.trapCSRs with
        mepc := control.trapCSRs.mepc
        mcause := control.trapCSRs.mcause
        mtval := control.trapCSRs.mtval }
      savedThreadMask := control.savedThreadMask }
  else if trap.restoresThreadMask then
    { after with activeMask := control.activeMask, lifecycle := control.lifecycle }
  else after

/-- The flags a joint delivery accumulates. -/
def jointFlags (flags : Option JointPeer) : Except Error (Option FFlagsEffect) :=
  match flags with
  | none => pure none
  | some flags => do
      rejectIf (flags.peer = false ∨ flags.delivery.cancelled = true ∨
          flags.delivery.delivered .fflags = true)
        (.text "invalid combined flags receipt")
      pure flags.delivery.effects.fflags

/-- The control stage of the trap that joins. -/
def jointTrap (trap : JointPeer) (effect : TrapEffect) : Except Error EffectStage := do
  let e := trap.delivery.effects
  let control : InstructionEffects :=
    { control := e.control, trap := some effect, csrWrites := e.csrWrites }
  let stage ← trap.delivery.stageEvent owner trap.stream .control control
  rejectIf (stage.requiresExternal = true)
    (.text "trap control unexpectedly forwards external effects")
  pure stage

/-- CSR effects with the flags or the trap. -/
def EffectDelivery.jointStage (flags trap : Option JointPeer) : Except Error EffectStage := do
  rejectIf (d.cancelled = true ∨ d.delivered .csr = true ∨ d.effects.trap ≠ none)
    (.text "invalid or repeated combined CSR delivery")
  let fflags ← jointFlags flags
  let stage ← owner.stageEffects
    { csrReads := d.effects.csrReads, csrWrites := d.effects.csrWrites, fflags }
  match trap with
  | none => pure stage
  | some trap => do
      rejectIf (trap.peer = false ∨ trap.delivery.cancelled = true ∨
          trap.delivery.delivered .control = true)
        (.text "invalid combined trap receipt")
      match trap.delivery.effects.trap with
      | none => .error (.text "invalid combined trap receipt")
      | some effect => do
          let control ← jointTrap owner trap effect
          pure { stage with after := mergeTrap stage.after control.after effect }

/-- What a joint delivery leaves: the owner, the three receipts and the trap's stream. -/
structure JointResult (ω : Type) where
  world : ω
  owner : WarpState
  delivery : EffectDelivery
  flags : Option JointPeer
  trap : Option JointPeer
  error : Option Error := none

/-- Mark one event of a peer as delivered. -/
def JointPeer.mark (p : JointPeer) (event : VisibilityEvent) : JointPeer :=
  { p with delivery := { p.delivery with
      delivered := Function.update p.delivery.delivered event true } }

/-- The trap's stream moves up to the order of the trap. -/
def JointPeer.advance (p : JointPeer) : JointPeer :=
  match p.delivery.slot with
  | none => p
  | some slot =>
    if p.stream.controlOrder < slot.order then
      { p with stream := { p.stream with controlOrder := slot.order } }
    else p

/-- `DeliverCSRWithFlags` and `DeliverCSRWithTrap`: one transaction for the CSR event of `d`,
the flags of one peer and the trap of another. -/
def EffectDelivery.deliverCSRJoint (flags trap : Option JointPeer)
    (external : Option (ExternalOwner ω)) : JointResult ω :=
  match d.jointStage owner flags trap with
  | .error err => { world, owner, delivery := d, flags, trap, error := some err }
  | .ok stage =>
    match stage.settle owner world external "combined CSR event requires external owner"
        "local CSR event cannot invoke external owner" with
    | (world', { owner := owner', error := some err, .. }) =>
      { world := world', owner := owner', delivery := d, flags, trap, error := some err }
    | (world', { owner := owner', error := none, .. }) =>
      { world := world', owner := owner'
        delivery := { d with delivered := Function.update d.delivered .csr true }
        flags := flags.map (·.mark .fflags)
        trap := trap.map fun p => (p.mark .control).advance }

end VortexSim
