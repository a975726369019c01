import VortexSim.Lib.Newest
import VortexSim.State.DeliveryOrder

/-!
# Sessions of one effect stream

A stream belongs to one residency of a warp.  Its deliveries are created, cancelled and
delivered in any order, alone, jointly or as a spawn, and an activation of the warp moves the
frontiers at any point.  `StreamSession` has everything these operations touch: the canonical
owners, the stream, the deliveries made through it and the world of the external owners.
A delivery is named by its place in the list, the pointer of the source.

An activation is what another warp's spawn or a CTA launch does to this warp, followed by
`RecordActivation`.  The bare form records the activation and touches nothing else.
-/

namespace VortexSim

/-- What an activation does to the warp it activates. -/
inductive Activation where
  | bare
  | spawned (spawn : WarpSpawnEffect)
  | launched (target : WarpLaunchTarget)

/-- The warp after an activation. -/
def Activation.apply (w : WarpState) : Activation → WarpState
  | .bare => w
  | .spawned spawn => spawnCandidate spawn w
  | .launched target => launchCandidate target w

/-- A stream with its deliveries and the warps around it. -/
structure StreamSession (ω : Type) where
  owners : Owners
  owner : Owner
  world : ω
  stream : EffectStream := {}
  deliveries : List EffectDelivery := []

/-- The operations on a stream, and `others`, by which the other warps move. -/
inductive StreamOp (ω : Type) where
  | newDelivery (order : Nat) (context : InstructionContext) (effects : InstructionEffects)
  | cancel (delivery : Nat)
  | deliver (delivery : Nat) (event : VisibilityEvent) (lanes : LaneMask)
      (external : Option (ExternalOwner ω))
  | deliverCSRJoint (delivery : Nat) (flags trap : Option Nat) (external : Option (ExternalOwner ω))
  | deliverWarpSpawn (delivery : Nat) (targets : List WarpSpawnTarget) (activation : Bool)
  | activate (activation : Activation) (through : Nat)
  | others (owners : Owners)

namespace StreamSession

variable {ω : Type} (s : StreamSession ω)

/-- The warp of the stream. -/
def warp : WarpState := s.owners s.owner

def putWarp (w : WarpState) : StreamSession ω :=
  { s with owners := Function.update s.owners s.owner w }

def putDelivery (i : Nat) (d : EffectDelivery) : StreamSession ω :=
  { s with deliveries := s.deliveries.set i d }

/-- A delivery that joins the CSR event of another one, which has to be none of `apart`. -/
def peer (apart : List Nat) (j : Nat) : Option JointPeer :=
  s.deliveries[j]?.map fun d =>
    { delivery := d, stream := s.stream, peer := decide (j ∉ apart) }

def putPeer (j : Option Nat) (peer : Option JointPeer) : StreamSession ω :=
  match j, peer with
  | some j, some peer => s.putDelivery j peer.delivery
  | _, _ => s

/-- Use one delivery.  A delivery that does not exist is refused as the source refuses a nil
pointer. -/
def onDelivery (i : Nat) (inactive : String)
    (use : EffectDelivery → StreamSession ω × Option Error) : StreamSession ω × Option Error :=
  match s.deliveries[i]? with
  | none => (s, some (.text inactive))
  | some d => use d

/-- The session after `Deliver`. -/
def afterDeliver (i : Nat) (r : DeliverResult ω) : StreamSession ω × Option Error :=
  ({ (s.putWarp r.owner).putDelivery i r.delivery with world := r.world, stream := r.stream },
    r.error)

/-- The session after `DeliverCSRWithFlags` or `DeliverCSRWithTrap`. -/
def afterJoint (i : Nat) (flags trap : Option Nat) (r : JointResult ω) :
    StreamSession ω × Option Error :=
  ({ (((s.putWarp r.owner).putDelivery i r.delivery).putPeer flags r.flags).putPeer trap r.trap with
      world := r.world
      stream := (r.trap.map JointPeer.stream).getD s.stream }, r.error)

/-- The session after `DeliverWarpSpawn` or `DeliverWarpSpawnAtActivation`. -/
def afterSpawn (i : Nat) (r : SpawnResult) : StreamSession ω × Option Error :=
  ({ s.putDelivery i r.delivery with owners := r.owners, stream := r.stream }, r.error)

/-- One operation: the session after it and the error it reports. -/
def perform : StreamOp ω → StreamSession ω × Option Error
  | .newDelivery order context effects =>
    match EffectStream.newDelivery s.warp order context effects with
    | .error err => (s, some err)
    | .ok d => ({ s with deliveries := s.deliveries ++ [d] }, none)
  | .cancel i =>
    match s.deliveries[i]? with
    | none => (s, none)
    | some d => (s.putDelivery i d.cancel, none)
  | .deliver i event lanes external =>
    s.onDelivery i "inactive effect delivery" fun d =>
      s.afterDeliver i (d.deliver s.warp s.stream s.world event lanes external)
  | .deliverCSRJoint i flags trap external =>
    s.onDelivery i "invalid or repeated combined CSR delivery" fun d =>
      s.afterJoint i flags trap (d.deliverCSRJoint s.warp s.world (flags.bind (s.peer [i]))
        (trap.bind (s.peer (i :: flags.toList))) external)
  | .deliverWarpSpawn i targets activation =>
    s.onDelivery i "inactive, repeated or non-spawn control delivery" fun d =>
      s.afterSpawn i (d.deliverWarpSpawn s.owners s.owner s.stream targets activation)
  | .activate activation through =>
    ({ s.putWarp (activation.apply s.warp) with
        stream := s.stream.recordActivation through }, none)
  | .others owners => ({ s with owners := Function.update owners s.owner s.warp }, none)

/-- A whole session, failed operations included. -/
def run (ops : List (StreamOp ω)) : StreamSession ω := ops.foldl (fun s op => (s.perform op).1) s

/-! ## The controls a session delivers -/

end StreamSession

/-- The order of a delivery and the PC its control asks for.  A spawn without a control
effect still moves the frontier, to the instruction after it. -/
def EffectDelivery.controlReceipt (d : EffectDelivery) (spawn : Bool) : Option (Nat × Word) :=
  match d.slot, d.effects.control with
  | none, _ => none
  | some slot, some control => some (slot.order, control.nextPC)
  | some slot, none => if spawn then some (slot.order, slot.instruction.pc + 4#32) else none

namespace StreamOp

variable {ω : Type}

/-- The delivery whose control event an operation asks for. -/
def controls : StreamOp ω → Option Nat
  | .deliver i .control _ _ => some i
  | .deliverCSRJoint _ _ trap _ => trap
  | .deliverWarpSpawn i _ _ => some i
  | _ => none

/-- A spawn is delivered. -/
def spawns : StreamOp ω → Bool
  | .deliverWarpSpawn _ _ _ => true
  | _ => false

/-- How far an activation reaches. -/
def activates : StreamOp ω → Option Nat
  | .activate _ through => some through
  | _ => none

end StreamOp

namespace StreamSession

variable {ω : Type}

/-- The control an operation delivers: nothing unless it succeeds. -/
def delivers (s : StreamSession ω) (op : StreamOp ω) : Option (Nat × Word) :=
  if (s.perform op).2 = none then
    (op.controls.bind (s.deliveries[·]?)).bind (·.controlReceipt op.spawns)
  else none

/-- The controls delivered by a session, in the order of their delivery. -/
def delivered (s : StreamSession ω) : List (StreamOp ω) → List (Nat × Word)
  | [] => []
  | op :: ops => (s.delivers op).toList ++ (s.perform op).1.delivered ops

end StreamSession

end VortexSim
