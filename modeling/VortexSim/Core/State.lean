import VortexSim.Core.Barrier
import VortexSim.Core.LocalMemory
import VortexSim.Lib.Act
import VortexSim.State.Spawn

/-!
# The scheduler of a core

A `Core` has four slots, one for each warp.  A slot refers to the executor of its warp and
adds what the scheduler knows: whether the warp may run, why it is blocked, and on which
barrier it waits.  The architectural state stays with its owner, CTA membership with the
manager, and barrier records with the coordinator; `validate` says how the four fit together.

`World` is everything an operation of the core can change.
-/

namespace VortexSim

open Checked Stateful

/-! ## Slots -/

/-- `WarpLifecycle` of package core. -/
inductive SlotLifecycle where
  | inactive
  | runnable
  | blocked
  | finished
  deriving Repr, DecidableEq

def SlotLifecycle.text : SlotLifecycle → String
  | .inactive => "inactive"
  | .runnable => "runnable"
  | .blocked => "blocked"
  | .finished => "finished"

/-- Why a slot is blocked. -/
inductive BlockReason where
  | none
  | explicit
  | pendingWork
  | warpSpawn
  | barrier
  | externalOwner
  | fault
  | unknown (raw : Nat)
  deriving Repr, DecidableEq

def BlockReason.text : BlockReason → String
  | .none => "none"
  | .explicit => "explicit"
  | .pendingWork => "pending-work"
  | .warpSpawn => "warp-spawn"
  | .barrier => "barrier"
  | .externalOwner => "external-owner"
  | .fault => "fault"
  | .unknown raw => s!"block-reason({raw})"

/-- `validBlockReason`. -/
def BlockReason.valid : BlockReason → Bool
  | .none | .unknown _ => false
  | _ => true

/-- One slot.  Its owner is the canonical state of its executor. -/
structure Slot (σ : Type) where
  executor : Executor σ
  lifecycle : SlotLifecycle := .inactive
  blockReason : BlockReason := .none
  participated : Bool := false
  barrierKey : BarrierKey := {}
  barrierWait : Bool := false
  barrierDrain : Bool := false

variable {σ : Type}

/-- Move a slot on and drop what it knew of a barrier. -/
def Slot.become (slot : Slot σ) (lifecycle : SlotLifecycle) (reason : BlockReason) : Slot σ :=
  { slot with
    lifecycle
    blockReason := reason
    barrierKey := {}
    barrierWait := false
    barrierDrain := false }

/-- The slot waits for the end of the phase of a barrier. -/
def Slot.WaitsOn (slot : Slot σ) (key : BarrierKey) : Prop :=
  slot.lifecycle = .blocked ∧ slot.blockReason = .barrier ∧ slot.barrierWait = true ∧
    slot.barrierKey = key

instance (slot : Slot σ) (key : BarrierKey) : Decidable (slot.WaitsOn key) :=
  inferInstanceAs (Decidable (_ ∧ _))

/-! ## The core -/

/-- `PendingWorkProvider`: whether a warp has work issued before its WSYNC. -/
abbrev PendingWorkProvider (σ : Type) := WarpID → Act σ Error Bool

/-- The slots and what is attached to them. -/
structure Core (σ : Type) where
  slots : WarpID → Slot σ
  next : WarpID := 0
  pendingWork : Option (PendingWorkProvider σ) := none
  ctas : Option ManagerID := none
  /-- The manager whose coordinator is bound. -/
  barriers : Option ManagerID := none
  initialized : WarpID → Bool := fun _ => false

/-- The core with every owner its operations reach. -/
structure World (σ : Type) where
  core : Core σ
  owners : Owners
  managers : Managers
  localMemories : LocalMemories
  memory : σ

variable (w : World σ) (id : WarpID)

/-- The canonical state of a slot. -/
def World.warp : WarpState := w.owners (w.core.slots id).executor.owner

/-- Replace the canonical state of a slot. -/
def World.setWarp (warp : WarpState) : World σ :=
  { w with owners := Function.update w.owners (w.core.slots id).executor.owner warp }

def World.setSlot (slot : Slot σ) : World σ :=
  { w with core := { w.core with slots := Function.update w.core.slots id slot } }

/-- Move the slot of a warp on, dropping its barrier. -/
def World.moveSlot (lifecycle : SlotLifecycle) (reason : BlockReason) : World σ :=
  w.setSlot id ((w.core.slots id).become lifecycle reason)

/-- A slot that takes part from now on. -/
def World.startSlot : World σ :=
  w.setSlot id { (w.core.slots id).become .runnable .none with participated := true }

def World.setManager (id : ManagerID) (m : CTAManager) : World σ :=
  { w with managers := Function.update w.managers id m }

/-! ## Validation -/

/-- The lifecycle of a slot against the canonical state of its warp. -/
def validateLifecycleOf (slot : Slot σ) (warp : WarpState) : Except Error Unit :=
  let inconsistent : Error :=
    .text (s!"core: {slot.lifecycle.text} warp {id.val} is inconsistent with" ++ " canonical state")
  match slot.lifecycle with
  | .inactive =>
    rejectIf (slot.participated = true ∨ slot.blockReason ≠ .none ∨
      warp.lifecycle ≠ .inactive ∨ warp.activeMask ≠ 0#8) inconsistent
  | .runnable =>
    rejectIf (slot.participated = false ∨ slot.blockReason ≠ .none ∨
      warp.lifecycle ≠ .running ∨ warp.activeMask = 0#8) inconsistent
  | .blocked =>
    rejectIf (slot.participated = false ∨ slot.blockReason.valid = false ∨
      warp.lifecycle ≠ .running ∨ warp.activeMask = 0#8) inconsistent
  | .finished =>
    rejectIf (slot.participated = false ∨ slot.blockReason ≠ .none ∨
      warp.lifecycle ≠ .inactive ∨ warp.activeMask ≠ 0#8) inconsistent

/-- A waiting slot is recorded at its barrier. -/
def World.validateWait : Except Error Unit :=
  let slot := w.core.slots id
  let absent : Error := .text (s!"core: warp {id.val} scheduler wait is absent from" ++
    " canonical barrier record")
  if slot.barrierWait then
    match w.core.barriers with
    | none => .error (.text s!"core: warp {id.val} waits without a barrier coordinator")
    | some manager => do
        let record ← ((w.managers manager).barrierSnapshot slot.barrierKey.raw).mapError
          fun _ => absent
        rejectIf (record.2.waiters.active id.val = false) absent
  else pure ()

def World.validateSlot : Except Error Unit := do
  let slot := w.core.slots id
  rejectIf ((w.warp id).id ≠ id.val)
    (.text s!"core: slot {id.val} references canonical warp {(w.warp id).id}")
  rejectIf (∃ manager ∈ w.core.ctas, slot.participated = true ∧
      (w.managers manager).hasWarp id = false)
    (.text s!"core: participated warp {id.val} has no CTA membership")
  rejectIf (slot.blockReason ≠ .barrier ∧
      (slot.barrierWait = true ∨ slot.barrierDrain = true ∨ slot.barrierKey ≠ {}))
    (.text s!"core: warp {id.val} retains barrier metadata outside a barrier block")
  rejectIf (slot.barrierWait = true ∧ slot.barrierDrain = true)
    (.text s!"core: warp {id.val} cannot wait on a record while draining LSU")
  w.validateWait id
  validateLifecycleOf id slot (w.warp id)

/-- The memory route of a CTA member. -/
def validateRoute (manager : ManagerID) (id : WarpID) (data : DataRoute σ) : Except Error Unit :=
  match data with
  | .cta route =>
    rejectIf (route.warpID ≠ id ∨ route.manager ≠ manager)
      (.text (s!"core: CTA member warp {id.val} memory route references a different warp" ++
        " or CTA manager"))
  | _ => .error (.text s!"core: CTA member warp {id.val} has no CTA memory route")

def World.validateCTAMemoryRoutes (manager : ManagerID) : Except Error Unit :=
  each (fun _ id =>
      if (w.managers manager).dynamic = false ∧ (w.managers manager).hasWarp id = false then pure ()
      else validateRoute manager id (w.core.slots id).executor.data)
    0 (List.finRange frozenWarpCount)

/-- `validate`. -/
def World.validate : Except Error Unit := do
  each (fun _ id => w.validateSlot id) 0 (List.finRange frozenWarpCount)
  match w.core.ctas with
  | some manager => do
      w.validateCTAMemoryRoutes manager
      rejectIf (w.core.barriers ≠ some manager)
        (.text "core: CTA and barrier canonical owners are not bound")
  | none =>
    rejectIf (w.core.barriers ≠ none) (.text "core: barrier coordinator has no CTA owner")

/-! ## Construction -/

/-- The slot of an executor: a running warp takes part at once. -/
def slotOf (executor : Executor σ) (warp : WarpState) : Slot σ :=
  if warp.lifecycle = .running then { executor, lifecycle := .runnable, participated := true }
  else { executor }

/-- Put one executor into the slot its warp names. -/
def scanExecutor (owners : Owners) (_ : Nat) (slots : WarpID → Option (Slot σ))
    (executor : Executor σ) : Except Error (WarpID → Option (Slot σ)) := do
  let warp := owners executor.owner
  rejectIf (frozenWarpCount ≤ warp.id) (.text s!"core: warp id {warp.id} exceeds frozen count")
  let id : WarpID := Fin.ofNat frozenWarpCount warp.id
  rejectIf ((slots id).isSome = true) (.text s!"core: duplicate warp id {warp.id}")
  pure (Function.update slots id (some (slotOf executor warp)))

/-- The slot of a warp, where one was given. -/
def presentSlot (slots : WarpID → Option (Slot σ)) (id : WarpID) : Except Error (Slot σ) :=
  match slots id with
  | none => .error (.text s!"core: missing warp id {id.val}")
  | some slot => pure slot

/-- `New`. -/
def World.new (executors : List (Executor σ)) (owners : Owners) (managers : Managers)
    (localMemories : LocalMemories) (memory : σ) : Except Error (World σ) := do
  rejectIf (executors.length ≠ frozenWarpCount)
    (.text (s!"core: got {executors.length} warp slots, want frozen count" ++
      s!" {frozenWarpCount}"))
  let slots ← foldEach (scanExecutor owners) 0 (fun _ => none) executors
  let slot0 ← presentSlot slots 0
  let slot1 ← presentSlot slots 1
  let slot2 ← presentSlot slots 2
  let slot3 ← presentSlot slots 3
  let world : World σ := {
    core := { slots := ![slot0, slot1, slot2, slot3] }
    owners, managers, localMemories, memory }
  world.validate
  pure world

end VortexSim
