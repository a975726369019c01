import VortexSim.Core.Operations

/-!
# One step of the core

`Step` wakes the warps whose functional wait is over, selects the next runnable one in round
robin order, runs its executor on the views of the other owners and, where the instruction
was deferred to the core, coordinates it: WSPAWN with the target warps, WSYNC with the pending
work, and a barrier with its coordinator.
-/

namespace VortexSim

open Checked Stateful

variable {σ : Type}

/-- `BarrierTransition`. -/
structure BarrierTransition where
  draining : Bool := false
  accepted : Bool := false
  request : Option BarrierEffect := none
  key : BarrierKey := {}
  before : BarrierSnapshot := ({}, {})
  after : BarrierSnapshot := ({}, {})
  blocked : Bool := false
  released : WarpMask := 0#8

/-- The result of a step that selected a warp, with the error it was returned with. -/
structure CoreStep where
  warpID : WarpID
  lifecycle : SlotLifecycle
  previousBlockReason : BlockReason
  warpResult : Result
  nextLifecycle : SlotLifecycle
  blockReason : BlockReason
  ctaID : Option Word
  barrier : Option BarrierTransition
  completion : Option World.CTACompletionSnapshot
  error : Option Error

/-- Nothing of a bundle but drains, barriers, registers and control. -/
structure InstructionEffects.CoordinationOnly (effects : InstructionEffects) : Prop where
  warpSpawn : effects.warpSpawn = none
  memoryRequests : effects.memoryRequests = []
  ordering : effects.ordering = none
  fflags : effects.fflags = none
  csrReads : effects.csrReads = []
  csrWrites : effects.csrWrites = []
  trap : effects.trap = none
  warpMasks : effects.warpMasks = []
  divergence : effects.divergence = none
  packedLoads : effects.packedLoads = []
  faults : effects.faults = []

instance (effects : InstructionEffects) : Decidable effects.CoordinationOnly :=
  decidable_of_iff
    (effects.warpSpawn = none ∧ effects.memoryRequests = [] ∧ effects.ordering = none ∧
      effects.fflags = none ∧ effects.csrReads = [] ∧ effects.csrWrites = [] ∧
      effects.trap = none ∧ effects.warpMasks = [] ∧ effects.divergence = none ∧
      effects.packedLoads = [] ∧ effects.faults = [])
    ⟨fun ⟨a, b, c, d, e, f, g, h, i, j, k⟩ => ⟨a, b, c, d, e, f, g, h, i, j, k⟩,
      fun ⟨a, b, c, d, e, f, g, h, i, j, k⟩ => ⟨a, b, c, d, e, f, g, h, i, j, k⟩⟩

namespace World

/-! ## Selection -/

/-- `selectRunnable`: round robin from the cursor. -/
def selectRunnable (w : World σ) : Option WarpID :=
  ((List.finRange frozenWarpCount).map fun offset => w.core.next + offset).find? fun id =>
    decide ((w.core.slots id).lifecycle = .runnable)

/-- `activeWarpMask`. -/
def activeWarpMask (w : World σ) : WarpMask :=
  (List.finRange frozenWarpCount).foldl (fun mask id =>
    if (w.warp id).lifecycle = .running then mask ||| (1#8 <<< id.val) else mask) 0#8

/-- Wake one warp whose functional wait is over. -/
def refreshSlot (context : ReadContext) (active : WarpMask) (id : WarpID) :
    Act (World σ) Error Unit := do
  let slot ← Act.gets fun w : World σ => w.core.slots id
  if slot.lifecycle ≠ .blocked then pure ()
  else
    match slot.blockReason with
    | .warpSpawn =>
      if active = 1#8 <<< id.val then Act.update fun w => w.moveSlot id .runnable .none
      else pure ()
    | .pendingWork => do
        let pending ← pendingPriorWork id context.pendingPriorWork
          s!"core: pending-work view for warp {id.val}"
        if pending then pure () else Act.update fun w => w.moveSlot id .runnable .none
    | .barrier =>
      if slot.barrierDrain = true ∧ context.pendingLSU = false then
        Act.update fun w => w.moveSlot id .runnable .none
      else pure ()
    | _ => pure ()

/-- `refreshFunctionalWaits`. -/
def refreshFunctionalWaits (context : ReadContext) : Act (World σ) Error Unit := do
  let active ← Act.gets activeWarpMask
  Act.forEach (refreshSlot context active) (List.finRange frozenWarpCount)
  Act.examine World.validate

/-! ## Results -/

/-- `completeDeferredResult`. -/
def completeDeferredResult (owner : WarpState) (result : Result) : Result :=
  { result with
    outcome := .retired
    fault := none
    nextPC := owner.pc
    nextActiveMask := owner.activeMask
    nextLifecycle := owner.lifecycle
    nextDivergencePointer := owner.divergence.writePointer }

/-- `stepResult`. -/
def stepResult (w : World σ) (selected : WarpID) (before : Slot σ) (result : Result)
    (barrier : Option BarrierTransition) (error : Option Error) : CoreStep :=
  let view := w.core.ctas.bind fun manager => ((w.managers manager).viewForWarp selected).toOption
  { warpID := selected
    lifecycle := before.lifecycle
    previousBlockReason := before.blockReason
    warpResult := result
    nextLifecycle := (w.core.slots selected).lifecycle
    blockReason := (w.core.slots selected).blockReason
    ctaID := view.map CTAView.id
    barrier
    completion := view.bind fun cta => (w.ctaCompletion cta.id.toNat).toOption
    error }

/-- `deferredReason`. -/
def deferredReason (result : Result) : BlockReason :=
  let reasonOf (effects : InstructionEffects) : Option BlockReason :=
    if effects.warpSpawn.isSome then some .warpSpawn
    else if effects.barriers.length ≠ 0 then some .barrier
    else if effects.warpDrains.length ≠ 0 then some .pendingWork
    else none
  ((result.effects.bind reasonOf).orElse fun _ => result.issuedEffects.bind reasonOf).getD
    .externalOwner

/-! ## WSPAWN -/

variable (sourceID : WarpID)

def validateWarpSpawnEffect (spawn : WarpSpawnEffect) : Except Error Unit := do
  rejectIf (spawn.sourceWarp ≠ sourceID.val ∨ ¬ spawn.targets.Valid ∨
      spawn.targets.getLsbD sourceID.val = true ∨ misaligned spawn.targetPC ∨
      spawn.initialLaneMask ≠ 1#8 ∨ spawn.copyMScratch = false ∨
      spawn.requiresSingleActiveWarp = false ∨ spawn.releaseSourceAfterApply = false)
    (.text "core: invalid frozen WSPAWN source/target/PC/mask/copy/gate fields")
  rejectIf (spawn.targets ≠ spawnTargets sourceID.val spawn.requestedCount)
    (.text (s!"core: WSPAWN targets {hex spawn.targets.toNat} do not match count" ++
      s!" {spawn.requestedCount}/source {sourceID.val}"))

/-- The spawn of a deferred WSPAWN, checked against source and membership. -/
def checkedSpawn (result : Result) (w : World σ) :
    Except Error (InstructionEffects × WarpSpawnEffect) := do
  match result.effects with
  | none => .error (.text "core: WSPAWN deferred without a spawn effect")
  | some effects =>
    match effects.warpSpawn with
    | none => .error (.text "core: WSPAWN deferred without a spawn effect")
    | some spawn => do
        validateWarpSpawnEffect sourceID spawn
        match w.core.ctas with
        | none => pure ()
        | some manager =>
          ((w.managers manager).validateSpawn sourceID spawn.targets).mapError
            (.wrapped "core: WSPAWN CTA membership")
        pure (effects, spawn)

/-- The warps a spawn starts. -/
def spawnedWarps (spawn : WarpSpawnEffect) : List WarpID :=
  (List.finRange frozenWarpCount).filter fun id => spawn.targets.getLsbD id.val

/-- The owners after the spawn transaction. -/
def commitSpawn (ownerBefore : WarpID → WarpState) (effects : InstructionEffects)
    (spawn : WarpSpawnEffect) (w : World σ) : Except Error Owners := do
  each (fun _ (id : WarpID) => rejectIf ((w.core.slots id).lifecycle ≠ .inactive ∨
      (w.core.slots id).participated = true)
    (.text s!"core: WSPAWN target warp {id.val} is not an unused inactive slot"))
    0 (spawnedWarps spawn)
  rejectIf (w.warp sourceID ≠ ownerBefore sourceID)
    (.text s!"core: WSPAWN source warp {sourceID.val} changed since instruction issue")
  rejectIf ((w.warp sourceID).trapCSRs.mscratch ≠ spawn.mscratch)
    (.text "core: WSPAWN mscratch view is stale")
  let sourceStage ← ((w.warp sourceID).stageEffects effects).mapError
    (.wrapped "core: restage WSPAWN source")
  let targets : List WarpSpawnTarget := (spawnedWarps spawn).map fun id => {
    warpID := id.val, owner := (w.core.slots id).executor.owner, expected := ownerBefore id }
  let transaction ← (stageWarpSpawn w.owners (w.core.slots sourceID).executor.owner sourceStage
    targets none).mapError (.wrapped "core: stage WSPAWN transaction")
  let (owners, _) ← (transaction.commit w.owners).mapError
    (.wrapped "core: commit WSPAWN transaction")
  pure owners

/-- Start the spawned slots and release the source. -/
def installSpawn (w : World σ) (sourceID : WarpID) (spawn : WarpSpawnEffect) (owners : Owners) :
    World σ :=
  ((spawnedWarps spawn).foldl startSlot { w with owners }).moveSlot sourceID .runnable .none

/-- The error of a check. -/
def errorOf (check : Except Error Unit) : Option Error :=
  match check with
  | .ok () => none
  | .error err => some err

/-- `coordinateWarpSpawn`.  The last check follows the commit, so its error comes with the
completed result. -/
def coordinateWarpSpawn (active : WarpMask) (ownerBefore : WarpID → WarpState) (result : Result) :
    Act (World σ) Error (Result × Option Error) := do
  let (effects, spawn) ← Act.examine (checkedSpawn sourceID result)
  if active ≠ 1#8 <<< sourceID.val then
    Act.update fun w => w.moveSlot sourceID .blocked .warpSpawn
    pure (result, none)
  else
    let owners ← Act.examine (commitSpawn sourceID ownerBefore effects spawn)
    Act.update fun w => w.installSpawn sourceID spawn owners
    Act.gets fun w => (completeDeferredResult (w.warp sourceID) result, errorOf w.validate)

/-! ## WSYNC -/

/-- The forwarded effects hold the given numbers of drains and barriers and nothing else. -/
def forwardsOnly (forwarded : InstructionEffects) (drains barriers : Nat) : Prop :=
  forwarded.warpSpawn = none ∧ forwarded.warpDrains.length = drains ∧
    forwarded.barriers.length = barriers ∧ forwarded.memoryRequests = [] ∧
    forwarded.packedLoads = [] ∧ forwarded.csrWrites = [] ∧ forwarded.csrReads = [] ∧
    forwarded.ordering = none ∧ forwarded.faults = []

instance (forwarded : InstructionEffects) (drains barriers : Nat) :
    Decidable (forwardsOnly forwarded drains barriers) :=
  inferInstanceAs (Decidable (_ ∧ _))

/-- The contract of a deferred WSYNC. -/
def syncContract (pending : Bool) (effects : InstructionEffects) : Prop :=
  effects.warpDrains = [{ warpID := sourceID.val, kind := .priorInstructions, wait := pending
                          releaseAfterDrain := true }] ∧
  effects.CoordinationOnly ∧ effects.barriers = [] ∧ effects.registerWrites = [] ∧
  effects.control.isSome = !pending

instance (sourceID : WarpID) (pending : Bool) (effects : InstructionEffects) :
    Decidable (syncContract sourceID pending effects) :=
  inferInstanceAs (Decidable (_ ∧ _))

/-- `coordinateWarpSync`. -/
def coordinateWarpSync (pending : Bool) (result : Result) : Act (World σ) Error Result := do
  let effects ← Act.examine fun _ =>
    match result.effects with
    | none => .error (.text "core: WSYNC deferred without exactly one drain effect")
    | some effects => do
        rejectIf (effects.warpDrains.length ≠ 1)
          (.text "core: WSYNC deferred without exactly one drain effect")
        rejectIf (¬ syncContract sourceID pending effects)
          (.text "core: WSYNC drain effect violates the functional contract")
        pure effects
  if pending then
    Act.update fun w => w.moveSlot sourceID .blocked .pendingWork
    pure result
  else
    let owner ← Act.examine fun w => do
      let stage ← ((w.warp sourceID).stageEffects effects).mapError (.wrapped "core: restage WSYNC")
      rejectIf (¬ forwardsOnly stage.forwarded 1 0)
        (.text "core: WSYNC has unexpected forwarded effects")
      let committed := stage.commitAfterExternal (w.warp sourceID)
      match committed.error with
      | some err => .error (.wrapped "core: commit WSYNC" err)
      | none => pure committed.owner
    Act.update fun w => (w.setWarp sourceID owner).moveSlot sourceID .runnable .none
    pure (completeDeferredResult owner result)

/-! ## Barriers -/

/-- The contract of a barrier that waits for the LSU. -/
def drainContract (effects : InstructionEffects) : Prop :=
  effects.warpDrains = [{ warpID := sourceID.val, kind := .lsu, wait := true
                          releaseAfterDrain := false }] ∧
  effects.CoordinationOnly ∧ effects.barriers = [] ∧ effects.registerWrites = [] ∧
  effects.control = none

instance (sourceID : WarpID) (effects : InstructionEffects) :
    Decidable (drainContract sourceID effects) :=
  inferInstanceAs (Decidable (_ ∧ _))

/-- The contract of an accepted barrier. -/
def barrierContract (effects : InstructionEffects) : Prop :=
  effects.warpDrains = [{ warpID := sourceID.val, kind := .lsu, wait := false
                          releaseAfterDrain := false }] ∧
  effects.CoordinationOnly ∧ effects.barriers.length = 1 ∧ effects.control ≠ none

instance (sourceID : WarpID) (effects : InstructionEffects) :
    Decidable (barrierContract sourceID effects) :=
  inferInstanceAs (Decidable (_ ∧ _))

/-- The kind of request a barrier instruction makes. -/
def barrierKindOf : Mnemonic → BarrierKind
  | .bar => .sync
  | .barArrive => .arrive
  | .barWait => .wait
  | _ => .none

/-- An accepted barrier request, with owner and records after its commit. -/
structure AcceptedBarrier where
  manager : ManagerID
  request : BarrierEffect
  stage : BarrierStage
  owner : WarpState
  records : BarrierRecords

/-- The one request of an accepted barrier. -/
def barrierRequestOf (decoded : Decoded) (effects : InstructionEffects) :
    Except Error BarrierEffect := do
  rejectIf (¬ barrierContract sourceID effects)
    (.text "core: accepted barrier effect violates the frozen contract")
  match effects.barriers with
  | effect :: _ => do
      rejectIf (effect.warpID ≠ sourceID.val ∨ effect.kind ≠ barrierKindOf decoded.name)
        (.text "core: barrier effect source/kind does not match issued instruction")
      pure effect
  | [] => .error (.text "core: accepted barrier effect violates the frozen contract")

/-- Everything of an accepted barrier that can fail: the stages of both owners, the releases
and the joint commit. -/
def acceptBarrier (issued : WarpState) (view : BarrierView) (decoded : Decoded)
    (effects : InstructionEffects) (w : World σ) : Except Error AcceptedBarrier := do
  let effect ← barrierRequestOf sourceID decoded effects
  rejectIf (w.warp sourceID ≠ issued)
    (.text s!"core: barrier source warp {sourceID.val} changed since instruction issue")
  let localStage ← ((w.warp sourceID).stageEffects effects).mapError
    (.wrapped "core: restage barrier source")
  rejectIf (¬ forwardsOnly localStage.forwarded 1 1)
    (.text "core: barrier has unexpected forwarded effects")
  match w.core.barriers with
  | none => .error (.wrapped "core: stage barrier" (.text "core: nil barrier coordinator"))
  | some manager => do
      let stage ← ((w.managers manager).stageFromView effect view).mapError
        (.wrapped "core: stage barrier")
      w.validateBarrierReleases (some sourceID) stage.result
      let committed := localStage.commitForwardedWithExternal (w.warp sourceID)
        (w.managers manager).records fun records =>
          match stage.commit records with
          | .ok (records', _) => (records', none)
          | .error err => (records, some err)
      match committed.2.error with
      | some err => .error (.wrapped "core: commit barrier transaction" err)
      | none => pure {
          manager, request := effect, stage
          owner := committed.2.owner, records := committed.1 }

/-- The slot of the source of a barrier request. -/
def barrierSlot (slot : Slot σ) (result : BarrierResult) : Slot σ :=
  if result.block then
    { slot with
      lifecycle := .blocked
      blockReason := .barrier
      barrierKey := result.key
      barrierWait := true
      barrierDrain := false }
  else slot.become .runnable .none

/-- Install an accepted request: both owners, the released slots and the source. -/
def installBarrier (w : World σ) (sourceID : WarpID) (accepted : AcceptedBarrier) : World σ :=
  let w := (w.setWarp sourceID accepted.owner).setManager accepted.manager
    ((w.managers accepted.manager).withRecords accepted.records)
  let w := w.applyBarrierReleases (some sourceID) accepted.stage.result
  w.setSlot sourceID (barrierSlot (w.core.slots sourceID) accepted.stage.result)

/-- `coordinateBarrier`. -/
def coordinateBarrier (issued : WarpState) (view : BarrierView) (pendingLSU : Bool)
    (result : Result) : Act (World σ) Error (Result × Option BarrierTransition) := do
  let (decoded, effects) ← Act.examine fun _ =>
    match result.decoded, result.effects with
    | some decoded, some effects => pure (decoded, effects)
    | _, _ => .error (.text "core: barrier deferred without decoded effects")
  if pendingLSU then
    Act.examine fun _ => rejectIf (¬ drainContract sourceID effects)
      (.text "core: pending-LSU barrier effect violates the drain contract")
    Act.update fun w => w.setSlot sourceID
      { (w.core.slots sourceID).become .blocked .barrier with barrierDrain := true }
    pure (result, some { draining := true })
  else
    let accepted ← Act.examine (acceptBarrier sourceID issued view decoded effects)
    Act.update fun w => w.installBarrier sourceID accepted
    let stage := accepted.stage
    pure (completeDeferredResult accepted.owner result, some {
      accepted := true
      request := some accepted.request
      key := stage.key
      before := view.records (Fin.ofNat frozenWarpCount accepted.request.addressWarp)
        (Fin.ofNat frozenBarrierCount accepted.request.id)
      after := (stage.key, stage.after)
      blocked := stage.result.block
      released := stage.result.releases })

/-! ## The step -/

/-- How the coordination of an instruction ended. -/
structure Coordinated where
  result : Result
  transition : Option BarrierTransition := none
  error : Option Error := none

/-- What the selected warp sees of CTA and barriers. -/
structure IssueView where
  cta : CTAView
  barriers : BarrierView

/-- The views of the selected warp, where a manager is attached. -/
def issueView (selected : WarpID) (w : World σ) : Except Error (Option IssueView) :=
  match w.core.ctas with
  | none => pure none
  | some manager => do
      let cta ← ((w.managers manager).viewForWarp selected).mapError
        (.wrapped s!"core: CTA context for warp {selected.val}")
      let barriers ← ((w.managers manager).barrierView cta.id.toNat).mapError
        (.wrapped s!"core: barrier phase view for warp {selected.val}")
      pure (some { cta, barriers })

/-- The context of the selected warp. -/
def issueContext (context : ReadContext) (active : WarpMask) (view : Option IssueView)
    (pending : Bool) : ReadContext :=
  let context := { context with coreID := 0, activeWarps := active, pendingPriorWork := pending }
  match view with
  | none => context
  | some view => { context with cta := view.cta, barrierPhases := some view.barriers.phases }

variable (sf : SoftFloat)

variable (selected : WarpID)

/-- Run the executor of a slot. -/
def execute (context : ReadContext) : Act (World σ) Error Result := fun w =>
  let done := ((w.core.slots selected).executor.services w.managers).step sf context
    (w.warp selected) (w.localMemories, w.memory)
  (.ok done.result, { w.setWarp selected done.state with
      localMemories := done.services.1
      memory := done.services.2 })

/-- A coordination that failed leaves the warp blocked. -/
def faultSlot (result : Result) (err : Error) : Act (World σ) Error Coordinated := do
  Act.update fun w => w.moveSlot selected .blocked .fault
  pure { result, error := some err }

/-- A refused barrier leaves the slot as it was before the step. -/
def restoreSlot (before : Slot σ) (result : Result) (err : Error) :
    Act (World σ) Error Coordinated := do
  Act.update fun w => w.setSlot selected { w.core.slots selected with
    lifecycle := before.lifecycle
    blockReason := before.blockReason
    barrierKey := before.barrierKey
    barrierWait := before.barrierWait
    barrierDrain := before.barrierDrain }
  pure { result, error := some err }

/-- Coordinate a deferred WSPAWN, WSYNC or barrier. -/
def coordinate (before : Slot σ) (active : WarpMask) (ownerBefore : WarpID → WarpState)
    (view : Option IssueView) (context : ReadContext) (result : Result) :
    Act (World σ) Error Coordinated :=
  if result.outcome ≠ .deferred then pure { result }
  else
    match result.decoded.map Decoded.name with
    | some .wspawn => do
        match ← (coordinateWarpSpawn selected active ownerBefore result).attempt with
        | .error err => faultSlot selected result err
        | .ok (result', some err) => faultSlot selected result' err
        | .ok (result', none) => pure { result := result' }
    | some .wsync => do
        match ← (coordinateWarpSync selected context.pendingPriorWork result).attempt with
        | .error err => faultSlot selected result err
        | .ok result' => pure { result := result' }
    | some .bar | some .barArrive | some .barWait => do
        if (← Act.gets fun w : World σ => w.core.barriers) = none then
          Act.update fun w => w.setSlot selected
            { w.core.slots selected with lifecycle := .blocked, blockReason := .barrier }
          pure { result }
        else
          match ← (coordinateBarrier selected (ownerBefore selected)
              ((view.map IssueView.barriers).getD {}) context.pendingLSU result).attempt with
          | .error err => restoreSlot selected before result err
          | .ok (result', transition) => pure { result := result', transition }
    | _ => pure { result }

/-- Tell the manager that a warp has finished. -/
def noteFinished : Act (World σ) Error (Option Error) := fun w =>
  match w.core.ctas with
  | none => (.ok none, w)
  | some manager =>
    match (w.managers manager).observeWarpFinished selected with
    | .ok m => (.ok none, w.setManager manager m)
    | .error err => (.ok (some err), w.moveSlot selected .blocked .fault)

/-- Move the slot on by the outcome of the instruction. -/
def settle (result : Result) : Act (World σ) Error (Option Error) := do
  if result.nextLifecycle = .inactive then
    Act.update fun w => w.moveSlot selected .finished .none
    noteFinished selected
  else
    match result.outcome with
    | .deferred => do
        if (← Act.gets fun w : World σ => (w.core.slots selected).lifecycle) = .blocked then
          pure none
        else
          Act.update fun w => w.setSlot selected { w.core.slots selected with
            lifecycle := .blocked
            blockReason := deferredReason result }
          pure none
    | .fault => do
        Act.update fun w => w.moveSlot selected .blocked .fault
        pure none
    | _ => pure none

/-- An instruction that the executor of a warp has run, and what the core read before it. -/
structure Issued (σ : Type) where
  active : WarpMask
  ownerBefore : WarpID → WarpState
  view : Option IssueView
  before : Slot σ
  context : ReadContext
  result : Result

/-- Run the executor of the selected warp on the views of the other owners. -/
def issueWarp (context : ReadContext) (selected : WarpID) : Act (World σ) Error (Issued σ) := do
  let active ← Act.gets activeWarpMask
  let ownerBefore ← Act.gets World.warp
  let view ← Act.examine (issueView selected)
  let pending ← pendingPriorWork selected context.pendingPriorWork
    s!"core: pending-work view for warp {selected.val}"
  Act.update fun w => { w with core := { w.core with next := selected + 1 } }
  let before ← Act.gets fun w : World σ => w.core.slots selected
  let context := issueContext context active view pending
  let result ← execute sf selected context
  pure { active, ownerBefore, view, before, context, result }

/-- Coordinate an issued instruction and move the slot on. -/
def concludeWarp (issued : Issued σ) : Act (World σ) Error CoreStep := do
  let before := issued.before
  let coordinated ← coordinate selected before issued.active issued.ownerBefore issued.view
    issued.context issued.result
  match coordinated.error with
  | some err => Act.gets fun w =>
    w.stepResult selected before coordinated.result coordinated.transition (some err)
  | none => do
      match ← settle selected coordinated.result with
      | some err => Act.gets fun w =>
        w.stepResult selected before coordinated.result coordinated.transition (some err)
      | none => do
          Act.examine fun w => w.validateSlot selected
          Act.gets fun w =>
            w.stepResult selected before coordinated.result coordinated.transition none

/-- Execute one instruction of the selected warp. -/
def stepWarp (context : ReadContext) (selected : WarpID) : Act (World σ) Error CoreStep := do
  let issued ← issueWarp sf context selected
  concludeWarp selected issued

/-- `Step`: the selected warp's instruction, or nothing where no warp is runnable. -/
def step (context : ReadContext) : Act (World σ) Error (Option CoreStep) := do
  Act.examine World.validate
  refreshFunctionalWaits context
  match ← Act.gets selectRunnable with
  | none => pure none
  | some selected => do
      let done ← stepWarp sf context selected
      pure (some done)

end World

/-! ## Runs -/

/-- A public operation, of the core or of a manager that is not attached yet. -/
inductive CoreOp (σ : Type) where
  | admitCTA (manager : ManagerID) (config : CTAConfig)
  | newBarrierCoordinator (manager : ManagerID)
  | setCTAManager (manager : ManagerID)
  | setPendingWorkProvider (provider : Option (PendingWorkProvider σ))
  | block (warpID : Nat) (reason : BlockReason)
  | resume (warpID : Nat)
  | activate (warpID : Nat)
  | admitCTACluster (configs : List CTAConfig)
  | reclaimCTA (ctaID : Nat)
  | completeBarrierEvent (key : RawBarrierKey)
  | step (context : ReadContext)

/-- An operation on the tables of a manager. -/
def World.onManager (manager : ManagerID) (f : CTAManager → Except Error CTAManager) :
    Act (World σ) Error Unit := do
  let m ← Act.examine fun w : World σ => f (w.managers manager)
  Act.update fun w => w.setManager manager m

/-- Forget the value of a computation. -/
def ignore {S ε α : Type} (x : Act S ε α) : Act S ε Unit := do
  let _ ← x
  pure ()

/-- The call that an operation stands for. -/
def CoreOp.perform (sf : SoftFloat) : CoreOp σ → Act (World σ) Error Unit
  | .admitCTA manager config => World.onManager manager fun m => do
      let (m', _) ← m.admitCTA config
      pure m'
  | .newBarrierCoordinator manager => World.onManager manager CTAManager.newBarrierCoordinator
  | .setCTAManager manager => World.setCTAManager manager
  | .setPendingWorkProvider provider => World.setPendingWorkProvider provider
  | .block warpID reason => World.block warpID reason
  | .resume warpID => World.resume warpID
  | .activate warpID => World.activate warpID
  | .admitCTACluster configs => ignore (World.admitCTACluster configs)
  | .reclaimCTA ctaID => ignore (World.reclaimCTA ctaID)
  | .completeBarrierEvent key => World.completeBarrierEvent key
  | .step context => ignore (World.step sf context)

/-- The world after a sequence of operations, whether they succeeded or not. -/
def World.run (sf : SoftFloat) (w : World σ) (ops : List (CoreOp σ)) : World σ :=
  ops.foldl (fun w op => (op.perform sf w).2) w

end VortexSim
