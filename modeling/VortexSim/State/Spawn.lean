import VortexSim.State.Delivery

/-!
# Transactions over several warps

WSPAWN and the CTA launch change more than one warp at once.  Both stage one candidate for
each target, check every owner for staleness and only then install all candidates.  A
canonical owner is named by its identity, the pointer of the source, and `Owners` is the
store of their current states.
-/

namespace VortexSim

open Checked

/-- The identity of a canonical owner. -/
abbrev Owner := Nat

/-- The current state of every owner. -/
abbrev Owners := Owner → WarpState

/-- A detached copy of a warp. -/
abbrev WarpSnapshot := WarpState

/-! ## Candidates -/

/-- A prepared replacement of one owner. -/
structure OwnerCandidate where
  owner : Owner
  before : WarpState
  after : WarpState

variable (d : EffectDelivery) (owners : Owners) (sourceOwner : Owner) (source : EffectStage)

/-- Some owner is no longer the one its candidate was built on. -/
def staleCandidate (targets : List OwnerCandidate) : Prop :=
  ∃ c ∈ targets, owners c.owner ≠ c.before

instance (owners : Owners) (targets : List OwnerCandidate) :
    Decidable (staleCandidate owners targets) :=
  inferInstanceAs (Decidable (∃ c ∈ targets, _))

/-- Install the candidates one after the other. -/
def installAll (targets : List OwnerCandidate) : Owners :=
  targets.foldl (fun os c => Function.update os c.owner c.after) owners

/-! ## WSPAWN -/

/-- A warp to start, as the caller saw it. -/
structure WarpSpawnTarget where
  warpID : Nat
  owner : Owner
  expected : WarpSnapshot

/-- A WSPAWN that may be committed. -/
structure WarpSpawnStage where
  sourceOwner : Owner
  source : EffectStage
  targets : List OwnerCandidate
  committed : Bool := false

/-- The warps below the requested count other than the source. -/
def spawnTargets (sourceID requestedCount : Nat) : WarpMask :=
  (List.range frozenWarpCount).foldl (fun expected id =>
      if id < requestedCount ∧ id ≠ sourceID then expected ||| (1#8 <<< id) else expected) 0#8

/-- The checks of a WSPAWN. -/
def validateFrozenSpawn (sourceID : Nat) (spawn : WarpSpawnEffect) : Except Error Unit := do
  rejectIf (spawn.sourceWarp ≠ sourceID ∨ frozenWarpCount ≤ sourceID)
    (.text "state: WSPAWN source id is inconsistent")
  rejectIf (¬ spawn.targets.Valid ∨ spawn.targets.getLsbD sourceID = true)
    (.text "state: WSPAWN target mask is invalid or contains source")
  rejectIf (7 < spawn.requestedCount)
    (.text "state: WSPAWN requested count exceeds its three-bit encoding")
  rejectIf (spawn.targets ≠ spawnTargets sourceID spawn.requestedCount)
    (.text (s!"state: WSPAWN target mask {hex spawn.targets.toNat} does not match count" ++
      s!" {spawn.requestedCount}/source {sourceID}"))
  rejectIf (misaligned spawn.targetPC ∨ spawn.initialLaneMask ≠ 1#8 ∨
      spawn.copyMScratch = false ∨ spawn.requiresSingleActiveWarp = false ∨
      spawn.releaseSourceAfterApply = false)
    (.text "state: WSPAWN PC, lane0 mask, mscratch copy, or gate contract is invalid")

/-- Other owners are needed too. -/
def hasForwardedExceptSpawn (effects : InstructionEffects) : Bool :=
  decide (effects.memoryRequests.length ≠ 0) || effects.ordering.isSome ||
  decide (effects.csrReads.length ≠ 0) || decide (effects.csrWrites.length ≠ 0) ||
  decide (effects.warpDrains.length ≠ 0) || decide (effects.barriers.length ≠ 0) ||
  decide (effects.packedLoads.length ≠ 0) || decide (effects.faults.length ≠ 0)

/-- What one spawn target becomes. -/
def spawnCandidate (spawn : WarpSpawnEffect) (before : WarpState) : WarpState :=
  { before with
    pc := spawn.targetPC
    activeMask := spawn.initialLaneMask
    lifecycle := .running
    trapCSRs := { before.trapCSRs with mscratch := spawn.mscratch } }

/-- The candidates prepared so far, newest last, with the identities already used. -/
structure TargetScan where
  candidates : List OwnerCandidate := []
  ids : List Nat := []
  used : List Owner := []

/-- The checks of a spawn target. -/
def scanSpawnTarget (spawn : WarpSpawnEffect) (index : Nat) (scan : TargetScan)
    (target : WarpSpawnTarget) : Except Error TargetScan := do
  rejectIf (frozenWarpCount ≤ target.warpID ∨ spawn.targets.getLsbD target.warpID = false)
    (.text s!"state: WSPAWN target {target.warpID} at entry {index} is not selected")
  rejectIf (target.warpID ∈ scan.ids) (.text s!"state: duplicate WSPAWN target id {target.warpID}")
  rejectIf (target.owner ∈ scan.used)
    (.text s!"state: duplicate WSPAWN target owner for id {target.warpID}")
  rejectIf ((owners target.owner).id ≠ target.warpID)
    (.text (s!"state: WSPAWN target id {target.warpID} references warp" ++
      s!" {(owners target.owner).id}"))
  rejectIf (owners target.owner ≠ target.expected ∨ target.expected.id ≠ target.warpID)
    (.text s!"state: WSPAWN target warp {target.warpID} changed since source issue")
  rejectIf ((owners target.owner).lifecycle ≠ .inactive ∨ (owners target.owner).activeMask ≠ 0#8)
    (.text s!"state: WSPAWN target warp {target.warpID} is not inactive")
  let before := owners target.owner
  pure {
    candidates := scan.candidates ++
      [{ owner := target.owner, before, after := spawnCandidate spawn before }]
    ids := target.warpID :: scan.ids
    used := target.owner :: scan.used }

/-- The source side of the contract: exactly one spawn, and only a sequential PC change. -/
def validateSpawnSource (instructionPC : Option Word) : Except Error WarpSpawnEffect := do
  rejectIf (source.committed = true) (.text "state: WSPAWN source stage was already committed")
  rejectIf (source.requiresExternal = false)
    (.text "state: WSPAWN source stage has no external prerequisite")
  rejectIf (owners sourceOwner ≠ source.before)
    (.text "state: WSPAWN source stage is stale because canonical state changed")
  match source.forwarded.warpSpawn with
  | none => .error (.text "state: WSPAWN stage requires exactly one forwarded spawn effect")
  | some spawn => do
      rejectIf (hasForwardedExceptSpawn source.forwarded = true)
        (.text "state: WSPAWN stage requires exactly one forwarded spawn effect")
      validateFrozenSpawn (owners sourceOwner).id spawn
      rejectIf (source.before.lifecycle ≠ .running ∨ source.before.activeMask = 0#8 ∨
          spawn.mscratch ≠ source.before.trapCSRs.mscratch)
        (.text "state: WSPAWN source lifecycle, mask, or mscratch view is stale")
      rejectIf (source.after ≠
          { source.before with pc := instructionPC.getD source.before.pc + 4#32 })
        (.text ("state: WSPAWN source candidate contains non-sequential or extra" ++
          " local mutation"))
      pure spawn

/-- The warps an effect selects. -/
def selectedWarps (targets : WarpMask) : List Nat :=
  (List.range frozenWarpCount).filter fun id => targets.getLsbD id

/-- `StageWarpSpawn`. -/
def stageWarpSpawn (targets : List WarpSpawnTarget) (instructionPC : Option Word) :
    Except Error WarpSpawnStage := do
  let spawn ← validateSpawnSource owners sourceOwner source instructionPC
  rejectIf (targets.length ≠ (selectedWarps spawn.targets).length)
    (.text (s!"state: WSPAWN got {targets.length} targets, effect requires" ++
      s!" {(selectedWarps spawn.targets).length}"))
  let scan ← foldEach (scanSpawnTarget owners spawn) 0 { used := [sourceOwner] } targets
  each (fun _ id => rejectIf (id ∉ scan.ids)
      (.text s!"state: WSPAWN target set is missing warp {id}")) 0 (selectedWarps spawn.targets)
  pure { sourceOwner, source, targets := scan.candidates }

/-- Check the source and every target, then install all of them. -/
def WarpSpawnStage.commit (s : WarpSpawnStage) (owners : Owners) :
    Except Error (Owners × WarpSpawnStage) := do
  rejectIf (s.committed = true ∨ s.source.committed = true)
    (.text "state: WSPAWN stage was already committed")
  rejectIf (owners s.sourceOwner ≠ s.source.before)
    (.text "state: WSPAWN source stage is stale because canonical state changed")
  rejectIf (staleCandidate owners s.targets)
    (.text "state: WSPAWN target stage is stale because canonical state changed")
  pure (installAll (Function.update owners s.sourceOwner s.source.after) s.targets,
    { s with source := { s.source with committed := true }, committed := true })

/-! ## Delivery of a spawn -/

/-- A streamed spawn needs a fresh order and the latched context. -/
def staleSpawn (owner : WarpState) (stream : EffectStream) (activation : Bool) : Prop :=
  ∃ slot ∈ d.slot, slot.order ≤ stream.controlOrder ∨
    (activation = false ∧ owner.pc ≠ slot.instruction.pc) ∨
    owner.activeMask ≠ slot.instruction.mask

instance (d : EffectDelivery) (owner : WarpState) (stream : EffectStream) (activation : Bool) :
    Decidable (staleSpawn d owner stream activation) :=
  inferInstanceAs (Decidable (∃ slot ∈ d.slot, _))

/-- The control part of a spawn with the live `mscratch`. -/
def activationPart (owner : WarpState) (part : InstructionEffects) : InstructionEffects :=
  { part with warpSpawn :=
      part.warpSpawn.map fun spawn => { spawn with mscratch := owner.trapCSRs.mscratch } }

/-- The transaction of a spawn delivery.  At activation the target images are the live
ones, and a source that cannot be staged is reported as missing once a target exists. -/
def EffectDelivery.stageSpawn (owner : Owner) (stream : EffectStream)
    (targets : List WarpSpawnTarget) (activation : Bool) : Except Error WarpSpawnStage := do
  rejectIf (staleSpawn d (owners owner) stream activation)
    (.text "stale concurrent spawn control context")
  rejectIf (d.cancelled = true ∨ d.delivered .control = true ∨ d.effects.warpSpawn = none)
    (.text "inactive, repeated or non-spawn control delivery")
  let part := controlPart d.effects
  match d.slot, activation with
  | some slot, true =>
    match (owners owner).stageInstructionEffects slot.instruction
        (activationPart (owners owner) part) with
    | .error err =>
      if targets.length = 0 then .error err
      else .error (.text "state: nil WSPAWN source stage")
    | .ok source =>
      stageWarpSpawn owners owner source
        (targets.map fun target => { target with expected := owners target.owner })
        (some slot.instruction.pc)
  | _, _ => do
      let source ← (owners owner).stageEffects part
      stageWarpSpawn owners owner source targets none

/-- What a spawn delivery leaves behind. -/
structure SpawnResult where
  owners : Owners
  stream : EffectStream
  delivery : EffectDelivery
  error : Option Error := none

/-- `DeliverWarpSpawn` and `DeliverWarpSpawnAtActivation`. -/
def EffectDelivery.deliverWarpSpawn (owner : Owner) (stream : EffectStream)
    (targets : List WarpSpawnTarget) (activation : Bool) : SpawnResult :=
  match d.stageSpawn owners owner stream targets activation >>= fun s => s.commit owners with
  | .error err => { owners, stream, delivery := d, error := some err }
  | .ok (owners', _) =>
    { owners := owners'
      stream := match d.slot with
        | none => stream
        | some slot => { stream with controlOrder := slot.order }
      delivery := { d with delivered := Function.update d.delivered .control true } }

/-! ## CTA launch -/

/-- `FrozenCTAReentryBytes`: the dispatch window a reused warp enters again. -/
def frozenCTAReentryBytes : Word := 20#32

/-- A warp to start, and where. -/
structure WarpLaunchTarget where
  warpID : Nat
  owner : Owner
  startupPC : Word
  activeMask : LaneMask
  parameterAddress : Word
  firstUse : Bool

/-- A launch that may be committed. -/
structure WarpLaunchStage where
  targets : List OwnerCandidate
  committed : Bool := false

/-- What one launched warp becomes. -/
def launchCandidate (target : WarpLaunchTarget) (before : WarpState) : WarpState :=
  { before with
    pc := if target.firstUse then target.startupPC else before.pc - frozenCTAReentryBytes
    activeMask := target.activeMask
    lifecycle := .running
    trapCSRs := { before.trapCSRs with mscratch := target.parameterAddress } }

/-- The checks of a launch target. -/
def scanLaunchTarget (index : Nat) (scan : TargetScan) (target : WarpLaunchTarget) :
    Except Error TargetScan := do
  rejectIf (frozenWarpCount ≤ target.warpID)
    (.text s!"state: CTA launch target {index} has invalid warp or owner")
  rejectIf ((owners target.owner).id ≠ target.warpID)
    (.text (s!"state: CTA launch target id {target.warpID} references warp" ++
      s!" {(owners target.owner).id}"))
  rejectIf (target.warpID ∈ scan.ids) (.text s!"state: CTA launch repeats warp id {target.warpID}")
  rejectIf (target.owner ∈ scan.used) (.text "state: CTA launch repeats a canonical owner")
  rejectIf (misaligned target.startupPC)
    (.text (s!"state: CTA startup PC {hex target.startupPC.toNat}" ++ " is not four-byte aligned"))
  rejectIf (¬ target.activeMask.Valid ∨ target.activeMask = 0#8)
    (.text (s!"state: CTA launch warp {target.warpID} has invalid active mask " ++
      hex target.activeMask.toNat))
  rejectIf ((owners target.owner).lifecycle ≠ .inactive ∨ (owners target.owner).activeMask ≠ 0#8)
    (.text s!"state: CTA launch warp {target.warpID} is not canonically inactive")
  let before := owners target.owner
  pure {
    candidates := scan.candidates ++
      [{ owner := target.owner, before, after := launchCandidate target before }]
    ids := target.warpID :: scan.ids
    used := target.owner :: scan.used }

/-- `StageWarpLaunch`. -/
def stageWarpLaunch (targets : List WarpLaunchTarget) : Except Error WarpLaunchStage := do
  rejectIf (targets.length = 0 ∨ frozenWarpCount < targets.length)
    (.text s!"state: CTA launch has invalid target count {targets.length}")
  let scan ← foldEach (scanLaunchTarget owners) 0 {} targets
  pure { targets := scan.candidates }

/-- Reject any stale owner, then install all prepared candidates. -/
def WarpLaunchStage.commit (s : WarpLaunchStage) (owners : Owners) :
    Except Error (Owners × WarpLaunchStage) := do
  rejectIf (s.targets.length = 0) (.text "state: nil CTA launch stage")
  rejectIf (s.committed = true) (.text "state: CTA launch stage was already committed")
  rejectIf (staleCandidate owners s.targets)
    (.text "state: CTA launch stage is stale because warp state changed")
  pure (installAll owners s.targets, { s with committed := true })

end VortexSim
