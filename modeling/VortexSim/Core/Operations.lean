import VortexSim.Core.State

/-!
# Operations of the core besides the step

Attaching a manager, blocking and resuming a warp, admitting and reclaiming CTAs, and the
completion of a barrier event.
-/

namespace VortexSim

open Checked Stateful

variable {σ : Type}

namespace World

/-! ## Attaching owners -/

/-- `SetPendingWorkProvider`. -/
def setPendingWorkProvider (provider : Option (PendingWorkProvider σ)) :
    Act (World σ) Error Unit := do
  Act.examine World.validate
  Act.update fun w => { w with core := { w.core with pendingWork := provider } }

/-- Tell the manager of a warp that has finished before it was attached.  A refusal detaches
the manager again. -/
def observeFinished (manager : ManagerID) (id : WarpID) : Act (World σ) Error Unit := fun w =>
  if (w.core.slots id).lifecycle = .finished then
    match (w.managers manager).observeWarpFinished id with
    | .ok m => (.ok (), w.setManager manager m)
    | .error err => (.error err, { w with core := { w.core with ctas := none, barriers := none } })
  else (.ok (), w)

/-- `SetCTAManager`. -/
def setCTAManager (manager : ManagerID) : Act (World σ) Error Unit := do
  Act.examine World.validate
  let attached ← Act.gets fun w : World σ => w.core.ctas
  if attached = some manager then Act.examine World.validate
  else
    Act.examine fun _ => rejectIf (attached ≠ none)
      (.text "core: cannot replace the canonical CTA manager")
    Act.examine fun w => each (fun _ id =>
        rejectIf ((w.core.slots id).participated = true ∧ (w.managers manager).hasWarp id = false)
          (.text s!"core: participated warp {id.val} has no CTA membership"))
      0 (List.finRange frozenWarpCount)
    Act.examine fun w => w.validateCTAMemoryRoutes manager
    let isSealed ← Act.examine fun w => (w.managers manager).sealed
    Act.update fun w => w.setManager manager isSealed
    let bound ← Act.examine fun w => (w.managers manager).newBarrierCoordinator
    Act.update fun w => w.setManager manager bound
    Act.examine fun w => rejectIf ((w.managers manager).records.empty = false)
      (.text "core: cannot attach CTA manager with preexisting barrier state")
    Act.update fun w =>
      { w with core := { w.core with ctas := some manager, barriers := some manager } }
    Act.forEach (observeFinished manager) (List.finRange frozenWarpCount)
    Act.examine World.validate

/-! ## Block, Resume and Activate -/

/-- `slotFor`. -/
def slotFor (warpID : Nat) (w : World σ) : Except Error WarpID := do
  w.validate
  if h : warpID < frozenWarpCount then pure ⟨warpID, h⟩
  else .error (.text s!"core: warp id {warpID} exceeds frozen count")

/-- `Block`. -/
def block (warpID : Nat) (reason : BlockReason) : Act (World σ) Error Unit := do
  Act.examine fun _ => rejectIf (reason.valid = false)
    (.text s!"core: invalid block reason {reason.text}")
  Act.examine fun _ => rejectIf (reason = .barrier)
    (.text "core: barrier blocks are owned by barrier coordination")
  let id ← Act.examine (slotFor warpID)
  Act.examine fun w => rejectIf ((w.core.slots id).lifecycle ≠ .runnable)
    (.text (s!"core: cannot block warp {warpID} in {(w.core.slots id).lifecycle.text}" ++ " state"))
  Act.update fun w => w.moveSlot id .blocked reason
  Act.examine fun w => w.validateSlot id

/-- `Resume`. -/
def resume (warpID : Nat) : Act (World σ) Error Unit := do
  let id ← Act.examine (slotFor warpID)
  Act.examine fun w => rejectIf ((w.core.slots id).lifecycle ≠ .blocked)
    (.text (s!"core: cannot resume warp {warpID} in {(w.core.slots id).lifecycle.text}" ++
      " state"))
  Act.examine fun w => rejectIf ((w.core.slots id).blockReason = .barrier)
    (.text (s!"core: barrier-blocked warp {warpID} can only resume through barrier" ++
      " coordination"))
  Act.update fun w => w.moveSlot id .runnable .none
  Act.examine fun w => w.validateSlot id

/-- `Activate`. -/
def activate (warpID : Nat) : Act (World σ) Error Unit := do
  let id ← Act.examine fun _ =>
    if h : warpID < frozenWarpCount then pure (⟨warpID, h⟩ : WarpID)
    else .error (.text s!"core: invalid warp id {warpID}")
  Act.examine World.validate
  Act.examine fun w => rejectIf (∃ manager ∈ w.core.ctas, (w.managers manager).hasWarp id = false)
    (.text s!"core: cannot activate warp {warpID} without CTA membership")
  Act.examine fun w => rejectIf ((w.core.slots id).lifecycle ≠ .inactive ∨
      (w.core.slots id).participated = true)
    (.text (s!"core: cannot activate warp {warpID} in {(w.core.slots id).lifecycle.text}" ++
      " state"))
  Act.examine fun w => rejectIf ((w.warp id).lifecycle ≠ .running ∨ (w.warp id).activeMask = 0#8)
    (.text s!"core: warp {warpID} canonical state is not active")
  Act.update fun w => w.startSlot id
  Act.examine fun w => w.validateSlot id

/-! ## Admission of a cluster -/

/-- The dimensions of the cluster, and their product. -/
def clusterProduct (dimensions : Axes) : Except Error Nat :=
  foldEach (fun axis product index => do
    rejectIf (dimensions index = 0#32 ∨ 7#32 < dimensions index)
      (.text s!"core: cluster dimension on axis {axis} is invalid")
    pure (product * (dimensions index).toNat)) 0 1 [0, 1, 2]

/-- Where the CTA of a rank stands in its cluster. -/
def clusterOffset (dimensions : Axes) (rank : Nat) : Fin 3 → Nat := fun axis =>
  let x := (dimensions 0).toNat
  let y := (dimensions 1).toNat
  match axis with
  | 0 => rank % x
  | 1 => rank / x % y
  | 2 => rank / (x * y)

/-- The cluster as far as it has been checked. -/
structure ClusterScan where
  origin : Fin 3 → Nat := fun _ => 0
  warpIDs : List (List WarpID) := []
  selected : List WarpID := []

/-- The fields every CTA of a cluster shares. -/
def sameLaunch (a b : CTAConfig) : Prop :=
  a.startupPC = b.startupPC ∧ a.blockDimensions = b.blockDimensions ∧
  a.gridDimensions = b.gridDimensions ∧ a.blockSize = b.blockSize ∧ a.warpStep = b.warpStep ∧
  a.entry = b.entry ∧ a.parameterAddress = b.parameterAddress ∧
  a.localMemorySize = b.localMemorySize

instance (a b : CTAConfig) : Decidable (sameLaunch a b) := inferInstanceAs (Decidable (_ ∧ _))

/-- The first free slots outside a selection. -/
def freeSlots (slots : WarpID → Slot σ) (selected : List WarpID) (required : Nat) : List WarpID :=
  ((List.finRange frozenWarpCount).filter fun id =>
    (selected.all fun other => decide (other ≠ id)) &&
      decide ((slots id).lifecycle = .inactive ∧ (slots id).participated = false)).take required

/-- One axis of the origin of a CTA: the first CTA sets it and the others share it. -/
def scanOrigin (first config : CTAConfig) (index : Nat) (axis : Nat) (origin : Fin 3 → Nat)
    (axisIndex : Fin 3) : Except Error (Fin 3 → Nat) := do
  let offset := clusterOffset first.clusterDimensions index axisIndex
  rejectIf ((config.blockID axisIndex).toNat < offset)
    (.text s!"core: CTA {index} block id precedes its cluster offset on axis {axis}")
  let here := (config.blockID axisIndex).toNat - offset
  if index = 0 then pure (Function.update origin axisIndex here)
  else do
    rejectIf (here ≠ origin axisIndex)
      (.text s!"core: CTA {index} does not share cluster origin on axis {axis}")
    pure origin

/-- The check of one CTA of the cluster and the choice of its warps. -/
def scanCluster (slots : WarpID → Slot σ) (first : CTAConfig) (index : Nat) (scan : ClusterScan)
    (config : CTAConfig) : Except Error ClusterScan := do
  rejectIf (config.warpIDs.length ≠ 0) (.text "core: dynamic CTA admission selects WarpIDs")
  rejectIf (config.clusterSize ≠ first.clusterSize ∨
      config.clusterDimensions ≠ first.clusterDimensions ∨
      config.isFirstOfCluster ≠ decide (index = 0))
    (.text s!"core: CTA {index} does not preserve complete cluster order/context")
  rejectIf (¬ sameLaunch config first)
    (.text s!"core: CTA {index} differs from its cluster launch context")
  let origin ← foldEach (scanOrigin first config index) 0 scan.origin [0, 1, 2]
  rejectIf (config.blockSize = 0#32 ∨ frozenWarpCount * frozenLaneCount < config.blockSize.toNat)
    (.text s!"core: dynamic CTA block size {config.blockSize.toNat} is invalid")
  let required := requiredWarps config.blockSize
  let warps := freeSlots slots scan.selected required
  rejectIf (warps.length ≠ required)
    (.resourcesUnavailable s!"cluster CTA {index} needs {required} free warp slots")
  pure { origin, warpIDs := scan.warpIDs ++ [warps], selected := scan.selected ++ warps }

/-- The warps of a complete cluster. -/
def selectCluster (slots : WarpID → Slot σ) (configs : List CTAConfig) :
    Except Error (List (List WarpID)) :=
  match configs with
  | [] => .error (.text "core: dynamic CTA cluster size 0 is invalid")
  | first :: _ => do
      rejectIf (frozenWarpCount < configs.length)
        (.text s!"core: dynamic CTA cluster size {configs.length} is invalid")
      rejectIf (first.clusterSize ≠ BitVec.ofNat 32 configs.length)
        (.text (s!"core: complete cluster requires {first.clusterSize.toNat} CTA configs," ++
          s!" got {configs.length}"))
      let product ← clusterProduct first.clusterDimensions
      rejectIf (product ≠ first.clusterSize.toNat)
        (.text (s!"core: cluster dimensions produce {product} CTAs," ++
          s!" got {first.clusterSize.toNat}"))
      let scan ← foldEach (scanCluster slots first) 0 {} configs
      pure scan.warpIDs

/-- The launches of the members of the candidates. -/
def launchTargets (w : World σ) (candidates : List CTAState) : List WarpLaunchTarget :=
  candidates.flatMap fun candidate => candidate.members.map fun member => {
    warpID := member.warpID.val
    owner := (w.core.slots member.warpID).executor.owner
    startupPC := candidate.config.startupPC
    activeMask := member.activeMask
    parameterAddress := candidate.config.parameterAddress
    firstUse := !w.core.initialized member.warpID }

/-- The slot is as an admission left it. -/
def slotUnused (slot : Slot σ) : Prop :=
  slot.lifecycle = .inactive ∧ slot.participated = false ∧ slot.blockReason = .none ∧
    slot.barrierWait = false ∧ slot.barrierDrain = false ∧ slot.barrierKey = {}

instance (slot : Slot σ) : Decidable (slotUnused slot) := inferInstanceAs (Decidable (_ ∧ _))

/-- The warps the candidates start. -/
def startedWarps (candidates : List CTAState) : List WarpID :=
  candidates.flatMap fun candidate => candidate.members.map WarpMembership.warpID

/-- An admission whose manager and warps have been committed. -/
structure Admitted where
  manager : ManagerID
  tables : CTAManager
  owners : Owners
  candidates : List CTAState

/-- Everything of `AdmitCTACluster` that can fail. -/
def prepareAdmission (configs : List CTAConfig) (w : World σ) : Except Error Admitted := do
  w.validate
  match w.core.ctas with
  | none => .error (.text "core: dynamic CTA admission requires a dynamic CTA manager")
  | some manager => do
      let m := w.managers manager
      rejectIf (m.dynamic = false)
        (.text "core: dynamic CTA admission requires a dynamic CTA manager")
      let warpIDs ← selectCluster w.core.slots configs
      let admission ← m.stageDynamicAdmissions configs warpIDs
      let launch ← stageWarpLaunch w.owners (w.launchTargets admission.candidates)
      let (tables, owners) ← m.commitAdmission admission (do
        each (fun _ (id : WarpID) => rejectIf (¬ slotUnused (w.core.slots id))
          (.text s!"core: warp {id.val} scheduler slot changed before CTA admission"))
          0 (startedWarps admission.candidates)
        let (owners, _) ← launch.commit w.owners
        pure owners)
      pure { manager, tables, owners, candidates := admission.candidates }

/-- Start the slot of an admitted warp. -/
def startAdmitted (w : World σ) (id : WarpID) : World σ :=
  let w := w.startSlot id
  { w with core := { w.core with initialized := Function.update w.core.initialized id true } }

/-- Install an admission. -/
def installAdmission (w : World σ) (admitted : Admitted) : World σ :=
  (startedWarps admitted.candidates).foldl startAdmitted
    { w.setManager admitted.manager admitted.tables with owners := admitted.owners }

/-- `AdmitCTACluster`. -/
def admitCTACluster (configs : List CTAConfig) : Act (World σ) Error (List CTAState) := do
  let admitted ← Act.examine (prepareAdmission configs)
  Act.update fun w => w.installAdmission admitted
  pure admitted.candidates

/-! ## Completion and reclaim -/

/-- What completion looks at in a warp. -/
structure CTACompletionMember where
  warpID : WarpID
  ownerFinished : Bool
  lifecycle : SlotLifecycle
  blockReason : BlockReason

/-- Whether a CTA is done, and why not. -/
structure CTACompletionSnapshot where
  ctaID : Nat
  complete : Bool
  pendingBarrier : Bool
  blockedMembers : List WarpID
  members : List CTACompletionMember

/-- `completion` of the manager. -/
def completionOf (m : CTAManager) (slots : WarpID → Slot σ) (ctaID : Nat) :
    Except Error CTACompletionSnapshot := do
  let cta ← m.snapshot ctaID
  let blockedMembers := (cta.members.map WarpMembership.warpID).filter fun id =>
    decide ((slots id).lifecycle = .blocked)
  let allFinished := decide (cta.members.length ≠ 0) && cta.members.all fun member =>
    member.finished && decide ((slots member.warpID).lifecycle = .finished)
  let pendingBarrier := m.records.pendingCTA (Fin.ofNat frozenWarpCount ctaID)
  pure {
    ctaID, pendingBarrier, blockedMembers
    complete := allFinished && decide (blockedMembers.length = 0) && !pendingBarrier
    members := cta.members.map fun member => {
      warpID := member.warpID, ownerFinished := member.finished
      lifecycle := (slots member.warpID).lifecycle
      blockReason := (slots member.warpID).blockReason } }

/-- `CTACompletion`. -/
def ctaCompletion (ctaID : Nat) (w : World σ) : Except Error CTACompletionSnapshot := do
  w.validate
  match w.core.ctas with
  | none => .error (.text "core: no CTA manager is attached")
  | some manager => completionOf (w.managers manager) w.core.slots ctaID

/-- `CTACompletions`. -/
def ctaCompletions (w : World σ) : Except Error (List CTACompletionSnapshot) := do
  w.validate
  match w.core.ctas with
  | none => pure []
  | some manager => foldEach (fun _ completions (id : CTASlot) => do
      let completion ← w.ctaCompletion id.val
      pure (completions ++ [completion])) 0 [] (w.managers manager).residentIDs

/-- Ask the configured owner for the pending work of a warp. -/
def pendingPriorWork (id : WarpID) (otherwise : Bool) (context : String) :
    Act (World σ) Error Bool := fun w =>
  match w.core.pendingWork with
  | none => (.ok otherwise, w)
  | some provider =>
    let answer := provider id w.memory
    (answer.1.mapError (.wrapped context), { w with memory := answer.2 })

/-- Free the slot of a reclaimed warp. -/
def freeSlot (w : World σ) (id : WarpID) : World σ :=
  w.setSlot id { (w.core.slots id).become .inactive .none with participated := false }

/-- The members of a complete CTA. -/
def reclaimable (ctaID : Nat) (w : World σ) : Except Error (ManagerID × CTAState) := do
  w.validate
  match w.core.ctas with
  | none => .error (.text "core: dynamic CTA reclaim requires a dynamic CTA manager")
  | some manager => do
      rejectIf ((w.managers manager).dynamic = false)
        (.text "core: dynamic CTA reclaim requires a dynamic CTA manager")
      let snapshot ← (w.managers manager).snapshot ctaID
      let completion ← w.ctaCompletion ctaID
      rejectIf (completion.complete = false) (.text s!"core: CTA {ctaID} is not normally complete")
      pure (manager, snapshot)

/-- `ReclaimCTA`. -/
def reclaimCTA (ctaID : Nat) : Act (World σ) Error CTAState := do
  let (manager, snapshot) ← Act.examine (reclaimable ctaID)
  Act.forEach (fun id => do
      let pending ← pendingPriorWork id false s!"core: pending-work view for reclaim warp {id.val}"
      Act.examine fun _ => rejectIf (pending = true)
        (.text s!"core: CTA {ctaID} warp {id.val} retains pending functional work"))
    (snapshot.members.map WarpMembership.warpID)
  let (tables, members) ← Act.examine fun w : World σ =>
    (w.managers manager).commitDynamicReclaim ctaID
  Act.update fun w => (members.map WarpMembership.warpID).foldl freeSlot w
  Act.update fun w => w.setManager manager tables
  pure snapshot

/-! ## Releases -/

/-- `validateBarrierReleases`: every released warp but the source waits on the barrier. -/
def validateBarrierReleases (source : Option WarpID) (result : BarrierResult) (w : World σ) :
    Except Error Unit := do
  rejectIf (¬ result.releases.Valid) (.text "core: barrier release mask exceeds frozen warps")
  each (fun _ id => rejectIf (result.releases.active id.val = true ∧ some id ≠ source ∧
      ¬ (w.core.slots id).WaitsOn result.key)
    (.text s!"core: barrier release warp {id.val} is not waiting on the matching key"))
    0 (List.finRange frozenWarpCount)

/-- A slot after the releases of a barrier. -/
def releasedSlot (source : Option WarpID) (releases : WarpMask) (id : WarpID) (slot : Slot σ) :
    Slot σ :=
  if releases.active id.val = true ∧ some id ≠ source then slot.become .runnable .none else slot

/-- `applyBarrierReleases`. -/
def applyBarrierReleases (source : Option WarpID) (result : BarrierResult) (w : World σ) :
    World σ :=
  { w with core := { w.core with
      slots := fun id => releasedSlot source result.releases id (w.core.slots id) } }

/-- `CompleteBarrierEvent`. -/
def completeBarrierEvent (key : RawBarrierKey) : Act (World σ) Error Unit := do
  let (manager, result, records) ← Act.examine fun w : World σ => do
    w.validate
    match w.core.barriers with
    | none => .error (.text "core: no barrier coordinator is attached")
    | some manager => do
        let stage ← (w.managers manager).stageEventCompletion key
        w.validateBarrierReleases none stage.result
        let (records, _) ← stage.commit (w.managers manager).records
        pure (manager, stage.result, records)
  Act.update fun w => w.setManager manager ((w.managers manager).withRecords records)
  Act.update (applyBarrierReleases none result)

end World

end VortexSim
