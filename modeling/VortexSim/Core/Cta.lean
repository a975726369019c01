import Mathlib.Data.Fin.VecNotation
import VortexSim.Lib.Checked
import VortexSim.Isa.Csr

/-!
# Resident CTAs

`CTAManager` owns the CTAs that reside on the core: their configuration, the warps that are
their members, and the interval of local memory each of them has.  A static manager is filled
by `admitCTA` and then sealed; a dynamic one is changed only by admissions and reclaims of the
core, which are staged first and committed together with the launch of the warps.

Warps and CTA slots are elements of `Fin 4`, since the tables are indexed by identities that
have passed the range check.  A configuration keeps the raw values it was given.
-/

namespace VortexSim

open Checked

/-- A warp slot of the core. -/
abbrev WarpID := Fin frozenWarpCount

/-- A resident slot.  There are as many of them as warps. -/
abbrev CTASlot := Fin frozenWarpCount

instance axesNeZero : NeZero 3 := ⟨by decide⟩

/-- One value for each axis of a grid. -/
abbrev Axes := Fin 3 → Word

def frozenMemoryBlockSize : Nat := 64

/-- `FrozenLocalMemSize`. -/
def frozenLocalMemSize : Nat := 2 ^ 14

/-! ## Configurations -/

/-- The input of an admission.  A static caller supplies the warps in rank order; a dynamic
admission selects them. -/
structure CTAConfig where
  id : Word := 0#32
  warpIDs : List Nat := []
  startupPC : Word := 0#32
  blockID : Axes := fun _ => 0#32
  blockDimensions : Axes := fun _ => 0#32
  gridDimensions : Axes := fun _ => 0#32
  blockSize : Word := 0#32
  warpStep : Axes := fun _ => 0#32
  entry : Word := 0#32
  parameterAddress : Word := 0#32
  localMemorySize : Word := 0#32
  clusterDimensions : Axes := fun _ => 0#32
  clusterSize : Word := 0#32
  isFirstOfCluster : Bool := false
  deriving DecidableEq

/-- A range of local memory. -/
structure LocalMemoryAllocation where
  address : Word := 0#32
  size : Nat := 0
  deriving Repr, DecidableEq

/-- A warp in its CTA. -/
structure WarpMembership where
  warpID : WarpID
  rank : Nat
  activeMask : LaneMask
  threadCoordinates : Fin 3 → LaneValues
  finished : Bool := false
  deriving DecidableEq

/-- `ctaState`, and the `CTASnapshot` copied from it. -/
structure CTAState where
  config : CTAConfig
  members : List WarpMembership
  allocation : LocalMemoryAllocation := {}
  backingOffset : Nat := 0
  deriving DecidableEq

/-- Where a warp stands in its CTA. -/
structure WarpCTAKey where
  ctaID : CTASlot
  rank : Nat
  deriving Repr, DecidableEq

/-! ### Coordinates -/

/-- Linear coordinates of the lanes of a rank, for a configuration without a block size. -/
def threadCoordinates (rank : Nat) (dimensions : Axes) : Fin 3 → LaneValues := fun axis lane =>
  let linear := BitVec.ofNat 32 (rank * frozenLaneCount + lane.val)
  let rows := linear / dimensions 0
  match axis with
  | 0 => linear % dimensions 0
  | 1 => rows % dimensions 1
  | 2 => rows / dimensions 1

/-- The coordinate after a lane: a ripple of carries in four-bit fields. -/
def advanceLaneCoordinate (previous dimensions : Axes) : Axes :=
  let bdx := dimensions 0 &&& 15#32
  let bdy := dimensions 1 &&& 15#32
  let wrapX := decide (bdx ≤ previous 0 + 1#32)
  let nextX := if wrapX then previous 0 + 1#32 - bdx else previous 0 + 1#32
  let nextY := if wrapX then previous 1 + 1#32 else previous 1
  let wrapY := wrapX && decide (bdy ≤ nextY)
  let nextZ := if wrapY then previous 2 + 1#32 else previous 2
  ![nextX &&& 15#32, (if wrapY then nextY - bdy else nextY) &&& 15#32, nextZ &&& 15#32]

/-- The base coordinate of the next warp.  Unlike for a lane, Y may wrap where X did not. -/
def advanceWarpBase (previous dimensions step : Axes) : Axes :=
  let bdx := dimensions 0 &&& 15#32
  let bdy := dimensions 1 &&& 15#32
  let sumX := previous 0 + step 0
  let wrapX := decide (bdx ≤ sumX)
  let nextX := if wrapX then sumX - bdx else sumX
  let sumY := if wrapX then previous 1 + step 1 + 1#32 else previous 1 + step 1
  let wrapY := decide (bdy ≤ sumY)
  let nextY := if wrapY then sumY - bdy else sumY
  let sumZ := previous 2 + step 2
  let nextZ := if wrapY then sumZ + 1#32 else sumZ
  ![nextX &&& 15#32, nextY &&& 15#32, nextZ &&& 15#32]

/-- The lanes of a warp, starting at its base. -/
def warpStepCoordinates (base dimensions : Axes) : Fin 3 → LaneValues := fun axis lane =>
  (fun current => advanceLaneCoordinate current dimensions)^[lane.val] base axis

/-- The base of the warp of a rank. -/
def warpBase (dimensions step : Axes) (rank : Nat) : Axes :=
  (fun base => advanceWarpBase base dimensions step)^[rank] fun _ => 0#32

/-- The next multiple. -/
def alignUp (value alignment : Nat) : Nat :=
  if value = 0 then 0 else (value + alignment - 1) / alignment * alignment

/-! ### Validation -/

/-- The checks of one axis, with the threads counted so far. -/
def validateAxis (config : CTAConfig) (axis : Nat) (threads : Nat) (index : Fin 3) :
    Except Error Nat := do
  rejectIf (config.blockDimensions index = 0#32 ∨ config.gridDimensions index = 0#32)
    (.text s!"core: CTA {config.id.toNat} has zero block/grid dimension on axis {axis}")
  rejectIf (config.gridDimensions index ≤ config.blockID index)
    (.text s!"core: CTA {config.id.toNat} block id exceeds grid on axis {axis}")
  rejectIf (config.blockSize ≠ 0#32 ∧ 31#32 < config.blockDimensions index)
    (.text (s!"core: CTA {config.id.toNat} block dimension on axis {axis}" ++
      " exceeds frozen field"))
  rejectIf (config.blockSize ≠ 0#32 ∧ 15#32 < config.warpStep index)
    (.text s!"core: CTA {config.id.toNat} warp step on axis {axis} exceeds frozen field")
  let threads := threads * (config.blockDimensions index).toNat
  rejectIf (config.blockSize = 0#32 ∧ frozenWarpCount * frozenLaneCount < threads)
    (.text (s!"core: CTA {config.id.toNat} block has {threads} threads," ++
      " exceeds frozen core capacity"))
  pure threads

/-- Block size and cluster shape: a configuration without a block size gets the defaults. -/
def validateShape (config : CTAConfig) (threads : Nat) : Except Error CTAConfig :=
  if config.blockSize = 0#32 then
    pure { config with
      blockSize := BitVec.ofNat 32 threads
      clusterDimensions := fun _ => 1#32 }
  else do
    rejectIf (frozenWarpCount * frozenLaneCount < config.blockSize.toNat)
      (.text (s!"core: CTA {config.id.toNat} block size {config.blockSize.toNat}" ++
        " exceeds frozen core capacity"))
    let clusterProduct ← foldEach (fun axis product index => do
      rejectIf (config.clusterDimensions index = 0#32 ∨ 7#32 < config.clusterDimensions index)
        (.text s!"core: CTA {config.id.toNat} cluster dimension on axis {axis} is invalid")
      pure (product * (config.clusterDimensions index).toNat)) 0 1 [0, 1, 2]
    rejectIf (clusterProduct ≠ config.clusterSize.toNat)
      (.text (s!"core: CTA {config.id.toNat} cluster dimensions produce {clusterProduct}" ++
        s!" members, got size {config.clusterSize.toNat}"))
    pure config

/-- Warps of a block. -/
def requiredWarps (blockSize : Word) : Nat :=
  (blockSize.toNat + frozenLaneCount - 1) / frozenLaneCount

/-- The lanes of a rank that have a thread. -/
def memberMask (blockSize : Word) (rank : Nat) : LaneMask :=
  let remaining := blockSize.toNat - rank * frozenLaneCount
  if remaining < frozenLaneCount then BitVec.ofNat 8 (2 ^ remaining - 1) else allLanes

/-- One member, in rank order. -/
def scanMember (config : CTAConfig) (legacyCoordinates : Bool) (rank : Nat)
    (members : List WarpMembership) (warpID : Nat) : Except Error (List WarpMembership) := do
  rejectIf (frozenWarpCount ≤ warpID)
    (.text (s!"core: CTA {config.id.toNat} member warp {warpID} exceeds frozen topology"))
  rejectIf (∃ member ∈ members, member.warpID = Fin.ofNat frozenWarpCount warpID)
    (.text s!"core: CTA {config.id.toNat} repeats member warp {warpID}")
  pure (members ++ [{
    warpID := Fin.ofNat frozenWarpCount warpID, rank
    activeMask := memberMask config.blockSize rank
    threadCoordinates :=
      if legacyCoordinates then threadCoordinates rank config.blockDimensions
      else warpStepCoordinates (warpBase config.blockDimensions config.warpStep rank)
        config.blockDimensions }])

/-- `validateCTAConfig`. -/
def validateCTAConfig (config : CTAConfig) : Except Error CTAState := do
  rejectIf (frozenWarpCount ≤ config.id.toNat)
    (.text s!"core: CTA id {config.id.toNat} exceeds frozen resident slots")
  rejectIf (config.warpIDs.length = 0 ∨ frozenWarpCount < config.warpIDs.length)
    (.text s!"core: CTA {config.id.toNat} has invalid member count {config.warpIDs.length}")
  rejectIf (config.entry &&& 3#32 ≠ 0#32)
    (.text (s!"core: CTA {config.id.toNat} entry {hex config.entry.toNat}" ++
      " is not four-byte aligned"))
  rejectIf (config.startupPC &&& 3#32 ≠ 0#32)
    (.text (s!"core: CTA {config.id.toNat} startup PC {hex config.startupPC.toNat}" ++
      " is not four-byte aligned"))
  rejectIf (config.clusterSize = 0#32 ∨ frozenWarpCount < config.clusterSize.toNat)
    (.text (s!"core: CTA {config.id.toNat} cluster size {config.clusterSize.toNat}" ++
      " is invalid"))
  let threads ← foldEach (validateAxis config) 0 1 [0, 1, 2]
  let shaped ← validateShape config threads
  rejectIf (requiredWarps shaped.blockSize ≠ config.warpIDs.length)
    (.text (s!"core: CTA {config.id.toNat} dimensions require {requiredWarps shaped.blockSize}" ++
      s!" warps, got {config.warpIDs.length} members"))
  rejectIf (frozenLocalMemSize < config.localMemorySize.toNat)
    (.text (s!"core: CTA {config.id.toNat} LMEM size {config.localMemorySize.toNat} exceeds" ++
      s!" frozen size {frozenLocalMemSize}"))
  let aligned := alignUp config.localMemorySize.toNat frozenMemoryBlockSize
  rejectIf (frozenLocalMemSize < aligned)
    (.text (s!"core: CTA {config.id.toNat} aligned LMEM size {aligned} exceeds" ++ " frozen size"))
  let members ← foldEach (scanMember shaped (decide (config.blockSize = 0#32))) 0 [] config.warpIDs
  pure { config := { shaped with localMemorySize := BitVec.ofNat 32 aligned }, members }

/-! ## Local memory -/

/-- The smallest free offset of local memory, between the occupied intervals. -/
def freeOffset (size : Nat) : List (Nat × Nat) → Nat → Nat
  | [], offset => offset
  | (start, finish) :: rest, offset =>
    if offset + size ≤ start then offset
    else freeOffset size rest (max offset finish)

/-- First fit: every CTA sees the same window, backed at its own offset. -/
def allocateFromIntervals (size : Nat) (intervals : List (Nat × Nat)) :
    Except Error (LocalMemoryAllocation × Nat) := do
  let sorted := intervals.mergeSort fun a b => decide (a.1 ≤ b.1)
  let backingOffset := freeOffset size sorted 0
  rejectIf (frozenLocalMemSize < backingOffset + size)
    (.text s!"core: no LMEM allocation of {size} bytes remains")
  pure ({ address := frozenLocalMemBase, size }, backingOffset)

/-- The interval a resident CTA occupies. -/
def CTAState.interval (cta : CTAState) : Nat × Nat :=
  (cta.backingOffset, cta.backingOffset + cta.allocation.size)

/-- The CTA with its interval. -/
def CTAState.place (cta : CTAState) (place : LocalMemoryAllocation × Nat) : CTAState :=
  { cta with allocation := place.1, backingOffset := place.2 }

/-- The CTA with one more finished member. -/
def CTAState.finish (cta : CTAState) (rank : Nat) : CTAState :=
  { cta with members := cta.members.modify rank fun member => { member with finished := true } }

/-! ## The manager -/

/-- `BarrierKey`: the CTA, the warp and the number that name a barrier. -/
structure BarrierKey where
  ctaID : CTASlot := 0
  addressWarp : WarpID := 0
  id : Fin frozenBarrierCount := 0
  deriving Repr, DecidableEq

/-- `barrierRecord`. -/
structure BarrierRecord where
  arrivals : WarpMask := 0#8
  waiters : WarpMask := 0#8
  participantCount : Nat := 0
  events : Nat := 0
  phase : Bool := false
  arrivalsComplete : Bool := false
  deriving Repr, DecidableEq

/-- The records of a coordinator. -/
abbrev BarrierRecords := BarrierKey → Option BarrierRecord

/-- The owner of resident CTAs.  `barriers` is its barrier coordinator, once it has one. -/
structure CTAManager where
  ctas : CTASlot → Option CTAState := fun _ => none
  byWarp : WarpID → Option WarpCTAKey := fun _ => none
  isSealed : Bool := false
  dynamic : Bool := false
  epoch : Nat := 0
  barriers : Option BarrierRecords := none

/-- `NewCTAManager`. -/
def CTAManager.new : CTAManager := {}

/-- `NewDynamicCTAManager`. -/
def CTAManager.newDynamic : CTAManager := { dynamic := true }

namespace CTAManager

variable (m : CTAManager)

/-- The occupied intervals of local memory. -/
def allocationIntervals : List (Nat × Nat) :=
  (List.finRange frozenWarpCount).filterMap fun id => (m.ctas id).map CTAState.interval

/-- No CTA is resident. -/
def isEmpty : Bool := (List.finRange frozenWarpCount).all fun id => (m.ctas id).isNone

/-- Enter a candidate: the CTA and the reverse entries of its members. -/
def install (cta : CTAState) : CTAManager :=
  let slot := Fin.ofNat frozenWarpCount cta.config.id.toNat
  { m with
    ctas := Function.update m.ctas slot (some cta)
    byWarp := cta.members.foldl (fun table member =>
        Function.update table member.warpID (some { ctaID := slot, rank := member.rank }))
      m.byWarp }

/-- `Admit`. -/
def admitCTA (config : CTAConfig) : Except Error (CTAManager × CTAState) := do
  let candidate ← validateCTAConfig config
  rejectIf (m.dynamic = true) (.text "core: dynamic CTA admission must be coordinated by Core")
  rejectIf (m.isSealed = true) (.text "core: CTA manager is already attached and sealed")
  rejectIf (m.ctas (Fin.ofNat frozenWarpCount config.id.toNat) ≠ none)
    (.text s!"core: CTA id {config.id.toNat} is already resident")
  each (fun _ member =>
      match m.byWarp member.warpID with
      | none => pure ()
      | some key => .error (.text
          s!"core: warp {member.warpID.val} already belongs to CTA {key.ctaID.val}"))
    0 candidate.members
  let place ← allocateFromIntervals candidate.config.localMemorySize.toNat m.allocationIntervals
  let cta := candidate.place place
  pure ({ m.install cta with epoch := m.epoch + 1 }, cta)

/-- `seal`. -/
def sealed : Except Error CTAManager := do
  rejectIf (m.isEmpty = true ∧ m.dynamic = false) (.text "core: cannot attach an empty CTA manager")
  pure { m with isSealed := true }

/-! ### Dynamic admission -/

/-- The candidates staged so far. -/
structure AdmissionScan where
  candidates : List CTAState := []
  stagedWarps : List WarpID := []
  intervals : List (Nat × Nat)

/-- `ctaAdmissionStage`. -/
structure AdmissionStage where
  epoch : Nat
  candidates : List CTAState

/-- The resident slots without a CTA. -/
def freeCTAIDs : List CTASlot :=
  (List.finRange frozenWarpCount).filter fun id => (m.ctas id).isNone

/-- The check of one member of a candidate. -/
def stageMember (_ : Nat) (staged : List WarpID) (member : WarpMembership) :
    Except Error (List WarpID) := do
  match m.byWarp member.warpID with
  | some key => .error (.resourcesUnavailable
      s!"warp {member.warpID.val} belongs to CTA {key.ctaID.val}")
  | none =>
    rejectIf (member.warpID ∈ staged)
      (.text s!"core: dynamic CTA cluster repeats warp {member.warpID.val}")
    pure (member.warpID :: staged)

/-- Stage one CTA of the cluster at a free slot. -/
def stageCandidate (_ : Nat) (scan : AdmissionScan) (entry : CTAConfig × CTASlot) :
    Except Error AdmissionScan := do
  let candidate ← validateCTAConfig { entry.1 with id := BitVec.ofNat 32 entry.2.val }
  let stagedWarps ← foldEach m.stageMember 0 scan.stagedWarps candidate.members
  let place ← (allocateFromIntervals candidate.config.localMemorySize.toNat
    scan.intervals).mapError fun
      | .text message => .resourcesUnavailable message
      | err => err
  let cta := candidate.place place
  pure {
    candidates := scan.candidates ++ [cta]
    stagedWarps
    intervals := scan.intervals ++ [cta.interval] }

/-- `stageDynamicAdmissions`. -/
def stageDynamicAdmissions (configs : List CTAConfig) (warpIDs : List (List WarpID)) :
    Except Error AdmissionStage := do
  rejectIf (configs.length = 0 ∨ configs.length ≠ warpIDs.length)
    (.text (s!"core: dynamic CTA cluster has {configs.length} configs and {warpIDs.length}" ++
      " warp sets"))
  rejectIf (m.dynamic = false ∨ m.isSealed = false ∨ m.barriers.isNone = true)
    (.text "core: CTA manager is not attached for dynamic admission")
  rejectIf (m.freeCTAIDs.length < configs.length)
    (.resourcesUnavailable (s!"need {configs.length} CTA slots," ++
      s!" have {m.freeCTAIDs.length}"))
  let entries := (configs.zip warpIDs).map fun entry =>
    { entry.1 with warpIDs := entry.2.map Fin.val }
  let scan ← foldEach m.stageCandidate 0 { intervals := m.allocationIntervals }
    (entries.zip m.freeCTAIDs)
  pure { epoch := m.epoch, candidates := scan.candidates }

/-- The checks of a commit: slots and warps of every candidate are still free. -/
def recheck (stage : AdmissionStage) : Except Error Unit := do
  rejectIf (stage.candidates.length = 0) (.text "core: nil dynamic CTA admission stage")
  rejectIf (m.dynamic = false ∨ m.isSealed = false ∨ m.epoch ≠ stage.epoch)
    (.text "core: dynamic CTA admission stage is stale")
  each (fun _ candidate => do
    rejectIf (m.ctas (Fin.ofNat frozenWarpCount candidate.config.id.toNat) ≠ none)
      (.text s!"core: CTA slot {candidate.config.id.toNat} became occupied")
    each (fun _ member => rejectIf (m.byWarp member.warpID ≠ none)
      (.text s!"core: warp {member.warpID.val} became occupied")) 0 candidate.members)
    0 stage.candidates

/-- `commit` of an admission.  Nothing is installed unless the external transition succeeds. -/
def commitAdmission {ω : Type} (stage : AdmissionStage) (external : Except Error ω) :
    Except Error (CTAManager × ω) := do
  m.recheck stage
  let world ← external
  pure ({ stage.candidates.foldl install m with epoch := m.epoch + 1 }, world)

/-! ### Observations -/

/-- `HasWarp`. -/
def hasWarp (warpID : WarpID) : Bool := (m.byWarp warpID).isSome

/-- `Snapshot`. -/
def snapshot (ctaID : Nat) : Except Error CTAState :=
  if h : ctaID < frozenWarpCount then
    match m.ctas ⟨ctaID, h⟩ with
    | some cta => pure cta
    | none => .error (.text s!"core: CTA {ctaID} is not resident")
  else .error (.text s!"core: CTA {ctaID} is not resident")

/-- `residentIDs`. -/
def residentIDs : List CTASlot :=
  (List.finRange frozenWarpCount).filter fun id => (m.ctas id).isSome

/-- `ViewForWarp`. -/
def viewForWarp (warpID : WarpID) : Except Error CTAView :=
  match m.byWarp warpID with
  | none => .error (.text s!"core: warp {warpID.val} has no CTA membership")
  | some key =>
    let found := (m.ctas key.ctaID).bind fun cta =>
      (cta.members.find? fun candidate =>
        decide (candidate.rank = key.rank ∧ candidate.warpID = warpID)).map (cta, ·)
    match found with
    | none => .error (.text s!"core: warp {warpID.val} CTA membership is inconsistent")
    | some (cta, member) => pure {
        id := cta.config.id
        rank := BitVec.ofNat 32 member.rank
        size := BitVec.ofNat 32 (requiredWarps cta.config.blockSize)
        threadCoordinates := member.threadCoordinates
        blockID := cta.config.blockID
        blockDimensions := cta.config.blockDimensions
        gridDimensions := cta.config.gridDimensions
        blockSize := cta.config.blockSize
        warpStep := cta.config.warpStep
        parameterAddress := cta.config.parameterAddress
        localMemoryAddress := cta.allocation.address
        clusterDimensions := cta.config.clusterDimensions
        clusterSize := cta.config.clusterSize
        entry := cta.config.entry }

/-- The warps of a CTA. -/
def membersMask (cta : CTAState) : WarpMask :=
  cta.members.foldl (fun mask member => mask ||| (1#8 <<< member.warpID.val)) 0#8

/-- `ValidateSpawn`.  The source dereferences the CTA of a member, which is resident. -/
def validateSpawn (sourceID : WarpID) (targets : WarpMask) : Except Error Unit := do
  rejectIf (¬ targets.Valid) (.text "invalid source or target mask")
  match m.byWarp sourceID with
  | none => .error (.text s!"source warp {sourceID.val} has no CTA")
  | some source => do
      let members := ((m.ctas source.ctaID).map membersMask).getD 0#8
      let activated := targets ||| (1#8 <<< sourceID.val)
      rejectIf (activated ≠ members)
        (.text (s!"source/target mask {hex activated.toNat} does not equal CTA" ++
          s!" {source.ctaID.val} membership {hex members.toNat}"))
      each (fun _ (targetID : WarpID) => rejectIf (targets.getLsbD targetID.val = true ∧
          (m.byWarp targetID).map WarpCTAKey.ctaID ≠ some source.ctaID)
        (.text (s!"target warp {targetID.val} does not belong to source CTA" ++
          s!" {source.ctaID.val}"))) 0 (List.finRange frozenWarpCount)

/-- `observeWarpFinished`. -/
def observeWarpFinished (warpID : WarpID) : Except Error CTAManager :=
  match m.byWarp warpID with
  | none => .error (.text s!"core: finished warp {warpID.val} has no CTA membership")
  | some key =>
    match m.ctas key.ctaID with
    | none => .error (.text s!"core: finished warp {warpID.val} has inconsistent CTA membership")
    | some cta => do
        rejectIf ((cta.members[key.rank]?).map WarpMembership.warpID ≠ some warpID)
          (.text s!"core: finished warp {warpID.val} has inconsistent CTA membership")
        pure { m with ctas := Function.update m.ctas key.ctaID (some (cta.finish key.rank)) }

end CTAManager

end VortexSim
