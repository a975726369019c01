import VortexSim.Core.Cta

/-!
# Kernel launches

A launch names a grid of CTAs and what each of them needs.  `validateLaunch` checks it against
the resources of the core before anything is executed, and fills in the values derived from it.
`GridWalker` then produces the CTAs one by one: the CTAs of a cluster follow each other in the
order of their ranks, and X is the fastest axis both within a cluster and between clusters.

The products of the validator are `uint64` values whose overflow is checked, so they are natural
numbers here.
-/

namespace VortexSim

open Checked

/-- `ErrInvalidLaunch` with its reason. -/
def invalid (message : String) : Error :=
  .wrapped "device: invalid kernel launch" (.text message)

def frozenBlockFieldMax : Word := 31#32

def frozenWarpStepMax : Word := 15#32

def frozenClusterDimMax : Word := 7#32

/-- `LaunchState`.  The fields from `blockVolume` on are derived by the validator; a caller
leaves them zero or supplies the same value. -/
structure LaunchState where
  startupPC : Word := 0#32
  kernelEntryPC : Word := 0#32
  parameterAddress : Word := 0#32
  gridDimensions : Axes := fun _ => 0#32
  blockDimensions : Axes := fun _ => 0#32
  blockSize : Word := 0#32
  warpStep : Axes := fun _ => 0#32
  localMemorySize : Word := 0#32
  clusterDimensions : Axes := fun _ => 0#32
  blockVolume : Word := 0#32
  warpsPerCTA : Word := 0#32
  alignedLocalMemorySize : Word := 0#32
  clusterSize : Word := 0#32
  clusterWarpDemand : Word := 0#32
  clusterLocalMemorySize : Word := 0#32
  residentCTACapacity : Word := 0#32
  totalCTAs : Word := 0#32
  deriving DecidableEq

/-! ## Validation -/

def axisName : Fin 3 → String
  | 0 => "X"
  | 1 => "Y"
  | 2 => "Z"

def checkedMultiply (left right : Nat) (label : String) : Except Error Nat := do
  rejectIf (left ≠ 0 ∧ (2 ^ 64 - 1) / left < right) (invalid s!"{label} overflows uint64")
  pure (left * right)

namespace LaunchState

variable (input : LaunchState)

/-- One axis of the block, with the volume so far. -/
def validateBlockAxis (_ : Nat) (blockVolume : Nat) (axis : Fin 3) : Except Error Nat := do
  let dimension := input.blockDimensions axis
  rejectIf (dimension = 0#32 ∨ frozenBlockFieldMax < dimension)
    (invalid (s!"block dimension {axisName axis}={dimension.toNat} is outside the frozen" ++
      " 5-bit nonzero range"))
  let blockVolume ← checkedMultiply blockVolume dimension.toNat "block-dimension product"
  rejectIf (frozenWarpStepMax < input.warpStep axis)
    (invalid (s!"warp step {axisName axis}={(input.warpStep axis).toNat} exceeds the frozen" ++
      " 4-bit field"))
  pure blockVolume

/-- One axis of the cluster, with the size so far. -/
def validateClusterAxis (_ : Nat) (clusterSize : Nat) (axis : Fin 3) : Except Error Nat := do
  let dimension := input.clusterDimensions axis
  rejectIf (dimension = 0#32 ∨ frozenClusterDimMax < dimension)
    (invalid (s!"cluster dimension {axisName axis}={dimension.toNat} is outside the frozen" ++
      " 3-bit nonzero range"))
  let clusterSize ← checkedMultiply clusterSize dimension.toNat "cluster-dimension product"
  rejectIf (frozenWarpCount < clusterSize)
    (invalid (s!"cluster product {clusterSize} exceeds {frozenWarpCount} co-resident" ++
      " CTA slots"))
  pure clusterSize

/-- One axis of the grid, with the number of CTAs so far. -/
def validateGridAxis (_ : Nat) (totalCTAs : Nat) (axis : Fin 3) : Except Error Nat := do
  let grid := input.gridDimensions axis
  let cluster := input.clusterDimensions axis
  rejectIf (grid % cluster ≠ 0#32)
    (invalid (s!"grid dimension {axisName axis}={grid.toNat} is not divisible by cluster" ++
      s!" dimension {cluster.toNat}"))
  let totalCTAs ← checkedMultiply totalCTAs grid.toNat "CTA count"
  rejectIf (2 ^ 32 - 1 < totalCTAs)
    (invalid s!"CTA count {totalCTAs} exceeds the frozen 32-bit counter")
  pure totalCTAs

/-- The number of CTAs.  An empty grid has none, whatever its other dimensions are. -/
def countCTAs : Except Error Nat :=
  if ∃ axis, input.gridDimensions axis = 0#32 then pure 0
  else foldEach input.validateGridAxis 0 1 [0, 1, 2]

/-- CTAs that can reside together. -/
def residentCapacity (warpsPerCTA alignedLocalMemory : Nat) : Nat :=
  let residentByLocalMemory :=
    if alignedLocalMemory = 0 then frozenWarpCount
    else min (frozenLocalMemSize / alignedLocalMemory) frozenWarpCount
  min (frozenWarpCount / warpsPerCTA) residentByLocalMemory

/-- The fields a caller may have supplied, against the computed ones. -/
def derivedFields (normalized : LaunchState) : List (String × Word × Word) :=
  [("BlockVolume", input.blockVolume, normalized.blockVolume),
    ("WarpsPerCTA", input.warpsPerCTA, normalized.warpsPerCTA),
    ("AlignedLocalMemorySize", input.alignedLocalMemorySize, normalized.alignedLocalMemorySize),
    ("ClusterSize", input.clusterSize, normalized.clusterSize),
    ("ClusterWarpDemand", input.clusterWarpDemand, normalized.clusterWarpDemand),
    ("ClusterLocalMemorySize", input.clusterLocalMemorySize, normalized.clusterLocalMemorySize),
    ("ResidentCTACapacity", input.residentCTACapacity, normalized.residentCTACapacity),
    ("TotalCTAs", input.totalCTAs, normalized.totalCTAs)]

end LaunchState

/-- `ValidateLaunch`. -/
def validateLaunch (input : LaunchState) : Except Error LaunchState := do
  rejectIf (input.startupPC &&& 3#32 ≠ 0#32)
    (invalid s!"startup PC {hex input.startupPC.toNat} is not RV32 instruction aligned")
  rejectIf (input.kernelEntryPC &&& 3#32 ≠ 0#32)
    (invalid s!"kernel entry PC {hex input.kernelEntryPC.toNat} is not RV32 instruction aligned")
  let blockVolume ← foldEach input.validateBlockAxis 0 1 [0, 1, 2]
  rejectIf (2 ^ 32 - 1 < blockVolume)
    (invalid s!"block-dimension product {blockVolume} exceeds uint32")
  rejectIf (input.blockSize = 0#32 ∨ frozenWarpCount * frozenLaneCount < input.blockSize.toNat)
    (invalid (s!"block size {input.blockSize.toNat} is outside frozen core capacity" ++
      s!" 1..{frozenWarpCount * frozenLaneCount}"))
  let warpsPerCTA := requiredWarps input.blockSize
  rejectIf (frozenLocalMemSize < input.localMemorySize.toNat)
    (invalid (s!"local-memory size {input.localMemorySize.toNat} exceeds frozen capacity" ++
      s!" {frozenLocalMemSize}"))
  let alignedLocalMemory := alignUp input.localMemorySize.toNat frozenMemoryBlockSize
  rejectIf (frozenLocalMemSize < alignedLocalMemory)
    (invalid (s!"64-byte-aligned local-memory size {alignedLocalMemory} exceeds frozen" ++
      s!" capacity {frozenLocalMemSize}"))
  let clusterSize ← foldEach input.validateClusterAxis 0 1 [0, 1, 2]
  let clusterWarpDemand ← checkedMultiply clusterSize warpsPerCTA "cluster warp demand"
  rejectIf (frozenWarpCount < clusterWarpDemand)
    (invalid (s!"cluster warp demand {clusterWarpDemand} exceeds co-resident capacity" ++
      s!" {frozenWarpCount}"))
  let clusterLocalMemory ← checkedMultiply clusterSize alignedLocalMemory
    "cluster local-memory demand"
  rejectIf (frozenLocalMemSize < clusterLocalMemory)
    (invalid (s!"cluster local-memory demand {clusterLocalMemory} exceeds co-resident" ++
      s!" capacity {frozenLocalMemSize}"))
  let residentCapacity := LaunchState.residentCapacity warpsPerCTA alignedLocalMemory
  rejectIf (residentCapacity < clusterSize)
    (invalid (s!"cluster size {clusterSize} exceeds co-resident capacity {residentCapacity}" ++
      s!" (warps/CTA={warpsPerCTA}, aligned LMEM/CTA={alignedLocalMemory})"))
  let totalCTAs ← input.countCTAs
  let normalized : LaunchState := { input with
    blockVolume := BitVec.ofNat 32 blockVolume
    warpsPerCTA := BitVec.ofNat 32 warpsPerCTA
    alignedLocalMemorySize := BitVec.ofNat 32 alignedLocalMemory
    clusterSize := BitVec.ofNat 32 clusterSize
    clusterWarpDemand := BitVec.ofNat 32 clusterWarpDemand
    clusterLocalMemorySize := BitVec.ofNat 32 clusterLocalMemory
    residentCTACapacity := BitVec.ofNat 32 residentCapacity
    totalCTAs := BitVec.ofNat 32 totalCTAs }
  each (fun _ (name, provided, computed) => rejectIf (provided ≠ 0#32 ∧ provided ≠ computed)
    (invalid (s!"derived {name}={provided.toNat} conflicts with computed value" ++
      s!" {computed.toNat}"))) 0 (input.derivedFields normalized)
  pure normalized

/-! ## The walker -/

/-- `CTA`: one launch record of the grid. -/
structure CTA where
  id : Word := 0#32
  startupPC : Word := 0#32
  kernelEntryPC : Word := 0#32
  parameterAddress : Word := 0#32
  blockID : Axes := fun _ => 0#32
  blockDimensions : Axes := fun _ => 0#32
  gridDimensions : Axes := fun _ => 0#32
  blockSize : Word := 0#32
  warpStep : Axes := fun _ => 0#32
  alignedLocalMemorySize : Word := 0#32
  clusterDimensions : Axes := fun _ => 0#32
  clusterSize : Word := 0#32
  clusterOrigin : Axes := fun _ => 0#32
  intraClusterOffset : Axes := fun _ => 0#32
  clusterRank : Word := 0#32
  isFirstOfCluster : Bool := false
  deriving DecidableEq

/-- `CoreConfig`: the slots of the CTA and of its warps are chosen by the core. -/
def CTA.coreConfig (c : CTA) : CTAConfig where
  startupPC := c.startupPC
  blockID := c.blockID
  blockDimensions := c.blockDimensions
  gridDimensions := c.gridDimensions
  blockSize := c.blockSize
  warpStep := c.warpStep
  entry := c.kernelEntryPC
  parameterAddress := c.parameterAddress
  localMemorySize := c.alignedLocalMemorySize
  clusterDimensions := c.clusterDimensions
  clusterSize := c.clusterSize
  isFirstOfCluster := c.isFirstOfCluster

/-- The next CTA of the grid. -/
structure GridWalker where
  launch : LaunchState
  origin : Axes := fun _ => 0#32
  intra : Axes := fun _ => 0#32
  emitted : Word := 0#32
  deriving DecidableEq

/-- `NewGridWalker`. -/
def newGridWalker (input : LaunchState) : Except Error GridWalker := do
  let launch ← validateLaunch input
  pure { launch }

/-- One loop of `advance`: the axes move in turn until one of them stays below its bound.
The flag says that none did. -/
def rollAxes (step bound : Axes) : List (Fin 3) → Axes → Axes × Bool
  | [], x => (x, true)
  | axis :: rest, x =>
    let moved := Function.update x axis (x axis + step axis)
    if moved axis < bound axis then (moved, false)
    else rollAxes step bound rest (Function.update moved axis 0#32)

namespace GridWalker

variable (w : GridWalker)

/-- `Remaining`. -/
def remaining : Word :=
  if w.launch.totalCTAs ≤ w.emitted then 0#32 else w.launch.totalCTAs - w.emitted

/-- `advance`. -/
def advance : GridWalker :=
  let (intra, carried) := rollAxes (fun _ => 1#32) w.launch.clusterDimensions [0, 1, 2] w.intra
  if carried then
    { w with
      intra
      origin := (rollAxes w.launch.clusterDimensions w.launch.gridDimensions [0, 1, 2] w.origin).1 }
  else { w with intra }

/-- The rank of the current offset in its cluster. -/
def rank : Word :=
  w.intra 0 + w.launch.clusterDimensions 0 * (w.intra 1 + w.launch.clusterDimensions 1 * w.intra 2)

/-- The record of the current position. -/
def current : CTA where
  id := w.emitted
  startupPC := w.launch.startupPC
  kernelEntryPC := w.launch.kernelEntryPC
  parameterAddress := w.launch.parameterAddress
  blockID := fun axis => w.origin axis + w.intra axis
  blockDimensions := w.launch.blockDimensions
  gridDimensions := w.launch.gridDimensions
  blockSize := w.launch.blockSize
  warpStep := w.launch.warpStep
  alignedLocalMemorySize := w.launch.alignedLocalMemorySize
  clusterDimensions := w.launch.clusterDimensions
  clusterSize := w.launch.clusterSize
  clusterOrigin := w.origin
  intraClusterOffset := w.intra
  clusterRank := w.rank
  isFirstOfCluster := decide (w.rank = 0#32)

/-- `Next`. -/
def next : Option (CTA × GridWalker) :=
  if w.launch.totalCTAs ≤ w.emitted then none
  else some (w.current, { w with emitted := w.emitted + 1#32 }.advance)

end GridWalker

end VortexSim
