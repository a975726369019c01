import VortexSim.Core.Cta

/-!
# Barriers

The coordinator of a manager keeps one record for each barrier of a resident CTA: who has
arrived, who waits, how many participants and events the current phase has.  A request is
staged against the record it was issued on, and the commit refuses a record that has changed
since.  Releasing the waiters and flipping the phase is one step.
-/

namespace VortexSim

open Checked

def frozenMaxBarEvents : Nat := 32

/-- A key as a caller gives it. -/
structure RawBarrierKey where
  ctaID : Nat
  addressWarp : Nat
  id : Nat
  deriving Repr, DecidableEq

def BarrierKey.raw (key : BarrierKey) : RawBarrierKey :=
  { ctaID := key.ctaID.val, addressWarp := key.addressWarp.val, id := key.id.val }

/-- Every key of the topology. -/
def allBarrierKeys : List BarrierKey :=
  (List.finRange frozenWarpCount).flatMap fun ctaID =>
    (List.finRange frozenWarpCount).flatMap fun addressWarp =>
      (List.finRange frozenBarrierCount).map fun id => { ctaID, addressWarp, id }

/-- A `BarrierSnapshot`: a key with its record. -/
abbrev BarrierSnapshot := BarrierKey × BarrierRecord

variable (record : BarrierRecord) (effect : BarrierEffect)

/-- The phase is under way. -/
def BarrierRecord.pending : Bool :=
  decide (record.arrivals ≠ 0#8) || decide (record.waiters ≠ 0#8) ||
  decide (record.participantCount ≠ 0) || decide (record.events ≠ 0) || record.arrivalsComplete

/-- The end of a phase. -/
def BarrierRecord.flip : BarrierRecord :=
  { record with
    arrivals := 0#8
    waiters := 0#8
    participantCount := 0
    arrivalsComplete := false
    phase := !record.phase }

/-- The record of a key, the zero record where there is none. -/
def BarrierRecords.at (records : BarrierRecords) (key : BarrierKey) : BarrierRecord :=
  (records key).getD {}

/-- `pendingCTA`. -/
def BarrierRecords.pendingCTA (records : BarrierRecords) (ctaID : CTASlot) : Bool :=
  allBarrierKeys.any fun key =>
    decide (key.ctaID = ctaID) && (records key).any BarrierRecord.pending

/-- `empty`. -/
def BarrierRecords.empty (records : BarrierRecords) : Bool :=
  allBarrierKeys.all fun key => (records key).isNone

/-- `maskCount`. -/
def maskCount (mask : WarpMask) : Nat :=
  (List.range frozenWarpCount).countP fun id => mask.active id

/-! ## Requests -/

/-- `BarrierResult`: what the scheduler does after a committed request. -/
structure BarrierResult where
  key : BarrierKey
  block : Bool := false
  releases : WarpMask := 0#8
  deriving Repr, DecidableEq

/-- A barrier request that may be committed. -/
structure BarrierStage where
  key : BarrierKey
  before : Option BarrierRecord
  after : BarrierRecord
  result : BarrierResult
  committed : Bool := false

/-- `Commit`. -/
def BarrierStage.commit (stage : BarrierStage) (records : BarrierRecords) :
    Except Error (BarrierRecords × BarrierStage) := do
  rejectIf (stage.committed = true) (.text "core: barrier stage was already committed")
  rejectIf (records stage.key ≠ stage.before)
    (.text "core: barrier stage is stale because canonical state changed")
  pure (Function.update records stage.key (some stage.after), { stage with committed := true })

/-- The size field a count is encoded with. -/
def sizeField (participantCount : Nat) : Nat := (participantCount + 31) % 32

/-- A record with the work its request leaves to the scheduler. -/
structure BarrierChange where
  after : BarrierRecord
  block : Bool := false
  releases : WarpMask := 0#8

/-- An expected-event request. -/
def BarrierRecord.expectEvents : Except Error BarrierChange := do
  rejectIf (effect.kind ≠ .arrive ∨ effect.arrive = true ∨ effect.wait = true ∨
      effect.sync = true ∨ effect.releaseByCoordinator = true ∨ effect.phase = false ∨
      effect.expectCount = 0 ∨ frozenMaxBarEvents < effect.expectCount ∨
      (effect.expectCount < frozenMaxBarEvents ∧ effect.participantCount ≠ effect.expectCount) ∨
      (effect.expectCount = frozenMaxBarEvents ∧ effect.participantCount ≠ 0) ∨
      effect.sizeMinusOne ≠ sizeField effect.participantCount)
    (.text "core: malformed barrier expect-event request")
  rejectIf (frozenMaxBarEvents < record.events + effect.expectCount)
    (.text "core: barrier event count overflow")
  pure { after := { record with events := record.events + effect.expectCount } }

/-- A wait for the end of the phase its operand names. -/
def BarrierRecord.wait : Except Error BarrierChange := do
  rejectIf (effect.arrive = true ∨ effect.wait = false ∨ effect.sync = true ∨
      effect.releaseByCoordinator ≠ effect.wait ∨ effect.expectCount ≠ 0 ∨
      effect.phase ≠ decide (effect.participantCount % 2 ≠ 0) ∨
      effect.sizeMinusOne ≠ sizeField effect.participantCount)
    (.text "core: malformed barrier wait request")
  if effect.phase = record.phase then do
    let bit : WarpMask := 1#8 <<< effect.warpID
    rejectIf (record.waiters &&& bit ≠ 0#8)
      (.text s!"core: warp {effect.warpID} already waits on barrier")
    pure { after := { record with waiters := record.waiters ||| bit }, block := true }
  else pure { after := record }

/-- The record after an arrival, before the count is compared. -/
def BarrierRecord.arrived : BarrierRecord :=
  let bit : WarpMask := 1#8 <<< effect.warpID
  { record with
    participantCount := effect.participantCount
    arrivals := record.arrivals ||| bit
    waiters := if effect.sync then record.waiters ||| bit else record.waiters }

/-- An arrival.  The last one releases the waiters, or waits for the outstanding events. -/
def BarrierRecord.arrive (memberCount : Nat) : Except Error BarrierChange := do
  rejectIf (effect.arrive = false ∨ (effect.kind ≠ .arrive ∧ effect.kind ≠ .sync) ∨
      effect.sync ≠ decide (effect.kind = .sync) ∨ effect.wait ≠ effect.sync ∨
      effect.releaseByCoordinator ≠ effect.wait ∨ effect.expectCount ≠ 0)
    (.text "core: malformed barrier arrival request")
  let count := effect.participantCount
  rejectIf (count = 0 ∨ memberCount < count ∨ effect.sizeMinusOne ≠ count - 1)
    (.text s!"core: barrier participant count {count} is invalid for CTA size {memberCount}")
  rejectIf (effect.phase ≠ decide (count % 2 ≠ 0))
    (.text "core: barrier phase does not match the participant operand")
  rejectIf (record.arrivalsComplete = true)
    (.text "core: barrier arrivals already complete while events remain")
  rejectIf (record.participantCount ≠ 0 ∧ record.participantCount ≠ count)
    (.text (s!"core: barrier participant count changed from {record.participantCount}" ++
      s!" to {count}"))
  rejectIf (record.arrivals &&& (1#8 <<< effect.warpID) ≠ 0#8)
    (.text s!"core: duplicate arrival from warp {effect.warpID}")
  let after := record.arrived effect
  if maskCount after.arrivals = count then
    if after.events = 0 then pure { after := after.flip, releases := after.waiters }
    else pure { after := { after with arrivalsComplete := true }, block := effect.sync }
  else pure { after, block := effect.sync }

/-- The three kinds of requests. -/
def BarrierRecord.request (memberCount : Nat) : Except Error BarrierChange :=
  if effect.event then record.expectEvents effect
  else if effect.kind = .wait then record.wait effect
  else record.arrive effect memberCount

/-! ## The coordinator of a manager -/

/-- `barrierView`: the records of one CTA at issue. -/
structure BarrierView where
  ctaID : Nat := 0
  phases : Fin frozenWarpCount → Fin frozenBarrierCount → Bool := fun _ _ => false
  records : Fin frozenWarpCount → Fin frozenBarrierCount → BarrierSnapshot := fun _ _ => ({}, {})

namespace CTAManager

variable (m : CTAManager)

/-- `NewBarrierCoordinator`. -/
def newBarrierCoordinator : Except Error CTAManager := do
  rejectIf (m.isEmpty = true ∧ m.dynamic = false)
    (.text "core: cannot bind barriers to an empty CTA manager")
  pure { m with isSealed := true, barriers := some (m.barriers.getD fun _ => none) }

/-- The records of the coordinator. -/
def records : BarrierRecords := m.barriers.getD fun _ => none

/-- `keyForEffect`: the barrier a request addresses, with the size of its CTA. -/
def keyForEffect (effect : BarrierEffect) : Except Error (BarrierKey × Nat) := do
  rejectIf (frozenWarpCount ≤ effect.warpID ∨ frozenWarpCount ≤ effect.addressWarp ∨
      frozenBarrierCount ≤ effect.id)
    (.text "core: barrier address exceeds frozen topology")
  rejectIf (effect.isGlobal = true)
    (.text ("core: global barrier is unsupported by the frozen single-Core USE_GBAR=0" ++
      " configuration"))
  rejectIf (effect.drainLSU = false ∨ (effect.releaseByCoordinator = false ∧ effect.wait = true))
    (.text "core: barrier drain/release metadata is invalid")
  let source ← (m.viewForWarp (Fin.ofNat frozenWarpCount effect.warpID)).mapError
    (.wrapped "core: barrier source membership")
  let foreign : Error := .text (s!"core: barrier AddressWarp {effect.addressWarp} is not in" ++
    s!" source CTA {source.id.toNat}")
  let address ← (m.viewForWarp (Fin.ofNat frozenWarpCount effect.addressWarp)).mapError
    fun _ => foreign
  rejectIf (address.id ≠ source.id) foreign
  pure ({
    ctaID := Fin.ofNat frozenWarpCount source.id.toNat
    addressWarp := Fin.ofNat frozenWarpCount effect.addressWarp
    id := Fin.ofNat frozenBarrierCount effect.id }, source.size.toNat % 2 ^ 8)

/-- `stage`: a request against the current record, which must be the expected one. -/
def stageBarrier (effect : BarrierEffect) (expected : Option BarrierSnapshot) :
    Except Error BarrierStage := do
  let (key, memberCount) ← m.keyForEffect effect
  rejectIf (∃ snapshot ∈ expected, snapshot ≠ (key, m.records.at key))
    (.text ("core: barrier effect is stale because canonical state changed since" ++ " phase view"))
  let change ← (m.records.at key).request effect memberCount
  pure {
    key, before := m.records key, after := change.after
    result := { key, block := change.block, releases := change.releases } }

/-- `stageFromView`. -/
def stageFromView (effect : BarrierEffect) (view : BarrierView) : Except Error BarrierStage := do
  rejectIf (frozenWarpCount ≤ effect.addressWarp ∨ frozenBarrierCount ≤ effect.id)
    (.text "core: barrier address exceeds frozen topology")
  m.stageBarrier effect (some (view.records (Fin.ofNat frozenWarpCount effect.addressWarp)
    (Fin.ofNat frozenBarrierCount effect.id)))

/-- `validateKey`. -/
def validateKey (key : RawBarrierKey) : Except Error BarrierKey := do
  rejectIf (frozenWarpCount ≤ key.addressWarp ∨ frozenBarrierCount ≤ key.id)
    (.text "core: barrier key exceeds frozen topology")
  let cta ← m.snapshot key.ctaID
  rejectIf (¬ ∃ member ∈ cta.members, member.warpID.val = key.addressWarp)
    (.text (s!"core: barrier AddressWarp {key.addressWarp} is not a member of CTA" ++
      s!" {key.ctaID}"))
  pure {
    ctaID := Fin.ofNat frozenWarpCount key.ctaID
    addressWarp := Fin.ofNat frozenWarpCount key.addressWarp
    id := Fin.ofNat frozenBarrierCount key.id }

/-- `StageEventCompletion`: one expected event is done. -/
def stageEventCompletion (raw : RawBarrierKey) : Except Error BarrierStage := do
  let key ← m.validateKey raw
  match m.records key with
  | none => .error (.text "core: barrier event count underflow")
  | some before => do
      rejectIf (before.events = 0) (.text "core: barrier event count underflow")
      let after := { before with events := before.events - 1 }
      if after.events = 0 ∧ after.arrivalsComplete = true then
        pure { key, before := some before, after := after.flip
               result := { key, releases := after.waiters } }
      else pure { key, before := some before, after, result := { key } }

/-- `Snapshot` of the coordinator. -/
def barrierSnapshot (raw : RawBarrierKey) : Except Error BarrierSnapshot := do
  let key ← m.validateKey raw
  pure (key, m.records.at key)

/-- `view`. -/
def barrierView (ctaID : Nat) : Except Error BarrierView := do
  let cta ← m.snapshot ctaID
  let isMember (warp : WarpID) : Bool := cta.members.any fun member => decide (member.warpID = warp)
  let key (warp : WarpID) (id : Fin frozenBarrierCount) : BarrierKey :=
    { ctaID := Fin.ofNat frozenWarpCount ctaID, addressWarp := warp, id }
  pure {
    ctaID
    phases := fun warp id => isMember warp && (m.records.at (key warp id)).phase
    records := fun warp id =>
      if isMember warp then (key warp id, m.records.at (key warp id)) else ({}, {}) }

/-- The coordinator after a commit. -/
def withRecords (records : BarrierRecords) : CTAManager := { m with barriers := some records }

/-- Drop a CTA, its reverse entries and its records. -/
def remove (ctaID : CTASlot) (cta : CTAState) : CTAManager :=
  { m with
    ctas := Function.update m.ctas ctaID none
    byWarp := cta.members.foldl (fun table member => Function.update table member.warpID none)
      m.byWarp
    barriers := m.barriers.map fun records key => if key.ctaID = ctaID then none else records key
    epoch := m.epoch + 1 }

/-- `commitDynamicReclaim`, with the members whose slots the core frees. -/
def commitDynamicReclaim (ctaID : Nat) : Except Error (CTAManager × List WarpMembership) := do
  rejectIf (m.dynamic = false ∨ m.isSealed = false ∨ m.barriers.isNone = true)
    (.text "core: CTA manager is not attached for dynamic reclaim")
  let cta ← m.snapshot ctaID
  let slot : CTASlot := Fin.ofNat frozenWarpCount ctaID
  rejectIf (m.records.pendingCTA slot = true)
    (.text s!"core: CTA {ctaID} retains pending barrier state")
  rejectIf (∃ member ∈ cta.members,
      m.byWarp member.warpID ≠ some { ctaID := slot, rank := member.rank })
    (.text s!"core: CTA {ctaID} membership changed before reclaim")
  pure (m.remove slot cta, cta.members)

end CTAManager

end VortexSim
