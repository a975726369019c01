import VortexSim.Core.Barrier
import VortexSim.Core.LocalMemory

/-!
# Residency without a functional core

`ResidencyMemory` keeps a manager for a coordinator that places CTAs itself: each one comes with
its offset in local memory, and its warps may be bound one by one and detached again.  A local
lease holds on to the allocation of a warp, so that a request that has its address already still
reaches the bytes of its own CTA after the warp has been given to another one.
-/

namespace VortexSim

open Checked
open Function (update)

/-! ## Residency memory -/

/-- The members of a CTA by rank, and the ranks that have been bound so far. -/
structure RankTables where
  templates : CTASlot → List WarpMembership := fun _ => []
  boundRanks : CTASlot → WarpMask := fun _ => 0#8

/-- `ResidencyMemory`. -/
structure ResidencyMemory extends RankTables where
  manager : CTAManager

/-- `NewResidencyMemory`. -/
def ResidencyMemory.new : ResidencyMemory where
  manager := { CTAManager.new with barriers := some fun _ => none }

/-- The CTAs of a manager. -/
def CTAManager.residents (m : CTAManager) : List CTAState :=
  (List.finRange frozenWarpCount).filterMap m.ctas

namespace ResidencyMemory

variable (r : ResidencyMemory)

/-- The internal `admit`: the caller chooses the offset.  An incremental admission leaves the
physical warps to `bindWarp`. -/
def admitAt (config : CTAConfig) (offset : Word) (incremental : Bool) :
    Except Error (ResidencyMemory × CTAState) := do
  let candidate ← validateCTAConfig config
  let start := offset.toNat
  let size := candidate.config.localMemorySize.toNat
  rejectIf (frozenWarpCount ≤ config.id.toNat ∨ start % 64 ≠ 0 ∨ frozenLocalMemSize < start + size)
    (.text "invalid physical CTA placement")
  let members := if incremental then [] else candidate.members
  let slot : CTASlot := Fin.ofNat frozenWarpCount config.id.toNat
  rejectIf (r.manager.ctas slot ≠ none) (.resourcesUnavailable "")
  each (fun _ member => rejectIf (r.manager.byWarp member.warpID ≠ none)
    (.resourcesUnavailable "")) 0 members
  each (fun _ old => rejectIf (size ≠ 0 ∧ old.allocation.size ≠ 0 ∧
      start < old.backingOffset + old.allocation.size ∧ old.backingOffset < start + size)
    (.resourcesUnavailable "")) 0 r.manager.residents
  let cta := { candidate with
    members
    allocation := { address := frozenLocalMemBase + offset, size }
    backingOffset := start }
  pure ({
    manager := { r.manager.install cta with epoch := r.manager.epoch + 1 }
    templates := update r.templates slot candidate.members
    boundRanks := if incremental then r.boundRanks
      else update r.boundRanks slot (BitVec.ofNat 8 (2 ^ candidate.members.length - 1)) },
    cta)

/-- `Admit`. -/
def admitCTA (config : CTAConfig) (offset : Word) : Except Error (ResidencyMemory × CTAState) :=
  r.admitAt config offset false

/-- `Reserve`. -/
def reserve (config : CTAConfig) (offset : Word) : Except Error (ResidencyMemory × CTAState) :=
  r.admitAt config offset true

/-- `Release`. -/
def release (id : Nat) : Except Error ResidencyMemory := do
  let slot : CTASlot := Fin.ofNat frozenWarpCount id
  rejectIf (id < frozenWarpCount ∧ r.manager.records.pendingCTA slot = true)
    (.text "CTA retains barrier state")
  let cta ← (r.manager.snapshot id).mapError fun _ => .text "CTA slot is not resident"
  pure {
    manager := r.manager.remove slot cta
    templates := update r.templates slot []
    boundRanks := update r.boundRanks slot 0#8 }

/-- `BindWarp`: bind a rank of a resident CTA to a physical warp. -/
def bindWarp (id rank wid : Nat) : Except Error (ResidencyMemory × CTAState) := do
  let slot : CTASlot := Fin.ofNat frozenWarpCount id
  let warp : WarpID := Fin.ofNat frozenWarpCount wid
  let cta ← (r.manager.snapshot id).mapError fun _ => .resourcesUnavailable ""
  rejectIf (frozenWarpCount ≤ wid ∨ (r.templates slot).length ≤ rank ∨
      r.manager.byWarp warp ≠ none ∨ (r.boundRanks slot).getLsbD rank = true)
    (.resourcesUnavailable "")
  rejectIf (∃ member ∈ cta.members, member.rank = rank) (.text "duplicate logical Warp rank")
  let template ← ((r.templates slot)[rank]?).elim (.error (.resourcesUnavailable "")) pure
  let bound := { cta with members := cta.members ++ [{ template with warpID := warp }] }
  pure ({
    manager := { r.manager with
      ctas := update r.manager.ctas slot (some bound)
      byWarp := update r.manager.byWarp warp (some { ctaID := slot, rank })
      epoch := r.manager.epoch + 1 }
    templates := r.templates
    boundRanks := update r.boundRanks slot (r.boundRanks slot ||| (1#8 <<< rank)) },
    bound)

/-- `DetachWarp`: the CTA keeps its interval.  The source dereferences the CTA of a bound warp,
which is resident. -/
def detachWarp (wid : Nat) : Except Error (ResidencyMemory × CTAState) := do
  let warp : WarpID := Fin.ofNat frozenWarpCount wid
  rejectIf (frozenWarpCount ≤ wid) (.text "Warp is not bound")
  let key ← (r.manager.byWarp warp).elim (.error (.text "Warp is not bound")) pure
  rejectIf (r.manager.records.pendingCTA key.ctaID = true) (.text "Warp retains barrier ownership")
  let cta ← (r.manager.ctas key.ctaID).elim (.error (.text "inconsistent Warp binding")) pure
  rejectIf (¬ ∃ member ∈ cta.members, member.warpID = warp) (.text "inconsistent Warp binding")
  let left := { cta with
    members := cta.members.eraseP fun member => decide (member.warpID = warp) }
  pure ({ r with
    manager := { r.manager with
      ctas := update r.manager.ctas key.ctaID (some left)
      byWarp := update r.manager.byWarp warp none
      epoch := r.manager.epoch + 1 } },
    left)

end ResidencyMemory

/-! ## Local leases -/

/-- `localLease`: an allocation of a manager, without bytes of its own. -/
structure LocalLease where
  manager : ManagerID
  allocation : LocalMemoryAllocation
  offset : Nat
  deriving Repr, DecidableEq

/-- The CTA a warp belongs to. -/
def CTAManager.residentOf (m : CTAManager) (warp : WarpID) : Option CTAState :=
  (m.byWarp warp).bind fun key => m.ctas key.ctaID

/-- `PinLocal`, of the manager with the given identity. -/
def CTAManager.pinLocal (m : CTAManager) (manager : ManagerID) (wid : Nat) :
    Except Error LocalLease := do
  rejectIf (frozenWarpCount ≤ wid) (.text "cannot pin unbound local route")
  let cta ← (m.residentOf (Fin.ofNat frozenWarpCount wid)).elim
    (.error (.text "cannot pin unbound local route")) pure
  pure { manager, allocation := cta.allocation, offset := cta.backingOffset }

namespace LocalLease

variable {σ : Type} (lease : LocalLease)

/-- `position`: the offset of an access inside the allocation. -/
def position (address : Word) (size : Nat) : Except Error Nat := do
  let start := address.toNat
  let base := lease.allocation.address.toNat
  let limit := base + lease.allocation.size
  rejectIf (start < base ∨ limit < start + size ∨ (size ≠ 0 ∧ start = limit)) (.localMemoryRange "")
  pure (lease.offset + (start - base))

/-- `Read`. -/
def read (s : LocalMemories × σ) (address : Word) (length : Nat) : Except Error (List Byte) := do
  let position ← lease.position address length
  pure ((s.1 lease.manager).bytesAt position length)

/-- The check of one entry of a batch, with the positions found so far. -/
def checkEntry (entries : List (Word × List Byte)) (index : Nat) (positions : List Nat)
    (entry : Word × List Byte) : Except Error (List Nat) := do
  let position ← lease.position entry.1 entry.2.length
  each (fun _ other => rejectIf (overlaps entry other)
    (.text "overlapping local lease writes")) 0 (entries.take index)
  pure (positions ++ [position])

/-- `WriteBatch`: all of the writes or none. -/
def writeBatch (s : LocalMemories × σ) (addresses : List Word) (data : List (List Byte)) :
    (LocalMemories × σ) × Option Error :=
  if addresses.length ≠ data.length then (s, some (.text "invalid local lease batch"))
  else
    let entries := addresses.zip data
    match foldEach (lease.checkEntry entries) 0 [] entries with
    | .error err => (s, some err)
    | .ok positions =>
      ((update s.1 lease.manager ((positions.zip entries).foldl
        (fun memory entry => memory.copy (BitVec.ofNat 32 entry.1) entry.2.2)
        (s.1 lease.manager)), s.2), none)

/-- `Write`. -/
def write (s : LocalMemories × σ) (address : Word) (data : List Byte) :
    (LocalMemories × σ) × Option Error :=
  lease.writeBatch s [address] [data]

/-- The service of a lease. -/
def service : DataService (LocalMemories × σ) where
  read := lease.read
  write := lease.write
  writeBatch := some lease.writeBatch

end LocalLease

end VortexSim
