import VortexSim.Core.Placement
import VortexSim.Core.Residency

/-!
# Local accesses stay in an interval

A data service is confined to a span of one local memory when its reads depend on no other
local byte and its writes change none.  The route of a warp is confined to the interval of the
CTA the warp belongs to, and a lease to the interval it was pinned for.
-/

namespace VortexSim

open Checked Spans Overwrite

variable {σ : Type}

/-- At most the span of one local memory has changed. -/
def Touches (manager : ManagerID) (span : Span) (before after : LocalMemories) : Prop :=
  SameOff span (after manager).data (before manager).data ∧
    ∀ other, other ≠ manager → after other = before other

/-- The local accesses of the service stay in the span. -/
structure Confined (service : DataService (LocalMemories × σ)) (manager : ManagerID)
    (span : Span) : Prop where
  reads : ∀ s memories, SameOn span (memories manager).data (s.1 manager).data →
    ∀ address length, service.read (memories, s.2) address length = service.read s address length
  writes : ∀ s address bytes, Touches manager span s.1 (service.write s address bytes).1.1
  batches : ∀ writeBatch ∈ service.writeBatch, ∀ s addresses sources,
    Touches manager span s.1 (writeBatch s addresses sources).1.1

theorem Touches.refl (manager : ManagerID) (span : Span) (memories : LocalMemories) :
    Touches manager span memories memories := ⟨.refl _ _, fun _ _ => rfl⟩

theorem touches_update (h : SameOff span memory.data (memories manager).data) :
    Touches manager span memories (Function.update memories manager memory) := by
  refine ⟨?_, fun other hother => Function.update_of_ne hother _ _⟩
  rw [Function.update_self]
  exact h

theorem Confined.writeStores (h : Confined service manager span) (stores : List StoreTransaction)
    (s : LocalMemories × σ) : Touches manager span s.1 (service.writeStores stores s).1.1 := by
  unfold DataService.writeStores
  split
  · exact h.writes _ _ _
  · split
    · exact .refl _ _ _
    · rename_i writeBatch hbatch
      exact h.batches writeBatch hbatch _ _ _

/-- A service that does not know of local memory leaves it alone. -/
theorem DataService.lift_writeStores (memory : DataService σ) (stores : List StoreTransaction)
    (s : LocalMemories × σ) : (memory.lift.writeStores stores s).1.1 = s.1 := by
  unfold DataService.writeStores
  split
  · rfl
  · split
    · rfl
    · rename_i writeBatch hbatch
      obtain ⟨writeBatch', -, rfl⟩ := Option.map_eq_some_iff.mp hbatch
      rfl

/-! ## Copies -/

/-- An entry at an offset stays in the span. -/
def Located (span : Span) (offset : Nat) (entry : Word × List Byte) : Prop :=
  span.1 ≤ offset ∧ offset + entry.2.length ≤ span.2

theorem Memory.copy_sameOff (memory : Memory) (hspan : span.2 ≤ frozenLocalMemSize)
    (h : Located span offset entry) :
    SameOff span (memory.copy (BitVec.ofNat 32 offset) entry.2).data memory.data := by
  have hoffset : (BitVec.ofNat 32 offset).toNat = offset := by
    have hsmall : offset ≤ 2 ^ 14 :=
      Nat.le_trans (Nat.le_trans (Nat.le_add_right _ _) h.2) hspan
    rw [BitVec.toNat_ofNat, Nat.mod_eq_of_lt (by omega)]
  unfold Memory.copy
  split
  · rename_i hfits
    rw [hoffset] at hfits
    dsimp only
    rw [hoffset]
    exact sameOff_overwrite hfits h.1 h.2
  · exact .refl _ _

theorem Memory.copies_sameOff (memory : Memory) (hspan : span.2 ≤ frozenLocalMemSize)
    (h : List.Forall₂ (Located span) offsets entries) : SameOff span ((offsets.zip entries).foldl
      (fun memory entry => memory.copy (BitVec.ofNat 32 entry.1) entry.2.2) memory).data
      memory.data := by
  induction h generalizing memory with
  | nil => exact .refl _ _
  | cons hlocated _ ih => exact (ih _).trans (memory.copy_sameOff hspan hlocated)

/-! ## Offsets -/

/-- An access inside an allocation lies in the interval behind it. -/
theorem located_of_range {allocation : LocalMemoryAllocation} {address : Word}
    (h : ¬ (address.toNat < allocation.address.toNat ∨
      allocation.address.toNat + allocation.size < address.toNat + length ∨
      (length ≠ 0 ∧ address.toNat = allocation.address.toNat + allocation.size))) :
    offset ≤ offset + (address.toNat - allocation.address.toNat) ∧
      offset + (address.toNat - allocation.address.toNat) + length ≤ offset + allocation.size := by
  omega

theorem CTAManager.localRange_located {m : CTAManager}
    (h : m.localRange warp address length = .ok offset) :
    ∃ cta, m.residentOf warp = some cta ∧ cta.interval.1 ≤ offset ∧
      offset + length ≤ cta.interval.2 := by
  unfold CTAManager.localRange at h
  split at h
  · cases h
  · rename_i cta hcta
    simp only [ok_iff] at h
    obtain ⟨hrange, rfl⟩ := h
    exact ⟨cta, hcta, located_of_range hrange⟩

theorem LocalLease.position_located {lease : LocalLease} {offset : Nat}
    (h : lease.position address length = .ok offset) :
    lease.offset ≤ offset ∧ offset + length ≤ lease.offset + lease.allocation.size := by
  unfold LocalLease.position at h
  simp only [ok_iff] at h
  obtain ⟨hrange, rfl⟩ := h
  exact located_of_range hrange

/-! ## The route of a warp -/

namespace CTAManager

/-- The interval of the CTA of a warp, or no byte at all. -/
def spanOf (m : CTAManager) (warp : WarpID) : Span :=
  ((m.residentOf warp).map CTAState.interval).getD (0, 0)

theorem Placed.spanOf {m : CTAManager} (h : m.Placed) (warp : WarpID) :
    (m.spanOf warp).2 ≤ frozenLocalMemSize := by
  unfold CTAManager.spanOf residentOf
  cases m.byWarp warp with
  | none => exact Nat.zero_le _
  | some key =>
    rw [Option.bind_some]
    cases hcta : m.ctas key.ctaID with
    | none => exact Nat.zero_le _
    | some cta => exact h.inside key.ctaID cta hcta

theorem localRange_spanOf {m : CTAManager} (h : m.localRange warp address length = .ok offset) :
    (m.spanOf warp).1 ≤ offset ∧ offset + length ≤ (m.spanOf warp).2 := by
  obtain ⟨cta, hcta, hlocated⟩ := localRange_located h
  unfold spanOf
  rw [hcta]
  exact hlocated

theorem writeLocalWithExternal_sameOff {m : CTAManager}
    (hspan : (m.spanOf warp).2 ≤ frozenLocalMemSize) (entries : List (Word × List Byte)) (s : σ)
    (external : σ → σ × Option Error) : SameOff (m.spanOf warp)
      (m.writeLocalWithExternal memory warp entries s external).1.1.data memory.data := by
  unfold writeLocalWithExternal
  split
  · exact .refl _ _
  · rename_i offsets hoffsets
    have hfound := foldEach_finds id (Located (m.spanOf warp)) ?_ hoffsets
    · obtain ⟨found, rfl, hlocated⟩ := hfound
      split
      · exact .refl _ _
      · exact memory.copies_sameOff hspan hlocated
    · intro i offsets entry offsets' hstep
      unfold checkLocal at hstep
      simp only [ok_iff] at hstep
      obtain ⟨offset, hoffset, -, rfl⟩ := hstep
      exact ⟨offset, rfl, localRange_spanOf hoffset⟩

end CTAManager

namespace CTAMemory

variable {route : CTAMemory σ}

theorem writeEntries_touches
    (hspan : ((managers route.manager).spanOf route.warpID).2 ≤ frozenLocalMemSize)
    (s : LocalMemories × σ) (entries : List (Word × List Byte)) (external : σ → σ × Option Error) :
    Touches route.manager ((managers route.manager).spanOf route.warpID) s.1
      (route.writeEntries managers s entries external).1.1 :=
  touches_update (CTAManager.writeLocalWithExternal_sameOff hspan entries s.2 external)

/-- A warp reaches the local bytes of its CTA only. -/
theorem service_confined
    (hspan : ((managers route.manager).spanOf route.warpID).2 ≤ frozenLocalMemSize) :
    Confined (route.service managers) route.manager
      ((managers route.manager).spanOf route.warpID) := by
  refine ⟨fun s memories hsame address length => ?_, fun s address bytes => ?_, ?_⟩
  · change route.read managers (memories, s.2) address length = route.read managers s address length
    unfold read
    cases classifyMemoryRange address length with
    | error err => rfl
    | ok kind =>
      cases kind with
      | globalMemory => rfl
      | localMemory =>
        unfold CTAManager.readLocal
        cases hrange : (managers route.manager).localRange route.warpID address length with
        | error err => rfl
        | ok offset =>
          obtain ⟨hlow, hhigh⟩ := CTAManager.localRange_spanOf hrange
          exact congrArg Except.ok (hsame.segment hlow hhigh)
  · change Touches _ _ s.1 (route.write managers s address bytes).1.1
    unfold write
    split
    · exact .refl _ _ _
    · exact .refl _ _ _
    · exact writeEntries_touches hspan s _ _
  · intro writeBatch hbatch s addresses sources
    cases hbatch
    unfold CTAMemory.writeBatch
    split
    · exact .refl _ _ _
    · split
      · exact .refl _ _ _
      · exact writeEntries_touches hspan s _ _
      · split
        · exact .refl _ _ _
        · split
          · exact .refl _ _ _
          · exact writeEntries_touches hspan s _ _

end CTAMemory

/-! ## Leases -/

namespace LocalLease

variable {lease : LocalLease}

/-- The bytes behind the allocation of a lease. -/
def span (lease : LocalLease) : Span := (lease.offset, lease.offset + lease.allocation.size)

theorem writeBatch_touches (hspan : lease.span.2 ≤ frozenLocalMemSize) (s : LocalMemories × σ)
    (addresses : List Word) (data : List (List Byte)) :
    Touches lease.manager lease.span s.1 (lease.writeBatch s addresses data).1.1 := by
  unfold writeBatch
  split
  · exact .refl _ _ _
  · dsimp only
    split
    · exact .refl _ _ _
    · rename_i positions hpositions
      have hfound := foldEach_finds id (Located lease.span) ?_ hpositions
      · obtain ⟨found, rfl, hlocated⟩ := hfound
        exact touches_update ((s.1 lease.manager).copies_sameOff hspan hlocated)
      · intro i positions entry positions' hstep
        unfold checkEntry at hstep
        simp only [ok_iff] at hstep
        obtain ⟨position, hposition, -, rfl⟩ := hstep
        exact ⟨position, rfl, position_located hposition⟩

/-- A lease reaches the local bytes of its allocation only. -/
theorem service_confined (hspan : lease.span.2 ≤ frozenLocalMemSize) :
    Confined (lease.service (σ := σ)) lease.manager lease.span := by
  refine ⟨fun s memories hsame address length => ?_, fun s address bytes => ?_, ?_⟩
  · change lease.read (memories, s.2) address length = lease.read s address length
    unfold read
    cases hposition : lease.position address length with
    | error err => rfl
    | ok position =>
      obtain ⟨hlow, hhigh⟩ := position_located hposition
      exact congrArg Except.ok (hsame.segment hlow hhigh)
  · exact writeBatch_touches hspan s [address] [bytes]
  · intro writeBatch hbatch s addresses sources
    cases hbatch
    exact writeBatch_touches hspan s addresses sources

end LocalLease

end VortexSim
