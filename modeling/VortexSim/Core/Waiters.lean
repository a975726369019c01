import VortexSim.Core.Residents
import VortexSim.Core.Step

/-!
# Waiters and waiting slots

The waiters of a barrier record and the slots that wait on its key are two copies of one
fact, kept by the coordinator and by the scheduler.  A request changes the waiters in one of
three ways: not at all, by its source, or by releasing all of them.  In each case the slots
are changed to match.
-/

namespace VortexSim

open Checked

variable {σ : Type}

/-! ## Masks of warps -/

namespace WarpMask

theorem active_or (a b : WarpMask) (warp : Nat) :
    active (a ||| b) warp = (active a warp || active b warp) := by
  unfold active
  rw [BitVec.getLsbD_or, Bool.and_or_distrib_left]

theorem active_bit (source warp : WarpID) :
    active (1#8 <<< source.val) warp.val = decide (warp = source) := by
  revert source warp
  decide

@[simp] theorem active_zero (warp : Nat) : active 0#8 warp = false := by
  simp [active]

theorem Valid.or (ha : a.Valid) (hb : b.Valid) : WarpMask.Valid (a ||| b) := by
  unfold WarpMask.Valid at *
  rw [BitVec.and_comm, BitVec.and_or_distrib_left, BitVec.and_comm, ha, BitVec.and_comm, hb]
  rfl

theorem valid_zero : WarpMask.Valid 0#8 := by decide

theorem valid_bit (source : WarpID) : WarpMask.Valid (1#8 <<< source.val) := by
  revert source
  decide

end WarpMask

/-! ## Requests -/

/-- How a request moves the waiters of a record.  `bit` is the warp that makes it. -/
inductive BarrierMove (record : BarrierRecord) (bit : WarpMask) : BarrierChange → Prop
  | stays {after : BarrierRecord} (waiters : after.waiters = record.waiters) :
      BarrierMove record bit { after }
  | joins {after : BarrierRecord} (waiters : after.waiters = record.waiters ||| bit) :
      BarrierMove record bit { after, block := true }
  | ends {after : BarrierRecord} {releases : WarpMask} (waiters : after.waiters = 0#8)
      (released : releases = record.waiters ∨ releases = record.waiters ||| bit)
      (phase : after.phase = !record.phase) :
      BarrierMove record bit { after, releases }

section

variable {record : BarrierRecord}

namespace BarrierRecord

theorem expectEvents_move (h : record.expectEvents effect = .ok change) :
    BarrierMove record bit change := by
  unfold expectEvents at h
  simp only [ok_iff] at h
  obtain ⟨-, -, rfl⟩ := h
  exact .stays rfl

theorem wait_move (h : record.wait effect = .ok change) :
    BarrierMove record (1#8 <<< effect.warpID) change := by
  unfold wait at h
  simp only [ok_iff] at h
  obtain ⟨-, h⟩ := h
  split at h
  · simp only [ok_iff] at h
    obtain ⟨-, rfl⟩ := h
    exact .joins rfl
  · cases h
    exact .stays rfl

/-- An arrival that does not end the phase. -/
theorem arrived_move (record after : BarrierRecord) (effect : BarrierEffect)
    (hwaiters : after.waiters = (record.arrived effect).waiters) :
    BarrierMove record (1#8 <<< effect.warpID) { after, block := effect.sync } := by
  unfold arrived at hwaiters
  cases hsync : effect.sync with
  | true =>
    rw [hsync] at hwaiters
    exact .joins hwaiters
  | false =>
    rw [hsync] at hwaiters
    exact .stays hwaiters

theorem arrive_move (h : record.arrive effect memberCount = .ok change) :
    BarrierMove record (1#8 <<< effect.warpID) change := by
  unfold arrive at h
  simp only [ok_iff] at h
  obtain ⟨-, -, -, -, -, -, h⟩ := h
  split at h
  · split at h
    · cases h
      refine .ends rfl ?_ rfl
      unfold arrived
      cases effect.sync with
      | true => exact .inr rfl
      | false => exact .inl rfl
    · cases h
      exact record.arrived_move _ effect rfl
  · cases h
    exact record.arrived_move _ effect rfl

theorem request_move (h : record.request effect memberCount = .ok change) :
    BarrierMove record (1#8 <<< effect.warpID) change := by
  unfold request at h
  split at h
  · exact expectEvents_move h
  · split at h
    · exact wait_move h
    · exact arrive_move h

end BarrierRecord

end

/-! ## Stages -/

/-- A stage of the coordinator: the change of one record, not committed yet. -/
structure BarrierStage.Moves (stage : BarrierStage) (records : BarrierRecords) (bit : WarpMask) :
    Prop where
  key : stage.result.key = stage.key
  fresh : stage.committed = false
  before : stage.before = records stage.key
  move : BarrierMove (records.at stage.key) bit
    { after := stage.after, block := stage.result.block, releases := stage.result.releases }

section

variable {m : CTAManager}

namespace CTAManager

theorem Consistent.keyForEffect (hm : m.Consistent)
    (h : m.keyForEffect effect = .ok (key, size)) : effect.warpID < frozenWarpCount ∧
      m.Member key.ctaID (Fin.ofNat frozenWarpCount effect.warpID) ∧
      m.Member key.ctaID key.addressWarp := by
  unfold CTAManager.keyForEffect at h
  simp only [ok_iff, Prod.mk.injEq, mapError_eq_ok, not_or, Nat.not_le, ne_eq, not_not] at h
  obtain ⟨⟨hwarp, -⟩, -, -, source, hsource, address, haddress, hsame, rfl, -⟩ := h
  obtain ⟨key, hkey, hid⟩ := hm.viewForWarp_eq_ok hsource
  obtain ⟨key', hkey', hid'⟩ := hm.viewForWarp_eq_ok haddress
  have hslot : Fin.ofNat frozenWarpCount source.id.toNat = key.ctaID := by
    rw [hid, ofNat_slot]
  have hslot' : key'.ctaID = key.ctaID := by
    rw [← ofNat_slot key'.ctaID, ← hid', hsame, hslot]
  rw [hslot]
  refine ⟨hwarp, ⟨key.rank, hkey⟩, key'.rank, ?_⟩
  rw [← hslot']
  exact hkey'

theorem stageBarrier_moves (h : m.stageBarrier effect expected = .ok stage) :
    (∃ size, m.keyForEffect effect = .ok (stage.key, size)) ∧
      stage.Moves m.records (1#8 <<< effect.warpID) := by
  unfold stageBarrier at h
  simp only [ok_iff] at h
  obtain ⟨⟨key, size⟩, hkey, -, change, hchange, rfl⟩ := h
  exact ⟨⟨size, hkey⟩, rfl, rfl, rfl, BarrierRecord.request_move hchange⟩

theorem stageFromView_eq_ok (h : m.stageFromView effect view = .ok stage) :
    ∃ expected, m.stageBarrier effect expected = .ok stage := by
  unfold stageFromView at h
  simp only [ok_iff] at h
  exact ⟨_, h.2⟩

theorem validateKey_eq_ok (hm : m.Consistent) :
    m.validateKey raw = .ok key ↔ raw = key.raw ∧ m.Member key.ctaID key.addressWarp := by
  unfold validateKey
  simp only [ok_iff, not_or, Nat.not_le, not_not, snapshot_eq_ok]
  constructor
  · rintro ⟨⟨hwarp, hid⟩, cta, ⟨slot, hslot, hcta⟩, ⟨member, hmember, haddress⟩, rfl⟩
    have hctaID : Fin.ofNat frozenWarpCount raw.ctaID = slot := by
      rw [← hslot]
      exact Fin.ofNat_val_eq_self slot
    have hlt : raw.ctaID < frozenWarpCount := hslot ▸ slot.isLt
    refine ⟨?_, ?_⟩
    · simp only [BarrierKey.raw, Fin.val_ofNat, Nat.mod_eq_of_lt hwarp, Nat.mod_eq_of_lt hid,
        Nat.mod_eq_of_lt hlt]
    · refine hm.member_iff.mpr ⟨cta, by rw [hctaID, hcta], member, hmember, ?_⟩
      apply Fin.ext
      rw [haddress, Fin.val_ofNat, Nat.mod_eq_of_lt hwarp]
  · rintro ⟨rfl, hmember⟩
    obtain ⟨cta, hcta, member, hin, haddress⟩ := hm.member_iff.mp hmember
    refine ⟨⟨key.addressWarp.isLt, key.id.isLt⟩, cta, ⟨key.ctaID, rfl, hcta⟩,
      ⟨member, hin, congrArg Fin.val haddress⟩, ?_⟩
    simp only [BarrierKey.raw, Fin.ofNat_val_eq_self]

theorem stageEventCompletion_moves (h : m.stageEventCompletion raw = .ok stage) :
    stage.Moves m.records 0#8 := by
  unfold stageEventCompletion at h
  simp only [bind_eq_ok] at h
  obtain ⟨key, -, h⟩ := h
  split at h
  · cases h
  · rename_i before hbefore
    have hat : m.records.at key = before := by
      unfold BarrierRecords.at
      rw [hbefore]
      rfl
    simp only [ok_iff] at h
    obtain ⟨-, h⟩ := h
    split at h
    · cases h
      refine ⟨rfl, rfl, hbefore.symm, ?_⟩
      rw [hat]
      exact .ends rfl (.inl rfl) rfl
    · cases h
      refine ⟨rfl, rfl, hbefore.symm, ?_⟩
      rw [hat]
      exact .stays rfl

end CTAManager

end

/-! ## The two copies -/

/-- The waiters of the records are the slots that wait. -/
def Recorded (records : BarrierRecords) (slots : WarpID → Slot σ) : Prop :=
  ∀ (warp : WarpID) key, (records.at key).waiters.active warp.val = true ↔ (slots warp).WaitsOn key

/-- The mask of the warp that makes a request, if one does. -/
def sourceMask (source : Option WarpID) : WarpMask :=
  match source with
  | none => 0#8
  | some warp => 1#8 <<< warp.val

theorem sourceMask_active (source : Option WarpID) (warp : WarpID) :
    (sourceMask source).active warp.val = decide (some warp = source) := by
  cases source with
  | none => simp [sourceMask]
  | some other =>
    rw [sourceMask, WarpMask.active_bit]
    simp

theorem sourceMask_valid (source : Option WarpID) : (sourceMask source).Valid := by
  cases source with
  | none => exact WarpMask.valid_zero
  | some warp => exact WarpMask.valid_bit warp

theorem Slot.WaitsOn.unique {slot : Slot σ} (h : slot.WaitsOn key) (h' : slot.WaitsOn key') :
    key = key' :=
  h.2.2.2.symm.trans h'.2.2.2

theorem Slot.become_waits (slot : Slot σ) (lifecycle : SlotLifecycle) (reason : BlockReason)
    (key : BarrierKey) : ¬ (slot.become lifecycle reason).WaitsOn key :=
  fun h => Bool.false_ne_true h.2.2.1

theorem BarrierRecords.at_update (records : BarrierRecords) (key other : BarrierKey)
    (record : BarrierRecord) :
    BarrierRecords.at (Function.update records key (some record)) other =
      if other = key then record else records.at other := by
  unfold BarrierRecords.at
  rw [Function.update_apply]
  split <;> rfl

section

variable {records : BarrierRecords} {slots : WarpID → Slot σ} {stage : BarrierStage}
  {source : Option WarpID}

section

variable {record : BarrierRecord}

/-- What is released was recorded, or is the source. -/
theorem BarrierMove.released (h : BarrierMove record (sourceMask source) change)
    (hr : change.releases.active warp.val = true) (hs : some warp ≠ source) :
    record.waiters.active warp.val = true := by
  cases h with
  | stays _ | joins _ =>
    rw [WarpMask.active_zero] at hr
    cases hr
  | ends _ released _ =>
    rcases released with rfl | rfl
    · exact hr
    · rw [WarpMask.active_or, sourceMask_active, decide_eq_false hs, Bool.or_false] at hr
      exact hr

theorem BarrierMove.valid (h : BarrierMove record (sourceMask source) change)
    (hv : record.waiters.Valid) : change.releases.Valid ∧ change.after.waiters.Valid := by
  have hboth := hv.or (sourceMask_valid source)
  cases h with
  | stays hw => exact ⟨WarpMask.valid_zero, hw ▸ hv⟩
  | joins hw => exact ⟨WarpMask.valid_zero, hw ▸ hboth⟩
  | ends hw released _ =>
    refine ⟨?_, hw ▸ WarpMask.valid_zero⟩
    rcases released with rfl | rfl
    · exact hv
    · exact hboth

/-- Another warp waits after the change exactly when it did and was not released. -/
theorem BarrierMove.waiters (h : BarrierMove record (sourceMask source) change)
    (hs : some warp ≠ source) : change.after.waiters.active warp.val = true ↔
      record.waiters.active warp.val = true ∧ change.releases.active warp.val = false := by
  cases h with
  | stays hw => rw [hw, WarpMask.active_zero, eq_self, and_true]
  | joins hw =>
    rw [hw, WarpMask.active_or, sourceMask_active, decide_eq_false hs, Bool.or_false,
      WarpMask.active_zero, eq_self, and_true]
  | ends hw released _ =>
    rw [hw, WarpMask.active_zero]
    rcases released with rfl | rfl
    · simp
    · rw [WarpMask.active_or, sourceMask_active, decide_eq_false hs, Bool.or_false]
      simp

/-- A source that did not wait does so after the change exactly when it is blocked. -/
theorem BarrierMove.source_waiter (h : BarrierMove record (sourceMask (some warp)) change)
    (hs : record.waiters.active warp.val = false) :
    change.after.waiters.active warp.val = change.block := by
  cases h with
  | stays hw => rw [hw, hs]
  | joins hw =>
    rw [hw, WarpMask.active_or, sourceMask_active, decide_eq_true rfl, Bool.or_true]
  | ends hw _ _ => rw [hw, WarpMask.active_zero]

end

/-- No release of a staged request is refused. -/
theorem BarrierStage.Moves.releases_accepted {w : World σ} (h : stage.Moves records
    (sourceMask source)) (hrec : Recorded records w.core.slots)
    (hv : ∀ key, (records.at key).waiters.Valid) :
    w.validateBarrierReleases source stage.result = .ok () := by
  unfold World.validateBarrierReleases
  simp only [ok_iff, each_rejectIf_eq_ok, not_not, not_and]
  refine ⟨(h.move.valid (hv _)).1, ?_⟩
  intro warp _ hr hs
  rw [h.key]
  exact (hrec warp stage.key).mp (h.move.released hr hs)

/-- Committing a stage and moving the slots as its result says keeps the copies equal. -/
theorem Recorded.commit {slots' : WarpID → Slot σ} (hrec : Recorded records slots)
    (h : stage.Moves records (sourceMask source))
    (hsource : ∀ warp, source = some warp → ∀ key, ¬ (slots warp).WaitsOn key)
    (hothers : ∀ warp, some warp ≠ source →
      slots' warp = World.releasedSlot source stage.result.releases warp (slots warp))
    (hblocked : ∀ warp, source = some warp → ∀ key,
      (slots' warp).WaitsOn key ↔ stage.result.block = true ∧ key = stage.key) :
    Recorded (Function.update records stage.key (some stage.after)) slots' := by
  intro warp key
  rw [BarrierRecords.at_update]
  by_cases hs : some warp = source
  · -- the source was not recorded anywhere
    have hnone : ∀ key, (records.at key).waiters.active warp.val = false := fun key =>
      Bool.eq_false_iff.mpr fun hw => hsource warp hs.symm key ((hrec warp key).mp hw)
    rw [hblocked warp hs.symm]
    split
    · rename_i hkey
      subst hs
      have hwaiter := h.move.source_waiter (hnone _)
      rw [hwaiter]
      exact ⟨fun hb => ⟨hb, hkey⟩, And.left⟩
    · rename_i hkey
      rw [hnone key]
      exact ⟨fun hf => absurd hf Bool.false_ne_true, fun hb => absurd hb.2 hkey⟩
  · have hwaiters := h.move.waiters hs
    by_cases hr : stage.result.releases.active warp.val = true
    · -- a released slot waited on this barrier and waits no longer
      have hwaited := (hrec warp stage.key).mp (h.move.released hr hs)
      have hslot : slots' warp = (slots warp).become .runnable .none :=
        (hothers warp hs).trans (if_pos ⟨hr, hs⟩)
      rw [hslot]
      refine ⟨fun hw => ?_, fun hw => absurd hw (Slot.become_waits _ _ _ _)⟩
      split at hw
      · rw [hwaiters, hr] at hw
        cases hw.2
      · rename_i hkey
        exact absurd (((hrec warp key).mp hw).unique hwaited) hkey
    · have hslot : slots' warp = slots warp :=
        (hothers warp hs).trans (if_neg fun hboth => hr hboth.1)
      rw [hslot]
      split
      · rename_i hkey
        rw [hwaiters, hkey, ← hrec warp stage.key]
        exact ⟨And.left, fun hw => ⟨hw, Bool.eq_false_iff.mpr hr⟩⟩
      · exact hrec warp key

end

end VortexSim
