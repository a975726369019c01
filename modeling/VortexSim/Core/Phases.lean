import VortexSim.Core.Waiters
import VortexSim.Isa.Masks
import VortexSim.Lib.Phaser

/-!
# Barrier records are phases

A barrier record stands for the current phase of a phased barrier: its masks are the warps that
have arrived and that wait, and its phase bit is the parity of the number of phases that have
ended.  Every request of the coordinator is an event of the phase.
-/

namespace VortexSim

open Checked Phaser

/-! ## Masks -/

theorem WarpMask.active_eq (mask : WarpMask) (warp : WarpID) :
    mask.active warp.val = mask.getLsbD warp.val := by
  unfold WarpMask.active
  rw [decide_eq_true warp.isLt, Bool.true_and]

theorem maskCount_eq_card (mask : WarpMask) :
    maskCount mask = (BitMask.members frozenWarpCount mask).card := by
  have hset : BitMask.members frozenWarpCount mask =
      ((List.finRange frozenWarpCount).filter fun id => mask.active id.val).toFinset := by
    ext id
    rw [List.mem_toFinset, List.mem_filter, BitMask.mem_members, WarpMask.active_eq]
    exact ⟨fun h => ⟨List.mem_finRange id, h⟩, And.right⟩
  rw [hset, List.toFinset_card_of_nodup ((List.nodup_finRange _).filter _),
    ← List.countP_eq_length_filter]
  rfl

theorem members_bit (warp : WarpID) :
    BitMask.members frozenWarpCount (1#8 <<< warp.val) = {warp} := by
  ext other
  rw [BitMask.mem_members, Finset.mem_singleton, ← WarpMask.active_eq, WarpMask.active_bit,
    decide_eq_true_eq]

theorem members_or_bit (mask : WarpMask) (warp : WarpID) :
    BitMask.members frozenWarpCount (mask ||| (1#8 <<< warp.val)) =
      insert warp (BitMask.members frozenWarpCount mask) := by
  rw [BitMask.members_or, members_bit, Finset.union_comm]
  rfl

/-- A warp whose bit is not in a mask. -/
theorem not_mem_of_and_bit (h : mask &&& (1#8 <<< warp.val) = 0#8) :
    warp ∉ BitMask.members frozenWarpCount mask := by
  have hdis := BitMask.disjoint_of_and_eq_zero (n := frozenWarpCount) h
  rwa [members_bit, Finset.disjoint_singleton_right] at hdis

/-! ## Records -/

/-- The record stands for the phase. -/
structure BarrierRecord.Represents (record : BarrierRecord) (p : Phase WarpID) : Prop where
  arrived : p.arrived = BitMask.members frozenWarpCount record.arrivals
  waiting : p.waiting = BitMask.members frozenWarpCount record.waiters
  declared : p.declared = record.participantCount
  outstanding : p.outstanding = record.events
  parity : p.parity = record.phase
  full : record.arrivalsComplete = decide p.Full

theorem BarrierRecord.represents_initial : ({} : BarrierRecord).Represents {} := by
  refine ⟨?_, ?_, rfl, rfl, rfl, ?_⟩
  · exact BitMask.members_zero.symm
  · exact BitMask.members_zero.symm
  · exact (decide_eq_false fun h => h.1 rfl).symm

/-- The event a request stands for. -/
def BarrierEffect.phaseEvent (effect : BarrierEffect) : Event WarpID :=
  if effect.event then .expect effect.expectCount
  else if effect.kind = .wait then .wait (Fin.ofNat frozenWarpCount effect.warpID) effect.phase
  else .arrive (Fin.ofNat frozenWarpCount effect.warpID) effect.participantCount effect.sync

/-- A change of a record is the step of its phase. -/
structure BarrierChange.Steps (change : BarrierChange) (p : Phase WarpID) (e : Event WarpID) :
    Prop where
  accepted : p.Accepts e
  after : change.after.Represents (p.step e)
  reset : (p.note e).Complete → change.after = { phase := !p.parity }
  releases : BitMask.members frozenWarpCount change.releases = p.released e
  block : change.block = true ↔ p.Blocks e

section

variable {record : BarrierRecord} {p : Phase WarpID} {effect : BarrierEffect}
  {change : BarrierChange}

namespace BarrierRecord

/-- The end of a phase. -/
theorem flip_represents {q : Phase WarpID} (hparity : q.parity = record.phase)
    (hevents : record.events = 0) : record.flip.Represents q.next := by
  refine ⟨BitMask.members_zero.symm, BitMask.members_zero.symm, rfl, hevents.symm, ?_, ?_⟩
  · rw [q.next_parity, hparity]
    rfl
  · exact (decide_eq_false fun h => h.1 rfl).symm

theorem flip_eq (hparity : p.parity = record.phase) (hevents : record.events = 0) :
    record.flip = { phase := !p.parity } := by
  unfold flip
  rw [hparity, hevents]

theorem expectEvents_steps (hr : record.Represents p)
    (h : record.expectEvents effect = .ok change) :
    change.Steps p (.expect effect.expectCount) := by
  unfold expectEvents at h
  simp only [ok_iff, not_or] at h
  obtain ⟨⟨-, -, -, -, -, -, hcount, -⟩, -, rfl⟩ := h
  have hopen := p.expect_incomplete hcount
  refine ⟨hcount, ?_, fun hc => absurd hc hopen, ?_, ?_⟩
  · rw [Phase.step, Phase.settle, if_neg hopen]
    exact ⟨hr.arrived, hr.waiting, hr.declared, congrArg (· + _) hr.outstanding, hr.parity, hr.full⟩
  · rw [Phase.released, if_neg hopen]
    exact BitMask.members_zero
  · exact ⟨fun hf => absurd hf Bool.false_ne_true, False.elim⟩

theorem wait_steps (hr : record.Represents p) (hp : p.AtRest)
    (hw : effect.warpID = warp.val) (h : record.wait effect = .ok change) :
    change.Steps p (.wait warp effect.phase) := by
  unfold wait at h
  simp only [ok_iff] at h
  obtain ⟨-, h⟩ := h
  have hopen := hp.wait_incomplete warp effect.phase
  have hreleased : BitMask.members frozenWarpCount (0#8 : WarpMask) =
      p.released (.wait warp effect.phase) := by
    rw [Phase.released, if_neg hopen]
    exact BitMask.members_zero
  have hstep : p.step (.wait warp effect.phase) = p.note (.wait warp effect.phase) := by
    rw [Phase.step, Phase.settle, if_neg hopen]
  split at h
  · rename_i hphase
    simp only [ok_iff, ne_eq, not_not] at h
    obtain ⟨hbit, rfl⟩ := h
    have hsame : effect.phase = p.parity := hphase.trans hr.parity.symm
    rw [hw] at hbit ⊢
    refine ⟨fun _ => ?_, ?_, fun hc => absurd hc hopen, hreleased, fun _ => hsame, fun _ => rfl⟩
    · rw [hr.waiting]
      exact not_mem_of_and_bit hbit
    · rw [hstep, Phase.note_wait, if_pos hsame]
      refine ⟨hr.arrived, ?_, hr.declared, hr.outstanding, hr.parity, hr.full⟩
      rw [members_or_bit, hr.waiting]
  · rename_i hphase
    cases h
    have hother : effect.phase ≠ p.parity := fun hsame => hphase (hsame.trans hr.parity)
    refine ⟨fun hsame => absurd hsame hother, ?_, fun hc => absurd hc hopen, hreleased, ?_⟩
    · rw [hstep, Phase.note_wait, if_neg hother]
      exact hr
    · exact ⟨fun hf => absurd hf Bool.false_ne_true, fun hsame => absurd hsame hother⟩

theorem arrive_steps (hr : record.Represents p) (hw : effect.warpID = warp.val)
    (h : record.arrive effect memberCount = .ok change) :
    change.Steps p (.arrive warp effect.participantCount effect.sync) := by
  unfold arrive at h
  simp only [ok_iff, not_or, not_and, ne_eq, not_not] at h
  obtain ⟨-, ⟨hcount, -⟩, -, hunfinished, hsame, hbit, h⟩ := h
  rw [hw] at hbit
  have hnotfull : ¬ p.Full := by
    intro hfull
    rw [hr.full, decide_eq_true hfull] at hunfinished
    exact hunfinished rfl
  have haccepts : p.Accepts (.arrive warp effect.participantCount effect.sync) := by
    refine ⟨hcount, ?_, hnotfull, ?_⟩
    · rw [hr.arrived]
      exact not_mem_of_and_bit hbit
    · rw [hr.declared]
      exact or_iff_not_imp_left.mpr hsame
  set q := p.note (.arrive warp effect.participantCount effect.sync) with hq
  have harrived : q.arrived = BitMask.members frozenWarpCount (record.arrived effect).arrivals := by
    rw [show (record.arrived effect).arrivals = record.arrivals ||| (1#8 <<< warp.val) by
      rw [← hw]; rfl, members_or_bit, ← hr.arrived]
    rfl
  have hwaiting : q.waiting = BitMask.members frozenWarpCount (record.arrived effect).waiters := by
    unfold arrived
    rw [hw, hq]
    unfold Phase.note
    dsimp only
    split
    · rw [members_or_bit, hr.waiting]
    · exact hr.waiting
  have hfull : maskCount (record.arrived effect).arrivals = effect.participantCount ↔ q.Full := by
    rw [maskCount_eq_card, ← harrived]
    exact ⟨fun hc => ⟨hcount, hc⟩, And.right⟩
  have hparity : q.parity = (record.arrived effect).phase := hr.parity
  have houtstanding : q.outstanding = (record.arrived effect).events := hr.outstanding
  split at h
  · rename_i hall
    split at h
    · -- the last arrival ends the phase
      rename_i hevents
      cases h
      have hcomplete : q.Complete := ⟨hfull.mp hall, houtstanding.trans hevents⟩
      refine ⟨haccepts, ?_, fun _ => flip_eq hparity hevents, ?_, ?_⟩
      · rw [Phase.step, Phase.settle, if_pos hcomplete]
        exact flip_represents hparity hevents
      · rw [Phase.released, if_pos hcomplete]
        exact hwaiting.symm
      · exact ⟨fun hf => absurd hf Bool.false_ne_true, fun hb => absurd hcomplete hb.2⟩
    · rename_i hevents
      cases h
      have hopen : ¬ q.Complete := fun hc => hevents (houtstanding.symm.trans hc.2)
      refine ⟨haccepts, ?_, fun hc => absurd hc hopen, ?_, ?_⟩
      · rw [Phase.step, Phase.settle, if_neg hopen]
        exact ⟨harrived, hwaiting, rfl, houtstanding, hparity,
          (decide_eq_true (hfull.mp hall)).symm⟩
      · rw [Phase.released, if_neg hopen]
        exact BitMask.members_zero
      · exact ⟨fun hb => ⟨hb, hopen⟩, And.left⟩
  · rename_i hsome
    cases h
    have hopen : ¬ q.Complete := fun hc => hsome (hfull.mpr hc.1)
    refine ⟨haccepts, ?_, fun hc => absurd hc hopen, ?_, ?_⟩
    · rw [Phase.step, Phase.settle, if_neg hopen]
      refine ⟨harrived, hwaiting, rfl, houtstanding, hparity, ?_⟩
      rw [decide_eq_false fun hf => hsome (hfull.mpr hf)]
      exact Bool.eq_false_iff.mpr hunfinished
    · rw [Phase.released, if_neg hopen]
      exact BitMask.members_zero
    · exact ⟨fun hb => ⟨hb, hopen⟩, And.left⟩

/-- Every accepted request is an event of the phase. -/
theorem request_steps (hr : record.Represents p) (hp : p.AtRest)
    (hw : effect.warpID < frozenWarpCount) (h : record.request effect memberCount = .ok change) :
    change.Steps p effect.phaseEvent := by
  have hwarp : effect.warpID = (Fin.ofNat frozenWarpCount effect.warpID).val := by
    rw [Fin.val_ofNat, Nat.mod_eq_of_lt hw]
  unfold request at h
  unfold BarrierEffect.phaseEvent
  split at h
  · rename_i hevent
    rw [if_pos hevent]
    exact expectEvents_steps hr h
  · rename_i hevent
    rw [if_neg hevent]
    split at h
    · rename_i hkind
      rw [if_pos hkind]
      exact wait_steps hr hp hwarp h
    · rename_i hkind
      rw [if_neg hkind]
      exact arrive_steps hr hwarp h

end BarrierRecord

end

end VortexSim
