import VortexSim.Core.Phases
import VortexSim.Core.Started

/-!
# Runs of a CTA manager

Every call of a manager and of its coordinator that changes the tables or the records, as one
operation each.  A run makes these calls in any order and with any arguments, so it asks nothing
of the core that drives the manager.
-/

namespace VortexSim

open Checked Phaser

/-- An operation on a manager. -/
inductive ManagerOp where
  | admitCTA (config : CTAConfig)
  | sealTables
  | bindBarriers
  | admission (configs : List CTAConfig) (warpIDs : List (List WarpID))
  | reclaim (ctaID : Nat)
  | finished (warpID : WarpID)
  | request (effect : BarrierEffect) (expected : Option BarrierSnapshot)
  | completion (key : RawBarrierKey)

namespace CTAManager

/-- Commit a stage of the coordinator, where there is one. -/
def commitBarrier (m : CTAManager) (stage : BarrierStage) :
    Except Error (CTAManager × Option BarrierResult) := do
  rejectIf (m.barriers.isNone = true) (.text "core: nil barrier coordinator")
  let (records, _) ← stage.commit m.records
  pure (m.withRecords records, some stage.result)

/-- Call the manager or its coordinator, with the result of a barrier request. -/
def performOp (m : CTAManager) : ManagerOp → Except Error (CTAManager × Option BarrierResult)
  | .admitCTA config => do
      let (m', _) ← m.admitCTA config
      pure (m', none)
  | .sealTables => do
      let m' ← m.sealed
      pure (m', none)
  | .bindBarriers => do
      let m' ← m.newBarrierCoordinator
      pure (m', none)
  | .admission configs warpIDs => do
      let stage ← m.stageDynamicAdmissions configs warpIDs
      let (m', _) ← m.commitAdmission stage (pure ())
      pure (m', none)
  | .reclaim ctaID => do
      let (m', _) ← m.commitDynamicReclaim ctaID
      pure (m', none)
  | .finished warpID => do
      let m' ← m.observeWarpFinished warpID
      pure (m', none)
  | .request effect expected => do
      let stage ← m.stageBarrier effect expected
      m.commitBarrier stage
  | .completion key => do
      let stage ← m.stageEventCompletion key
      m.commitBarrier stage

/-- The manager after an operation.  One that is refused changes nothing. -/
def next (m : CTAManager) (op : ManagerOp) : CTAManager :=
  match m.performOp op with
  | .ok (m', _) => m'
  | .error _ => m

/-- The manager after a sequence of operations. -/
def runOps (m : CTAManager) (ops : List ManagerOp) : CTAManager := ops.foldl next m

/-! ## What an operation can do -/

/-- What an accepted operation makes of the tables and the records, and its result. -/
inductive Changes (m : CTAManager) : ManagerOp → CTAManager → Option BarrierResult → Prop
  | enters {config : CTAConfig} {m' : CTAManager} {cta : CTAState}
      (admitted : m.admitCTA config = .ok (m', cta)) : Changes m (.admitCTA config) m' none
  | seals : Changes m .sealTables { m with isSealed := true } none
  | binds : Changes m .bindBarriers { m with isSealed := true, barriers := some m.records } none
  | admits {configs : List CTAConfig} {warpIDs : List (List WarpID)} {stage : AdmissionStage}
      (staged : m.stageDynamicAdmissions configs warpIDs = .ok stage)
      (rechecked : m.recheck stage = .ok ()) :
      Changes m (.admission configs warpIDs)
        { stage.candidates.foldl install m with epoch := m.epoch + 1 } none
  | removes {slot : CTASlot} {cta : CTAState} (resident : m.ctas slot = some cta)
      (quiet : m.records.pendingCTA slot = false) :
      Changes m (.reclaim slot.val) (m.remove slot cta) none
  | observes {warpID : WarpID} {m' : CTAManager}
      (observed : m.observeWarpFinished warpID = .ok m') : Changes m (.finished warpID) m' none
  | requests {effect : BarrierEffect} {expected : Option BarrierSnapshot} {stage : BarrierStage}
      (staged : m.stageBarrier effect expected = .ok stage) :
      Changes m (.request effect expected)
        (m.withRecords (Function.update m.records stage.key (some stage.after)))
        (some stage.result)
  | completes {key : RawBarrierKey} {stage : BarrierStage}
      (staged : m.stageEventCompletion key = .ok stage) :
      Changes m (.completion key)
        (m.withRecords (Function.update m.records stage.key (some stage.after)))
        (some stage.result)

theorem commitBarrier_eq_ok {m : CTAManager} (h : m.commitBarrier stage = .ok (m', result)) :
    m' = m.withRecords (Function.update m.records stage.key (some stage.after)) ∧
      result = some stage.result := by
  unfold commitBarrier at h
  simp only [ok_iff, Prod.exists, Prod.mk.injEq] at h
  obtain ⟨-, records, stage', hcommit, rfl, rfl⟩ := h
  unfold BarrierStage.commit at hcommit
  simp only [ok_iff, Prod.mk.injEq] at hcommit
  obtain ⟨-, -, rfl, -⟩ := hcommit
  exact ⟨rfl, rfl⟩

theorem performOp_changes {m : CTAManager} (h : m.performOp op = .ok (m', result)) :
    m.Changes op m' result := by
  cases op with
  | admitCTA config =>
    simp only [ok_iff, performOp, Prod.exists, Prod.mk.injEq] at h
    obtain ⟨admitted, cta, h, rfl, rfl⟩ := h
    exact .enters h
  | sealTables =>
    simp only [ok_iff, performOp, sealed, Prod.mk.injEq] at h
    obtain ⟨_, ⟨-, rfl⟩, rfl, rfl⟩ := h
    exact .seals
  | bindBarriers =>
    simp only [ok_iff, performOp, newBarrierCoordinator, Prod.mk.injEq] at h
    obtain ⟨_, ⟨-, rfl⟩, rfl, rfl⟩ := h
    exact .binds
  | admission configs warpIDs =>
    simp only [ok_iff, performOp, commitAdmission, Prod.exists, Prod.mk.injEq] at h
    obtain ⟨stage, hstage, admitted, ⟨hrecheck, -, rfl, -⟩, rfl, rfl⟩ := h
    exact .admits hstage hrecheck
  | reclaim ctaID =>
    simp only [ok_iff, performOp, commitDynamicReclaim, Prod.exists, Prod.mk.injEq,
      snapshot_eq_ok] at h
    obtain ⟨removed, _, ⟨-, cta, ⟨slot, rfl, hcta⟩, hquiet, -, rfl, -⟩, rfl, rfl⟩ := h
    rw [Fin.ofNat_val_eq_self] at hquiet ⊢
    exact .removes hcta (Bool.eq_false_iff.mpr hquiet)
  | finished warpID =>
    simp only [ok_iff, performOp, Prod.mk.injEq] at h
    obtain ⟨observed, h, rfl, rfl⟩ := h
    exact .observes h
  | request effect expected =>
    simp only [performOp, bind_eq_ok] at h
    obtain ⟨stage, hstage, h⟩ := h
    obtain ⟨rfl, rfl⟩ := commitBarrier_eq_ok h
    exact .requests hstage
  | completion key =>
    simp only [performOp, bind_eq_ok] at h
    obtain ⟨stage, hstage, h⟩ := h
    obtain ⟨rfl, rfl⟩ := commitBarrier_eq_ok h
    exact .completes hstage

theorem recheck_dynamic {m : CTAManager} (h : m.recheck stage = .ok u) : m.dynamic = true := by
  unfold recheck at h
  simp only [ok_iff, not_or, Bool.not_eq_false] at h
  exact h.2.1.1

/-- The tables stay consistent. -/
theorem Changes.consistent {m : CTAManager} (h : m.Changes op m' result) (hm : m.Consistent) :
    m'.Consistent := by
  cases h with
  | enters admitted => exact CTAManager.admitCTA_consistent hm admitted
  | seals => exact hm
  | binds => exact hm
  | admits staged rechecked =>
    exact hm.installAll (stageDynamicAdmissions_admissible staged) (recheck_free rechecked)
  | removes resident _ => exact hm.remove resident
  | observes observed => exact hm.observeWarpFinished observed
  | requests _ => exact hm
  | completes _ => exact hm

end CTAManager

end VortexSim
