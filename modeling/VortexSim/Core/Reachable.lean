import VortexSim.Core.Stepped

/-!
# Runs of the core

Every public operation keeps the invariant, succeed or fail, and a new core has it.  So after
any run `validate` holds, the barrier records name exactly the warps that wait, no release of
the coordinator is refused and no waiting warp is lost.
-/

namespace VortexSim

open Checked Stateful Act

variable {σ : Type}

namespace World

theorem ignore_triple (h : Triple P x (fun _ => R) E) : Triple P (ignore x) (fun _ => R) E :=
  Triple.bind h fun _ => .pure fun _ hs => hs

theorem served_of_held (h : Keeps (Held w0) x) :
    Triple (Held w0) x (fun _ => Served w0) (Served w0) :=
  h.consequence (fun _ hw => hw) (fun _ _ hw => hw.served) fun _ hw => hw.served

theorem perform_served (sf : SoftFloat) (op : CoreOp σ) :
    Triple (Held w0) (op.perform sf) (fun _ => Served w0) (Served w0) := by
  cases op with
  | admitCTA manager config => exact served_of_held (admitCTA_held manager config)
  | newBarrierCoordinator manager => exact served_of_held (newBarrierCoordinator_held manager)
  | setCTAManager manager => exact served_of_held (setCTAManager_held manager)
  | setPendingWorkProvider provider => exact served_of_held (setPendingWorkProvider_held provider)
  | block warpID reason => exact served_of_held (block_held warpID reason)
  | resume warpID => exact served_of_held (resume_held warpID)
  | activate warpID => exact served_of_held (activate_held warpID)
  | admitCTACluster configs => exact ignore_triple (served_of_held (admitCTACluster_held configs))
  | reclaimCTA ctaID => exact ignore_triple (served_of_held (reclaimCTA_held ctaID))
  | completeBarrierEvent key => exact completeBarrierEvent_served key
  | step context => exact ignore_triple (step_served sf context)

/-- The world after one operation. -/
theorem Inv.perform (sf : SoftFloat) (h : w.Inv) (op : CoreOp σ) :
    Served w (op.perform sf w).2 := by
  obtain ⟨hok, herr⟩ := perform_served sf op w h.held
  rcases hr : (op.perform sf w).1 with err | u
  · exact herr err hr
  · exact hok u hr

theorem Inv.run (sf : SoftFloat) {w : World σ} (h : w.Inv) (ops : List (CoreOp σ)) :
    (w.run sf ops).Inv := by
  induction ops generalizing w with
  | nil => exact h
  | cons op ops ih => exact ih (h.perform sf op).inv

/-! ## A new core -/

theorem validateLifecycleOf_fits {warp : WarpState} {id : WarpID}
    (h : validateLifecycleOf id slot warp = .ok u) : slot.Fits warp := by
  unfold validateLifecycleOf at h
  unfold Slot.Fits
  cases hl : slot.lifecycle with
  | inactive =>
    rw [hl] at h
    simp only [rejectIf_eq_ok, not_or, ne_eq, not_not, Bool.not_eq_true] at h
    exact ⟨h.1, h.2.1, h.2.2.1⟩
  | runnable | blocked | finished =>
    rw [hl] at h
    simp only [rejectIf_eq_ok, not_or, ne_eq, not_not, Bool.not_eq_false] at h
    exact ⟨h.1, h.2.1, h.2.2.1⟩

/-- Without a manager `validate` is the whole invariant. -/
theorem Inv.of_validate {w : World σ} (h : w.validate = .ok ()) (hctas : w.core.ctas = none)
    (howners : w.owners.WF) (hmanagers : ∀ manager, (w.managers manager).Consistent) : w.Inv := by
  have hslot := w.validateSlot_of_validate h
  obtain ⟨_, -, hbound⟩ := bind_eq_ok.mp h
  rw [hctas] at hbound
  rw [rejectIf_eq_ok, not_not] at hbound
  have hparts : ∀ id, (w.warp id).id = id.val ∧ (w.core.slots id).Ok (w.warp id) ∧
      (w.core.slots id).barrierWait = false := by
    intro id
    have hid := hslot id
    unfold World.validateSlot at hid
    simp only [ok_iff, ne_eq, not_not] at hid
    obtain ⟨hname, -, hmetadata, hexclusive, hwait, hfits⟩ := hid
    refine ⟨hname, ⟨validateLifecycleOf_fits hfits, fun hne => ?_, hexclusive⟩, ?_⟩
    · rw [not_and, not_or, not_or, not_not, Bool.not_eq_true, Bool.not_eq_true] at hmetadata
      exact hmetadata hne
    · unfold World.validateWait at hwait
      dsimp only at hwait
      split at hwait
      · rw [hbound] at hwait
        cases hwait
      · rename_i hnot
        exact Bool.eq_false_iff.mpr hnot
  refine ⟨howners, fun id => (hparts id).1, hmanagers, fun id => (hparts id).2.1, ?_, ?_, ?_⟩
  · rw [hbound, hctas]
  · intro _ id key hw
    exact Bool.false_ne_true ((hparts id).2.2.symm.trans hw.2.2.1)
  · intro manager hm
    rw [hctas] at hm
    cases hm

end World

/-- Managers nothing has been admitted to. -/
def Managers.Fresh (managers : Managers) : Prop :=
  ∀ manager, managers manager = .new ∨ managers manager = .newDynamic

namespace World

theorem new_inv {executors : List (Executor σ)} {owners : Owners} {managers : Managers}
    {localMemories : LocalMemories} {memory : σ} (howners : owners.WF) (hmanagers : managers.Fresh)
    (h : World.new executors owners managers localMemories memory = .ok w) : w.Inv := by
  unfold World.new at h
  simp only [ok_iff] at h
  obtain ⟨-, slots, -, slot0, -, slot1, -, slot2, -, slot3, -, hvalidate, rfl⟩ := h
  refine Inv.of_validate hvalidate rfl howners fun manager => ?_
  dsimp only
  rcases hmanagers manager with heq | heq
  · rw [heq]
    exact CTAManager.new_consistent
  · rw [heq]
    exact CTAManager.newDynamic_consistent

/-! ## Every run -/

/-- After any operations on a new core `validate` holds, a warp is recorded as a waiter of a
barrier exactly when its slot is blocked waiting on it, releases of the coordinator are
accepted, also in the middle of a step, and one more operation leaves a waiting warp waiting or
makes it runnable. -/
theorem run_keeps_waiters (sf : SoftFloat) {executors : List (Executor σ)} {owners : Owners}
    {managers : Managers} {localMemories : LocalMemories} {memory : σ} {w : World σ}
    (howners : owners.WF) (hmanagers : managers.Fresh)
    (hnew : World.new executors owners managers localMemories memory = .ok w)
    (ops : List (CoreOp σ)) :
    let w' := w.run sf ops
    w'.validate = .ok () ∧
    (∀ manager, w'.core.barriers = some manager → ∀ (warp : WarpID) key,
      ((w'.managers manager).records.at key).waiters.active warp.val = true ↔
        (w'.core.slots warp).WaitsOn key) ∧
    (w'.core.barriers = none → ∀ warp key, ¬ (w'.core.slots warp).WaitsOn key) ∧
    (∀ manager, w'.core.barriers = some manager → ∀ (source : WarpID) effect expected stage,
      effect.warpID = source.val → (w'.core.slots source).lifecycle = .runnable →
      (w'.managers manager).stageBarrier effect expected = .ok stage →
      w'.validateBarrierReleases (some source) stage.result = .ok ()) ∧
    (∀ manager, w'.core.barriers = some manager → ∀ key stage,
      (w'.managers manager).stageEventCompletion key = .ok stage →
      w'.validateBarrierReleases none stage.result = .ok ()) ∧
    (∀ context woken selected issued w'', refreshFunctionalWaits context w' = (.ok (), woken) →
      woken.selectRunnable = some selected →
      issueWarp sf context selected woken = (.ok issued, w'') →
      issued.result.outcome = .deferred → ∀ manager, w''.core.barriers = some manager →
      ∀ effect view stage, effect.warpID = selected.val →
      (w''.managers manager).stageFromView effect view = .ok stage →
      w''.validateBarrierReleases (some selected) stage.result = .ok ()) ∧
    ∀ (op : CoreOp σ) warp key, (w'.core.slots warp).WaitsOn key →
      ((op.perform sf w').2.core.slots warp).WaitsOn key ∨
        ((op.perform sf w').2.core.slots warp).lifecycle = .runnable := by
  intro w'
  have hinv : w'.Inv := (new_inv howners hmanagers hnew).run sf ops
  refine ⟨hinv.validate, ?_, ?_, ?_, ?_, ?_, ?_⟩
  · intro manager hm
    rw [hinv.bound] at hm
    exact (hinv.attached manager hm).recorded
  · intro hnone
    rw [hinv.bound] at hnone
    exact hinv.detached hnone
  · intro manager hm source effect expected stage hwarp hrunnable hstage
    exact (stageBarrier_staged hinv hm hwarp hrunnable hstage).releases hinv
  · intro manager hm key stage hstage
    exact (stageEventCompletion_staged hinv hm hstage).releases hinv
  · intro context woken selected issued w'' hwoken hselected hissued hdeferred manager hm effect
      view stage hwarp hstage
    have hheld : Held w' woken := by
      have hafter := (refreshFunctionalWaits_held context).after hinv.held
      rwa [hwoken] at hafter
    have hexecuted := (issueWarp_executed sf context selected woken
      ⟨hheld, selectRunnable_runnable hselected⟩).1 issued (congrArg Prod.fst hissued)
    rw [hissued] at hexecuted
    exact hexecuted.releases hdeferred hm hwarp hstage
  · intro op warp key hwait
    exact (hinv.perform sf op).waiting warp key hwait

/-- `addi x2, x0, 2` and `bar x0, x2`. -/
def barrierImage : Memory where
  data := [0x13#8, 0x01#8, 0x20#8, 0x00#8, 0x0B#8, 0x40#8, 0x20#8, 0x00#8]
  fits := by decide

def idleWarp (id : Nat) : WarpState :=
  { freshWarp id with activeMask := 0#8, lifecycle := .inactive }

def imageExecutor (id : WarpID) : Executor Memory where
  owner := id.val
  fetch := fun _ s address length => s.2.read address length
  data := .cta {
    manager := 0, warpID := id
    globalMemory := {
      read := Memory.read, write := Memory.write, writeBatch := some Memory.writeBatch } }

/-- A cluster of one CTA with two warps. -/
def pairConfig : CTAConfig where
  blockDimensions := ![8#32, 1#32, 1#32]
  gridDimensions := fun _ => 1#32
  blockSize := 8#32
  warpStep := ![4#32, 0#32, 0#32]
  clusterDimensions := fun _ => 1#32
  clusterSize := 1#32
  isFirstOfCluster := true

/-- Four idle warps over the image. -/
def imageWorld (image : Memory) : World Memory where
  core := { slots := ![{ executor := imageExecutor 0 }, { executor := imageExecutor 1 },
    { executor := imageExecutor 2 }, { executor := imageExecutor 3 }] }
  owners := fun o => idleWarp (o % 4)
  managers := fun _ => .newDynamic
  localMemories := fun _ => { data := [], fits := by decide }
  memory := image

theorem imageWorld_new (image : Memory) :
    World.new ((List.finRange frozenWarpCount).map imageExecutor)
    (fun o => idleWarp (o % 4)) (fun _ => .newDynamic) (imageWorld image).localMemories image =
      .ok (imageWorld image) :=
  rfl

theorem idleWarps_wf : Owners.WF fun o => idleWarp (o % 4) := by
  intro o
  have hfresh : (freshWarp (o % 4)).WF := freshWarp_wf (Nat.mod_lt o (by decide))
  have hzero : LaneMask.Valid 0#8 := by decide
  exact { hfresh with active := hzero, lifecycle := rfl }

/-- The first warp of the pair waits at the barrier. -/
theorem run_keeps_waiters_pair :
    let w' := (imageWorld barrierImage).run zeroFloat
      [.setCTAManager 0, .admitCTACluster [pairConfig], .step {}, .step {}, .step {}]
    w'.validate = .ok () ∧ (w'.core.slots 0).WaitsOn {} ∧
      ((w'.managers 0).records.at {}).waiters.active 0 = true := by
  intro w'
  have h := run_keeps_waiters zeroFloat idleWarps_wf (fun _ => .inr rfl)
    (imageWorld_new barrierImage)
    [.setCTAManager 0, .admitCTACluster [pairConfig], .step {}, .step {}, .step {}]
  have hwaits : (w'.core.slots 0).WaitsOn {} := by decide +kernel
  exact ⟨h.1, hwaits, (h.2.1 0 (by decide +kernel) 0 {}).mpr hwaits⟩

end World

end VortexSim
