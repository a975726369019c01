import VortexSim.Core.ManagerRun

/-!
# Phases along a run

Beside the manager a run keeps the phase of every barrier, moved by the events of the accepted
requests alone.  The records of the coordinator represent these phases at every point of every
run.
-/

namespace VortexSim

open Checked Phaser

/-- The barrier an operation addresses, and its event there. -/
def ManagerOp.touches (m : CTAManager) : ManagerOp → Option (BarrierKey × Event WarpID)
  | .request effect _ =>
    match m.keyForEffect effect with
    | .ok (key, _) => some (key, effect.phaseEvent)
    | .error _ => none
  | .completion raw =>
    match m.validateKey raw with
    | .ok key => some (key, .done)
    | .error _ => none
  | _ => none

/-- Whether an operation removes a barrier with its CTA. -/
def ManagerOp.drops : ManagerOp → BarrierKey → Bool
  | .reclaim ctaID, key => decide (key.ctaID.val = ctaID)
  | _, _ => false

/-- A manager with the phases of its barriers. -/
structure Tracked where
  manager : CTAManager
  phases : BarrierKey → Phase WarpID

namespace Tracked

/-- The phases after an accepted operation. -/
def track (t : Tracked) (op : ManagerOp) (key : BarrierKey) : Phase WarpID :=
  if op.drops key then {}
  else
    match op.touches t.manager with
    | some (touched, e) => if key = touched then (t.phases key).step e else t.phases key
    | none => t.phases key

def next (t : Tracked) (op : ManagerOp) : Tracked :=
  match t.manager.performOp op with
  | .ok (m, _) => { manager := m, phases := t.track op }
  | .error _ => t

def run (t : Tracked) (ops : List ManagerOp) : Tracked := ops.foldl next t

/-- The records represent the phases, and only members are in them. -/
structure Ok (t : Tracked) : Prop where
  consistent : t.manager.Consistent
  represents : ∀ key, (t.manager.records.at key).Represents (t.phases key)
  atRest : ∀ key, (t.phases key).AtRest
  members : ∀ key warp, warp ∈ (t.phases key).arrived ∪ (t.phases key).waiting →
    t.manager.Member key.ctaID warp

end Tracked

/-! ## Stages are events -/

/-- The change a stage brings to its record. -/
def BarrierStage.change (stage : BarrierStage) : BarrierChange :=
  { after := stage.after, block := stage.result.block, releases := stage.result.releases }

/-- What a stage of the coordinator is for the phases. -/
structure BarrierStage.Events (stage : BarrierStage) (t : Tracked) (op : ManagerOp)
    (e : Event WarpID) : Prop where
  touches : op.touches t.manager = some (stage.key, e)
  named : stage.result.key = stage.key
  steps : stage.change.Steps (t.phases stage.key) e
  source : ∀ warp, e.source = some warp → t.manager.Member stage.key.ctaID warp

section

variable {t : Tracked} {stage : BarrierStage}

theorem BarrierEffect.phaseEvent_source {effect : BarrierEffect}
    (h : effect.phaseEvent.source = some warp) :
    warp = Fin.ofNat frozenWarpCount effect.warpID := by
  unfold BarrierEffect.phaseEvent at h
  split at h
  · cases h
  · split at h
    · cases h
      rfl
    · cases h
      rfl

theorem Tracked.Ok.stageBarrier (ht : t.Ok)
    (h : t.manager.stageBarrier effect expected = .ok stage) :
    stage.Events t (.request effect expected) effect.phaseEvent := by
  unfold CTAManager.stageBarrier at h
  simp only [ok_iff] at h
  obtain ⟨⟨key, size⟩, hkey, -, change, hchange, rfl⟩ := h
  obtain ⟨hwarp, hmember, -⟩ := ht.consistent.keyForEffect hkey
  refine ⟨?_, rfl, ?_, ?_⟩
  · unfold ManagerOp.touches
    dsimp only
    rw [hkey]
  · exact BarrierRecord.request_steps (ht.represents key) (ht.atRest key) hwarp hchange
  · intro warp hsource
    rw [BarrierEffect.phaseEvent_source hsource]
    exact hmember

/-- A completed event, with the end of the phase where it was the last one. -/
theorem Tracked.Ok.stageEventCompletion (ht : t.Ok)
    (h : t.manager.stageEventCompletion raw = .ok stage) :
    stage.Events t (.completion raw) .done := by
  unfold CTAManager.stageEventCompletion at h
  simp only [bind_eq_ok] at h
  obtain ⟨key, hkey, h⟩ := h
  have htouches : ManagerOp.touches t.manager (.completion raw) = some (key, .done) := by
    unfold ManagerOp.touches
    dsimp only
    rw [hkey]
  split at h
  · cases h
  · rename_i before hbefore
    have hr : before.Represents (t.phases key) := by
      have hat := ht.represents key
      unfold BarrierRecords.at at hat
      rw [hbefore] at hat
      exact hat
    simp only [ok_iff] at h
    obtain ⟨hsome, h⟩ := h
    have haccepts : (t.phases key).Accepts .done := fun hzero => hsome (hr.outstanding ▸ hzero)
    have houtstanding : ((t.phases key).note .done).outstanding = before.events - 1 :=
      congrArg (· - 1) hr.outstanding
    have hcomplete : before.events - 1 = 0 ∧ before.arrivalsComplete = true ↔
        ((t.phases key).note .done).Complete := by
      rw [Phase.Complete, houtstanding, hr.full, decide_eq_true_eq, and_comm]
      rfl
    split at h
    · rename_i hends
      cases h
      refine ⟨htouches, rfl, ⟨haccepts, ?_, fun _ => BarrierRecord.flip_eq hr.parity hends.1, ?_,
        ?_⟩, fun _ hsource => absurd hsource.symm (Option.some_ne_none _)⟩
      · rw [Phase.step, Phase.settle, if_pos (hcomplete.mp hends)]
        exact BarrierRecord.flip_represents hr.parity hends.1
      · rw [Phase.released, if_pos (hcomplete.mp hends)]
        exact hr.waiting.symm
      · exact ⟨fun hf => absurd hf Bool.false_ne_true, False.elim⟩
    · rename_i hstays
      cases h
      have hopen := fun hc => hstays (hcomplete.mpr hc)
      refine ⟨htouches, rfl, ⟨haccepts, ?_, fun hc => absurd hc hopen, ?_, ?_⟩,
        fun _ hsource => absurd hsource.symm (Option.some_ne_none _)⟩
      · rw [Phase.step, Phase.settle, if_neg hopen]
        exact ⟨hr.arrived, hr.waiting, hr.declared, houtstanding, hr.parity, hr.full⟩
      · rw [Phase.released, if_neg hopen]
        exact BitMask.members_zero
      · exact ⟨fun hf => absurd hf Bool.false_ne_true, False.elim⟩

end

/-! ## Steps and runs -/

namespace Tracked

section

variable {t : Tracked}

variable {op : ManagerOp} {e : Event WarpID} {m : CTAManager}

theorem track_of_touched (hdrops : ∀ key, op.drops key = false)
    (htouches : op.touches t.manager = some (key, e)) (other : BarrierKey) :
    t.track op other = if other = key then (t.phases key).step e else t.phases other := by
  unfold track
  rw [hdrops other, htouches, if_neg Bool.false_ne_true]
  dsimp only
  split
  · rename_i heq
    rw [heq]
  · rfl

/-- An operation without an event, after which the members are at least those before. -/
theorem Ok.grow (ht : t.Ok) (hm : m.Consistent) (hrecords : m.records = t.manager.records)
    (hmembers : ∀ slot warp, t.manager.Member slot warp → m.Member slot warp) :
    Ok { manager := m, phases := t.phases } where
  consistent := hm
  represents := fun key => hrecords ▸ ht.represents key
  atRest := ht.atRest
  members := fun key warp hin => hmembers _ _ (ht.members key warp hin)

/-- A commit of the coordinator. -/
theorem Ok.commit (ht : t.Ok) {stage : BarrierStage} (hstage : stage.Events t op e)
    (hdrops : ∀ key, op.drops key = false) :
    Ok { manager := t.manager.withRecords
           (Function.update t.manager.records stage.key (some stage.after)),
         phases := t.track op } where
  consistent := ht.consistent
  represents := by
    intro key
    change BarrierRecord.Represents (BarrierRecords.at (Function.update t.manager.records stage.key
      (some stage.after)) key) (t.track op key)
    rw [BarrierRecords.at_update, track_of_touched hdrops hstage.touches]
    split
    · exact hstage.steps.after
    · exact ht.represents key
  atRest := by
    intro key
    dsimp only
    rw [track_of_touched hdrops hstage.touches]
    split
    · exact (ht.atRest _).step hstage.steps.accepted
    · exact ht.atRest key
  members := by
    intro key warp hin
    dsimp only at hin
    rw [track_of_touched hdrops hstage.touches] at hin
    split at hin
    · rename_i heq
      rw [heq]
      rcases Phase.mem_step hin with hin | hsource
      · exact ht.members _ _ hin
      · exact hstage.source warp hsource
    · exact ht.members key warp hin

/-- A CTA leaves with its barriers. -/
theorem Ok.remove (ht : t.Ok) (hcta : t.manager.ctas slot = some cta) :
    Ok { manager := t.manager.remove slot cta, phases := t.track (.reclaim slot.val) } := by
  have htrack : ∀ key, t.track (.reclaim slot.val) key =
      if key.ctaID = slot then {} else t.phases key := by
    intro key
    unfold track ManagerOp.drops ManagerOp.touches
    simp only [decide_eq_true_eq, Fin.ext_iff]
  refine ⟨ht.consistent.remove hcta, ?_, ?_, ?_⟩
  · intro key
    dsimp only
    rw [records_remove, htrack]
    split
    · exact BarrierRecord.represents_initial
    · exact ht.represents key
  · intro key
    dsimp only
    rw [htrack]
    split
    · exact Phase.atRest_initial
    · exact ht.atRest key
  · intro key warp hin
    dsimp only at hin ⊢
    rw [htrack] at hin
    split at hin
    · exact absurd hin (Finset.notMem_empty warp)
    · rename_i hne
      exact (CTAManager.remove_member ht.consistent hcta).mpr ⟨hne, ht.members key warp hin⟩

theorem Ok.changes (ht : t.Ok) {result : Option BarrierResult} (h : t.manager.Changes op m result) :
    Ok { manager := m, phases := t.track op } := by
  have hm := h.consistent ht.consistent
  cases h with
  | enters admitted =>
    obtain ⟨henters, rfl⟩ := CTAManager.admitCTA_enters admitted
    exact ht.grow hm rfl fun _ _ => CTAManager.Member.install henters.warps
  | seals | binds => exact ht.grow hm rfl fun _ _ => id
  | admits staged rechecked =>
    have hgrows := CTAManager.installAll_grows (CTAManager.recheck_dynamic rechecked)
      (stageDynamicAdmissions_admissible staged) (recheck_free rechecked)
    exact ht.grow hm (hgrows.records) hgrows.members
  | removes resident _ => exact ht.remove resident
  | observes observed =>
    obtain ⟨slot, cta, rank, -, rfl⟩ := CTAManager.observeWarpFinished_eq_ok observed
    exact ht.grow hm rfl fun _ _ => id
  | requests staged => exact ht.commit (ht.stageBarrier staged) fun _ => rfl
  | completes staged => exact ht.commit (ht.stageEventCompletion staged) fun _ => rfl

theorem Ok.next (ht : t.Ok) (op : ManagerOp) : (t.next op).Ok := by
  unfold Tracked.next
  split
  · rename_i hop
    exact ht.changes (CTAManager.performOp_changes hop)
  · exact ht

theorem Ok.run (ht : t.Ok) (ops : List ManagerOp) : (t.run ops).Ok := by
  induction ops generalizing t with
  | nil => exact ht
  | cons op ops ih => exact ih (ht.next op)

theorem run_manager (t : Tracked) (ops : List ManagerOp) :
    (t.run ops).manager = t.manager.runOps ops := by
  induction ops generalizing t with
  | nil => rfl
  | cons op ops ih =>
    have hnext : (t.next op).manager = t.manager.next op := by
      unfold Tracked.next CTAManager.next
      cases t.manager.performOp op with
      | error _ => rfl
      | ok out => rfl
    rw [CTAManager.runOps, List.foldl_cons, ← hnext]
    exact ih (t.next op)

theorem ok_initial (hm : m = .new ∨ m = .newDynamic) :
    Ok { manager := m, phases := fun _ => {} } := by
  have hrecords : ∀ key, m.records.at key = {} := by
    rcases hm with rfl | rfl
    · exact fun _ => rfl
    · exact fun _ => rfl
  refine ⟨?_, ?_, fun _ => Phase.atRest_initial,
    fun _ warp h => absurd h (Finset.notMem_empty warp)⟩
  · rcases hm with rfl | rfl
    · exact CTAManager.new_consistent
    · exact CTAManager.newDynamic_consistent
  · intro key
    rw [hrecords]
    exact BarrierRecord.represents_initial

/-! ## What the coordinator answers -/

/-- The answer to an event: the phase bit flips and the record is reset with the event that
completes the phase, which releases those who wait. -/
structure Answers (t : Tracked) (key : BarrierKey) (e : Event WarpID) (m : CTAManager)
    (r : BarrierResult) : Prop where
  named : r.key = key
  flips : (m.records.at key).phase ≠ (t.manager.records.at key).phase ↔
    ((t.phases key).note e).Complete
  resets : ((t.phases key).note e).Complete →
    m.records.at key = { phase := !(t.manager.records.at key).phase }
  releases : ∀ warp : WarpID, r.releases.active warp.val = true ↔
    ((t.phases key).note e).Complete ∧ warp ∈ ((t.phases key).note e).waiting
  blocks : r.block = true ↔ (t.phases key).Blocks e
  others : ∀ other, other ≠ key → m.records.at other = t.manager.records.at other

theorem Ok.answers (ht : t.Ok) {stage : BarrierStage} (hstage : stage.Events t op e) :
    t.Answers stage.key e
      (t.manager.withRecords (Function.update t.manager.records stage.key (some stage.after)))
      stage.result := by
  have hat : ∀ key, (t.manager.withRecords
      (Function.update t.manager.records stage.key (some stage.after))).records.at key =
        if key = stage.key then stage.after else t.manager.records.at key :=
    fun key => BarrierRecords.at_update _ _ _ _
  have hsteps := hstage.steps
  have hparity := (ht.represents stage.key).parity
  refine ⟨hstage.named, ?_, ?_, ?_, hsteps.block, ?_⟩
  · rw [hat, if_pos rfl, ← hparity, ← Phase.step_parity, hsteps.after.parity]
    rfl
  · intro hc
    rw [hat, if_pos rfl, ← hparity]
    exact hsteps.reset hc
  · intro warp
    rw [WarpMask.active_eq, ← BitMask.mem_members (n := frozenWarpCount)]
    change warp ∈ BitMask.members frozenWarpCount stage.change.releases ↔ _
    rw [hsteps.releases, Phase.released]
    split
    · rename_i hc
      exact ⟨fun h => ⟨hc, h⟩, And.right⟩
    · rename_i hc
      exact ⟨fun h => absurd h (Finset.notMem_empty warp), fun h => absurd h.1 hc⟩
  · intro other hne
    rw [hat, if_neg hne]

/-- Every accepted operation answers its event, and leaves the other barriers alone. -/
theorem Ok.perform (ht : t.Ok) (h : t.manager.performOp op = .ok (m, result)) :
    (∀ key e, op.touches t.manager = some (key, e) → ∃ r, result = some r ∧ t.Answers key e m r) ∧
      (op.touches t.manager = none →
        ∀ key, op.drops key = false → m.records.at key = t.manager.records.at key) := by
  cases CTAManager.performOp_changes h with
  | enters admitted =>
    obtain ⟨-, rfl⟩ := CTAManager.admitCTA_enters admitted
    exact ⟨fun _ _ h => (Option.some_ne_none _ h.symm).elim, fun _ _ _ => rfl⟩
  | seals | binds => exact ⟨fun _ _ h => (Option.some_ne_none _ h.symm).elim, fun _ _ _ => rfl⟩
  | admits staged rechecked =>
    have hgrows := CTAManager.installAll_grows (CTAManager.recheck_dynamic rechecked)
      (stageDynamicAdmissions_admissible staged) (recheck_free rechecked)
    refine ⟨fun _ _ h => (Option.some_ne_none _ h.symm).elim, fun _ key _ => ?_⟩
    exact congrArg (fun records => BarrierRecords.at records key) hgrows.records
  | removes _ _ =>
    refine ⟨fun _ _ h => (Option.some_ne_none _ h.symm).elim, fun _ key hkey => ?_⟩
    rw [records_remove, if_neg]
    exact fun heq => of_decide_eq_false hkey (congrArg Fin.val heq)
  | observes observed =>
    obtain ⟨_, _, _, -, rfl⟩ := CTAManager.observeWarpFinished_eq_ok observed
    exact ⟨fun _ _ h => (Option.some_ne_none _ h.symm).elim, fun _ _ _ => rfl⟩
  | requests staged =>
    have hstage := ht.stageBarrier staged
    refine ⟨fun key e h => ⟨_, rfl, ?_⟩, fun hnone => ?_⟩
    · rw [hstage.touches] at h
      cases h
      exact ht.answers hstage
    · rw [hstage.touches] at hnone
      cases hnone
  | completes staged =>
    have hstage := ht.stageEventCompletion staged
    refine ⟨fun key e h => ⟨_, rfl, ?_⟩, fun hnone => ?_⟩
    · rw [hstage.touches] at h
      cases h
      exact ht.answers hstage
    · rw [hstage.touches] at hnone
      cases hnone

/-- Only members of the CTA have arrived or wait, and no more than were declared have arrived. -/
theorem Ok.masks (ht : t.Ok) (key : BarrierKey) :
    (∀ warp : WarpID, (t.manager.records.at key).arrivals.active warp.val = true ∨
        (t.manager.records.at key).waiters.active warp.val = true →
      t.manager.Member key.ctaID warp) ∧
    maskCount (t.manager.records.at key).arrivals ≤
      (t.manager.records.at key).participantCount := by
  have hr := ht.represents key
  refine ⟨fun warp hin => ht.members key warp ?_, ?_⟩
  · rw [WarpMask.active_eq, WarpMask.active_eq] at hin
    rw [Finset.mem_union, hr.arrived, hr.waiting, BitMask.mem_members, BitMask.mem_members]
    exact hin
  · rw [maskCount_eq_card, ← hr.arrived, ← hr.declared]
    exact (ht.atRest key).bounded

end

end Tracked

/-- Along every run of a new manager the records follow the phases.  A wait names a phase by its
parity, so it blocks exactly when it names a phase of the parity of the current one; the phase
that ended last is never such a phase. -/
theorem CTAManager.runOps_phases {m : CTAManager} (hm : m = .new ∨ m = .newDynamic)
    (ops : List ManagerOp) :
    let t := Tracked.run { manager := m, phases := fun _ => {} } ops
    t.manager = m.runOps ops ∧
    (∀ key, (t.manager.records.at key).phase = decide ((t.phases key).completed % 2 = 1) ∧
      (∀ warp : WarpID, (t.manager.records.at key).arrivals.active warp.val = true ∨
          (t.manager.records.at key).waiters.active warp.val = true →
        t.manager.Member key.ctaID warp) ∧
      maskCount (t.manager.records.at key).arrivals ≤ (t.manager.records.at key).participantCount) ∧
    ∀ op m' result, t.manager.performOp op = .ok (m', result) →
      (∀ key e, op.touches t.manager = some (key, e) → ∃ r, result = some r ∧ t.Answers key e m' r ∧
          ∀ warp n, e = .wait warp (decide (n % 2 = 1)) →
            (r.block = true ↔ n % 2 = (t.phases key).completed % 2) ∧
            (n + 1 = (t.phases key).completed → r.block = false)) ∧
      (op.touches t.manager = none →
        ∀ key, op.drops key = false → m'.records.at key = t.manager.records.at key) := by
  intro t
  have ht : t.Ok := (Tracked.ok_initial hm).run ops
  refine ⟨Tracked.run_manager _ ops, fun key => ⟨?_, ht.masks key⟩, ?_⟩
  · exact (ht.represents key).parity.symm
  · intro op m' result hop
    obtain ⟨hevent, hquiet⟩ := ht.perform hop
    refine ⟨fun key e htouches => ?_, hquiet⟩
    obtain ⟨r, hr, hanswers⟩ := hevent key e htouches
    refine ⟨r, hr, hanswers, ?_⟩
    rintro warp n rfl
    have hblocks : r.block = true ↔ n % 2 = (t.phases key).completed % 2 :=
      hanswers.blocks.trans ((t.phases key).parity_eq n)
    refine ⟨hblocks, fun hlast => ?_⟩
    rw [Bool.eq_false_iff, Ne, hblocks]
    omega

/-! ### A CTA of two warps -/

/-- A CTA of eight threads in the first two warps. -/
def twoWarps : CTAConfig where
  warpIDs := [0, 1]
  blockDimensions := ![8#32, 1#32, 1#32]
  gridDimensions := fun _ => 1#32
  blockSize := 8#32
  warpStep := ![4#32, 0#32, 0#32]
  clusterDimensions := fun _ => 1#32
  clusterSize := 1#32
  isFirstOfCluster := true

/-- A warp arrives without waiting. -/
def arrival (warpID count : Nat) : ManagerOp :=
  .request {
    warpID, addressWarp := 0, id := 0, kind := .arrive, arrive := true, drainLSU := true
    participantCount := count, sizeMinusOne := count - 1, phase := decide (count % 2 ≠ 0) } none

/-- The first warp waits for the end of a phase of even number. -/
def evenWait : ManagerOp :=
  .request {
    warpID := 0, addressWarp := 0, id := 0, kind := .wait, wait := true, drainLSU := true
    releaseByCoordinator := true, sizeMinusOne := 31 } none

/-- Both warps end the first phase; the second warp goes on and ends the second one alone. -/
def twoPhases : List ManagerOp :=
  [.admitCTA twoWarps, .bindBarriers, arrival 0 2, arrival 1 2, arrival 1 1]

/-- After both arrivals of the first phase its number no longer blocks. -/
theorem CTAManager.runOps_phases_two :
    let t := Tracked.run { manager := .new, phases := fun _ => {} } (twoPhases.take 4)
    (t.phases {}).completed = 1 ∧
      ∃ m' r, t.manager.performOp evenWait = .ok (m', some r) ∧ r.block = false := by
  intro t
  have hcompleted : (t.phases {}).completed = 1 := by decide +kernel
  have htouches : evenWait.touches t.manager = some ({}, .wait 0 (decide (0 % 2 = 1))) := by
    decide +kernel
  have haccepted : (t.manager.performOp evenWait).isOk = true := by decide +kernel
  obtain ⟨-, -, hops⟩ := CTAManager.runOps_phases (.inl rfl) (twoPhases.take 4)
  cases hop : t.manager.performOp evenWait with
  | error _ =>
    rw [hop] at haccepted
    cases haccepted
  | ok out =>
    obtain ⟨r, hr, -, hwaits⟩ := (hops evenWait out.1 out.2 hop).1 {} _ htouches
    refine ⟨hcompleted, out.1, r, by rw [← hr], ?_⟩
    exact (hwaits 0 0 rfl).2 hcompleted.symm

/-- After the second phase has ended too, the wait for the first one blocks: the phase bit is
that of the third. -/
theorem CTAManager.stale_wait_blocks :
    let t := Tracked.run { manager := .new, phases := fun _ => {} } twoPhases
    (t.phases {}).completed = 2 ∧
      evenWait.touches t.manager = some ({}, .wait 0 (decide (0 % 2 = 1))) ∧
      ((t.manager.performOp evenWait).toOption.bind fun out => out.2.map BarrierResult.block) =
        some true := by
  decide +kernel

end VortexSim
