import VortexSim.State.SpawnTransaction

/-!
# Every operation on warp state

The package hands out handles: stages that may be committed later, streams, deliveries and
multi-warp transactions.  `StateStore` is the collection of everything that is alive, the
canonical owners and the handles on them, and `StateOp` enumerates the operations a client
can perform on it, in any order and with any arguments.  An operation that fails returns its
error and leaves the owners as they are.

`StateStore.step_keeps` is the invariant over one operation and `StateStore.run_wf` the
invariant over a whole session.
-/

namespace VortexSim

open Checked

/-! ## Handles -/

/-- A stage with its owner. -/
structure HeldStage where
  owner : Owner
  stage : EffectStage

/-- A stream with its owner. -/
structure HeldStream where
  owner : Owner
  stream : EffectStream

/-- A delivery with the handle of its stream. -/
structure HeldDelivery where
  owner : Owner
  stream : Option Nat
  delivery : EffectDelivery

/-- A spawn transaction with the handle of its source stage. -/
structure HeldSpawn where
  source : Nat
  spawn : WarpSpawnStage

/-- The transaction with its source stage as it is now. -/
def HeldSpawn.withSource (h : HeldSpawn) (source : HeldStage) : WarpSpawnStage :=
  { h.spawn with source := source.stage }

/-- The owners and all handles. -/
structure StateStore where
  owners : Owners
  stages : List HeldStage := []
  spawns : List HeldSpawn := []
  launches : List WarpLaunchStage := []
  streams : List HeldStream := []
  deliveries : List HeldDelivery := []

/-! ## Operations -/

/-- The setters of a warp. -/
inductive Setter where
  | writeRegister (register : Register) (mask : LaneMask) (values : LaneValues)
  | setPC (pc : Word)
  | setActiveMask (mask : LaneMask) (lifecycle : WarpLifecycle)
  | setSavedThreadMask (mask : LaneMask)
  | setFCSR (value : Word)
  | setTrapCSRs (value : TrapCSRState)
  | setDivergence (initial : DivergenceInitial)

/-- The call of a setter. -/
def Setter.run (w : WarpState) : Setter → Except Error WarpState
  | .writeRegister register mask values => w.writeRegister register mask values
  | .setPC pc => w.setPC pc
  | .setActiveMask mask lifecycle => w.setActiveMask mask lifecycle
  | .setSavedThreadMask mask => w.setSavedThreadMask mask
  | .setFCSR value => w.setFCSR value
  | .setTrapCSRs value => .ok (w.setTrapCSRs value)
  | .setDivergence initial => w.setDivergence initial

/-- The verdict of an external owner, without its own state. -/
abbrev Verdict := InstructionEffects → Option Error

def Verdict.owner (v : Verdict) : ExternalOwner Unit := fun effects _ => ((), v effects)

/-- The four ways to commit a stage. -/
inductive CommitKind where
  | plain
  | afterExternal
  | withExternal (verdict : Option Error)
  | forwardedWithExternal (verdict : Option Error)

/-- The call of a commit. -/
def EffectStage.commitBy (s : EffectStage) (owner : WarpState) : CommitKind → CommitResult
  | .plain => s.commit owner
  | .afterExternal => s.commitAfterExternal owner
  | .withExternal verdict => (s.commitWithExternal owner () fun _ => ((), verdict)).2
  | .forwardedWithExternal verdict =>
    (s.commitForwardedWithExternal owner () fun _ => ((), verdict)).2

/-- The operations of a client. -/
inductive StateOp where
  | newWarp (owner : Owner) (initial : WarpInitial)
  | set (owner : Owner) (setter : Setter)
  | apply (owner : Owner) (effects : InstructionEffects)
  | stage (owner : Owner) (effects : InstructionEffects)
  | commit (stage : Nat) (kind : CommitKind)
  | newStream (owner : Owner)
  | recordActivation (stream : Nat) (through : Nat)
  | newEffectDelivery (owner : Owner) (effects : InstructionEffects)
  | newDelivery (stream : Nat) (order : Nat) (context : InstructionContext)
      (effects : InstructionEffects)
  | cancel (delivery : Nat)
  | deliver (delivery : Nat) (event : VisibilityEvent) (lanes : LaneMask)
      (external : Option Verdict)
  | deliverCSRJoint (delivery : Nat) (flags trap : Option Nat) (external : Option Verdict)
  | deliverWarpSpawn (delivery : Nat) (targets : List WarpSpawnTarget) (activation : Bool)
  | stageWarpSpawn (stage : Nat) (targets : List WarpSpawnTarget)
  | commitWarpSpawn (spawn : Nat)
  | stageWarpLaunch (targets : List WarpLaunchTarget)
  | commitWarpLaunch (launch : Nat)

namespace StateStore

open Lists

/-- Use of a handle that does not exist. -/
def missing : Error := .text "state: nil handle"

variable (s : StateStore)

/-- The stream a delivery belongs to, a fresh one when it has none. -/
def streamOf (d : HeldDelivery) : EffectStream :=
  match d.stream.bind (s.streams[·]?) with
  | none => {}
  | some held => held.stream

/-- Write the stream of a delivery back. -/
def putStream (d : HeldDelivery) (stream : EffectStream) : StateStore :=
  match d.stream with
  | none => s
  | some i => { s with streams := s.streams.modify i fun held => { held with stream := stream } }

def putOwner (owner : Owner) (w : WarpState) : StateStore :=
  { s with owners := Function.update s.owners owner w }

def putDelivery (i : Nat) (d : EffectDelivery) : StateStore :=
  { s with deliveries := s.deliveries.modify i fun held => { held with delivery := d } }

/-- A delivery that joins the CSR event of delivery `i`. -/
def peerOf (i : Nat) (d : HeldDelivery) (others : List Nat) (j : Nat) : Option JointPeer :=
  s.deliveries[j]?.map fun held =>
    { delivery := held.delivery
      stream := s.streamOf held
      peer := decide (j ≠ i) && decide (j ∉ others) && decide (held.owner = d.owner) }

/-- Write a peer and its stream back. -/
def putPeer (j : Option Nat) (peer : Option JointPeer) : StateStore :=
  match j, peer with
  | some j, some peer =>
    match s.deliveries[j]? with
    | none => s
    | some held => (s.putStream held peer.stream).putDelivery j peer.delivery
  | _, _ => s

/-- One operation: the store after it and the error it reports. -/
def step : StateOp → StateStore × Option Error
  | .newWarp owner initial =>
    match VortexSim.newWarp initial with
    | .error err => (s, some err)
    | .ok w => (s.putOwner owner w, none)
  | .set owner setter =>
    match setter.run (s.owners owner) with
    | .error err => (s, some err)
    | .ok w => (s.putOwner owner w, none)
  | .apply owner effects =>
    match (s.owners owner).applyEffects effects with
    | .error err => (s, some err)
    | .ok (w, none) => (s.putOwner owner w, none)
    | .ok (_, some stage) => ({ s with stages := s.stages ++ [{ owner, stage }] }, none)
  | .stage owner effects =>
    match (s.owners owner).stageEffects effects with
    | .error err => (s, some err)
    | .ok stage => ({ s with stages := s.stages ++ [{ owner, stage }] }, none)
  | .commit i kind =>
    match s.stages[i]? with
    | none => (s, some missing)
    | some held =>
      let r := held.stage.commitBy (s.owners held.owner) kind
      ({ s.putOwner held.owner r.owner with
          stages := s.stages.modify i fun h => { h with stage := r.stage } }, r.error)
  | .newStream owner => ({ s with streams := s.streams ++ [{ owner, stream := {} }] }, none)
  | .recordActivation i through =>
    ({ s with streams := s.streams.modify i fun h =>
        { h with stream := h.stream.recordActivation through } }, none)
  | .newEffectDelivery owner effects =>
    match (s.owners owner).newEffectDelivery effects with
    | .error err => (s, some err)
    | .ok delivery =>
      ({ s with deliveries := s.deliveries ++ [{ owner, stream := none, delivery }] }, none)
  | .newDelivery i order context effects =>
    match s.streams[i]? with
    | none => (s, some missing)
    | some held =>
      match EffectStream.newDelivery (s.owners held.owner) order context effects with
      | .error err => (s, some err)
      | .ok delivery =>
        ({ s with deliveries := s.deliveries ++
            [{ owner := held.owner, stream := some i, delivery }] }, none)
  | .cancel i =>
    ({ s with deliveries := s.deliveries.modify i fun h =>
        { h with delivery := h.delivery.cancel } }, none)
  | .deliver i event lanes external =>
    match s.deliveries[i]? with
    | none => (s, some missing)
    | some held =>
      let r := held.delivery.deliver (s.owners held.owner) (s.streamOf held) () event lanes
        (external.map Verdict.owner)
      (((s.putOwner held.owner r.owner).putStream held r.stream).putDelivery i r.delivery, r.error)
  | .deliverCSRJoint i flags trap external =>
    match s.deliveries[i]? with
    | none => (s, some missing)
    | some held =>
      let r := held.delivery.deliverCSRJoint (s.owners held.owner) ()
        (flags.bind (s.peerOf i held [])) (trap.bind (s.peerOf i held flags.toList))
        (external.map Verdict.owner)
      ((((s.putOwner held.owner r.owner).putDelivery i r.delivery).putPeer flags r.flags).putPeer
        trap r.trap, r.error)
  | .deliverWarpSpawn i targets activation =>
    match s.deliveries[i]? with
    | none => (s, some missing)
    | some held =>
      let r := held.delivery.deliverWarpSpawn s.owners held.owner (s.streamOf held) targets
        activation
      ((({ s with owners := r.owners }).putStream held r.stream).putDelivery i r.delivery, r.error)
  | .stageWarpSpawn i targets =>
    match s.stages[i]? with
    | none => (s, some missing)
    | some held =>
      match VortexSim.stageWarpSpawn s.owners held.owner held.stage targets none with
      | .error err => (s, some err)
      | .ok spawn => ({ s with spawns := s.spawns ++ [{ source := i, spawn }] }, none)
  | .commitWarpSpawn i =>
    match s.spawns[i]? with
    | none => (s, some missing)
    | some held =>
      match s.stages[held.source]? with
      | none => (s, some missing)
      | some source =>
        match (held.withSource source).commit s.owners with
        | .error err => (s, some err)
        | .ok (owners, spawn) =>
          ({ s with
              owners := owners
              stages := s.stages.modify held.source fun h =>
                { h with stage := spawn.source }
              spawns := s.spawns.modify i fun h => { h with spawn := spawn } }, none)
  | .stageWarpLaunch targets =>
    match VortexSim.stageWarpLaunch s.owners targets with
    | .error err => (s, some err)
    | .ok launch => ({ s with launches := s.launches ++ [launch] }, none)
  | .commitWarpLaunch i =>
    match s.launches[i]? with
    | none => (s, some missing)
    | some launch =>
      match launch.commit s.owners with
      | .error err => (s, some err)
      | .ok (owners, launch') =>
        ({ s with owners := owners, launches := s.launches.set i launch' }, none)

/-- A session: operations one after the other, failed ones included. -/
def run (ops : List StateOp) : StateStore := ops.foldl (fun s op => (s.step op).1) s

/-! ## The invariant -/

/-- Every owner is well formed, and every handle keeps it so when it is used. -/
structure WF (s : StateStore) : Prop where
  owners : s.owners.WF
  stages : ∀ h ∈ s.stages, h.stage.Sound
  spawns : ∀ h ∈ s.spawns, ∀ c ∈ h.spawn.targets, c.Sound
  launches : ∀ l ∈ s.launches, ∀ c ∈ l.targets, c.Sound

variable {s} {w : WarpState} {owners : Owners} {i : Nat}

theorem putOwner_wf (h : s.WF) (hw : w.WF) : (s.putOwner owner w).WF :=
  { h with owners := s.owners.update_wf h.owners hw }

/-- Streams and deliveries are apart from the owners. -/
theorem putStream_eq (s : StateStore) (d : HeldDelivery) (stream : EffectStream) :
    ∃ streams, s.putStream d stream = { s with streams } := by
  unfold putStream
  split <;> exact ⟨_, rfl⟩

theorem putPeer_eq (s : StateStore) (j : Option Nat) (peer : Option JointPeer) :
    ∃ streams deliveries, s.putPeer j peer = { s with streams, deliveries } := by
  unfold putPeer
  split
  · split
    · exact ⟨_, _, rfl⟩
    · rename_i held _
      obtain ⟨streams, heq⟩ := s.putStream_eq held _
      exact ⟨streams, _, congrArg (StateStore.putDelivery · _ _) heq⟩
  · exact ⟨_, _, rfl⟩

theorem setter_wf (hw : w.WF) {setter : Setter} (h : setter.run w = .ok w') : w'.WF := by
  cases setter with
  | writeRegister register mask values => exact WarpState.writeRegister_wf hw h
  | setPC pc => exact WarpState.setPC_wf hw h
  | setActiveMask mask lifecycle => exact WarpState.setActiveMask_wf hw h
  | setSavedThreadMask mask => exact WarpState.setSavedThreadMask_wf hw h
  | setFCSR value => exact WarpState.setFCSR_wf hw h
  | setTrapCSRs value =>
    cases h
    exact { hw with }
  | setDivergence initial => exact WarpState.setDivergence_wf hw h

theorem commitBy_outcome (s : EffectStage) (owner : WarpState) (kind : CommitKind) :
    CommitOutcome s owner (s.commitBy owner kind) := by
  cases kind with
  | plain => exact s.commit_outcome owner
  | afterExternal => exact s.commitAfterExternal_outcome owner
  | withExternal verdict => exact s.commitWithExternal_outcome owner () _
  | forwardedWithExternal verdict => exact s.commitForwardedWithExternal_outcome owner () _

/-- A commit does not change what its stage would install. -/
theorem commitOutcome_sound {s : EffectStage} (h : CommitOutcome s owner r) (hs : s.Sound) :
    r.stage.Sound := by
  cases h with
  | refused err => exact hs
  | installed fresh live => exact hs

theorem applyEffects_cases (h : w.applyEffects effects = .ok r) :
    ∃ stage, w.stageEffects effects = .ok stage ∧
      (r = (w, some stage) ∨ r = (stage.after, none)) := by
  unfold WarpState.applyEffects at h
  simp only [bind_eq_ok] at h
  obtain ⟨stage, hs, h⟩ := h
  refine ⟨stage, hs, ?_⟩
  split at h
  · cases h
    exact .inl rfl
  · have hout := stage.commit_outcome w
    generalize stage.commit w = result at h hout
    cases hout with
    | refused err => cases h
    | installed fresh live =>
      cases h
      exact .inr rfl

theorem stageSpawn_sound {d : EffectDelivery} {s : WarpSpawnStage}
    (h : d.stageSpawn owners owner stream targets activation = .ok s) :
    s.source.Sound ∧ ∀ c ∈ s.targets, c.Sound := by
  unfold EffectDelivery.stageSpawn at h
  simp only [ok_iff] at h
  obtain ⟨-, -, h⟩ := h
  split at h
  · split at h
    · split at h <;> cases h
    · rename_i hsource
      obtain ⟨hs, -, ht⟩ := stageWarpSpawn_sound h
      exact ⟨hs ▸ (stageInstructionEffects_on hsource).sound, ht⟩
  · simp only [bind_eq_ok] at h
    obtain ⟨source, hsource, h⟩ := h
    obtain ⟨hs, -, ht⟩ := stageWarpSpawn_sound h
    exact ⟨hs ▸ (stageEffects_on hsource).sound, ht⟩

/-- The two outcomes of a spawn delivery, as far as the owners go. -/
theorem deliverWarpSpawn_owners (h : owners.WF) (d : EffectDelivery) (owner : Owner)
    (stream : EffectStream) (targets : List WarpSpawnTarget)
    (activation : Bool) :
    (d.deliverWarpSpawn owners owner stream targets activation).owners.WF ∧
      ((d.deliverWarpSpawn owners owner stream targets activation).error ≠ none →
        (d.deliverWarpSpawn owners owner stream targets activation).owners = owners) := by
  unfold EffectDelivery.deliverWarpSpawn
  split
  · exact ⟨h, fun _ => rfl⟩
  · rename_i owners' s' heq
    obtain ⟨s, hs, hcommit⟩ := bind_eq_ok.mp heq
    obtain ⟨hsource, htargets⟩ := stageSpawn_sound hs
    exact ⟨WarpSpawnStage.commit_wf h hsource htargets hcommit, fun he => absurd rfl he⟩

/-- What every operation achieves: a well-formed store, with the owners untouched when it
reports an error. -/
structure Keeps (s : StateStore) (r : StateStore × Option Error) : Prop where
  wf : r.1.WF
  unchanged : r.2 ≠ none → r.1.owners = s.owners

theorem Keeps.failed (h : s.WF) (err : Error) : Keeps s (s, some err) :=
  ⟨h, fun _ => rfl⟩

theorem Keeps.done (h : s'.WF) : Keeps s (s', none) :=
  ⟨h, fun he => absurd rfl he⟩

theorem commit_keeps (h : s.WF) (hi : s.stages[i]? = some held) (kind : CommitKind) :
    Keeps s ({ s.putOwner held.owner (held.stage.commitBy (s.owners held.owner) kind).owner with
        stages := s.stages.modify i fun h =>
          { h with stage := (held.stage.commitBy (s.owners held.owner) kind).stage } },
      (held.stage.commitBy (s.owners held.owner) kind).error) := by
  have hsound := h.stages held (List.mem_of_getElem? hi)
  have hout := commitBy_outcome held.stage (s.owners held.owner) kind
  refine ⟨{ putOwner_wf h (hout.wf hsound (h.owners held.owner)) with stages := ?_ }, ?_⟩
  · exact forall_mem_modify h.stages fun x _ => commitOutcome_sound hout hsound
  · intro he
    simp only [putOwner, hout.unchanged he, Function.update_eq_self]

theorem deliver_keeps (h : s.WF) (i : Nat) (held : HeldDelivery) (event : VisibilityEvent)
    (lanes : LaneMask) (external : Option (ExternalOwner Unit)) :
    let r := held.delivery.deliver (s.owners held.owner) (s.streamOf held) () event lanes external
    Keeps s (((s.putOwner held.owner r.owner).putStream held r.stream).putDelivery i r.delivery,
      r.error) := by
  intro r
  have hout : DeliverOutcome held.delivery (s.owners held.owner) (s.streamOf held) event lanes r :=
    held.delivery.deliver_outcome _ _ _ _ _ _
  obtain ⟨streams, hput⟩ := (s.putOwner held.owner r.owner).putStream_eq held r.stream
  rw [hput]
  refine ⟨{ putOwner_wf h (hout.wf (h.owners held.owner)) with }, fun he => ?_⟩
  clear_value r
  cases hout with
  | refused world err => exact Function.update_eq_self _ _
  | delivered world stage prepared live => exact absurd rfl he

theorem deliverCSRJoint_keeps (h : s.WF) (i : Nat) (held : HeldDelivery) (flags trap : Option Nat)
    (fpeer tpeer : Option JointPeer)
    (external : Option (ExternalOwner Unit)) :
    let r := held.delivery.deliverCSRJoint (s.owners held.owner) () fpeer tpeer external
    Keeps s ((((s.putOwner held.owner r.owner).putDelivery i r.delivery).putPeer flags
      r.flags).putPeer trap r.trap, r.error) := by
  intro r
  have hout : JointOutcome held.delivery (s.owners held.owner) fpeer tpeer r :=
    held.delivery.deliverCSRJoint_outcome _ _ _ _ _
  obtain ⟨_, _, hflags⟩ :=
    ((s.putOwner held.owner r.owner).putDelivery i r.delivery).putPeer_eq flags r.flags
  rw [hflags]
  obtain ⟨_, _, htrap⟩ := putPeer_eq _ trap r.trap
  rw [htrap]
  refine ⟨{ putOwner_wf h (hout.wf (h.owners held.owner)) with }, fun he => ?_⟩
  clear_value r
  cases hout with
  | refused world err => exact Function.update_eq_self _ _
  | delivered world stage staged live => exact absurd rfl he

theorem deliverWarpSpawn_keeps (h : s.WF) (i : Nat) (held : HeldDelivery)
    (targets : List WarpSpawnTarget) (activation : Bool) :
    let r := held.delivery.deliverWarpSpawn s.owners held.owner (s.streamOf held) targets activation
    Keeps s ((({ s with owners := r.owners }).putStream held r.stream).putDelivery i r.delivery,
      r.error) := by
  intro r
  obtain ⟨hwf, herr⟩ := deliverWarpSpawn_owners h.owners held.delivery held.owner
    (s.streamOf held) targets activation
  obtain ⟨streams, hput⟩ := ({ s with owners := r.owners } : StateStore).putStream_eq held r.stream
  rw [hput]
  exact ⟨{ h with owners := hwf }, herr⟩

theorem commitWarpSpawn_keeps (h : s.WF) (hi : s.spawns[i]? = some held)
    (hsource : s.stages[held.source]? = some source)
    (hcommit : (held.withSource source).commit s.owners = .ok (owners, spawn)) : Keeps s ({ s with
        owners := owners
        stages := s.stages.modify held.source fun h => { h with stage := spawn.source }
        spawns := s.spawns.modify i fun h => { h with spawn := spawn } }, none) := by
  have hs := h.stages source (List.mem_of_getElem? hsource)
  have ht := h.spawns held (List.mem_of_getElem? hi)
  obtain ⟨hsrc, htgt⟩ : spawn.source.Sound ∧ spawn.targets = held.spawn.targets := by
    unfold WarpSpawnStage.commit at hcommit
    simp only [ok_iff, Prod.mk.injEq] at hcommit
    obtain ⟨-, -, -, -, rfl⟩ := hcommit
    exact ⟨hs, rfl⟩
  refine .done { h with owners := ?_, stages := ?_, spawns := ?_ }
  · exact WarpSpawnStage.commit_wf (s := held.withSource source) h.owners hs ht hcommit
  · exact forall_mem_modify h.stages fun x _ => hsrc
  · exact forall_mem_modify h.spawns fun x _ => htgt ▸ ht

theorem commitWarpLaunch_keeps (h : s.WF) (hi : s.launches[i]? = some launch)
    (hcommit : launch.commit s.owners = .ok (owners, launch')) :
    Keeps s ({ s with owners := owners, launches := s.launches.set i launch' }, none) := by
  have ht := h.launches launch (List.mem_of_getElem? hi)
  have htgt : launch'.targets = launch.targets := by
    unfold WarpLaunchStage.commit at hcommit
    simp only [ok_iff, Prod.mk.injEq] at hcommit
    obtain ⟨-, -, -, -, rfl⟩ := hcommit
    rfl
  refine .done { h with owners := ?_, launches := ?_ }
  · exact WarpLaunchStage.commit_wf h.owners ht hcommit
  · exact forall_mem_set h.launches (htgt ▸ ht)

/-- One operation, whatever it is and whether or not it succeeds. -/
theorem step_keeps (h : s.WF) (op : StateOp) : Keeps s (s.step op) := by
  cases op with
  | newWarp owner initial =>
    simp only [step]
    split
    · exact .failed h _
    · exact .done (putOwner_wf h (newWarp_wf ‹_›))
  | set owner setter =>
    simp only [step]
    split
    · exact .failed h _
    · exact .done (putOwner_wf h (setter_wf (h.owners owner) ‹_›))
  | apply owner effects =>
    simp only [step]
    cases happly : (s.owners owner).applyEffects effects with
    | error err => exact .failed h err
    | ok r =>
      obtain ⟨stage, hs, rfl | rfl⟩ := applyEffects_cases happly
      · exact .done { h with stages := forall_mem_snoc h.stages (stageEffects_on hs).sound }
      · obtain ⟨hbefore, hsound⟩ := stageEffects_on hs
        exact .done (putOwner_wf h (hsound (hbefore ▸ h.owners owner)))
  | stage owner effects =>
    simp only [step]
    split
    · exact .failed h _
    · exact .done { h with stages := forall_mem_snoc h.stages (stageEffects_on ‹_›).sound }
  | commit i kind =>
    simp only [step]
    split
    · exact .failed h _
    · exact commit_keeps h ‹_› kind
  | newStream _ | recordActivation _ _ | cancel _ => exact .done { h with }
  | newEffectDelivery owner effects =>
    simp only [step]
    split
    · exact .failed h _
    · exact .done { h with }
  | newDelivery i order context effects =>
    simp only [step]
    split
    · exact .failed h _
    · split
      · exact .failed h _
      · exact .done { h with }
  | deliver i event lanes external =>
    simp only [step]
    split
    · exact .failed h _
    · exact deliver_keeps h i _ event lanes _
  | deliverCSRJoint i flags trap external =>
    simp only [step]
    split
    · exact .failed h _
    · exact deliverCSRJoint_keeps h i _ flags trap _ _ _
  | deliverWarpSpawn i targets activation =>
    simp only [step]
    split
    · exact .failed h _
    · exact deliverWarpSpawn_keeps h i _ targets activation
  | stageWarpSpawn i targets =>
    simp only [step]
    split
    · exact .failed h _
    · split
      · exact .failed h _
      · rename_i heq
        exact .done { h with spawns := forall_mem_snoc h.spawns (stageWarpSpawn_sound heq).2.2 }
  | commitWarpSpawn i =>
    simp only [step]
    split
    · exact .failed h _
    · split
      · exact .failed h _
      · split
        · exact .failed h _
        · exact commitWarpSpawn_keeps h ‹_› ‹_› ‹_›
  | stageWarpLaunch targets =>
    simp only [step]
    split
    · exact .failed h _
    · rename_i heq
      exact .done { h with launches := forall_mem_snoc h.launches (stageWarpLaunch_sound heq) }
  | commitWarpLaunch i =>
    simp only [step]
    split
    · exact .failed h _
    · split
      · exact .failed h _
      · exact commitWarpLaunch_keeps h ‹_› ‹_›

/-- A whole session keeps every warp well formed. -/
theorem run_wf (h : s.WF) (ops : List StateOp) : (s.run ops).WF := by
  induction ops generalizing s with
  | nil => exact h
  | cons op ops ih => exact ih (step_keeps h op).wf

/-- In any session that starts from well-formed warps, every further operation leaves all
warps well formed, and leaves them as they are when it reports an error.  The constructor
returns well-formed warps only. -/
theorem operations_preserve_wf (owners : Owners) (h : owners.WF) (ops : List StateOp)
    (op : StateOp) :
    (∀ o, ((((StateStore.run { owners }) ops).step op).1.owners o).WF) ∧
      ((((StateStore.run { owners }) ops).step op).2 ≠ none →
        (((StateStore.run { owners }) ops).step op).1.owners =
          ((StateStore.run { owners }) ops).owners) ∧
      ∀ initial w, VortexSim.newWarp initial = .ok w → w.WF := by
  have hstart : ({ owners } : StateStore).WF :=
    ⟨h, fun _ hm => absurd hm List.not_mem_nil, fun _ hm => absurd hm List.not_mem_nil,
      fun _ hm => absurd hm List.not_mem_nil⟩
  have hkeeps := step_keeps (run_wf hstart ops) op
  exact ⟨hkeeps.wf.owners, hkeeps.unchanged, fun _ _ hw => newWarp_wf hw⟩

/-- A sequential step staged on warp zero of four fresh warps and committed. -/
theorem operations_preserve_wf_commit : let owners : Owners := fun o => freshWarp (o % 4)
    let next : InstructionEffects :=
      { control := some { reason := .sequential, currentPC := 0#32, nextPC := 4#32 } }
    let s := (StateStore.run { owners } [.stage 0 next]).step (.commit 0 .plain)
    s.2 = none ∧ (s.1.owners 0).pc = 4#32 ∧ ∀ o, (s.1.owners o).WF := by
  intro owners next s
  have hwf : owners.WF := fun o => freshWarp_wf (Nat.mod_lt o (by decide))
  exact ⟨by decide, by decide, (operations_preserve_wf owners hwf _ _).1⟩

end StateStore

end VortexSim
