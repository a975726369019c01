import VortexSim.State.Frontier

/-!
# The frontier over a whole session

Every operation other than an activation offers the control it delivers to frontier and PC, so
a session without an activation shows the newest of its controls.  A control at or below the
frontier changes no warp, whatever operation delivers it.
-/

namespace VortexSim

open Checked

/-! ## Deliveries of the stream -/

/-- A delivery of the stream: it has an order, and its effects for other owners were accepted
at creation. -/
structure EffectDelivery.Made (id : Nat) (d : EffectDelivery) : Prop where
  slot : ∃ slot, d.slot = some slot
  forwarded : ForwardedOk id d.effects

/-- Receipts do not matter. -/
theorem EffectDelivery.Made.same {id : Nat} {d d' : EffectDelivery} (h : d.Made id)
    (hslot : d'.slot = d.slot) (heffects : d'.effects = d.effects) : d'.Made id :=
  ⟨hslot ▸ h.slot, heffects ▸ h.forwarded⟩

theorem DeliverOutcome.made {id : Nat} (hr : DeliverOutcome d owner stream event lanes r)
    (h : d.Made id) : r.delivery.Made id := by
  cases hr with
  | refused world err => exact h
  | delivered world stage prepared live =>
    exact h.same (by cases event <;> rfl) (by cases event <;> rfl)

theorem newDelivery_made (h : EffectStream.newDelivery w order context effects = .ok d) :
    d.Made w.id := by
  unfold EffectStream.newDelivery at h
  simp only [ok_iff] at h
  obtain ⟨-, stage, hstage, rfl⟩ := h
  exact ⟨⟨_, rfl⟩, (stageInstructionEffects_after hstage).2.2⟩

theorem JointPeer.advance_delivery (p : JointPeer) : p.advance.delivery = p.delivery := by
  unfold JointPeer.advance
  split
  · rfl
  · split <;> rfl

namespace StreamSession

variable {ω : Type} {s : StreamSession ω}

/-- Every delivery is of the warp of the stream. -/
def Valid (s : StreamSession ω) : Prop := ∀ d ∈ s.deliveries, d.Made s.warp.id

theorem putWarp_self (s : StreamSession ω) : s.putWarp s.warp = s := by
  unfold putWarp warp
  rw [Function.update_eq_self]

variable {i : Nat} {d : EffectDelivery} {op : StreamOp ω} {err : Error}

theorem putDelivery_self (hd : s.deliveries[i]? = some d) : s.putDelivery i d = s := by
  obtain ⟨hi, rfl⟩ := List.getElem?_eq_some_iff.mp hd
  unfold putDelivery
  rw [List.set_getElem_self]

@[simp] theorem putPeer_owners (s : StreamSession ω) (j : Option Nat) (peer : Option JointPeer) :
    (s.putPeer j peer).owners = s.owners := by
  unfold putPeer
  split <;> rfl

@[simp] theorem putPeer_owner (s : StreamSession ω) (j : Option Nat) (peer : Option JointPeer) :
    (s.putPeer j peer).owner = s.owner := by
  unfold putPeer
  split <;> rfl

theorem mem_of_peer (h : j.bind (s.peer apart) = some p) :
    ∃ i, j = some i ∧ s.deliveries[i]? = some p.delivery ∧ p.stream = s.stream := by
  obtain ⟨i, rfl, hp⟩ := Option.bind_eq_some_iff.mp h
  obtain ⟨d, hd, rfl⟩ := Option.map_eq_some_iff.mp hp
  exact ⟨i, rfl, hd, rfl⟩

theorem delivers_of_error (h : (s.perform op).2 = some err) : s.delivers op = none := by
  unfold delivers
  rw [h, if_neg (Option.some_ne_none err)]

theorem delivers_of_controls (h : op.controls = none) : s.delivers op = none := by
  unfold delivers
  rw [h]
  exact ite_self _

theorem onDelivery_of_some (hd : s.deliveries[i]? = some d) (inactive : String)
    (use : EffectDelivery → StreamSession ω × Option Error) :
    s.onDelivery i inactive use = use d := by
  unfold onDelivery
  rw [hd]

/-- Either the delivery is used, or nothing happens. -/
theorem perform_cases (s : StreamSession ω) (op : StreamOp ω)
    (hop : s.perform op = s.onDelivery i inactive use) :
    (∃ d, s.deliveries[i]? = some d ∧ s.perform op = use d) ∨
      ∃ err, s.perform op = (s, some err) := by
  rw [hop]
  cases hd : s.deliveries[i]? with
  | none =>
    refine .inr ⟨.text inactive, ?_⟩
    unfold onDelivery
    rw [hd]
  | some d => exact .inl ⟨d, rfl, onDelivery_of_some hd inactive use⟩

/-- Frontier and PC after an operation are those of before with the delivered control offered
to them.  The identity of the warp and the activation frontier stay. -/
structure Offers (s : StreamSession ω) (op : StreamOp ω) : Prop where
  shown : shown (s.perform op).1.stream (s.perform op).1.warp =
    Newest.run (shown s.stream s.warp) (s.delivers op).toList
  id : (s.perform op).1.warp.id = s.warp.id
  activation : (s.perform op).1.stream.activationOrder = s.stream.activationOrder

theorem Offers.of_error (h : s.perform op = (s, some err)) : s.Offers op where
  shown := by
    rw [delivers_of_error (congrArg Prod.snd h), h]
    rfl
  id := by rw [h]
  activation := by rw [h]

theorem Offers.of_idle (hop : op.controls = none) (hstream : (s.perform op).1.stream = s.stream)
    (hwarp : (s.perform op).1.warp = s.warp) :
    s.Offers op where
  shown := by
    rw [delivers_of_controls hop, hstream, hwarp]
    rfl
  id := by rw [hwarp]
  activation := by rw [hstream]

theorem deliver_offers (hs : s.Valid) (i : Nat) (event : VisibilityEvent) (lanes : LaneMask)
    (external : Option (ExternalOwner ω)) : s.Offers (.deliver i event lanes external) := by
  rcases s.perform_cases (.deliver i event lanes external) rfl with ⟨d, hd, hop⟩ | ⟨err, hop⟩
  · obtain ⟨slot, hslot⟩ := (hs d (List.mem_of_getElem? hd)).slot
    obtain ⟨hshown, hid, hactivation⟩ := deliver_shown hslot
      (d.deliver_outcome s.warp s.stream s.world event lanes external)
    generalize d.deliver s.warp s.stream s.world event lanes external = r
      at hop hshown hid hactivation
    have hwarp : (s.afterDeliver i r).1.warp = r.owner := Function.update_self _ _ _
    have hreceipt : (if r.error = none ∧ event = .control then d.controlReceipt false else none) =
        s.delivers (.deliver i event lanes external) := by
      unfold delivers
      rw [hop]
      by_cases hevent : event = .control
      · subst hevent
        rw [StreamOp.controls, Option.bind_some, hd, Option.bind_some]
        simp only [and_true]
        rfl
      · have hcontrols : (StreamOp.deliver i event lanes external).controls = none := by
          cases event with
          | control => exact absurd rfl hevent
          | writeback | csr | fflags | memory | fault => rfl
        rw [if_neg fun h => hevent h.2, hcontrols]
        exact (ite_self _).symm
    rw [hreceipt] at hshown
    exact {
      shown := by
        rw [hop, hwarp]
        exact hshown
      id := by rw [hop, hwarp, hid]
      activation := by
        rw [hop]
        exact hactivation }
  · exact .of_error hop

theorem joint_offers (hs : s.Valid) (i : Nat) (flags trap : Option Nat)
    (external : Option (ExternalOwner ω)) : s.Offers (.deliverCSRJoint i flags trap external) := by
  rcases s.perform_cases (.deliverCSRJoint i flags trap external) rfl with ⟨d, hd, hop⟩ | ⟨err, hop⟩
  · have hpeer : ∀ p ∈ trap.bind (s.peer (i :: flags.toList)),
        p.stream = s.stream ∧ ∃ slot, p.delivery.slot = some slot := by
      intro p hp
      obtain ⟨j, -, hj, hstream⟩ := mem_of_peer hp
      exact ⟨hstream, (hs _ (List.mem_of_getElem? hj)).slot⟩
    obtain ⟨hshown, hid, hactivation⟩ := joint_shown hpeer
      (d.deliverCSRJoint_outcome s.warp s.world (flags.bind (s.peer [i])) _ external)
    generalize d.deliverCSRJoint s.warp s.world (flags.bind (s.peer [i]))
      (trap.bind (s.peer (i :: flags.toList))) external = r
      at hop hshown hid hactivation
    have hwarp : (s.afterJoint i flags trap r).1.warp = r.owner := by
      unfold afterJoint warp
      simp only [putPeer_owners, putPeer_owner]
      exact Function.update_self _ _ _
    have hreceipt : ((trap.bind (s.peer (i :: flags.toList))).bind
        fun p => p.delivery.controlReceipt false) =
        (trap.bind (s.deliveries[·]?)).bind (·.controlReceipt false) := by
      cases trap with
      | none => rfl
      | some j =>
        simp only [Option.bind_some, peer]
        cases s.deliveries[j]? <;> rfl
    rw [hreceipt] at hshown
    exact {
      shown := by
        unfold delivers
        rw [hop, hwarp]
        exact hshown
      id := by rw [hop, hwarp, hid]
      activation := by
        rw [hop]
        exact hactivation }
  · exact .of_error hop

theorem spawn_offers (hs : s.Valid) (i : Nat) (targets : List WarpSpawnTarget) (activation : Bool) :
    s.Offers (.deliverWarpSpawn i targets activation) := by
  rcases s.perform_cases (.deliverWarpSpawn i targets activation) rfl with
    ⟨d, hd, hop⟩ | ⟨err, hop⟩
  · obtain ⟨slot, hslot⟩ := (hs d (List.mem_of_getElem? hd)).slot
    obtain ⟨hshown, hid, hactivation⟩ := deliverWarpSpawn_shown hslot rfl
    exact {
      shown := by
        unfold delivers
        rw [hop, StreamOp.controls, Option.bind_some, hd, Option.bind_some]
        exact hshown
      id := by
        rw [hop]
        exact hid
      activation := by
        rw [hop]
        exact hactivation }
  · exact .of_error hop

/-- Every operation other than an activation offers the control it delivers. -/
theorem perform_offers (hs : s.Valid) (op : StreamOp ω) (hop : op.activates = none) :
    s.Offers op := by
  cases op with
  | newDelivery _ _ _ | cancel _ =>
    refine .of_idle rfl ?_ ?_ <;>
    · unfold perform
      dsimp only
      split <;> rfl
  | deliver i event lanes external => exact deliver_offers hs i event lanes external
  | deliverCSRJoint i flags trap external => exact joint_offers hs i flags trap external
  | deliverWarpSpawn i targets activation => exact spawn_offers hs i targets activation
  | activate activation through => cases hop
  | others owners => exact .of_idle rfl rfl (Function.update_self _ _ _)

/-! ## Whole sessions -/

theorem Valid.of_deliveries {s' : StreamSession ω} (hid : s'.warp.id = s.warp.id)
    (h : ∀ d ∈ s'.deliveries, d.Made s.warp.id) : s'.Valid := by
  unfold Valid
  rw [hid]
  exact h

theorem putPeer_made {id : Nat} {peer : Option JointPeer} (h : ∀ d ∈ s.deliveries, d.Made id)
    (hp : ∀ p ∈ peer, p.delivery.Made id) : ∀ d ∈ (s.putPeer j peer).deliveries, d.Made id := by
  unfold putPeer
  split
  · exact Lists.forall_mem_set h (hp _ rfl)
  · exact h

theorem joint_made (hs : s.Valid) {trap : Option Nat} (hd : s.deliveries[i]? = some d)
    {r : JointResult ω}
    (hr : JointOutcome d s.warp (flags.bind (s.peer [i]))
      (trap.bind (s.peer (i :: flags.toList))) r) :
    ∀ d ∈ (s.afterJoint i flags trap r).1.deliveries, d.Made s.warp.id := by
  have hmade := hs d (List.mem_of_getElem? hd)
  have hpeer : ∀ {apart : List Nat} {j : Option Nat}, ∀ p ∈ j.bind (s.peer apart),
      p.delivery.Made s.warp.id := by
    intro apart j p hp
    obtain ⟨k, -, hk, -⟩ := mem_of_peer hp
    exact hs _ (List.mem_of_getElem? hk)
  cases hr with
  | refused world err =>
    exact putPeer_made (putPeer_made (Lists.forall_mem_set hs hmade) hpeer) hpeer
  | delivered world stage staged live =>
    refine putPeer_made (putPeer_made (Lists.forall_mem_set hs (hmade.same rfl rfl)) ?_) ?_
    · intro p hp
      obtain ⟨q, hq, rfl⟩ := Option.map_eq_some_iff.mp hp
      exact (hpeer q hq).same rfl rfl
    · intro p hp
      obtain ⟨q, hq, rfl⟩ := Option.map_eq_some_iff.mp hp
      rw [JointPeer.advance_delivery]
      exact (hpeer q hq).same rfl rfl

theorem perform_made (hs : s.Valid) (op : StreamOp ω) :
    ∀ d ∈ (s.perform op).1.deliveries, d.Made s.warp.id := by
  cases op with
  | newDelivery order context effects =>
    unfold perform
    dsimp only
    split
    · exact hs
    · rename_i d hd
      exact Lists.forall_mem_snoc hs (newDelivery_made hd)
  | cancel i =>
    unfold perform
    dsimp only
    split
    · exact hs
    · rename_i d hd
      exact Lists.forall_mem_set hs ((hs d (List.mem_of_getElem? hd)).same rfl rfl)
  | deliver i event lanes external =>
    rcases s.perform_cases (.deliver i event lanes external) rfl with ⟨d, hd, hop⟩ | ⟨err, hop⟩ <;>
      rw [hop]
    · exact Lists.forall_mem_set hs ((d.deliver_outcome s.warp s.stream s.world event lanes
        external).made (hs d (List.mem_of_getElem? hd)))
    · exact hs
  | deliverCSRJoint i flags trap external =>
    rcases s.perform_cases (.deliverCSRJoint i flags trap external) rfl with
      ⟨d, hd, hop⟩ | ⟨err, hop⟩ <;> rw [hop]
    · exact joint_made hs hd (d.deliverCSRJoint_outcome _ _ _ _ _)
    · exact hs
  | deliverWarpSpawn i targets activation =>
    rcases s.perform_cases (.deliverWarpSpawn i targets activation) rfl with
      ⟨d, hd, hop⟩ | ⟨err, hop⟩ <;> rw [hop]
    · refine Lists.forall_mem_set hs ?_
      have hmade := hs d (List.mem_of_getElem? hd)
      unfold EffectDelivery.deliverWarpSpawn
      split
      · exact hmade
      · exact hmade.same rfl rfl
    · exact hs
  | activate activation through => exact hs
  | others owners => exact hs

theorem activates_eq_some (hop : op.activates = some through) :
    ∃ activation, op = .activate activation through := by
  cases op with
  | activate activation through =>
    cases hop
    exact ⟨activation, rfl⟩
  | newDelivery | cancel | deliver | deliverCSRJoint | deliverWarpSpawn | others => cases hop

theorem perform_id (hs : s.Valid) (op : StreamOp ω) : (s.perform op).1.warp.id = s.warp.id := by
  cases hop : op.activates with
  | none => exact (perform_offers hs op hop).id
  | some through =>
    obtain ⟨activation, rfl⟩ := activates_eq_some hop
    have hwarp : (s.perform (.activate activation through)).1.warp =
        activation.apply s.warp := Function.update_self _ _ _
    rw [hwarp]
    cases activation <;> rfl

theorem perform_valid (hs : s.Valid) (op : StreamOp ω) : (s.perform op).1.Valid :=
  .of_deliveries (perform_id hs op) (perform_made hs op)

theorem run_valid (hs : s.Valid) (ops : List (StreamOp ω)) : (s.run ops).Valid := by
  induction ops generalizing s with
  | nil => exact hs
  | cons op ops ih => exact ih (perform_valid hs op)

/-- Without an activation, a session offers its controls one after the other. -/
theorem run_shown (hs : s.Valid) (hops : ∀ op ∈ ops, op.activates = none) :
    shown (s.run ops).stream (s.run ops).warp =
      Newest.run (shown s.stream s.warp) (s.delivered ops) := by
  induction ops generalizing s with
  | nil => rfl
  | cons op ops ih =>
    obtain ⟨hop, hrest⟩ := List.forall_mem_cons.mp hops
    rw [delivered, Newest.run, List.foldl_append]
    refine (ih (perform_valid hs op) hrest).trans ?_
    rw [(perform_offers hs op hop).shown]
    rfl

theorem perform_frontier (hs : s.Valid) (op : StreamOp ω) :
    s.stream.controlOrder ≤ (s.perform op).1.stream.controlOrder := by
  cases hop : op.activates with
  | none =>
    have hle := Newest.le_run (shown s.stream s.warp) (s.delivers op).toList
    rw [← (perform_offers hs op hop).shown] at hle
    exact hle
  | some through =>
    obtain ⟨activation, rfl⟩ := activates_eq_some hop
    exact Nat.le_max_left _ _

/-- The activation frontier is the farthest activation. -/
theorem run_activation (hs : s.Valid) (ops : List (StreamOp ω)) :
    (s.run ops).stream.activationOrder =
      (ops.filterMap StreamOp.activates).foldl max s.stream.activationOrder := by
  induction ops generalizing s with
  | nil => rfl
  | cons op ops ih =>
    refine (ih (perform_valid hs op)).trans ?_
    cases hop : op.activates with
    | none => rw [List.filterMap_cons_none hop, (perform_offers hs op hop).activation]
    | some through =>
      rw [List.filterMap_cons_some hop]
      obtain ⟨activation, rfl⟩ := activates_eq_some hop
      rfl

/-! ## Controls behind the frontier of a session -/

/-- What an operation does with a control at or below the frontier: nothing to any warp, and
nothing at all unless the control is harmless.  The external world moves for a late arrival
only, and for that one as its owner decides. -/
structure StaysBehind (s : StreamSession ω) (op : StreamOp ω) (d : EffectDelivery)
    (slot : StreamSlot) : Prop where
  owners : (s.perform op).1.owners = s.owners
  stream : (s.perform op).1.stream = s.stream
  refused : (∀ i lanes external, op ≠ .deliver i .control lanes external) ∨
    ¬ Harmless s.stream slot d.effects → ∃ err, s.perform op = (s, some err)
  external : (s.perform op).1.world ≠ s.world → LateArrival s.stream slot d.effects
  late : ∀ i call, op = .deliver i .control 0#8 (some call) → d.cancelled = false →
    d.delivered .control = false → d.effects.Sequential → LateArrival s.stream slot d.effects →
    (s.perform op).1.world = (call (externalPart d.effects) s.world).1 ∧
      (s.perform op).2 = (call (externalPart d.effects) s.world).2

theorem StaysBehind.of_refused (h : s.perform op = (s, some err))
    (hop : ∀ i lanes external, op ≠ .deliver i .control lanes external) :
    s.StaysBehind op d slot where
  owners := by rw [h]
  stream := by rw [h]
  refused := fun _ => ⟨err, h⟩
  external := fun hmoved => absurd (by rw [h]) hmoved
  late := fun i call heq => absurd heq (hop i 0#8 (some call))

theorem putPeer_self (s : StreamSession ω) (apart : List Nat) (j : Option Nat) :
    s.putPeer j (j.bind (s.peer apart)) = s := by
  cases j with
  | none => rfl
  | some j =>
    rw [Option.bind_some, peer]
    cases hd : s.deliveries[j]? with
    | none => rfl
    | some d => exact putDelivery_self hd

section

variable {i : Nat} {d : EffectDelivery} {slot : StreamSlot}

theorem deliver_staysBehind (hs : s.Valid) (hd : s.deliveries[i]? = some d)
    (hslot : d.slot = some slot) (hle : slot.order ≤ s.stream.controlOrder) (lanes : LaneMask)
    (external : Option (ExternalOwner ω)) :
    s.StaysBehind (.deliver i .control lanes external) d slot := by
  have hop : s.perform (.deliver i .control lanes external) =
      s.afterDeliver i (d.deliver s.warp s.stream s.world .control lanes external) :=
    onDelivery_of_some hd _ _
  obtain ⟨howner, hstream, hworld, hrefused⟩ := deliver_behind hslot hle
    (rfl : d.deliver s.warp s.stream s.world .control lanes external = _)
  refine ⟨?_, ?_, ?_, ?_, ?_⟩
  · rw [hop]
    refine (congrArg (Function.update s.owners s.owner) howner).trans ?_
    exact Function.update_eq_self _ _
  · rw [hop]
    exact hstream
  · rintro (hother | hharm)
    · exact absurd rfl (hother i lanes external)
    · obtain ⟨err, heq⟩ := hrefused hharm
      refine ⟨err, ?_⟩
      rw [hop, heq, afterDeliver, putWarp_self, putDelivery_self hd]
  · rw [hop]
    exact hworld
  · rintro j call heq hlive hnew hseq hlate
    cases heq
    rw [hop]
    exact deliver_late hslot hle (hs d (List.mem_of_getElem? hd)).forwarded hlive hnew hseq hlate
      call rfl

theorem joint_staysBehind (hd : s.deliveries[i]? = some d) (hslot : d.slot = some slot)
    (hle : slot.order ≤ s.stream.controlOrder) (j : Nat) (flags : Option Nat)
    (external : Option (ExternalOwner ω)) :
    s.StaysBehind (.deliverCSRJoint j flags (some i) external) d slot := by
  have hother : ∀ k lanes external', StreamOp.deliverCSRJoint j flags (some i) external ≠
      .deliver k .control lanes external' := by
    rintro k lanes external' ⟨⟩
  rcases s.perform_cases (.deliverCSRJoint j flags (some i) external) rfl with
    ⟨e, he, hop⟩ | ⟨err, hop⟩
  · cases hstage : e.jointStage s.warp (flags.bind (s.peer [j]))
        ((some i).bind (s.peer (j :: flags.toList))) with
    | ok stage =>
      obtain ⟨_, -, hjoin⟩ := jointStage_cases hstage
      obtain ⟨hnone, -⟩ | ⟨p, effect, control, hp, -, hcontrol, -⟩ := hjoin
      · rw [Option.bind_some, peer, hd] at hnone
        cases hnone
      · rw [Option.bind_some, peer, hd] at hp
        cases hp
        exact absurd (jointTrap_above hslot hcontrol).1 (Nat.not_lt.mpr hle)
    | error err =>
      have hr : e.deliverCSRJoint s.warp s.world (flags.bind (s.peer [j]))
          ((some i).bind (s.peer (j :: flags.toList))) external =
          { world := s.world, owner := s.warp, delivery := e, flags := flags.bind (s.peer [j])
            trap := (some i).bind (s.peer (j :: flags.toList)), error := some err } := by
        unfold EffectDelivery.deliverCSRJoint
        rw [hstage]
      have hrefused : s.perform (.deliverCSRJoint j flags (some i) external) = (s, some err) := by
        rw [hop, hr, afterJoint, putWarp_self, putDelivery_self he, putPeer_self, putPeer_self,
          Option.bind_some, peer, hd]
        rfl
      exact .of_refused hrefused hother
  · exact .of_refused hop hother

theorem spawn_staysBehind (hd : s.deliveries[i]? = some d) (hslot : d.slot = some slot)
    (hle : slot.order ≤ s.stream.controlOrder) (targets : List WarpSpawnTarget)
    (activation : Bool) : s.StaysBehind (.deliverWarpSpawn i targets activation) d slot := by
  have hop : s.perform (.deliverWarpSpawn i targets activation) =
      s.afterSpawn i (d.deliverWarpSpawn s.owners s.owner s.stream targets activation) :=
    onDelivery_of_some hd _ _
  have hstale : staleSpawn d (s.owners s.owner) s.stream activation := ⟨slot, hslot, .inl hle⟩
  have hr : d.deliverWarpSpawn s.owners s.owner s.stream targets activation =
      { owners := s.owners, stream := s.stream, delivery := d
        error := some (.text "stale concurrent spawn control context") } := by
    unfold EffectDelivery.deliverWarpSpawn EffectDelivery.stageSpawn
    rw [rejectIf_of hstale]
    rfl
  have hrefused : s.perform (.deliverWarpSpawn i targets activation) =
      (s, some (.text "stale concurrent spawn control context")) := by
    rw [hop, hr, afterSpawn, putDelivery_self hd]
  refine .of_refused hrefused ?_
  rintro k lanes external ⟨⟩

/-- Every operation on a control at or below the frontier. -/
theorem perform_staysBehind (hs : s.Valid) (hop : op.controls = some i)
    (hd : s.deliveries[i]? = some d) (hslot : d.slot = some slot)
    (hle : slot.order ≤ s.stream.controlOrder) : s.StaysBehind op d slot := by
  cases op with
  | deliver j event lanes external =>
    cases event with
    | control =>
      cases hop
      exact deliver_staysBehind hs hd hslot hle lanes external
    | writeback | csr | fflags | memory | fault => cases hop
  | deliverCSRJoint j flags trap external =>
    obtain rfl : trap = some i := hop
    exact joint_staysBehind hd hslot hle j flags external
  | deliverWarpSpawn j targets activation =>
    cases hop
    exact spawn_staysBehind hd hslot hle targets activation
  | newDelivery | cancel | activate | others => cases hop

end

/-! ## The frontier governs the session -/

theorem run_append (s : StreamSession ω) (before after : List (StreamOp ω)) :
    s.run (before ++ after) = (s.run before).run after :=
  List.foldl_append

/-- Since a point after which no activation came, the PC is the one of the newest control
delivered above the frontier of that point, and still the PC of that point without one. -/
theorem run_pc (hs : s.Valid) (hops : ∀ op ∈ ops, op.activates = none) :
    ((∀ c ∈ s.delivered ops, c.1 ≤ s.stream.controlOrder) ∧ (s.run ops).warp.pc = s.warp.pc) ∨
      ∃ c, s.stream.controlOrder < c.1 ∧ Newest.First (s.delivered ops) c ∧
        (s.run ops).warp.pc = c.2 := by
  have hpc := congrArg Prod.snd (run_shown hs hops)
  rcases Newest.run_cases (shown s.stream s.warp) (s.delivered ops) with ⟨hle, heq⟩ | ⟨hlt, hfirst⟩
  · rw [heq] at hpc
    exact .inl ⟨hle, hpc⟩
  · exact .inr ⟨_, hlt, hfirst, hpc⟩

/-- For every interleaving of deliveries and activations on a new stream: the frontier never
decreases; since any point after which no activation came the PC follows the newest control
delivered above the frontier of that point; the activation frontier is the farthest
activation; and a control at or below the frontier stays behind it. -/
theorem frontier_governs (owners : Owners) (owner : Owner) (world : ω) (ops : List (StreamOp ω)) :
    let start : StreamSession ω := { owners, owner, world }
    let s := start.run ops
    (∀ op, s.stream.controlOrder ≤ (s.perform op).1.stream.controlOrder) ∧
      (∀ before after, ops = before ++ after → (∀ op ∈ after, op.activates = none) →
        let base := start.run before
        ((∀ c ∈ base.delivered after, c.1 ≤ base.stream.controlOrder) ∧ s.warp.pc = base.warp.pc) ∨
          ∃ c, base.stream.controlOrder < c.1 ∧ Newest.First (base.delivered after) c ∧
            s.warp.pc = c.2) ∧
      s.stream.activationOrder = (ops.filterMap StreamOp.activates).foldl max 0 ∧
      ∀ op i d slot, op.controls = some i → s.deliveries[i]? = some d → d.slot = some slot →
        slot.order ≤ s.stream.controlOrder → s.StaysBehind op d slot := by
  intro start s
  have hstart : start.Valid := fun d hd => absurd hd List.not_mem_nil
  have hs : s.Valid := run_valid hstart ops
  refine ⟨perform_frontier hs, ?_, run_activation hstart ops, ?_⟩
  · rintro before after rfl hafter
    have h := run_pc (run_valid hstart before) hafter
    rw [← run_append] at h
    exact h
  · intro op i d slot hop hd hslot hle
    exact perform_staysBehind hs hop hd hslot hle

/-- The context of a sequential instruction at `0x200`. -/
def sequentialContext : InstructionContext := { warpID := 0, pc := 0x200#32, mask := allLanes }

/-- A control of order 3 created before an activation up to order 5 and delivered after it. -/
def lateSequentialOps : List (StreamOp Unit) :=
  [.newDelivery 3 sequentialContext { control := some (sequentialControl 0x200#32) },
    .activate .bare 5, .deliver 0 .control 0#8 none]

/-- The only control delivered since the activation is accepted, and the PC is not its. -/
theorem late_sequential_leaves_pc :
    let start : StreamSession Unit := { owners := fun _ => freshWarp 0, owner := 0, world := () }
    let base := start.run (lateSequentialOps.take 2)
    (base.perform (.deliver 0 .control 0#8 none)).2 = none ∧
      base.delivered (lateSequentialOps.drop 2) = [(3, 0x204#32)] ∧
      (start.run lateSequentialOps).warp.pc = 0#32 := by
  decide +kernel

end StreamSession

end VortexSim
