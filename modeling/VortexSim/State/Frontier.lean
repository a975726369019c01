import VortexSim.State.SpawnTransaction
import VortexSim.State.StreamSession

/-!
# The control frontier of a stream

The frontier and the PC of the warp together are a register for stamped values: a control
above the frontier takes both over, a control at or below it leaves them.  So after any
interleaving the PC is the one of the newest control, whatever the order in which the
controls arrived.
-/

namespace VortexSim

open Checked

/-! ## The PC of a staged bundle -/

/-- The PC a control effect asks for, the present one without it. -/
def nextPC (control : Option ControlEffect) (pc : Word) : Word :=
  (control.map ControlEffect.nextPC).getD pc

theorem WarpState.apply_pc (w : WarpState) (e : InstructionEffects) :
    (w.apply e).pc = nextPC e.control w.pc := by
  have hdata := (w.applyData_sameControl e).pc
  cases hc : e.control with
  | none => exact (WarpState.transfer_pc_of_none _ hc).trans hdata
  | some control =>
    unfold WarpState.apply WarpState.transfer
    rw [hc]
    rfl

/-- What an instruction staged under its context makes of the owner. -/
theorem stageInstructionEffects_after {w : WarpState}
    (h : w.stageInstructionEffects context e = .ok stage) :
    stage.after.pc = nextPC e.control w.pc ∧ stage.after.id = w.id ∧ ForwardedOk w.id e := by
  unfold WarpState.stageInstructionEffects at h
  simp only [ok_iff] at h
  obtain ⟨logical, hl, staged, hs, rfl⟩ := h
  obtain ⟨-, rfl⟩ := withInstructionContext_eq_ok.mp hl
  obtain ⟨hok, rfl⟩ := stageEffects_eq_ok.mp hs
  refine ⟨?_, ?_, hok.forwarded⟩
  · cases hc : e.control with
    | none => simp only [WarpState.stageOf, if_true, apply_ite WarpState.pc, ite_self]; rfl
    | some control =>
      simp only [WarpState.stageOf, reduceCtorEq, if_false, apply_ite WarpState.pc, ite_self,
        WarpState.apply_pc, hc]
      rfl
  · simp only [WarpState.stageOf, apply_ite WarpState.id, WarpState.apply_id, ite_self]

/-- A trap comes with a control. -/
theorem stageInstructionEffects_trap {w : WarpState}
    (h : w.stageInstructionEffects context e = .ok stage) (htrap : e.trap = some trap) :
    ∃ control, e.control = some control := by
  unfold WarpState.stageInstructionEffects at h
  simp only [ok_iff] at h
  obtain ⟨logical, -, staged, hs, -⟩ := h
  obtain ⟨hok, -⟩ := stageEffects_eq_ok.mp hs
  obtain ⟨control, hcontrol, -⟩ := (hok.control.trap.2 trap htrap).kind
  exact ⟨control, hcontrol⟩

/-! ## Controls behind the frontier -/

/-- A control group that asks for nothing but the next instruction. -/
structure InstructionEffects.Sequential (e : InstructionEffects) : Prop where
  control : ∀ c ∈ e.control, c.reason = .sequential
  trap : e.trap = none
  masks : e.warpMasks = []
  divergence : e.divergence = none
  spawn : e.warpSpawn = none

/-- The nonblocking arrival of an instruction newer than the last activation. -/
def LateArrival (stream : EffectStream) (slot : StreamSlot) (e : InstructionEffects) : Prop :=
  stream.activationOrder < slot.order ∧ asynchronousArrival (controlPart e) = true

/-- The external part of a control group. -/
def externalPart (e : InstructionEffects) : InstructionEffects where
  warpDrains := e.warpDrains
  barriers := e.barriers

section

variable {owner : WarpState} {stream : EffectStream} {slot : StreamSlot} {e : InstructionEffects}

theorem not_staleControl_iff : ¬ staleControl (decide (stream.activationOrder < slot.order) &&
        asynchronousArrival (controlPart e)) (controlPart e) ↔
      e.Sequential ∧ (LateArrival stream slot e ∨ e.warpDrains = [] ∧ e.barriers = []) := by
  have hlate : (decide (stream.activationOrder < slot.order) &&
      asynchronousArrival (controlPart e)) = false ↔ ¬ LateArrival stream slot e := by
    unfold LateArrival
    rw [Bool.and_eq_false_iff, decide_eq_false_iff_not, not_and_or, Bool.not_eq_true]
  unfold staleControl
  rw [hlate]
  simp only [controlPart, not_or, not_exists, not_and, ne_eq, not_not, List.length_eq_zero_iff]
  constructor
  · rintro ⟨hc, ht, hm, hd, hs, hx⟩
    exact ⟨⟨hc, ht, hm, hd, hs⟩, or_iff_not_imp_left.mpr hx⟩
  · rintro ⟨h, hx⟩
    exact ⟨h.control, h.trap, h.masks, h.divergence, h.spawn, or_iff_not_imp_left.mp hx⟩

/-- A bundle for external owners only leaves the warp. -/
theorem WarpState.apply_externalPart (w : WarpState) (e : InstructionEffects) :
    w.apply (externalPart e) = w := rfl

theorem InstructionEffects.Sequential.late_part (h : e.Sequential) :
    { controlPart e with control := none } = externalPart e := by
  simp only [controlPart, externalPart, h.trap, h.masks, h.divergence, h.spawn, if_true]

/-- Behind the frontier only a sequential group is staged, and only for external owners. -/
theorem stageStreamControl_behind (hle : slot.order ≤ stream.controlOrder)
    (h : stageStreamControl owner stream slot (controlPart e) = .ok stage) :
    e.Sequential ∧ (LateArrival stream slot e ∨ e.warpDrains = [] ∧ e.barriers = []) ∧
      owner.stageOf (externalPart e) = stage := by
  unfold stageStreamControl at h
  rw [if_pos hle] at h
  simp only [ok_iff, not_staleControl_iff] at h
  obtain ⟨⟨hseq, hx⟩, h⟩ := h
  rw [hseq.late_part] at h
  exact ⟨hseq, hx, (stageEffects_eq_ok.mp h).2⟩

/-- A trap behind the frontier is refused. -/
theorem stageStreamControl_trap (hle : slot.order ≤ stream.controlOrder)
    (htrap : part.trap ≠ none) : stageStreamControl owner stream slot part ≠ .ok stage := by
  intro h
  unfold stageStreamControl at h
  rw [if_pos hle] at h
  simp only [ok_iff] at h
  exact h.1 (.inr (.inl htrap))

/-- The PC after a staged control: taken over above the frontier, left behind it. -/
theorem stageStreamControl_after {part : InstructionEffects}
    (h : stageStreamControl owner stream slot part = .ok stage) : stage.after.pc =
        (if slot.order ≤ stream.controlOrder then owner.pc else nextPC part.control owner.pc) ∧
      stage.after.id = owner.id := by
  unfold stageStreamControl at h
  split at h
  · rename_i hle
    simp only [ok_iff] at h
    obtain ⟨-, rfl⟩ := stageEffects_eq_ok.mp h.2
    exact ⟨(owner.apply_pc _).trans (if_pos hle).symm, owner.apply_id _⟩
  · rename_i hle
    obtain ⟨hpc, hid, -⟩ := stageInstructionEffects_after h
    exact ⟨hpc.trans (if_neg hle).symm, hid⟩

end

/-! ## One delivery as an offer -/

section

variable {ω : Type} {owner : WarpState} {stream : EffectStream} {slot : StreamSlot}
  {d : EffectDelivery}

/-- The frontier with the PC of the warp. -/
def shown (stream : EffectStream) (owner : WarpState) : Nat × Word :=
  (stream.controlOrder, owner.pc)

theorem controlReceipt_of_some (hslot : d.slot = some slot) {control : ControlEffect}
    (hc : d.effects.control = some control) (spawn : Bool) :
    d.controlReceipt spawn = some (slot.order, control.nextPC) := by
  unfold EffectDelivery.controlReceipt
  rw [hslot, hc]

theorem controlReceipt_of_none (hc : d.effects.control = none) : d.controlReceipt false = none := by
  unfold EffectDelivery.controlReceipt
  rw [hc]
  split
  · rfl
  · rename_i h
    cases h
  · rfl

/-- The frontier moves with the PC: both are taken over from a newer control. -/
theorem shown_advance (hslot : d.slot = some slot)
    (hpc : after.pc = if slot.order ≤ stream.controlOrder then owner.pc
      else nextPC d.effects.control owner.pc) : shown (d.advance .control stream) after =
      Newest.run (shown stream owner) (d.controlReceipt false).toList := by
  unfold EffectDelivery.advance
  rw [hslot]
  dsimp only
  cases hc : d.effects.control with
  | none =>
    rw [hc] at hpc
    have hpc' : after.pc = owner.pc := by
      rw [hpc]
      exact ite_self _
    rw [controlReceipt_of_none hc]
    exact congrArg (Prod.mk _) hpc'
  | some control =>
    rw [controlReceipt_of_some hslot hc]
    rw [hc] at hpc
    by_cases hle : slot.order ≤ stream.controlOrder
    · rw [if_pos hle] at hpc
      rw [if_neg fun h => Nat.not_le.mpr h.2.2 hle]
      exact (congrArg (Prod.mk _) hpc).trans (Newest.take_of_le hle).symm
    · rw [if_neg hle] at hpc
      have hlt := Nat.not_le.mp hle
      rw [if_pos ⟨rfl, Option.some_ne_none control, hlt⟩]
      exact (congrArg (Prod.mk _) hpc).trans (Newest.take_of_lt hlt).symm

/-- What precedes the stage of a control event. -/
theorem prepare_control (hslot : d.slot = some slot) :
    d.prepare owner stream .control lanes = .ok stage ↔
      d.cancelled = false ∧ d.delivered .control = false ∧ lanes = 0#8 ∧
        stageStreamControl owner stream slot (controlPart d.effects) = .ok stage := by
  unfold EffectDelivery.prepare EffectDelivery.project EffectDelivery.stageEvent
  rw [hslot]
  simp only [ok_iff, Bool.not_eq_true, ne_eq, reduceCtorEq, not_false_eq_true, true_and, not_not,
    exists_eq_left']

/-- Every other event stages a part without control. -/
theorem prepare_other (hevent : event ≠ .control)
    (h : d.prepare owner stream event lanes = .ok stage) :
    stage.after.pc = owner.pc ∧ stage.after.id = owner.id := by
  unfold EffectDelivery.prepare at h
  simp only [ok_iff] at h
  obtain ⟨-, -, -, part, hpart, hstage⟩ := h
  have hcontrol : part.control = none := by
    cases event with
    | writeback =>
      obtain ⟨-, rfl⟩ := project_writeback_eq_ok.mp hpart
      rfl
    | control => exact absurd rfl hevent
    | csr =>
      obtain ⟨-, rfl⟩ := project_csr_eq_ok.mp hpart
      rfl
    | fflags | memory | fault =>
      cases hpart
      rfl
  have hplain : owner.stageEffects part = .ok stage := by
    unfold EffectDelivery.stageEvent at hstage
    split at hstage
    · exact absurd rfl hevent
    · exact hstage
  obtain ⟨-, rfl⟩ := stageEffects_eq_ok.mp hplain
  refine ⟨?_, owner.apply_id part⟩
  rw [WarpState.stageOf, WarpState.apply_pc, hcontrol]
  rfl

theorem advance_other (hevent : event ≠ .control) : d.advance event stream = stream := by
  unfold EffectDelivery.advance
  split
  · rfl
  · exact if_neg fun h => hevent h.1

theorem advance_activation : (d.advance event stream).activationOrder = stream.activationOrder := by
  unfold EffectDelivery.advance
  split
  · rfl
  · split <;> rfl

/-- One delivery offers its control, and nothing else. -/
theorem deliver_shown (hslot : d.slot = some slot)
    (hr : DeliverOutcome d owner stream event lanes r) :
    shown r.stream r.owner = Newest.run (shown stream owner)
        (if r.error = none ∧ event = .control then d.controlReceipt false else none).toList ∧
      r.owner.id = owner.id ∧ r.stream.activationOrder = stream.activationOrder := by
  cases hr with
  | refused world err =>
    exact ⟨rfl, rfl, rfl⟩
  | delivered world stage prepared live =>
    by_cases hevent : event = .control
    · subst hevent
      obtain ⟨-, -, -, hstage⟩ := (prepare_control hslot).mp prepared
      obtain ⟨hpc, hid⟩ := stageStreamControl_after hstage
      exact ⟨shown_advance hslot hpc, hid, advance_activation⟩
    · rw [if_neg fun h => hevent h.2, advance_other hevent]
      obtain ⟨hpc, hid⟩ := prepare_other hevent prepared
      exact ⟨congrArg (Prod.mk _) hpc, hid, rfl⟩

/-! ## Joint deliveries -/

theorem mergeTrap_pc (after control : WarpState) (trap : TrapEffect) :
    (mergeTrap after control trap).pc = control.pc ∧
      (mergeTrap after control trap).id = after.id := by
  unfold mergeTrap
  split
  · exact ⟨rfl, rfl⟩
  · split <;> exact ⟨rfl, rfl⟩

/-- A trap joins only above the frontier, with its control. -/
theorem jointTrap_above {p : JointPeer} (hslot : p.delivery.slot = some slot)
    {control : EffectStage} (h : jointTrap owner p effect = .ok control) :
    p.stream.controlOrder < slot.order ∧ ∃ c, p.delivery.effects.control = some c ∧
      control.after.pc = c.nextPC := by
  unfold jointTrap EffectDelivery.stageEvent at h
  rw [hslot] at h
  simp only [ok_iff] at h
  obtain ⟨stage, hstage, -, rfl⟩ := h
  have hlt : p.stream.controlOrder < slot.order := by
    by_contra hle
    exact stageStreamControl_trap (Nat.not_lt.mp hle) (Option.some_ne_none effect) hstage
  unfold stageStreamControl at hstage
  rw [if_neg (Nat.not_le.mpr hlt)] at hstage
  obtain ⟨c, hc⟩ := stageInstructionEffects_trap hstage rfl
  obtain ⟨hpc, -, -⟩ := stageInstructionEffects_after hstage
  refine ⟨hlt, c, hc, ?_⟩
  rw [hpc, hc]
  rfl

/-- A joint delivery offers the control of its trap. -/
theorem joint_shown (hpeer : ∀ p ∈ trap, p.stream = stream ∧ ∃ slot, p.delivery.slot = some slot)
    (hr : JointOutcome d owner flags trap r) :
    shown ((r.trap.map JointPeer.stream).getD stream) r.owner = Newest.run (shown stream owner)
        (if r.error = none then
          trap.bind fun p => p.delivery.controlReceipt false else none).toList ∧
      r.owner.id = owner.id ∧
      ((r.trap.map JointPeer.stream).getD stream).activationOrder = stream.activationOrder := by
  cases hr with
  | refused world err =>
    cases trap with
    | none => exact ⟨rfl, rfl, rfl⟩
    | some p =>
      have hstream := (hpeer p rfl).1
      exact ⟨congrArg (shown · owner) hstream, rfl, congrArg _ hstream⟩
  | delivered world stage staged live =>
    obtain ⟨base, hbase, hjoin⟩ := jointStage_cases staged
    obtain ⟨-, rfl⟩ := stageEffects_eq_ok.mp hbase
    have hid := owner.apply_id {
      csrReads := d.effects.csrReads, csrWrites := d.effects.csrWrites
      fflags := flags.bind fun p => p.delivery.effects.fflags }
    rcases hjoin with ⟨rfl, rfl⟩ | ⟨p, effect, control, rfl, -, hcontrol, rfl⟩
    · exact ⟨congrArg (Prod.mk _) (owner.apply_pc _), hid, rfl⟩
    · obtain ⟨hstream, slot, hslot⟩ := hpeer p rfl
      obtain ⟨hlt, c, hc, hpc⟩ := jointTrap_above hslot hcontrol
      obtain ⟨hmerge, hmergeID⟩ := mergeTrap_pc (owner.stageOf {
          csrReads := d.effects.csrReads, csrWrites := d.effects.csrWrites
          fflags := flags.bind fun p => p.delivery.effects.fflags }).after control.after effect
      rw [hstream] at hlt
      have hreceipt : p.delivery.controlReceipt false = some (slot.order, c.nextPC) :=
        controlReceipt_of_some hslot hc false
      have hmoved : ((p.mark .control).advance).stream =
          { stream with controlOrder := slot.order } := by
        unfold JointPeer.advance JointPeer.mark
        simp only [hslot, hstream, hlt, if_true]
      simp only [Option.map_some, Option.getD_some, Option.bind_some, hreceipt, hmoved]
      refine ⟨?_, hmergeID.trans hid, trivial⟩
      exact (congrArg (Prod.mk _) (hmerge.trans hpc)).trans (Newest.take_of_lt hlt).symm

end

/-! ## Spawns -/

section

variable {stream : EffectStream} {slot : StreamSlot} {d : EffectDelivery}

/-- A spawn has the source step to the next instruction and nobody else touch it. -/
theorem stageWarpSpawn_source (h : stageWarpSpawn owners o source targets pc = .ok s)
    (hcommit : s.commit owners = .ok (owners', s')) :
    owners' o = source.after ∧ source.before = owners o ∧
      source.after = { owners o with pc := pc.getD (owners o).pc + 4#32 } := by
  obtain ⟨spawn, hsource, -, happlied⟩ := spawn_committed h hcommit
  exact ⟨happlied.source.trans hsource.after.symm, hsource.live, hsource.after⟩

/-- The source of a streamed spawn: above the frontier, at the instruction after it. -/
theorem stageSpawn_source (hslot : d.slot = some slot) {activation : Bool}
    (h : d.stageSpawn owners o stream targets activation = .ok s)
    (hcommit : s.commit owners = .ok (owners', s')) : stream.controlOrder < slot.order ∧
      d.controlReceipt true = some (slot.order, (owners' o).pc) ∧
      (owners' o).id = (owners o).id := by
  unfold EffectDelivery.stageSpawn at h
  simp only [ok_iff] at h
  obtain ⟨hfresh, -, h⟩ := h
  have hlt : stream.controlOrder < slot.order := by
    by_contra hle
    exact hfresh ⟨slot, hslot, .inl (Nat.not_lt.mp hle)⟩
  -- both ways to stage the source take the PC from the control effect
  have hsource : (owners' o).pc = slot.instruction.pc + 4#32 ∧
      (owners' o).pc = nextPC d.effects.control (owners o).pc ∧
      (owners' o).id = (owners o).id := by
    rw [hslot] at h
    cases activation with
    | true =>
      simp only at h
      split at h
      · split at h <;> cases h
      · rename_i source hstage
        obtain ⟨howner, -, hafter⟩ := stageWarpSpawn_source h hcommit
        obtain ⟨hpc, hid, -⟩ := stageInstructionEffects_after hstage
        rw [howner]
        exact ⟨congrArg WarpState.pc hafter, hpc, hid⟩
    | false =>
      simp only [bind_eq_ok] at h
      obtain ⟨source, hstage, h⟩ := h
      obtain ⟨howner, -, hafter⟩ := stageWarpSpawn_source h hcommit
      obtain ⟨-, rfl⟩ := stageEffects_eq_ok.mp hstage
      have hlive : (owners o).pc = slot.instruction.pc := by
        by_contra hne
        exact hfresh ⟨slot, hslot, .inr (.inl ⟨rfl, hne⟩)⟩
      rw [howner]
      refine ⟨?_, (owners o).apply_pc _, (owners o).apply_id _⟩
      rw [← hlive]
      exact congrArg WarpState.pc hafter
  obtain ⟨hpc, hnext, hid⟩ := hsource
  refine ⟨hlt, ?_, hid⟩
  cases hc : d.effects.control with
  | none =>
    unfold EffectDelivery.controlReceipt
    rw [hslot, hc, hpc]
    rfl
  | some control =>
    rw [controlReceipt_of_some hslot hc, hnext, hc]
    rfl

/-- A spawn offers its control. -/
theorem deliverWarpSpawn_shown (hslot : d.slot = some slot)
    (hr : d.deliverWarpSpawn owners o stream targets activation = r) :
    shown r.stream (r.owners o) = Newest.run (shown stream (owners o))
        (if r.error = none then d.controlReceipt true else none).toList ∧
      (r.owners o).id = (owners o).id ∧ r.stream.activationOrder = stream.activationOrder := by
  subst hr
  unfold EffectDelivery.deliverWarpSpawn
  split
  · exact ⟨rfl, rfl, rfl⟩
  · rename_i owners' s' heq
    obtain ⟨s, hs, hcommit⟩ := bind_eq_ok.mp heq
    obtain ⟨hlt, hreceipt, hid⟩ := stageSpawn_source hslot hs hcommit
    rw [if_pos rfl, hreceipt, hslot]
    exact ⟨(Newest.take_of_lt hlt).symm, hid, rfl⟩

end

/-! ## Deliveries behind the frontier -/

section

variable {ω : Type} {owner : WarpState} {stream : EffectStream} {slot : StreamSlot}
  {d : EffectDelivery}

/-- What may still happen to a control behind the frontier. -/
def Harmless (stream : EffectStream) (slot : StreamSlot) (e : InstructionEffects) : Prop :=
  e.Sequential ∧ (LateArrival stream slot e ∨ e.warpDrains = [] ∧ e.barriers = [])

theorem requiresOwner_externalPart : requiresOwner (forwardedEffects (externalPart e)) = false ↔
      e.warpDrains = [] ∧ e.barriers = [] := by
  simp [requiresOwner, forwardedEffects, externalPart]

theorem CommitOutcome.idle (h : CommitOutcome stage owner r) (hafter : stage.after = owner) :
    r.owner = owner := by
  cases h with
  | refused err => rfl
  | installed fresh live => exact hafter

theorem settle_local {stage : EffectStage} (h : stage.requiresExternal = false) (owner : WarpState)
    (world : ω) (external : Option (ExternalOwner ω)) (needs superfluous : String) :
    (stage.settle owner world external needs superfluous).1 = world := by
  unfold EffectStage.settle
  rw [h, if_neg Bool.false_ne_true]
  split <;> rfl

/-- The external owner decides about a stage that needs it. -/
theorem settle_external {e : InstructionEffects} (h : ¬ (e.warpDrains = [] ∧ e.barriers = []))
    (owner : WarpState) (world : ω) (call : ExternalOwner ω) (needs superfluous : String) :
    let settled :=
      (owner.stageOf (externalPart e)).settle owner world (some call) needs superfluous
    settled.1 = (call (externalPart e) world).1 ∧
      settled.2.error = (call (externalPart e) world).2 := by
  have hneeds : (owner.stageOf (externalPart e)).requiresExternal = true := by
    rw [← Bool.not_eq_false]
    exact fun hno => h (requiresOwner_externalPart.mp hno)
  have hfresh : (owner.stageOf (externalPart e)).committed = false := rfl
  have hlive : (owner.stageOf (externalPart e)).before = owner := rfl
  have hpart : (owner.stageOf (externalPart e)).forwarded = externalPart e := rfl
  simp only [EffectStage.settle, EffectStage.commitForwardedWithExternal, EffectStage.coordinate,
    hneeds, hfresh, hlive, hpart, ne_eq, not_true_eq_false, Bool.true_eq_false,
    Bool.false_eq_true, if_true, if_false]
  cases hcall : call (externalPart e) world with
  | mk world' verdict =>
    cases verdict with
    | none => exact ⟨rfl, rfl⟩
    | some err => exact ⟨rfl, rfl⟩

/-- Behind the frontier a control leaves warp and frontier.  It is refused unless it is
harmless, and the external world moves for a late arrival only. -/
theorem deliver_behind (hslot : d.slot = some slot) (hle : slot.order ≤ stream.controlOrder)
    (hr : d.deliver owner stream world .control lanes external = r) :
    r.owner = owner ∧ r.stream = stream ∧ (r.world ≠ world → LateArrival stream slot d.effects) ∧
      (¬ Harmless stream slot d.effects →
        ∃ err, r = { world, owner, stream, delivery := d, error := some err }) := by
  subst hr
  unfold EffectDelivery.deliver
  cases hprep : d.prepare owner stream .control lanes with
  | error err => exact ⟨rfl, rfl, fun h => absurd rfl h, fun _ => ⟨err, rfl⟩⟩
  | ok stage =>
    obtain ⟨-, -, -, hstage⟩ := (prepare_control hslot).mp hprep
    obtain ⟨hseq, hx, rfl⟩ := stageStreamControl_behind hle hstage
    dsimp only
    have hkeeps := (owner.stageOf (externalPart d.effects)).settle_outcome owner world external
      "visibility event requires external owner" "local event cannot invoke an external owner"
    have hadvance : d.advance .control stream = stream := by
      unfold EffectDelivery.advance
      rw [hslot]
      exact if_neg fun h => Nat.not_le.mpr h.2.2 hle
    have howner := hkeeps.idle (owner.apply_externalPart d.effects)
    have hworld : ((owner.stageOf (externalPart d.effects)).settle owner world external
        "visibility event requires external owner"
        "local event cannot invoke an external owner").1 ≠ world →
        LateArrival stream slot d.effects := by
      intro hmoved
      refine hx.resolve_right fun hnone => hmoved ?_
      exact settle_local (requiresOwner_externalPart.mpr hnone) owner world external _ _
    generalize (owner.stageOf (externalPart d.effects)).settle owner world external
      "visibility event requires external owner"
      "local event cannot invoke an external owner" = settled at hkeeps howner hworld ⊢
    have hrefuse : ∀ P : Prop, ¬ Harmless stream slot d.effects → P :=
      fun P h => absurd ⟨hseq, hx⟩ h
    obtain ⟨world', owner', staged, error⟩ := settled
    cases error with
    | none => exact ⟨howner, hadvance, hworld, hrefuse _⟩
    | some err => exact ⟨howner, rfl, hworld, hrefuse _⟩

/-- A late arrival is performed: its external owner is called with the drains and barriers,
and its verdict decides about the receipt. -/
theorem deliver_late (hslot : d.slot = some slot) (hle : slot.order ≤ stream.controlOrder)
    (hmade : ForwardedOk owner.id d.effects) (hlive : d.cancelled = false)
    (hnew : d.delivered .control = false) (hseq : d.effects.Sequential)
    (hlate : LateArrival stream slot d.effects) (call : ExternalOwner ω) {r : DeliverResult ω}
    (hr : d.deliver owner stream world .control 0#8 (some call) = r) :
    r.world = (call (externalPart d.effects) world).1 ∧
      r.error = (call (externalPart d.effects) world).2 := by
  have hbundle : BundleOk owner (externalPart d.effects) :=
    .noCSR { ForwardedOk.nothing _ with drains := hmade.drains, barriers := hmade.barriers }
      rfl rfl rfl rfl .nil (Plain.group (.of_none rfl rfl rfl rfl))
  have hprep : d.prepare owner stream .control 0#8 =
      .ok (owner.stageOf (externalPart d.effects)) := by
    refine (prepare_control hslot).mpr ⟨hlive, hnew, rfl, ?_⟩
    unfold stageStreamControl
    rw [if_pos hle]
    simp only [ok_iff, not_staleControl_iff]
    refine ⟨⟨hseq, .inl hlate⟩, ?_⟩
    rw [hseq.late_part]
    exact stageEffects_eq_ok.mpr ⟨hbundle, rfl⟩
  have hexternal : ¬ (d.effects.warpDrains = [] ∧ d.effects.barriers = []) := by
    rintro ⟨hdrains, -⟩
    have harrive := hlate.2
    unfold asynchronousArrival controlPart at harrive
    rw [hdrains] at harrive
    split at harrive
    · rename_i h
      cases h
    · cases harrive
  obtain ⟨hworld, herror⟩ := settle_external hexternal owner world call
    "visibility event requires external owner" "local event cannot invoke an external owner"
  subst hr
  unfold EffectDelivery.deliver
  rw [hprep]
  dsimp only
  generalize (owner.stageOf (externalPart d.effects)).settle owner world (some call)
    "visibility event requires external owner"
    "local event cannot invoke an external owner" = settled at hworld herror ⊢
  obtain ⟨world', owner', staged, error⟩ := settled
  cases error with
  | none => exact ⟨hworld, herror⟩
  | some err => exact ⟨hworld, herror⟩

end

end VortexSim
