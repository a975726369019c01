import VortexSim.State.Footprint
import VortexSim.State.Progress

/-!
# The order of visibility events

The deliveries of one instruction may come in any order, with refused and repeated ones
among them.  When nothing is left to deliver the warp is the one that a single commit of the
whole bundle makes.  A delivery of a stream is validated against its latched context; as long
as no other instruction moves the warp this context is the one the warp has.
-/

namespace VortexSim

open Checked

/-! ## The latched context -/

/-- The latched context of an instruction is the one its warp has. -/
structure InstructionContext.Live (context : InstructionContext) (w : WarpState) : Prop where
  warp : context.warpID = w.id
  pc : context.pc = w.pc
  mask : context.mask = w.activeMask
  running : w.activeMask ≠ 0#8

/-- Under a live context the latched stage is the ordinary one. -/
theorem stageInstructionEffects_live (hw : w.WF) {context : InstructionContext} (h : context.Live w)
    (e : InstructionEffects) : w.stageInstructionEffects context e = w.stageEffects e := by
  have hrunning : w.lifecycle = .running := hw.running_iff.mpr h.running
  have hlogical : w.withInstructionContext context = .ok w := by
    refine withInstructionContext_eq_ok.mpr ⟨⟨h.warp, ?_, ?_, ?_⟩, ?_⟩
    · rw [h.pc]
      exact hw.pc
    · rw [h.mask]
      exact hw.active
    · rw [h.mask]
      exact h.running
    · rw [h.pc, h.mask, ← hrunning]
  unfold WarpState.stageInstructionEffects
  rw [hlogical, ok_bind]
  cases hs : w.stageEffects e with
  | error err => rfl
  | ok stage =>
    obtain ⟨-, rfl⟩ := stageEffects_eq_ok.mp hs
    have hcontrol := w.apply_sameControl e
    have hpc : (if e.control = none then { w.apply e with pc := w.pc } else w.apply e) =
        w.apply e := by
      split
      · rename_i hnone
        rw [← w.transfer_pc_of_none hnone, ← hcontrol.pc]
      · rfl
    have hmask : (if e.warpMasks.length = 0 ∧ e.divergence = none ∧ e.trap = none then
        { w.apply e with activeMask := w.activeMask, lifecycle := w.lifecycle }
        else w.apply e) = w.apply e := by
      split
      · rename_i hnone
        obtain ⟨ha, hl⟩ :=
          w.transfer_mask_of_none (List.length_eq_zero_iff.mp hnone.1) hnone.2.1 hnone.2.2
        rw [← ha, ← hl, ← hcontrol.activeMask, ← hcontrol.lifecycle]
      · rfl
    simp only [WarpState.stageOf, ok_bind, hpc, hmask]
    rfl

/-! ## One delivery -/

/-- A delivery on its way: the warp shows what has been delivered, and no other instruction
has moved the frontier past it. -/
structure InFlight (w : WarpState) (stream : EffectStream) (d : EffectDelivery)
    (owner : WarpState) : Prop where
  wf : owner.WF
  progress : Progress w d owner
  active : d.cancelled = false
  bundle : BundleOk w d.effects
  separate : d.effects.Separate
  trap : d.effects.trap ≠ none → d.delivered .csr = false
  covered : d.delivered .writeback = true → d.writes = writtenLanes d.effects.registerWrites
  slot : ∀ slot ∈ d.slot, slot.instruction.Live w ∧
    (d.delivered .control = false → stream.controlOrder < slot.order)

section

variable {w owner : WarpState} {stream : EffectStream} {d : EffectDelivery}
  {event : VisibilityEvent} {lanes : LaneMask} {part : InstructionEffects}

theorem InFlight.sameControl (h : InFlight w stream d owner) (hnew : d.delivered .control = false) :
    SameControl owner w := by
  have hc := h.progress.control
  rwa [hnew, if_neg Bool.false_ne_true] at hc

/-- Every event is staged like an ordinary bundle. -/
theorem InFlight.stageEvent_eq (h : InFlight w stream d owner) (hnew : d.delivered event = false) :
    d.stageEvent owner stream event part = owner.stageEffects part := by
  unfold EffectDelivery.stageEvent
  split
  · rename_i slot hslot
    obtain ⟨hlive, horder⟩ := h.slot slot hslot
    have hsame := h.sameControl hnew
    unfold stageStreamControl
    rw [if_neg (Nat.not_le.mpr (horder hnew))]
    refine stageInstructionEffects_live h.wf ⟨?_, ?_, ?_, ?_⟩ part
    · rw [hsame.id]
      exact hlive.warp
    · rw [hsame.pc]
      exact hlive.pc
    · rw [hsame.activeMask]
      exact hlive.mask
    · rw [hsame.activeMask]
      exact hlive.running
  · rfl

/-- What a prepared event passed on the way to its stage. -/
theorem InFlight.prepare_eq_ok (h : InFlight w stream d owner) :
    d.prepare owner stream event lanes = .ok stage ↔
      d.delivered event = false ∧ (event ≠ .writeback → lanes = 0#8) ∧
        ∃ part, d.project event lanes = .ok part ∧ BundleOk owner part ∧
          owner.stageOf part = stage := by
  unfold EffectDelivery.prepare
  simp only [ok_iff, h.active, Bool.false_eq_true, not_false_eq_true, true_and, Bool.not_eq_true,
    not_and, not_not, ne_eq]
  constructor
  · rintro ⟨hnew, hlanes, part, hpart, hs⟩
    rw [h.stageEvent_eq hnew] at hs
    exact ⟨hnew, hlanes, part, hpart, stageEffects_eq_ok.mp hs⟩
  · rintro ⟨hnew, hlanes, part, hpart, hs⟩
    refine ⟨hnew, hlanes, part, hpart, ?_⟩
    rw [h.stageEvent_eq hnew]
    exact stageEffects_eq_ok.mpr hs

/-- The projection of a writeback covers fresh lanes of the bundle. -/
theorem project_writeback_eq_ok : d.project .writeback lanes = .ok part ↔
      (lanes.Valid ∧ lanes &&& ~~~writtenLanes d.effects.registerWrites = 0#8 ∧
        lanes &&& d.writes = 0#8 ∧
        (writtenLanes d.effects.registerWrites ≠ 0#8 → lanes ≠ 0#8)) ∧
      { registerWrites := restrictWrites d.effects.registerWrites lanes } = part := by
  unfold EffectDelivery.project
  simp only [ok_iff, not_or, not_not, not_and, ne_eq]

theorem project_csr_eq_ok : d.project .csr lanes = .ok part ↔ d.effects.trap = none ∧
      { csrReads := d.effects.csrReads, csrWrites := d.effects.csrWrites } = part := by
  unfold EffectDelivery.project
  simp only [ok_iff, not_not, ne_eq]

/-- A delivered event shows its part. -/
theorem InFlight.progress_receive (h : InFlight w stream d owner)
    (hnew : d.delivered event = false) (hlanes : event ≠ .writeback → lanes = 0#8)
    (hpart : d.project event lanes = .ok part) :
    Progress w (d.receive event lanes) (owner.apply part) := by
  cases event with
  | writeback =>
    obtain ⟨⟨-, -, hdis, -⟩, rfl⟩ := project_writeback_eq_ok.mp hpart
    exact h.progress.deliver_writeback hdis
  | control =>
    cases hpart
    exact h.progress.deliver_control hnew h.trap
  | csr =>
    obtain ⟨htrap, rfl⟩ := project_csr_eq_ok.mp hpart
    exact h.progress.deliver_csr hnew htrap
  | fflags =>
    cases hpart
    exact h.progress.deliver_fflags hnew h.separate
  | memory | fault =>
    cases hpart
    exact ⟨h.progress.lanes, h.progress.control, h.progress.csrs⟩

theorem InFlight.trap_receive (h : InFlight w stream d owner)
    (hpart : d.project event lanes = .ok part) (htrap : d.effects.trap ≠ none) :
    (d.receive event lanes).delivered .csr = false := by
  cases event with
  | csr => exact absurd (project_csr_eq_ok.mp hpart).1 htrap
  | writeback | control | fflags | memory | fault => exact h.trap htrap

theorem InFlight.covered_receive (h : InFlight w stream d owner)
    (hdone : (d.receive event lanes).delivered .writeback = true) :
    (d.receive event lanes).writes = writtenLanes d.effects.registerWrites := by
  cases event with
  | writeback =>
    simp only [EffectDelivery.receive, Function.update_self, decide_eq_true_eq] at hdone
    exact hdone
  | control | csr | fflags | memory | fault => exact h.covered hdone

theorem InFlight.slot_receive (h : InFlight w stream d owner) :
    ∀ slot ∈ (d.receive event lanes).slot, slot.instruction.Live w ∧
      ((d.receive event lanes).delivered .control = false →
        (d.advance event stream).controlOrder < slot.order) := by
  have hslot : (d.receive event lanes).slot = d.slot := by cases event <;> rfl
  rw [hslot]
  intro slot hs
  obtain ⟨hlive, horder⟩ := h.slot slot hs
  refine ⟨hlive, fun hpending => ?_⟩
  by_cases hevent : event = .control
  · subst hevent
    simp [EffectDelivery.receive] at hpending
  · have hstay : d.advance event stream = stream := by
      unfold EffectDelivery.advance
      rw [hs]
      simp [hevent]
    rw [hstay]
    refine horder ?_
    cases event with
    | control => exact absurd rfl hevent
    | writeback | csr | fflags | memory | fault => exact hpending

/-- A delivery stays in flight, whatever the outcome of an event. -/
theorem InFlight.step (h : InFlight w stream d owner)
    (hr : DeliverOutcome d owner stream event lanes r) :
    InFlight w r.stream r.delivery r.owner := by
  have hwf := hr.wf h.wf
  cases hr with
  | refused world err => exact h
  | delivered world stage prepared live =>
    obtain ⟨hnew, hlanes, part, hpart, hok, rfl⟩ := h.prepare_eq_ok.mp prepared
    have heffects : (d.receive event lanes).effects = d.effects := by cases event <;> rfl
    have hcancelled : (d.receive event lanes).cancelled = d.cancelled := by cases event <;> rfl
    exact {
      wf := hwf
      progress := h.progress_receive hnew hlanes hpart
      active := hcancelled.trans h.active
      bundle := by rw [heffects]; exact h.bundle
      separate := by rw [heffects]; exact h.separate
      trap := by rw [heffects]; exact h.trap_receive hpart
      covered := by rw [heffects]; exact h.covered_receive
      slot := h.slot_receive }

/-! ## Pending events are accepted -/

/-- A bundle without control group is plain. -/
theorem Plain.of_none (hmask : e.warpMasks = []) (hdiv : e.divergence = none)
    (htrap : e.trap = none) (hcontrol : e.control = none) : Plain c e :=
  ⟨hmask, hdiv, htrap, by simp [hcontrol], by simp [hcontrol]⟩

theorem WritesOk.restrict (h : WritesOk writes) (lanes : LaneMask) :
    WritesOk (restrictWrites writes lanes) where
  each := by
    intro write hw
    obtain ⟨original, hin, rfl⟩ := List.mem_map.mp (List.mem_filter.mp hw).1
    have hok := h.each original hin
    exact ⟨hok.index, hok.file, hok.bytes, hok.mask.and_left lanes⟩
  distinct := by
    have hmap : ((writes.map fun write => { write with mask := write.mask &&& lanes }).map
        RegisterWriteEffect.destination) = writes.map RegisterWriteEffect.destination := by
      rw [List.map_map]
      rfl
    refine (List.Sublist.map RegisterWriteEffect.destination List.filter_sublist).nodup ?_
    rw [hmap]
    exact h.distinct

theorem CSRWritesOk.congr (h : CSRWritesOk b writes) (hid : a.id = b.id) (hs : SameCSRs a b) :
    CSRWritesOk a writes where
  listed := by rw [hid]; exact h.listed
  fresh := by
    intro write hw hlocal
    have hfresh := h.fresh write hw hlocal
    unfold CSRWriteEffect.Fresh at hfresh ⊢
    rw [csrValue_congr hs]
    exact hfresh

theorem CSRReadEffect.Ok.congr {read : CSRReadEffect} (h : read.Ok b) (hid : a.id = b.id)
    (hmask : a.activeMask = b.activeMask) (hs : SameCSRs a b) : read.Ok a := by
  obtain ⟨entry, hentry, hscope, hvalue⟩ := h
  refine ⟨entry, hentry, hscope, ?_⟩
  have heq : a.csrReadValue read.address = b.csrReadValue read.address := by
    unfold WarpState.csrReadValue
    rw [csrValue_congr hs, hid, hmask]
  rw [heq]
  exact hvalue

/-- The control group is accepted on every state with the same control part, for a trap with
the same trap CSRs too. -/
theorem ControlGroupOk.congr (h : ControlGroupOk b e) (hs : SameControl a b)
    (ht : e.trap ≠ none → a.trapCSRs = b.trapCSRs) : ControlGroupOk a e := by
  obtain ⟨l, f, t, rfl⟩ : ∃ l f t, a = { b with lanes := l, fcsr := f, trapCSRs := t } :=
    ⟨a.lanes, a.fcsr, a.trapCSRs, eq_of_same
      ⟨hs.id, hs.pc, hs.activeMask, hs.lifecycle, hs.savedThreadMask, hs.divergence⟩
      ⟨rfl, rfl, rfl⟩⟩
  have hstage : stageControlMaskDivergenceTrap b b e =
      stageControlMaskDivergenceTrap { b with lanes := l, fcsr := f, trapCSRs := t } b e := by
    by_cases htrap : e.trap = none
    · unfold stageControlMaskDivergenceTrap
      rw [htrap]
      rfl
    · obtain rfl : t = b.trapCSRs := ht htrap
      rfl
  have hok : stageControlMaskDivergenceTrap b b e = .ok (b.transfer e) :=
    stageControl_eq_ok.mpr ⟨h, rfl⟩
  rw [hstage] at hok
  exact (stageControl_eq_ok.mp hok).1

/-- The control part of a bundle is accepted where the bundle is. -/
theorem ControlGroupOk.controlPart (h : ControlGroupOk c e) :
    ControlGroupOk c (VortexSim.controlPart e) where
  sole := h.sole
  masks := h.masks
  trapAlone := fun ht => ⟨(h.trapAlone ht).1, (h.trapAlone ht).2.1, rfl, rfl⟩
  divergence := h.divergence
  remask := h.remask
  reconverge := h.reconverge
  trap := by
    refine ⟨h.trap.1, fun t ht => ?_⟩
    have hne : e.trap ≠ none := fun hnone => (nomatch hnone.symm.trans ht)
    have hok := h.trap.2 t ht
    have hwrites : (VortexSim.controlPart e).csrWrites = e.csrWrites := if_neg hne
    rw [hwrites]
    exact hok
  control := h.control

theorem InFlight.csrs_of_pending (h : InFlight w stream d owner) (hvisible : d.csrVisible = false)
    (hflags : d.delivered .fflags = true → d.effects.fflags = none) : SameCSRs owner w := by
  have hc := h.progress.csrs
  unfold WarpState.visibleCSRs at hc
  rw [hvisible] at hc
  cases hf : d.delivered .fflags with
  | false =>
    rw [hf] at hc
    exact hc
  | true =>
    rw [hf, hflags hf] at hc
    exact hc

/-- The part of a pending event is accepted, in whatever order the others came. -/
theorem InFlight.accepts (h : InFlight w stream d owner) (hnew : d.delivered event = false)
    (hpart : d.project event lanes = .ok part) : BundleOk owner part := by
  have hid : owner.id = w.id := by
    rw [h.progress.control.id]
    split
    · exact w.transfer_id _
    · rfl
  cases event with
  | writeback =>
    obtain ⟨-, rfl⟩ := project_writeback_eq_ok.mp hpart
    exact .noCSR { ForwardedOk.nothing _ with } rfl rfl rfl rfl (h.bundle.writes.restrict lanes)
      (Plain.group (.of_none rfl rfl rfl rfl))
  | control =>
    cases hpart
    have hsame := h.sameControl hnew
    have hcsrs : d.effects.trap ≠ none → SameCSRs owner w := by
      intro htrap
      refine h.csrs_of_pending ?_ fun _ => (h.bundle.control.trapAlone htrap).2.2.2
      simp [EffectDelivery.csrVisible, h.trap htrap, hnew]
    have hf := h.bundle.forwarded
    exact {
      forwarded := by
        rw [hid]
        exact ⟨by simp [controlPart], by simp [controlPart], hf.spawn, hf.drains, hf.barriers,
          by simp [controlPart], by simp [controlPart]⟩
      faults := fun h => absurd rfl h
      writes := .nil
      flags := .none
      reads := by simp [controlPart]
      csr := by
        by_cases htrap : d.effects.trap = none
        · simp only [controlPart, htrap, if_true]
          exact .nil owner
        · simp only [controlPart, htrap, if_false]
          exact h.bundle.csr.congr hid (hcsrs htrap)
      control := h.bundle.control.controlPart.congr hsame fun htrap => (hcsrs htrap).trapCSRs }
  | csr =>
    obtain ⟨htrap, rfl⟩ := project_csr_eq_ok.mp hpart
    have hvisible : d.csrVisible = false := by
      simp [EffectDelivery.csrVisible, hnew, htrap]
    exact {
      forwarded := { ForwardedOk.nothing _ with }
      faults := fun h => absurd rfl h
      writes := .nil
      flags := .none
      reads := by
        intro read hread
        have hne : d.effects.csrReads ≠ [] := List.ne_nil_of_mem hread
        obtain ⟨hmask, hdiv⟩ := h.separate.reads hne
        have hflags : d.effects.fflags = none := by
          by_contra hf
          exact hne (h.separate.flags hf).1
        refine (h.bundle.reads read hread).congr hid ?_ (h.csrs_of_pending hvisible fun _ => hflags)
        rw [h.progress.control.activeMask]
        split
        · exact (w.transfer_mask_of_none hmask hdiv htrap).1
        · rfl
      csr := by
        by_cases hflags : d.effects.fflags = none
        · exact h.bundle.csr.congr hid (h.csrs_of_pending hvisible fun _ => hflags)
        · rw [(h.separate.flags hflags).2]
          exact .nil owner
      control := Plain.group (.of_none rfl rfl rfl rfl) }
  | fflags =>
    cases hpart
    exact {
      forwarded := { ForwardedOk.nothing _ with }
      faults := fun h => absurd rfl h
      writes := .nil
      flags := h.bundle.flags
      reads := by simp
      csr := .nil owner
      control := Plain.group (.of_none rfl rfl rfl rfl) }
  | memory =>
    cases hpart
    have hf := h.bundle.forwarded
    exact .noCSR ⟨hf.requests, hf.ordering, by simp, by simp, by simp, hf.packed, by simp⟩
      rfl rfl rfl rfl .nil (Plain.group (.of_none rfl rfl rfl rfl))
  | fault =>
    cases hpart
    exact faults_ok h.bundle.forwarded.faults

end

/-! ## Runs of deliveries -/

/-- The arguments of one `Deliver`. -/
structure DeliverCall (ω : Type) where
  event : VisibilityEvent
  lanes : LaneMask
  external : Option (ExternalOwner ω)

/-- The next `Deliver` on the same delivery. -/
def DeliverResult.next {ω : Type} (r : DeliverResult ω) (call : DeliverCall ω) : DeliverResult ω :=
  r.delivery.deliver r.owner r.stream r.world call.event call.lanes call.external

/-- A delivery that `w` has just accepted, alone or in a stream whose frontier is behind it. -/
inductive Created (w : WarpState) (stream : EffectStream) (e : InstructionEffects)
    (d : EffectDelivery) : Prop
  | alone (h : w.newEffectDelivery e = .ok d)
  | streamed (order : Nat) (context : InstructionContext)
      (h : EffectStream.newDelivery w order context e = .ok d) (live : context.Live w)
      (ahead : stream.controlOrder < order)

/-- Every part of the bundle that is for the warp and not empty has been delivered.  The CSR
writes of a trap have no event of their own. -/
structure EffectDelivery.Complete (d : EffectDelivery) : Prop where
  writeback : d.effects.registerWrites ≠ [] → d.delivered .writeback = true
  control : controlPart d.effects ≠ {} → d.delivered .control = true
  fflags : d.effects.fflags ≠ none → d.delivered .fflags = true
  csr : d.effects.csrWrites ≠ [] → d.effects.trap = none → d.delivered .csr = true

/-- An event, for writeback with lanes, that is still to be delivered. -/
def EffectDelivery.Pending (d : EffectDelivery) (event : VisibilityEvent) (lanes : LaneMask) :
    Prop :=
  d.delivered event = false ∧ (event ≠ .writeback → lanes = 0#8) ∧
    ∃ part, d.project event lanes = .ok part

section

variable {w : WarpState} {stream : EffectStream} {e : InstructionEffects} {d : EffectDelivery}

theorem Created.inFlight (h : Created w stream e d) (hw : w.WF) (hsep : e.Separate) :
    d.effects = e ∧ InFlight w stream d w := by
  cases h with
  | alone h =>
    unfold WarpState.newEffectDelivery at h
    simp only [ok_iff, stageEffects_eq_ok] at h
    obtain ⟨stage, ⟨hok, -⟩, rfl⟩ := h
    refine ⟨rfl, hw, Progress.start w _ rfl rfl, rfl, hok, hsep, fun _ => rfl, ?_, ?_⟩
    · exact fun h => absurd h Bool.false_ne_true
    · intro slot hslot
      cases hslot
  | streamed order context h live ahead =>
    unfold EffectStream.newDelivery at h
    simp only [ok_iff, stageInstructionEffects_live hw live, stageEffects_eq_ok] at h
    obtain ⟨-, stage, ⟨hok, -⟩, rfl⟩ := h
    refine ⟨rfl, hw, Progress.start w _ rfl rfl, rfl, hok, hsep, fun _ => rfl, ?_, ?_⟩
    · exact fun h => absurd h Bool.false_ne_true
    · rintro slot ⟨⟩
      exact ⟨live, fun _ => ahead⟩

variable {ω : Type} {r : DeliverResult ω} {owner : WarpState} {event : VisibilityEvent}
  {lanes : LaneMask}

theorem InFlight.run (h : InFlight w r.stream r.delivery r.owner) (calls : List (DeliverCall ω)) :
    InFlight w (calls.foldl DeliverResult.next r).stream
      (calls.foldl DeliverResult.next r).delivery (calls.foldl DeliverResult.next r).owner := by
  induction calls generalizing r with
  | nil => exact h
  | cons call calls ih => exact ih (h.step (r.delivery.deliver_outcome _ _ _ _ _ _))

theorem CommitOutcome.installed_after {r : CommitResult} (h : CommitOutcome s owner r)
    (he : r.error = none) : r.owner = s.after := by
  cases h with
  | refused err => exact absurd he (Option.some_ne_none err)
  | installed fresh live => rfl

theorem DeliverOutcome.effects (h : DeliverOutcome d owner stream event lanes r) :
    r.delivery.effects = d.effects := by
  cases h with
  | refused world err => rfl
  | delivered world stage prepared live => cases event <;> rfl

theorem DeliverOutcome.unchanged (h : DeliverOutcome d owner stream event lanes r)
    (he : r.error ≠ none) : r.owner = owner ∧ r.delivery = d ∧ r.stream = stream := by
  cases h with
  | refused world err => exact ⟨rfl, rfl, rfl⟩
  | delivered world stage prepared live => exact absurd rfl he

/-- Only an event without receipt is delivered. -/
theorem DeliverOutcome.fresh (h : DeliverOutcome d owner stream event lanes r)
    (he : r.error = none) : d.delivered event = false := by
  cases h with
  | refused world err => exact absurd he (Option.some_ne_none err)
  | delivered world stage prepared live =>
    unfold EffectDelivery.prepare at prepared
    simp only [ok_iff, Bool.not_eq_true] at prepared
    exact prepared.2.1

theorem deliver_effects (r : DeliverResult ω) (calls : List (DeliverCall ω)) :
    (calls.foldl DeliverResult.next r).delivery.effects = r.delivery.effects := by
  induction calls generalizing r with
  | nil => rfl
  | cons call calls ih =>
    exact (ih (r.next call)).trans (r.delivery.deliver_outcome _ _ _ _ _ _).effects

theorem InFlight.complete (h : InFlight w stream d owner) (hd : d.Complete) :
    owner = w.apply d.effects := by
  refine h.progress.complete (fun hwrites => h.covered (hd.writeback hwrites)) hd.control
    hd.fflags fun hcsr => ?_
  unfold EffectDelivery.csrVisible
  cases htrap : d.effects.trap with
  | none => rw [hd.csr hcsr htrap, Bool.true_or]
  | some trap =>
    have hgroup : controlPart d.effects ≠ {} := by
      intro hempty
      have hnone : d.effects.trap = none := congrArg InstructionEffects.trap hempty
      exact Option.some_ne_none trap (htrap.symm.trans hnone)
    rw [hd.control hgroup]
    exact Bool.or_true _

/-- The events of one delivery may come in any order.  When those that carry something are
delivered the warp is the one that a single commit of the bundle makes; a refused or repeated
event changes nothing; and no order ever makes a pending event unacceptable. -/
theorem delivery_order_invisible {ω : Type} (sf : SoftFloat) (e : InstructionEffects)
    (hprod : Produced sf e) (w : WarpState) (hw : w.WF) (stream : EffectStream)
    (d : EffectDelivery) (hd : Created w stream e d) (world : ω) (calls : List (DeliverCall ω))
    (r : DeliverResult ω)
    (hr : r = calls.foldl DeliverResult.next { world, owner := w, stream, delivery := d }) :
    (r.delivery.Complete → ∃ s, w.stageEffects e = .ok s ∧ r.owner = s.after ∧
        ∀ (external : Option (ExternalOwner ω)) (needs superfluous : String),
          (s.settle w world external needs superfluous).2.error = none →
            (s.settle w world external needs superfluous).2.owner = r.owner) ∧
      (∀ call, (r.next call).error ≠ none → (r.next call).owner = r.owner ∧
        (r.next call).delivery = r.delivery ∧ (r.next call).stream = r.stream) ∧
      (∀ call : DeliverCall ω, r.delivery.delivered call.event = true →
        (r.next call).error ≠ none) ∧
      ∀ event lanes, r.delivery.Pending event lanes →
        ∃ stage, r.delivery.prepare r.owner r.stream event lanes = .ok stage := by
  obtain ⟨rfl, hstart⟩ := hd.inFlight hw hprod.separate
  have hflight : InFlight w r.stream r.delivery r.owner := by
    rw [hr]
    exact InFlight.run hstart calls
  have heffects : r.delivery.effects = d.effects := by
    rw [hr]
    exact deliver_effects _ calls
  refine ⟨?_, ?_, ?_, ?_⟩
  · intro hcomplete
    have howner := hflight.complete hcomplete
    rw [heffects] at howner
    refine ⟨w.stageOf d.effects, stageEffects_eq_ok.mpr ⟨hstart.bundle, rfl⟩, howner, ?_⟩
    intro external needs superfluous herr
    rw [howner]
    exact (EffectStage.settle_outcome _ w world external needs superfluous).installed_after herr
  · intro call herr
    exact (r.delivery.deliver_outcome _ _ _ _ _ _).unchanged herr
  · intro call hdone herr
    have hfresh := (r.delivery.deliver_outcome _ _ _ _ _ _).fresh herr
    rw [hdone] at hfresh
    exact Bool.false_ne_true hfresh.symm
  · rintro event lanes ⟨hnew, hlanes, part, hpart⟩
    exact ⟨_, hflight.prepare_eq_ok.mpr
      ⟨hnew, hlanes, part, hpart, hflight.accepts hnew hpart, rfl⟩⟩

end

/-- `addi x1, x0, 5`. -/
def addiX1 : Decoded := decodeEntry 0x00500093#32 (aluI .addi 0#32)

/-- Its effects on all lanes of a fresh warp. -/
def addiX1Effects : InstructionEffects :=
  appendRegisterWrite { control := some (sequentialControl 0#32) } addiX1 allLanes
    (evaluateALULanes addiX1 ((freshWarp 0).integerInput none fun _ _ => 0#32)).1

/-- The upper lanes, control and at last the lower lanes.  There are no flags and no CSR writes. -/
def addiX1Calls : List (DeliverCall Unit) :=
  [⟨.writeback, 0xc#8, none⟩, ⟨.control, 0#8, none⟩, ⟨.writeback, 0x3#8, none⟩]

theorem delivery_order_invisible_addi : ∃ s, (freshWarp 0).stageEffects addiX1Effects = .ok s ∧
      (addiX1Calls.foldl DeliverResult.next
        { world := (), owner := freshWarp 0, stream := {},
          delivery := { effects := addiX1Effects } }
        ).owner = s.after := by
  have h := delivery_order_invisible zeroFloat addiX1Effects
    (.evaluated (freshWarp 0) addiX1 {} (fun _ _ => 0#32) rfl) (freshWarp 0)
    (freshWarp_wf (by decide)) {} { effects := addiX1Effects } (.alone rfl) () addiX1Calls _ rfl
  obtain ⟨s, hs, howner, -⟩ := h.1
    ⟨by decide +kernel, by decide +kernel, by decide +kernel, by decide +kernel⟩
  exact ⟨s, hs, howner⟩

end VortexSim
