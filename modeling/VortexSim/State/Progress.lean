import VortexSim.State.Acceptance

/-!
# A bundle on its way

The events of one delivery touch disjoint parts of the warp: the writeback event registers,
lane by lane, the control event the control part, the CSR and flag events CSR storage.
`Progress` says what the warp looks like after the events that have a receipt, in whatever
order they came, and every delivered event moves from one such state to the next.
-/

namespace VortexSim

open Checked

/-! ## Register writes lane by lane -/

/-- The register writes of a bundle in one lane. -/
def laneWrites (lane : Lane) (l : LaneState) (writes : List RegisterWriteEffect) : LaneState :=
  writes.foldl (fun l write =>
    if write.destination.isZero then l
    else if write.mask.active lane then
      l.set write.destination
        (mergeBits (byteBits write.byteMask) (l.get write.destination) (write.values lane))
    else l) l

theorem WarpState.writeAll_lane (c : WarpState) (writes : List RegisterWriteEffect) (lane : Lane) :
    (c.writeAll writes).lanes lane = laneWrites lane (c.lanes lane) writes := by
  induction writes generalizing c with
  | nil => rfl
  | cons write writes ih =>
    refine (ih (c.writeBack write)).trans ?_
    simp only [laneWrites, List.foldl_cons, WarpState.writeBack]
    split
    · rfl
    · rfl

/-- Writes to other lanes leave a lane alone. -/
theorem laneWrites_of_inactive (h : ∀ write ∈ writes, write.mask.active lane = false)
    (l : LaneState) : laneWrites lane l writes = l := by
  induction writes with
  | nil => rfl
  | cons write writes ih =>
    have hw := h write List.mem_cons_self
    have hrest := ih fun x hx => h x (List.mem_cons_of_mem _ hx)
    simp only [laneWrites, List.foldl_cons, hw, Bool.false_eq_true, if_false, ite_self]
    exact hrest

/-- Cutting writes down to some lanes changes nothing in those lanes. -/
theorem laneWrites_restrict (hl : lanes.active lane = true) (writes : List RegisterWriteEffect)
    (l : LaneState) :
    laneWrites lane l (restrictWrites writes lanes) = laneWrites lane l writes := by
  induction writes generalizing l with
  | nil => rfl
  | cons write writes ih =>
    have hmask : (write.mask &&& lanes).active lane = write.mask.active lane := by
      rw [LaneMask.active_and, hl, Bool.and_true]
    have hstep : ∀ l, laneWrites lane l (write :: writes) =
        laneWrites lane (laneWrites lane l [write]) writes := fun l => rfl
    rw [hstep]
    by_cases hzero : write.mask &&& lanes = 0#8
    · -- the write has none of the lanes, so it is dropped and does nothing here
      have hinactive : write.mask.active lane = false := by
        rw [← hmask, hzero, LaneMask.active_zero]
      have hdrop : restrictWrites (write :: writes) lanes = restrictWrites writes lanes := by
        simp [restrictWrites, hzero]
      have hself : laneWrites lane l [write] = l :=
        laneWrites_of_inactive (by simpa using hinactive) l
      rw [hdrop, ih, hself]
    · have hkeep : restrictWrites (write :: writes) lanes =
          { write with mask := write.mask &&& lanes } :: restrictWrites writes lanes := by
        simp [restrictWrites, hzero]
      rw [hkeep]
      refine (ih _).trans ?_
      simp only [laneWrites, List.foldl_cons, List.foldl_nil, hmask]

theorem restrict_inactive (hl : lanes.active lane = false) (writes : List RegisterWriteEffect) :
    ∀ write ∈ restrictWrites writes lanes, write.mask.active lane = false := by
  intro write hw
  obtain ⟨original, -, rfl⟩ := List.mem_map.mp (List.mem_filter.mp hw).1
  simp only [LaneMask.active_and, hl, Bool.and_false]

theorem writtenLanes_active (h : (writtenLanes writes).active lane = false) :
    ∀ write ∈ writes, write.mask.active lane = false := by
  have hfold : ∀ (writes : List RegisterWriteEffect) (acc : LaneMask),
      (writes.foldl (fun expected write => expected ||| write.mask) acc).active lane = false →
      acc.active lane = false ∧ ∀ write ∈ writes, write.mask.active lane = false := by
    intro writes
    induction writes with
    | nil => exact fun acc h => ⟨h, by simp⟩
    | cons write writes ih =>
      intro acc h
      obtain ⟨hacc, hrest⟩ := ih _ h
      rw [LaneMask.active_or, Bool.or_eq_false_iff] at hacc
      exact ⟨hacc.1, List.forall_mem_cons.mpr ⟨hacc.2, hrest⟩⟩
  exact (hfold writes 0#8 h).2

/-! ## CSR storage -/

/-- Two states with the same CSR storage. -/
structure SameCSRs (a b : WarpState) : Prop where
  fcsr : a.fcsr = b.fcsr
  trapCSRs : a.trapCSRs = b.trapCSRs

theorem SameCSRs.refl (a : WarpState) : SameCSRs a a := ⟨rfl, rfl⟩

theorem SameCSRs.symm (h : SameCSRs a b) : SameCSRs b a :=
  ⟨h.fcsr.symm, h.trapCSRs.symm⟩

theorem SameCSRs.trans (h : SameCSRs a b) (k : SameCSRs b c) : SameCSRs a c :=
  ⟨h.fcsr.trans k.fcsr, h.trapCSRs.trans k.trapCSRs⟩

theorem csrValue_congr (h : SameCSRs a b) (address : Nat) :
    a.csrValue address = b.csrValue address := by
  unfold WarpState.csrValue
  rw [h.fcsr, h.trapCSRs]

namespace WarpState

theorem writeAll_sameCSRs (c : WarpState) (writes : List RegisterWriteEffect) :
    SameCSRs (c.writeAll writes) c := by
  induction writes generalizing c with
  | nil => exact .refl c
  | cons write writes ih =>
    refine (ih (c.writeBack write)).trans ?_
    unfold writeBack
    split <;> exact ⟨rfl, rfl⟩

theorem transfer_sameCSRs (c : WarpState) (e : InstructionEffects) : SameCSRs (c.transfer e) c :=
  ⟨(c.transfer_sameData e).fcsr, (c.transfer_sameData e).trapCSRs⟩

theorem accrue_congr (h : SameCSRs a b) (flags : Option FFlagsEffect) :
    SameCSRs (a.accrue flags) (b.accrue flags) := by
  cases flags with
  | none => exact h
  | some flags =>
    refine ⟨?_, h.trapCSRs⟩
    simp only [accrue, h.fcsr]

theorem setCSRValue_congr (h : SameCSRs a b) (address : Nat) (value : Word) :
    SameCSRs (a.setCSRValue address value) (b.setCSRValue address value) := by
  obtain ⟨hf, ht⟩ := h
  unfold setCSRValue
  split <;> constructor <;> simp only [hf, ht]

theorem writeCSRs_congr (h : SameCSRs a b) (writes : List CSRWriteEffect) :
    SameCSRs (a.writeCSRs writes) (b.writeCSRs writes) := by
  unfold writeCSRs
  induction writes.filter CSRWriteEffect.isLocal generalizing a b with
  | nil => exact h
  | cons write rest ih => exact ih (setCSRValue_congr h _ _)

end WarpState

/-- Accrued flags and CSR writes of one bundle can be carried out in either order. -/
theorem InstructionEffects.Separate.commute {e : InstructionEffects} (h : e.Separate)
    (c : WarpState) :
    (c.writeCSRs e.csrWrites).accrue e.fflags = (c.accrue e.fflags).writeCSRs e.csrWrites := by
  cases hf : e.fflags with
  | none => rfl
  | some flags =>
    have hw := (h.flags (by rw [hf]; exact Option.some_ne_none flags)).2
    rw [hw]
    rfl

/-! ## Progress -/

/-- The CSR writes of the bundle are visible: a trap shows them with its control event. -/
def EffectDelivery.csrVisible (d : EffectDelivery) : Bool :=
  d.delivered .csr || (d.effects.trap.isSome && d.delivered .control)

/-- The CSR storage after the flags and CSR writes that are visible. -/
def WarpState.visibleCSRs (w : WarpState) (d : EffectDelivery) : WarpState :=
  let flagged := if d.delivered .fflags then w.accrue d.effects.fflags else w
  if d.csrVisible then flagged.writeCSRs d.effects.csrWrites else flagged

/-- Flags and writes that are not there count as visible. -/
theorem WarpState.visibleCSRs_complete {d : EffectDelivery} (w : WarpState)
    (hflags : d.effects.fflags ≠ none → d.delivered .fflags = true)
    (hcsr : d.effects.csrWrites ≠ [] → d.csrVisible = true) :
    w.visibleCSRs d = (w.accrue d.effects.fflags).writeCSRs d.effects.csrWrites := by
  have hflagged : (if d.delivered .fflags then w.accrue d.effects.fflags else w) =
      w.accrue d.effects.fflags := by
    split
    · rfl
    · rename_i hpending
      rw [not_not.mp (mt hflags hpending)]
      rfl
  unfold visibleCSRs
  rw [hflagged]
  split
  · rfl
  · rename_i hpending
    rw [not_not.mp (mt hcsr hpending)]
    rfl

/-- The warp `owner` is `w` with the delivered parts of the bundle. -/
structure Progress (w : WarpState) (d : EffectDelivery) (owner : WarpState) : Prop where
  lanes : ∀ lane : Lane, owner.lanes lane =
    if d.writes.active lane then laneWrites lane (w.lanes lane) d.effects.registerWrites
    else w.lanes lane
  control : SameControl owner (if d.delivered .control then w.transfer d.effects else w)
  csrs : SameCSRs owner (w.visibleCSRs d)

section

variable {w owner : WarpState} {d : EffectDelivery}

theorem Progress.start (w : WarpState) (d : EffectDelivery) (hw : d.writes = 0#8)
    (hd : d.delivered = fun _ => false) : Progress w d w := by
  have hvisible : w.visibleCSRs d = w := by
    simp [WarpState.visibleCSRs, EffectDelivery.csrVisible, hd]
  refine ⟨fun lane => ?_, ?_, ?_⟩
  · rw [hw, LaneMask.active_zero]
    rfl
  · rw [hd]
    exact .refl w
  · rw [hvisible]
    exact .refl w

/-- A set of lanes is written. -/
theorem Progress.deliver_writeback (h : Progress w d owner) {lanes : LaneMask}
    (hdis : lanes &&& d.writes = 0#8) :
    Progress w (d.receive .writeback lanes)
      (owner.writeAll (restrictWrites d.effects.registerWrites lanes)) where
  lanes := by
    intro lane
    have hnot : lanes.active lane = true → d.writes.active lane = false := by
      intro hl
      have hzero := LaneMask.active_and lanes d.writes lane
      rw [hdis, LaneMask.active_zero, hl, Bool.true_and] at hzero
      exact hzero.symm
    simp only [WarpState.writeAll_lane, EffectDelivery.receive, LaneMask.active_or, h.lanes lane]
    cases hl : lanes.active lane with
    | true =>
      rw [hnot hl, laneWrites_restrict hl]
      rfl
    | false =>
      rw [laneWrites_of_inactive (restrict_inactive hl _), Bool.or_false]
  control := (owner.writeAll_sameControl _).trans h.control
  csrs := (owner.writeAll_sameCSRs _).trans h.csrs

/-- The control group is carried out, for a trap with its CSR writes. -/
theorem Progress.deliver_control (h : Progress w d owner) (hnew : d.delivered .control = false)
    (htrap : d.effects.trap ≠ none → d.delivered .csr = false) :
    Progress w (d.receive .control 0#8)
      ((owner.writeCSRs (if d.effects.trap = none then [] else d.effects.csrWrites)).transfer
        d.effects) := by
  have hstart : SameControl owner w := by
    have hc := h.control
    rwa [hnew, if_neg Bool.false_ne_true] at hc
  have hcsrs := h.csrs
  refine ⟨fun lane => ?_, ?_, ?_⟩
  · rw [(WarpState.transfer_sameData _ _).lanes, WarpState.writeCSRs_lanes]
    exact h.lanes lane
  · exact WarpState.transfer_congr ((owner.writeCSRs_sameControl _).trans hstart) _
  · refine (WarpState.transfer_sameCSRs _ _).trans ?_
    by_cases ht : d.effects.trap = none
    · rw [if_pos ht]
      refine hcsrs.trans ?_
      simp only [WarpState.visibleCSRs, EffectDelivery.csrVisible, EffectDelivery.receive, ht,
        Option.isSome_none, Bool.false_and, Bool.or_false]
      exact .refl _
    · rw [if_neg ht]
      refine (WarpState.writeCSRs_congr hcsrs _).trans ?_
      have hbefore : d.csrVisible = false := by
        simp [EffectDelivery.csrVisible, htrap ht, hnew]
      have hafter : (d.receive .control 0#8).csrVisible = true := by
        simp [EffectDelivery.csrVisible, EffectDelivery.receive, Option.isSome_iff_ne_none.mpr ht]
      unfold WarpState.visibleCSRs
      rw [hbefore, hafter]
      exact .refl _

theorem Progress.deliver_csr (h : Progress w d owner) (hnew : d.delivered .csr = false)
    (htrap : d.effects.trap = none) :
    Progress w (d.receive .csr 0#8) (owner.writeCSRs d.effects.csrWrites) where
  lanes := fun lane => by
    rw [WarpState.writeCSRs_lanes]
    exact h.lanes lane
  control := (owner.writeCSRs_sameControl _).trans h.control
  csrs := by
    refine (WarpState.writeCSRs_congr h.csrs _).trans ?_
    simp only [WarpState.visibleCSRs, EffectDelivery.csrVisible, EffectDelivery.receive, hnew,
      htrap]
    exact .refl _

theorem Progress.deliver_fflags (h : Progress w d owner) (hnew : d.delivered .fflags = false)
    (hsep : d.effects.Separate) :
    Progress w (d.receive .fflags 0#8) (owner.accrue d.effects.fflags) where
  lanes := fun lane => by
    rw [WarpState.accrue_lanes]
    exact h.lanes lane
  control := (owner.accrue_sameControl _).trans h.control
  csrs := by
    refine (WarpState.accrue_congr h.csrs _).trans ?_
    have hbefore : w.visibleCSRs d =
        if d.csrVisible then w.writeCSRs d.effects.csrWrites else w := by
      simp only [WarpState.visibleCSRs, hnew, Bool.false_eq_true, if_false]
    have hafter : w.visibleCSRs (d.receive .fflags 0#8) =
        if d.csrVisible then (w.accrue d.effects.fflags).writeCSRs d.effects.csrWrites
        else w.accrue d.effects.fflags := rfl
    rw [hbefore, hafter]
    split
    · rw [hsep.commute]
      exact .refl _
    · exact .refl _

/-- When every part that is not empty is visible the warp is the one that the bundle makes. -/
theorem Progress.complete (h : Progress w d owner)
    (hwrites : d.effects.registerWrites ≠ [] → d.writes = writtenLanes d.effects.registerWrites)
    (hcontrol : controlPart d.effects ≠ {} → d.delivered .control = true)
    (hflags : d.effects.fflags ≠ none → d.delivered .fflags = true)
    (hcsr : d.effects.csrWrites ≠ [] → d.csrVisible = true) : owner = w.apply d.effects := by
  have hdata := w.apply_sameData d.effects
  refine eq_of_same ?_ ⟨?_, ?_, ?_⟩
  · have hgroup : (if d.delivered .control then w.transfer d.effects else w) =
        w.transfer d.effects := by
      split
      · rfl
      · -- the transfer reads nothing but the control part
        rename_i hpending
        exact (congrArg w.transfer (not_not.mp (mt hcontrol hpending))).symm
    have hc := h.control
    rw [hgroup] at hc
    exact hc.trans (w.apply_sameControl d.effects).symm
  · funext lane
    rw [WarpState.apply_lanes, WarpState.writeAll_lane, h.lanes lane]
    split
    · rfl
    · rename_i hl
      by_cases hnone : d.effects.registerWrites = []
      · rw [hnone]
        rfl
      · rw [hwrites hnone, Bool.not_eq_true] at hl
        rw [laneWrites_of_inactive (writtenLanes_active hl)]
  all_goals
    have hall := h.csrs
    rw [w.visibleCSRs_complete hflags hcsr] at hall
    replace hall := hall.trans (WarpState.writeCSRs_congr (WarpState.accrue_congr
      (w.writeAll_sameCSRs d.effects.registerWrites).symm _) _)
  · exact hall.fcsr.trans hdata.fcsr.symm
  · exact hall.trapCSRs.trans hdata.trapCSRs.symm

end

end VortexSim
