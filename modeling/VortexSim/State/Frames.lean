import VortexSim.State.Invariant

/-!
# Frames of an applied bundle

A warp has a data part, its registers and CSR storage, and a control part, everything else.
The control group of a bundle changes the control part only, and what it does there depends
on the control part only.  The register writes alone decide the lanes.
-/

namespace VortexSim

/-- Two states with the same registers and CSR storage. -/
structure SameData (a b : WarpState) : Prop where
  lanes : a.lanes = b.lanes
  fcsr : a.fcsr = b.fcsr
  trapCSRs : a.trapCSRs = b.trapCSRs

variable {a b : WarpState}

theorem SameControl.symm (h : SameControl a b) : SameControl b a :=
  ⟨h.id.symm, h.pc.symm, h.activeMask.symm, h.lifecycle.symm, h.savedThreadMask.symm,
    h.divergence.symm⟩

/-- The two parts make up the state. -/
theorem eq_of_same (hc : SameControl a b) (hd : SameData a b) : a = b := by
  obtain ⟨h1, h2, h3, h4, h5, h6⟩ := hc
  obtain ⟨h7, h8, h9⟩ := hd
  cases a
  cases b
  simp_all

/-! ## The control group -/

section

variable {α : Type} {f : WarpState → α}

namespace WarpState

/-- What reads neither stack, mask nor lifecycle is kept by a divergence effect. -/
theorem divergeAll_keeps (hd : ∀ d ∈ effect, d.divergent = true →
      ∀ c s m l, f { c with divergence := s, activeMask := m, lifecycle := l } = f c)
    (c : WarpState) : f (c.divergeAll effect) = f c := by
  cases effect with
  | none => rfl
  | some effect =>
    simp only [divergeAll, diverge]
    split
    · rfl
    · rename_i hdiv
      have hkeep := hd effect rfl (Bool.not_eq_false _ ▸ hdiv)
      split
      · exact hkeep _ _ _ _
      · exact hkeep _ _ _ _
      · rfl

theorem remask_keeps (hf : ∀ c m l, f { c with activeMask := m, lifecycle := l } = f c)
    (c : WarpState) (divergence : Option DivergenceEffect) (mask : Option WarpMaskEffect) :
    f (c.remask divergence mask) = f c := by
  unfold remask
  split
  · exact hf _ _ _
  · rfl

theorem takeTrap_keeps (hf : ∀ c m l, f { c with activeMask := m, lifecycle := l } = f c)
    (hs : ∀ t ∈ trap, t.kind = .enter → ∀ c s, f { c with savedThreadMask := s } = f c)
    (c : WarpState) : f (c.takeTrap trap) = f c := by
  cases trap with
  | none => rfl
  | some t =>
    simp only [takeTrap]
    split
    · rename_i hkind
      exact hs t rfl hkind _ _
    · split
      · exact hf _ _ _
      · rfl
    · rfl

theorem redirect_keeps {control : Option ControlEffect}
    (hp : ∀ ctl ∈ control, ∀ c pc, f { c with pc } = f c) (c : WarpState) :
    f (c.redirect control) = f c := by
  cases control with
  | none => rfl
  | some ctl => exact hp ctl rfl _ _

/-- What reads none of the fields that the groups of the bundle write is kept. -/
theorem transfer_keeps (c : WarpState) (hd : ∀ d ∈ e.divergence, d.divergent = true →
      ∀ c s m l, f { c with divergence := s, activeMask := m, lifecycle := l } = f c)
    (hf : ∀ c m l, f { c with activeMask := m, lifecycle := l } = f c)
    (hs : ∀ t ∈ e.trap, t.kind = .enter → ∀ c s, f { c with savedThreadMask := s } = f c)
    (hp : ∀ ctl ∈ e.control, ∀ c pc, f { c with pc } = f c) : f (c.transfer e) = f c :=
  (redirect_keeps hp _).trans ((takeTrap_keeps hf hs _).trans ((remask_keeps hf _ _ _).trans
    (divergeAll_keeps hd c)))

end WarpState

end

namespace WarpState

theorem transfer_sameData (c : WarpState) (e : InstructionEffects) : SameData (c.transfer e) c := by
  have h := c.transfer_keeps (e := e) (f := fun c => (c.lanes, c.fcsr, c.trapCSRs))
    (fun _ _ _ _ _ _ _ => rfl) (fun _ _ _ => rfl) (fun _ _ _ _ _ => rfl) (fun _ _ _ _ => rfl)
  simp only [Prod.mk.injEq] at h
  exact ⟨h.1, h.2.1, h.2.2⟩

theorem divergeAll_congr (h : SameControl a b) (effect : Option DivergenceEffect) :
    SameControl (a.divergeAll effect) (b.divergeAll effect) := by
  cases effect with
  | none => exact h
  | some effect =>
    simp only [divergeAll, diverge]
    split
    · exact h
    · split
      · exact { h with activeMask := rfl, lifecycle := rfl, divergence := by rw [h.divergence] }
      · exact { h with activeMask := rfl, lifecycle := rfl, divergence := by rw [h.divergence] }
      · exact h

theorem remask_congr (h : SameControl a b) (divergence : Option DivergenceEffect)
    (mask : Option WarpMaskEffect) :
    SameControl (a.remask divergence mask) (b.remask divergence mask) := by
  unfold remask
  split
  · exact { h with activeMask := rfl, lifecycle := rfl }
  · exact h

theorem takeTrap_congr (h : SameControl a b) (trap : Option TrapEffect) :
    SameControl (a.takeTrap trap) (b.takeTrap trap) := by
  unfold takeTrap
  split
  · exact h
  · split
    · exact { h with savedThreadMask := rfl }
    · split
      · exact { h with activeMask := rfl, lifecycle := rfl }
      · exact h
    · exact h

theorem redirect_congr (h : SameControl a b) (control : Option ControlEffect) :
    SameControl (a.redirect control) (b.redirect control) := by
  unfold redirect
  split
  · exact h
  · exact { h with pc := rfl }

/-- The control group reads only the control part. -/
theorem transfer_congr (h : SameControl a b) (e : InstructionEffects) :
    SameControl (a.transfer e) (b.transfer e) :=
  redirect_congr (takeTrap_congr (remask_congr (divergeAll_congr h _) _ _) _) _

/-- The control part after a bundle is the one its control group makes. -/
theorem apply_sameControl (w : WarpState) (e : InstructionEffects) :
    SameControl (w.apply e) (w.transfer e) :=
  transfer_congr (w.applyData_sameControl e) e

/-- The data part after a bundle is the one its data effects make. -/
theorem apply_sameData (w : WarpState) (e : InstructionEffects) :
    SameData (w.apply e) (w.applyData e) :=
  transfer_sameData (w.applyData e) e

/-! ## Registers -/

theorem transfer_id (c : WarpState) (e : InstructionEffects) : (c.transfer e).id = c.id :=
  c.transfer_keeps (f := id) (fun _ _ _ _ _ _ _ => rfl) (fun _ _ _ => rfl)
    (fun _ _ _ _ _ => rfl) (fun _ _ _ _ => rfl)

theorem transfer_pc_of_none (c : WarpState) (h : e.control = none) : (c.transfer e).pc = c.pc :=
  c.transfer_keeps (f := pc) (fun _ _ _ _ _ _ _ => rfl) (fun _ _ _ => rfl) (fun _ _ _ _ _ => rfl)
    (fun ctl hctl => absurd (h.symm.trans hctl) (Option.some_ne_none ctl).symm)

/-- Without a mask, stack or trap effect the mask stays. -/
theorem transfer_mask_of_none (c : WarpState) (hm : e.warpMasks = [])
    (hd : e.divergence = none) (ht : e.trap = none) :
    (c.transfer e).activeMask = c.activeMask ∧ (c.transfer e).lifecycle = c.lifecycle := by
  unfold transfer
  rw [hm, hd, ht]
  cases e.control <;> exact ⟨rfl, rfl⟩

theorem apply_id (w : WarpState) (e : InstructionEffects) : (w.apply e).id = w.id := by
  unfold apply
  rw [transfer_id]
  exact (w.applyData_sameControl e).id

/-- A bundle without mask, divergence and trap leaves the lifecycle alone. -/
theorem apply_lifecycle (w : WarpState) (hm : e.warpMasks = [])
    (hd : e.divergence = none) (ht : e.trap = none) :
    (w.apply e).lifecycle = w.lifecycle := by
  unfold apply transfer
  rw [hm, hd, ht]
  have hdata := (w.applyData_sameControl e).lifecycle
  unfold redirect
  split <;> exact hdata

theorem accrue_lanes (c : WarpState) (effect : Option FFlagsEffect) :
    (c.accrue effect).lanes = c.lanes := by
  cases effect <;> rfl

/-- What no local write changes is kept by all of them. -/
theorem writeCSRs_keeps {f : WarpState → α}
    (hf : ∀ write ∈ writes, write.isLocal = true → ∀ c : WarpState, f (c.writeCSR write) = f c)
    (c : WarpState) : f (c.writeCSRs writes) = f c := by
  have hkept : ∀ write ∈ writes.filter CSRWriteEffect.isLocal, ∀ c : WarpState,
      f (c.writeCSR write) = f c :=
    fun write hw => hf write (List.mem_filter.mp hw).1 (List.mem_filter.mp hw).2
  unfold writeCSRs
  generalize writes.filter CSRWriteEffect.isLocal = kept at hkept ⊢
  induction kept generalizing c with
  | nil => rfl
  | cons write rest ih =>
    exact (ih (c.writeCSR write) fun x hx => hkept x (List.mem_cons_of_mem _ hx)).trans
      (hkept write List.mem_cons_self c)

theorem setCSRValue_fcsr (c : WarpState) (h : ¬ aliasesFCSR address) (value : Word) :
    (c.setCSRValue address value).fcsr = c.fcsr := by
  unfold setCSRValue
  split <;> first | rfl | exact absurd (by decide) h

theorem writeCSRs_lanes (c : WarpState) (writes : List CSRWriteEffect) :
    (c.writeCSRs writes).lanes = c.lanes := by
  refine writeCSRs_keeps (f := lanes) (fun write _ _ c => ?_) c
  unfold writeCSR setCSRValue
  split <;> rfl

theorem apply_lanes (w : WarpState) (e : InstructionEffects) :
    (w.apply e).lanes = (w.writeAll e.registerWrites).lanes :=
  (w.apply_sameData e).lanes.trans ((writeCSRs_lanes _ _).trans (accrue_lanes _ _))

end WarpState

/-- A register of one of the two files. -/
def Register.Architectural (r : Register) : Prop :=
  r.index < frozenRegisterCount ∧ (r.file = .integer ∨ r.file = .float)

theorem regIndex_inj (hi : i < frozenRegisterCount) (hj : j < frozenRegisterCount)
    (h : regIndex i = regIndex j) : i = j := by
  have hval := congrArg Fin.val h
  simpa [regIndex, Fin.ofNat, Nat.mod_eq_of_lt hi, Nat.mod_eq_of_lt hj] using hval

namespace LaneState

/-- Setting one register leaves the others. -/
theorem get_set_ne (l : LaneState) (hr : r.Architectural) (hq : q.Architectural)
    (h : q ≠ r) (v : Word) : (l.set r v).get q = l.get q := by
  obtain ⟨rf, ri⟩ := r
  obtain ⟨qf, qi⟩ := q
  have hindex : qf = rf → regIndex qi ≠ regIndex ri := by
    rintro rfl he
    obtain rfl : qi = ri := regIndex_inj hq.1 hr.1 he
    exact h rfl
  rcases hr.2 with hrf | hrf <;> rcases hq.2 with hqf | hqf <;> simp only at hrf hqf <;>
    subst hrf hqf
  · simp [set, get, Function.update_of_ne (hindex rfl)]
  · simp [set, get]
  · simp [set, get]
  · simp [set, get, Function.update_of_ne (hindex rfl)]

theorem get_set_self (l : LaneState) (r : Register) (v : Word) : (l.set r v).get r = v := by
  unfold set get
  split <;> simp

end LaneState

/-- A register that no write names in the lane stays. -/
theorem WarpState.writeAll_get_of (c : WarpState)
    (hw : ∀ write ∈ writes, write.destination.Architectural) (hq : q.Architectural)
    (h : ∀ write ∈ writes, write.mask.active lane = true → q ≠ write.destination) :
    ((c.writeAll writes).lanes lane).get q = (c.lanes lane).get q := by
  induction writes generalizing c with
  | nil => rfl
  | cons write writes ih =>
    have hrest := ih (c.writeBack write) (fun x hx => hw x (List.mem_cons_of_mem _ hx))
      (fun x hx => h x (List.mem_cons_of_mem _ hx))
    refine hrest.trans ?_
    unfold WarpState.writeBack
    split
    · rfl
    · simp only [WarpState.mapLanes]
      split
      · rename_i hl
        exact LaneState.get_set_ne _ (hw write List.mem_cons_self) hq
          (h write List.mem_cons_self hl) _
      · rfl

theorem WarpState.writeAll_get_ne (c : WarpState)
    (hw : ∀ write ∈ writes, write.destination.Architectural) (hq : q.Architectural)
    (h : ∀ write ∈ writes, q ≠ write.destination) (lane : Lane) :
    ((c.writeAll writes).lanes lane).get q = (c.lanes lane).get q :=
  c.writeAll_get_of hw hq fun write hin _ => h write hin

theorem mergeBits_full (old new : Word) : mergeBits (byteBits 0#8) old new = new := by
  have hbits : byteBits 0#8 = BitVec.allOnes 32 := by decide
  rw [mergeBits, hbits, BitVec.and_allOnes, BitVec.not_allOnes, BitVec.and_zero, BitVec.zero_or]

/-- A full-word write of an active lane is visible. -/
theorem WarpState.writeBack_get_self (c : WarpState) (hz : ¬ write.destination.isZero)
    (hb : write.byteMask = 0#8) (hl : write.mask.active lane = true) :
    ((c.writeBack write).lanes lane).get write.destination = write.values lane := by
  rw [WarpState.writeBack, if_neg hz]
  simp only [WarpState.mapLanes, hl, if_true]
  rw [LaneState.get_set_self, hb, mergeBits_full]

/-- Reading a register other than integer zero reads its array entry. -/
theorem WarpState.readRegister_eq_get (w : WarpState) (hz : ¬ r.isZero) (lane : Lane) :
    w.readRegister r lane = (w.lanes lane).get r := by
  unfold WarpState.readRegister LaneState.get
  split
  · rename_i hf
    rw [if_pos fun h => hz ⟨hf, h⟩]
  · rfl

end VortexSim
