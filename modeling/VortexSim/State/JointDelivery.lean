import VortexSim.State.LatchedFrame

/-!
# Joint delivery of CSR, flags and trap

A CSR instruction, the flags of another instruction and the trap of a third can meet at one
edge.  They are staged against the same old warp and committed together: the flags accumulate,
the software write overrides its own field, and the trap logic overrides MEPC, MCAUSE and
MTVAL.  The redirect was decided on the old MTVEC or MEPC.
-/

namespace VortexSim

open Checked

section

variable {w owner : WarpState} {e : InstructionEffects} {write : CSRWriteEffect}
  {writes : List CSRWriteEffect} {trap : TrapEffect}

/-! ## One write decides -/

namespace WarpState

/-- What all other writes keep is decided by the one local write. -/
theorem writeCSRs_decides {α : Type} {f : WarpState → α} (hin : write ∈ writes)
    (hlocal : write.isLocal = true)
    (hdistinct : (writes.map CSRWriteEffect.address).Nodup)
    (hother : ∀ other ∈ writes, other.address ≠ write.address →
      ∀ c : WarpState, f (c.writeCSR other) = f c)
    (hwrite : ∀ c c' : WarpState, f c = f c' → f (c.writeCSR write) = f (c'.writeCSR write))
    (c : WarpState) : f (c.writeCSRs writes) = f (c.writeCSR write) := by
  induction writes generalizing c with
  | nil => cases hin
  | cons first rest ih =>
    rw [List.map_cons, List.nodup_cons] at hdistinct
    have hrest := fun other hmem => hother other (List.mem_cons_of_mem first hmem)
    rcases List.mem_cons.mp hin with rfl | hin
    · unfold writeCSRs
      rw [List.filter_cons_of_pos hlocal, List.foldl_cons]
      refine writeCSRs_keeps (fun other hmem _ => hrest other hmem fun he => ?_) _
      exact hdistinct.1 (he ▸ List.mem_map_of_mem hmem)
    · have hne : first.address ≠ write.address :=
        fun he => hdistinct.1 (he ▸ List.mem_map_of_mem hin)
      cases hfirst : first.isLocal with
      | true =>
        unfold writeCSRs
        rw [List.filter_cons_of_pos hfirst, List.foldl_cons]
        exact (ih hin hdistinct.2 hrest _).trans
          (hwrite _ _ (hother first List.mem_cons_self hne c))
      | false =>
        unfold writeCSRs
        rw [List.filter_cons_of_neg (Bool.eq_false_iff.mp hfirst)]
        exact ih hin hdistinct.2 hrest c

/-- A CSR outside FCSR holds what was written to it. -/
theorem setCSRValue_self (c : WarpState) (hf : ¬ aliasesFCSR address)
    (h : w.csrValue address = some old) (value : Word) :
    (c.setCSRValue address value).csrValue address = some value := by
  unfold csrValue at h
  split at h <;> first | rfl | exact absurd (by decide) hf | cases h

theorem writeCSRs_written (hok : CSRWritesListed w.id writes) (hin : write ∈ writes)
    (hlocal : write.isLocal = true) (hf : ¬ aliasesFCSR write.address)
    (h : w.csrValue write.address = some old) (c : WarpState) :
    (c.writeCSRs writes).csrValue write.address = some write.value := by
  have hvalue : ∀ c : WarpState, (c.writeCSR write).csrValue write.address = some write.value :=
    fun c => setCSRValue_self c hf h write.value
  exact (writeCSRs_decides (f := fun c => c.csrValue write.address) hin hlocal
    hok.distinct (fun other _ hne c => c.setCSRValue_csrValue hf hne _)
    (fun c c' _ => (hvalue c).trans (hvalue c').symm) c).trans (hvalue c)

end WarpState

/-- The write to FCSR is the only one. -/
theorem CSRWritesListed.fcsr_unique {id : Nat} (h : CSRWritesListed id writes)
    (hin : write ∈ writes) (hf : aliasesFCSR write.address) (hother : other ∈ writes)
    (ho : aliasesFCSR other.address) : other = write := by
  have hmem : ∀ x ∈ writes, aliasesFCSR x.address → x ∈ fcsrWrites writes :=
    fun x hx ha => List.mem_filter.mpr ⟨hx, decide_eq_true ha⟩
  obtain ⟨x, hx⟩ : ∃ x, fcsrWrites writes = [x] :=
    List.length_eq_one_iff.mp (Nat.le_antisymm h.fcsr (List.length_pos_of_mem (hmem write hin hf)))
  rw [hx] at hmem
  exact (List.mem_singleton.mp (hmem other hother ho)).trans
    (List.mem_singleton.mp (hmem write hin hf)).symm

theorem WarpState.writeCSRs_fcsr_written (hok : CSRWritesListed w.id writes) (hin : write ∈ writes)
    (hlocal : write.isLocal = true) (hf : aliasesFCSR write.address) (c : WarpState) :
    (c.writeCSRs writes).fcsr = (c.setCSRValue write.address write.value).fcsr := by
  refine WarpState.writeCSRs_decides (f := WarpState.fcsr) hin hlocal hok.distinct
    (fun other hother hne c => c.setCSRValue_fcsr (fun ho => ?_) _) (fun c c' he => ?_) c
  · exact hne (congrArg CSRWriteEffect.address (hok.fcsr_unique hin hf hother ho))
  · unfold WarpState.writeCSR WarpState.setCSRValue
    split <;> first | exact he | rfl | (dsimp only; rw [he])

/-! ## The writes of a trap entry -/

theorem lookup_filter_ne (h : a ≠ b) (want : List (Nat × Word)) :
    (want.filter fun pair => pair.1 != b).lookup a = want.lookup a := by
  induction want with
  | nil => rfl
  | cons pair rest ih =>
    obtain ⟨key, value⟩ := pair
    by_cases hb : key = b
    · subst hb
      rw [List.filter_cons_of_neg (by simp), ih, List.lookup_cons, beq_false_of_ne h]
    · rw [List.filter_cons_of_pos (by simpa using hb), List.lookup_cons, List.lookup_cons, ih]

theorem trapEntryWrites_loop {id : Nat} (h : trapEntryWritesMatch.loop id writes want = true)
    (hw : want.lookup address = some value) :
    ∃ write ∈ writes, write.address = address ∧ write.scope = .warp ∧ write.value = value := by
  induction writes generalizing want with
  | nil =>
    rw [trapEntryWritesMatch.loop, List.isEmpty_iff] at h
    rw [h] at hw
    cases hw
  | cons write rest ih =>
    rw [trapEntryWritesMatch.loop] at h
    split at h
    · cases h
    · rename_i found hfound
      split_ifs at h with hbad
      obtain ⟨hscope, -, hvalue⟩ := not_or.mp hbad |>.imp not_not.mp not_or.mp
      by_cases ha : address = write.address
      · subst ha
        obtain rfl : found = value := Option.some.inj (hfound.symm.trans hw)
        exact ⟨write, List.mem_cons_self, rfl, hscope, not_not.mp hvalue⟩
      · obtain ⟨other, hin, hother⟩ := ih h ((lookup_filter_ne ha want).trans hw)
        exact ⟨other, List.mem_cons_of_mem _ hin, hother⟩

/-- The three registers of a trap entry after its writes. -/
theorem TrapEnterOk.written {control : ControlEffect} (h : TrapEnterOk w trap control writes)
    (hok : CSRWritesListed w.id writes) (c : WarpState) :
    (c.writeCSRs writes).trapCSRs.mepc = trap.epc ∧
      (c.writeCSRs writes).trapCSRs.mcause = trap.cause ∧
      (c.writeCSRs writes).trapCSRs.mtval = 0#32 := by
  have hloop : trapEntryWritesMatch.loop w.id writes
      [(0x341, trap.epc), (0x342, trap.cause), (0x343, 0#32)] = true := by
    have hwrites := h.writes
    unfold trapEntryWritesMatch at hwrites
    split_ifs at hwrites
    exact hwrites
  have hvalue : ∀ address value,
      [(0x341, trap.epc), (0x342, trap.cause), (0x343, 0#32)].lookup address = some value →
      ¬ aliasesFCSR address → (∃ old, w.csrValue address = some old) →
      (c.writeCSRs writes).csrValue address = some value := by
    intro address value hlookup hf ⟨old, hold⟩
    obtain ⟨write, hin, rfl, hscope, rfl⟩ := trapEntryWrites_loop hloop hlookup
    have hlocal : write.isLocal = true := by simp [CSRWriteEffect.isLocal, hscope]
    exact WarpState.writeCSRs_written hok hin hlocal hf hold c
  exact ⟨Option.some.inj (hvalue 0x341 trap.epc rfl (by decide) ⟨_, rfl⟩),
    Option.some.inj (hvalue 0x342 trap.cause rfl (by decide) ⟨_, rfl⟩),
    Option.some.inj (hvalue 0x343 0#32 rfl (by decide) ⟨_, rfl⟩)⟩

/-! ## The control stage of a trap -/

/-- What a trap makes of PC, trap registers and masks, decided on the old warp. -/
structure TrapControl (w : WarpState) (trap : TrapEffect) (after : WarpState) : Prop where
  enter : trap.kind = .enter →
    after.pc = w.trapCSRs.mtvec &&& ~~~3#32 ∧ after.trapCSRs.mepc = trap.epc ∧
      after.trapCSRs.mcause = trap.cause ∧ after.trapCSRs.mtval = 0#32 ∧
      after.savedThreadMask = trap.saveThreadMask
  leave : trap.kind ≠ .enter → trap.kind = .return ∧ after.pc = w.trapCSRs.mepc &&& ~~~3#32 ∧
      (trap.restoresThreadMask = true →
        after.activeMask = w.savedThreadMask ∧ after.lifecycle = .running)

theorem BundleOk.trapControl (h : BundleOk w e) (ht : e.trap = some trap) :
    TrapControl w trap (w.apply e) := by
  obtain ⟨ctl, hctl, hkind⟩ := (h.control.trap.2 trap ht).kind
  have hpc : (w.apply e).pc = ctl.nextPC := by
    rw [w.apply_pc, hctl]
    rfl
  rcases hkind with ⟨hkind, henter⟩ | ⟨hkind, hleave⟩
  · refine ⟨fun _ => ?_, fun hne => absurd hkind hne⟩
    obtain ⟨hmepc, hmcause, hmtval⟩ := henter.written h.csr.listed
      ((w.writeAll e.registerWrites).accrue e.fflags)
    have hdata := (w.apply_sameData e).trapCSRs
    rw [hdata, hpc, henter.nextPC]
    refine ⟨rfl, hmepc, hmcause, hmtval, ?_⟩
    unfold WarpState.apply WarpState.transfer
    rw [ht, hctl]
    simp only [WarpState.redirect, WarpState.takeTrap, hkind]
  · refine ⟨fun he => absurd (hkind.symm.trans he) (by decide),
      fun _ => ⟨hkind, ?_, fun hrestore => ?_⟩⟩
    · rw [hpc, hleave.nextPC, hleave.epc]
    · rw [← (hleave.restore hrestore).2]
      unfold WarpState.apply WarpState.transfer
      rw [ht, hctl]
      simp only [WarpState.redirect, WarpState.takeTrap, hkind, hrestore, if_true, and_self]

theorem stageInstructionEffects_trapControl (h : w.stageInstructionEffects context e = .ok stage)
    (ht : e.trap = some trap) : TrapControl w trap stage.after := by
  obtain ⟨ctl, hctl⟩ := stageInstructionEffects_trap h ht
  obtain ⟨hok, mask, lifecycle, hafter, -, hkept⟩ := stageInstructionEffects_eq_ok h
  have hmasked : ¬ e.Maskless := fun hm => Option.some_ne_none trap (ht.symm.trans hm.2.2)
  obtain ⟨rfl, rfl⟩ := hkept hmasked
  have hlatched := hok.trapControl ht
  have hpc : nextPC e.control w.pc = ((w.latched context).apply e).pc := by
    rw [WarpState.apply_pc, hctl]
    rfl
  rw [hpc] at hafter
  rw [hafter]
  exact ⟨hlatched.enter, hlatched.leave⟩

theorem jointTrap_control {control : EffectStage} (h : jointTrap owner p trap = .ok control) :
    TrapControl owner trap control.after := by
  unfold jointTrap at h
  simp only [ok_iff] at h
  obtain ⟨stage, hstage, -, rfl⟩ := h
  unfold EffectDelivery.stageEvent at hstage
  split at hstage
  · rename_i slot _ _
    by_cases hle : slot.order ≤ p.stream.controlOrder
    · exact absurd hstage (stageStreamControl_trap hle (Option.some_ne_none trap))
    · unfold stageStreamControl at hstage
      rw [if_neg hle] at hstage
      exact stageInstructionEffects_trapControl hstage rfl
  · obtain ⟨hok, rfl⟩ := stageEffects_eq_ok.mp hstage
    exact hok.trapControl rfl

/-! ## The joint transaction -/

/-- The registers that the trap logic writes at an entry. -/
def trapRegister (address : Nat) : Prop := 0x341 ≤ address ∧ address ≤ 0x343

/-- A joint delivery carried out on `owner`: the CSR writes of one instruction with the flags
and the trap that joined it. -/
structure JointApplied (owner : WarpState) (e : InstructionEffects) (fflags : Option FFlagsEffect)
    (trap : Option TrapEffect) (after : WarpState) : Prop where
  reads : ∀ read ∈ e.csrReads, ∀ value ∈ owner.csrReadValue read.address, ∀ lane,
    read.values lane = value
  olds : ∀ write ∈ e.csrWrites, write.isLocal = true →
    ∀ value ∈ owner.csrValue write.address, write.oldValue = value
  accrued : (∀ write ∈ e.csrWrites, write.isLocal = true → ¬ aliasesFCSR write.address) →
    after.fcsr = (owner.accrue fflags).fcsr
  overridden : ∀ write ∈ e.csrWrites, write.isLocal = true → aliasesFCSR write.address →
    after.fcsr = ((owner.accrue fflags).setCSRValue write.address write.value).fcsr
  entered : ∀ t ∈ trap, t.kind = .enter → after.pc = owner.trapCSRs.mtvec &&& ~~~3#32 ∧
    after.trapCSRs.mepc = t.epc ∧ after.trapCSRs.mcause = t.cause ∧
    after.trapCSRs.mtval = 0#32 ∧ after.savedThreadMask = t.saveThreadMask
  left : ∀ t ∈ trap, t.kind ≠ .enter → after.pc = owner.trapCSRs.mepc &&& ~~~3#32
  restored : ∀ t ∈ trap, t.kind ≠ .enter → t.restoresThreadMask = true →
    after.activeMask = owner.savedThreadMask ∧ after.lifecycle = .running
  masked : (∀ t ∈ trap, t.kind ≠ .enter → t.restoresThreadMask = false) →
    after.activeMask = owner.activeMask ∧ after.lifecycle = owner.lifecycle
  untrapped : trap = none → after.pc = owner.pc
  saved : (∀ t ∈ trap, t.kind ≠ .enter) → after.savedThreadMask = owner.savedThreadMask
  written : ∀ write ∈ e.csrWrites, write.isLocal = true → ¬ aliasesFCSR write.address →
    owner.csrValue write.address ≠ none →
    ((∃ t ∈ trap, t.kind = .enter) → ¬ trapRegister write.address) →
    after.csrValue write.address = some write.value
  kept : ∀ address, ¬ aliasesFCSR address →
    (∀ write ∈ e.csrWrites, write.isLocal = true → write.address ≠ address) →
    ((∃ t ∈ trap, t.kind = .enter) → ¬ trapRegister address) →
    after.csrValue address = owner.csrValue address
  others : after.id = owner.id ∧ after.lanes = owner.lanes ∧ after.divergence = owner.divergence

theorem mergeTrap_csrValue {base control : WarpState} (hf : ¬ aliasesFCSR address)
    (h : trap.kind = .enter → ¬ trapRegister address) :
    (mergeTrap base control trap).csrValue address = base.csrValue address := by
  unfold mergeTrap
  split
  · rename_i hkind
    have hreg := h hkind
    unfold WarpState.csrValue
    split <;> first | rfl | exact absurd (by unfold trapRegister; omega) hreg
  · split <;> rfl

/-- The software writes on top of the accumulated flags. -/
theorem BundleOk.jointApplied {reads : List CSRReadEffect}
    (h : BundleOk owner { csrReads := reads, csrWrites := writes, fflags })
    (hr : e.csrReads = reads) (hw : e.csrWrites = writes) :
    JointApplied owner e fflags none ((owner.accrue fflags).writeCSRs writes) := by
  subst hr hw
  have hsame := WarpState.writeCSRs_sameControl (owner.accrue fflags) e.csrWrites
  have hcontrol := hsame.trans (owner.accrue_sameControl fflags)
  refine ⟨?_, ?_, fun hw => ?_, fun write hin hlocal hf => ?_, ?_, ?_, ?_, fun _ => ?_, fun _ => ?_,
    fun _ => ?_, fun write hin hlocal hf hold _ => ?_, fun address hf hw _ => ?_, ?_⟩
  · intro read hin value hvalue lane
    obtain ⟨entry, -, -, hok⟩ := h.reads read hin
    exact hok value hvalue lane
  · intro write hin hlocal value hvalue
    have hfresh := h.csr.fresh write hin hlocal
    unfold CSRWriteEffect.Fresh at hfresh
    rw [hvalue] at hfresh
    exact hfresh
  · exact WarpState.writeCSRs_keeps (f := WarpState.fcsr)
      (fun write hin hlocal c => c.setCSRValue_fcsr (hw write hin hlocal) _) _
  · exact WarpState.writeCSRs_fcsr_written h.csr.listed hin hlocal hf _
  · exact fun t ht => absurd ht (Option.some_ne_none t).symm
  · exact fun t ht => absurd ht (Option.some_ne_none t).symm
  · exact fun t ht => absurd ht (Option.some_ne_none t).symm
  · exact ⟨hcontrol.activeMask, hcontrol.lifecycle⟩
  · exact hcontrol.pc
  · exact hcontrol.savedThreadMask
  · obtain ⟨old, hold⟩ := Option.ne_none_iff_exists'.mp hold
    exact WarpState.writeCSRs_written h.csr.listed hin hlocal hf hold _
  · refine (WarpState.writeCSRs_keeps (f := fun c => c.csrValue address)
      (fun write hin hlocal c => c.setCSRValue_csrValue hf (hw write hin hlocal) _) _).trans ?_
    exact WarpState.accrue_csrValue _ _ hf
  · exact ⟨hcontrol.id, (WarpState.writeCSRs_lanes _ _).trans (WarpState.accrue_lanes _ _),
      hcontrol.divergence⟩

/-- A trap merged into the software writes. -/
theorem JointApplied.merge {base control : WarpState} (h : JointApplied owner e fflags none base)
    (hc : TrapControl owner trap control) :
    JointApplied owner e fflags (some trap) (mergeTrap base control trap) := by
  have hnone : ∀ t : TrapEffect, t ∉ (none : Option TrapEffect) :=
    fun t ht => absurd ht (Option.some_ne_none t).symm
  have hfcsr : (mergeTrap base control trap).fcsr = base.fcsr := by
    unfold mergeTrap
    split <;> [rfl; split <;> rfl]
  have hothers : (mergeTrap base control trap).id = base.id ∧
      (mergeTrap base control trap).lanes = base.lanes ∧
      (mergeTrap base control trap).divergence = base.divergence := by
    unfold mergeTrap
    split <;> [exact ⟨rfl, rfl, rfl⟩; split <;> exact ⟨rfl, rfl, rfl⟩]
  have hpc := (mergeTrap_pc base control trap).1
  refine {
    reads := h.reads
    olds := h.olds
    accrued := fun hw => hfcsr.trans (h.accrued hw)
    overridden := fun write hin hlocal hf => hfcsr.trans (h.overridden write hin hlocal hf)
    entered := ?_
    left := ?_
    restored := ?_
    masked := fun hm => ?_
    untrapped := fun ht => absurd ht (Option.some_ne_none trap)
    saved := fun hs => ?_
    written := fun write hin hlocal hf hold hr => ?_
    kept := fun address hf hw hr => ?_
    others := ⟨hothers.1.trans h.others.1, hothers.2.1.trans h.others.2.1,
      hothers.2.2.trans h.others.2.2⟩ }
  · rintro _ ⟨⟩ hkind
    obtain ⟨hnext, hmepc, hmcause, hmtval, hsaved⟩ := hc.enter hkind
    rw [hpc, hnext]
    unfold mergeTrap
    rw [if_pos hkind]
    exact ⟨rfl, hmepc, hmcause, hmtval, hsaved⟩
  · rintro _ ⟨⟩ hkind
    exact hpc.trans (hc.leave hkind).2.1
  · rintro _ ⟨⟩ hkind hrestore
    obtain ⟨hmask, hlife⟩ := (hc.leave hkind).2.2 hrestore
    unfold mergeTrap
    rw [if_neg hkind, if_pos hrestore]
    exact ⟨hmask, hlife⟩
  · obtain ⟨hmask, hlife⟩ := h.masked fun t ht => absurd ht (hnone t)
    unfold mergeTrap
    split
    · exact ⟨hmask, hlife⟩
    · rename_i hkind
      rw [if_neg (Bool.eq_false_iff.mp (hm trap rfl hkind))]
      exact ⟨hmask, hlife⟩
  · refine Eq.trans ?_ (h.saved fun t ht => absurd ht (hnone t))
    unfold mergeTrap
    rw [if_neg (hs trap rfl)]
    split <;> rfl
  · refine (mergeTrap_csrValue hf fun hkind => hr ⟨trap, rfl, hkind⟩).trans ?_
    exact h.written write hin hlocal hf hold fun ⟨t, ht, _⟩ => absurd ht (hnone t)
  · refine (mergeTrap_csrValue hf fun hkind => hr ⟨trap, rfl, hkind⟩).trans ?_
    exact h.kept address hf hw fun ⟨t, ht, _⟩ => absurd ht (hnone t)

/-- A joint delivery fails with the warp and all receipts unchanged, or commits all receipts with
the joint result. -/
theorem joint_delivery_all_or_nothing {ω : Type} (d : EffectDelivery) (owner : WarpState)
    (world : ω)
    (flags trap : Option JointPeer) (external : Option (ExternalOwner ω)) {r : JointResult ω}
    (hr : d.deliverCSRJoint owner world flags trap external = r) :
    (r.error ≠ none → r.owner = owner ∧ r.delivery = d ∧ r.flags = flags ∧ r.trap = trap) ∧
    (r.error = none → r.delivery = { d with delivered := Function.update d.delivered .csr true } ∧
      r.flags = flags.map (·.mark .fflags) ∧
      r.trap = (trap.map fun p => (p.mark .control).advance) ∧
      JointApplied owner d.effects (flags.bind fun p => p.delivery.effects.fflags)
        (trap.bind fun p => p.delivery.effects.trap) r.owner) := by
  subst hr
  have hout := d.deliverCSRJoint_outcome owner world flags trap external
  generalize d.deliverCSRJoint owner world flags trap external = r at hout ⊢
  cases hout with
  | refused world err =>
    exact ⟨fun _ => ⟨rfl, rfl, rfl, rfl⟩, fun he => absurd he (Option.some_ne_none err)⟩
  | delivered world stage staged live =>
    refine ⟨fun he => absurd rfl he, fun _ => ⟨rfl, rfl, rfl, ?_⟩⟩
    obtain ⟨base, hbase, hjoin⟩ := jointStage_cases staged
    obtain ⟨hok, rfl⟩ := stageEffects_eq_ok.mp hbase
    have hsoftware := hok.jointApplied (e := d.effects) rfl rfl
    rcases hjoin with ⟨rfl, rfl⟩ | ⟨p, effect, control, rfl, heffect, hcontrol, rfl⟩
    · exact hsoftware
    · rw [Option.bind_some, heffect]
      exact hsoftware.merge (jointTrap_control hcontrol)

end

/-- A write of MSCRATCH, the inexact flag and a trap entry at PC zero meet. -/
theorem joint_scratch_flags_trap : let d : EffectDelivery := { effects := {
      csrReads := [{ address := 0x340, scope := .warp, values := fun _ => 0#32 }]
      csrWrites := [trapCSRWrite 0x340 0 0#32 7#32] } }
    let flags : JointPeer :=
      { delivery := { effects := { fflags := some ⟨1#8⟩ } }, stream := {}, peer := true }
    let trap : JointPeer := {
      delivery := { effects := {
        control := some { reason := .trap, currentPC := 0#32, nextPC := 0#32, taken := true }
        trap := some { kind := .enter, epc := 0#32, saveThreadMask := allLanes }
        csrWrites := [trapCSRWrite 0x341 0 0#32 0#32, trapCSRWrite 0x342 0 0#32 0#32,
          trapCSRWrite 0x343 0 0#32 0#32] } }
      stream := {}, peer := true }
    let r := d.deliverCSRJoint (freshWarp 0) () (some flags) (some trap) none
    r.error = none ∧ r.owner.fcsr = 1#8 ∧ r.owner.csrValue 0x340 = some 7#32 := by
  intro d flags trap r
  have hok : r.error = none := rfl
  obtain ⟨-, -, -, happlied⟩ := (joint_delivery_all_or_nothing d (freshWarp 0) () (some flags)
    (some trap) none (r := r) rfl).2 hok
  refine ⟨hok, happlied.accrued (by decide), ?_⟩
  exact happlied.written _ (List.mem_singleton_self _) rfl (by decide) (by decide)
    fun _ => by unfold trapRegister; decide

end VortexSim
