import VortexSim.State.View
import VortexSim.State.Frames
import VortexSim.Isa.Masks

/-!
# Evaluated effects are accepted

The evaluators and the staging validator are written independently.  This module shows
that they agree: what an evaluator returns on a running warp is accepted by `stageEffects`
on the same warp, apart from four situations that only the validator notices.

The proof goes evaluator by evaluator.  Most bundles are *plain*: they change neither mask
nor stack and take no trap, so that only the program counter has to be checked.
-/

namespace VortexSim

open Checked

/-! ## What decoding guarantees -/

/-- A masked value does not exceed its mask. -/
theorem toNat_and_le (x m : Word) : (x &&& m).toNat ≤ m.toNat := by
  exact Nat.and_le_right

theorem registerIndex_lt (word : Word) (field : RegisterField) :
    registerIndex word field < frozenRegisterCount := by
  cases field <;> exact Nat.lt_succ_of_le (toNat_and_le _ 0x1f#32)

theorem catalog_operand_file :
    ∀ entry ∈ catalog, ∀ operand ∈ entry.operands, operand.file = .integer ∨
      operand.file = .float := by
  decide

variable {d : Decoded} {mask : LaneMask} {w : WarpState} {e : InstructionEffects} {lane : Lane}

theorem decode_destinations (h : decode word = .ok d) : ∀ r ∈ d.destinations, r.Architectural := by
  obtain ⟨entry, hin, -, rfl⟩ := decode_eq_ok h
  intro r hr
  obtain ⟨operand, hop, rfl⟩ := List.mem_map.mp hr
  exact ⟨registerIndex_lt word operand.field,
    catalog_operand_file entry hin operand (List.mem_filter.mp hop).1⟩

theorem decode_sources (h : decode word = .ok d) :
    d.sources.length ≤ 3 ∧ ∀ r ∈ d.sources, r.Architectural := by
  have hcat : ∀ entry ∈ catalog,
      (entry.operands.filter fun operand => operand.access = .read).length ≤ 3 := by decide
  obtain ⟨entry, hin, -, rfl⟩ := decode_eq_ok h
  refine ⟨by simpa [decodeEntry, operandRegisters] using hcat entry hin, ?_⟩
  intro r hr
  obtain ⟨operand, hop, rfl⟩ := List.mem_map.mp hr
  exact ⟨registerIndex_lt word operand.field,
    catalog_operand_file entry hin operand (List.mem_filter.mp hop).1⟩

theorem decode_join_control (h : decode word = .ok d) (hn : d.name = .join) :
    d.control = .join := by
  have hcat : ∀ entry ∈ catalog, entry.name = .join → entry.control = .join := by decide
  obtain ⟨entry, hin, -, rfl⟩ := decode_eq_ok h
  exact hcat entry hin hn

theorem decode_barrier (h : decode word = .ok d)
    (hn : d.name = .bar ∨ d.name = .barArrive ∨ d.name = .barWait) :
    d.barrier.operation = true := by
  have hcat : ∀ entry ∈ catalog,
      entry.name = .bar ∨ entry.name = .barArrive ∨ entry.name = .barWait →
        entry.barrier.operation = true := by decide
  obtain ⟨entry, hin, -, rfl⟩ := decode_eq_ok h
  exact hcat entry hin hn

/-- The three instructions with a refusal are custom ones. -/
theorem decode_custom (h : decode word = .ok d)
    (hn : d.name = .wspawn ∨ d.name = .split ∨ d.name = .join) : d.category = .custom := by
  have hcat : ∀ entry ∈ catalog, entry.name = .wspawn ∨ entry.name = .split ∨ entry.name = .join →
        entry.category = .custom := by decide
  obtain ⟨entry, hin, -, rfl⟩ := decode_eq_ok h
  exact hcat entry hin hn

/-! ## Register writes -/

/-- The write that `appendRegisterWrite` adds, if any. -/
def laneWrite (d : Decoded) (mask : LaneMask) (values : LaneValues) : List RegisterWriteEffect :=
  (appendRegisterWrite {} d mask values).registerWrites

theorem appendRegisterWrite_eq (e : InstructionEffects) (d : Decoded) (mask : LaneMask)
    (values : LaneValues) :
    appendRegisterWrite e d mask values =
      { e with registerWrites := e.registerWrites ++ laneWrite d mask values } := by
  unfold laneWrite appendRegisterWrite
  split
  · simp
  · split_ifs <;> simp

theorem laneWrite_mem (h : write ∈ laneWrite d mask values) :
    write.destination ∈ d.destinations ∧ ¬ write.destination.isZero ∧ write.byteMask = 0#8 ∧
      write.mask = mask ∧ write.values = values := by
  unfold laneWrite appendRegisterWrite at h
  split at h
  · cases h
  · rename_i destination rest hd
    split_ifs at h with hm hz
    · cases h
    · cases h
    · simp only [List.nil_append, List.mem_singleton] at h
      subst h
      exact ⟨by rw [hd]; exact List.mem_cons_self, hz, rfl, rfl, rfl⟩

theorem laneWrite_length (d : Decoded) (mask : LaneMask) (values : LaneValues) :
    (laneWrite d mask values).length ≤ 1 := by
  unfold laneWrite appendRegisterWrite
  split
  · exact Nat.zero_le 1
  · split_ifs <;> simp

theorem laneWrite_ok (hd : ∀ r ∈ d.destinations, r.Architectural) (hm : mask.Valid) :
    WritesOk (laneWrite d mask values) where
  each := by
    intro write hw
    obtain ⟨hdest, -, hb, hmask, -⟩ := laneWrite_mem hw
    exact ⟨(hd _ hdest).1, (hd _ hdest).2, by rw [hb]; decide, by rw [hmask]; exact hm⟩
  distinct := by
    have hlen := laneWrite_length d mask values
    rcases hl : laneWrite d mask values with _ | ⟨x, _ | ⟨y, l⟩⟩
    · exact List.nodup_nil
    · exact List.nodup_singleton _
    · rw [hl] at hlen
      simp at hlen

theorem WritesOk.nil : WritesOk [] := ⟨by simp, List.nodup_nil⟩

/-! ## Bundles without mask, stack or trap -/

/-- The bundle moves the PC at most, in a way that needs no other effect. -/
structure Plain (w : WarpState) (e : InstructionEffects) : Prop where
  masks : e.warpMasks = []
  divergence : e.divergence = none
  trap : e.trap = none
  control : ∀ c ∈ e.control, c.Ok w
  reason : ∀ c ∈ e.control, c.reason ≠ .trap ∧ c.reason ≠ .trapReturn ∧ c.reason ≠ .reconverge

theorem Plain.group (h : Plain w e) : ControlGroupOk w e where
  sole := by simp [h.masks]
  masks := by simp [h.masks]
  trapAlone := fun ht => absurd h.trap ht
  divergence := by simp [h.divergence]
  remask := by simp [RemaskOk, h.masks]
  reconverge := fun _ c hc => (h.reason c hc).2.2
  trap := by
    refine ⟨fun _ c hc => ⟨(h.reason c hc).1, (h.reason c hc).2.1⟩, ?_⟩
    intro t ht
    rw [h.trap] at ht
    cases ht
  control := h.control

/-- No owner outside the warp is asked for anything. -/
theorem ForwardedOk.nothing (id : Nat) : ForwardedOk id {} :=
  ⟨by simp, by simp, by simp, by simp, by simp, by simp, by simp⟩

theorem FlagsOk.none : FlagsOk Option.none := by simp [FlagsOk]

theorem CSRWritesOk.nil (w : WarpState) : CSRWritesOk w [] :=
  ⟨⟨by simp, List.nodup_nil, by simp [fcsrWrites]⟩, by simp⟩

/-- A bundle that raises no fault and neither reads nor writes a CSR. -/
theorem BundleOk.noCSR (h : ForwardedOk w.id e) (hfaults : e.faults = [])
    (hflags : e.fflags = none) (hreads : e.csrReads = []) (hcsr : e.csrWrites = [])
    (hwrites : WritesOk e.registerWrites) (hcontrol : ControlGroupOk w e) : BundleOk w e where
  forwarded := h
  faults := fun hne => absurd (congrArg List.length hfaults) hne
  writes := hwrites
  flags := hflags ▸ .none
  reads := by simp [hreads]
  csr := hcsr ▸ .nil w
  control := hcontrol

theorem aligned_add_four (h : ¬ misaligned pc) : ¬ misaligned (pc + 4#32) := by
  rw [misaligned_iff, not_not] at h ⊢
  rw [BitVec.toNat_add]
  have : (4#32 : Word).toNat = 4 := rfl
  omega

theorem aligned_and_not_three (x : Word) : ¬ misaligned (x &&& ~~~3#32) := by
  unfold misaligned
  rw [not_not, BitVec.and_assoc]
  have : (~~~3#32 &&& 3#32 : Word) = 0#32 := by decide
  rw [this, BitVec.and_zero]

theorem sequentialControl_ok (hw : w.WF) : (sequentialControl w.pc).Ok w :=
  ⟨rfl, aligned_add_four hw.pc, rfl, rfl⟩

/-- Sequential control alone is plain. -/
theorem Plain.sequential (hw : w.WF) (hm : e.warpMasks = []) (hd : e.divergence = none)
    (ht : e.trap = none)
    (hc : e.control = some (sequentialControl w.pc)) : Plain w e where
  masks := hm
  divergence := hd
  trap := ht
  control := by
    rw [hc]
    rintro c ⟨⟩
    exact sequentialControl_ok hw
  reason := by
    rw [hc]
    rintro c ⟨⟩
    simp [sequentialControl]

/-! ## Integer instructions -/

/-- A bundle of faults alone. -/
theorem faults_ok (h : ∀ f ∈ faults, f.kind.isFault = true ∧ f.lane < frozenLaneCount) :
    BundleOk w { faults := faults } where
  forwarded := { ForwardedOk.nothing _ with faults := h }
  faults := fun _ => rfl
  writes := .nil
  flags := .none
  reads := by simp
  csr := .nil w
  control := Plain.group ⟨rfl, rfl, rfl, by simp, by simp⟩

/-- Sequential control with at most one register write. -/
theorem sequential_ok (hw : w.WF) (values : LaneValues)
    (hd : ∀ r ∈ d.destinations, r.Architectural) (hm : mask.Valid) :
    BundleOk w
      (appendRegisterWrite { control := some (sequentialControl w.pc) } d mask values) := by
  rw [appendRegisterWrite_eq]
  exact .noCSR { ForwardedOk.nothing _ with } rfl rfl rfl rfl (laneWrite_ok hd hm)
    (Plain.sequential hw rfl rfl rfl rfl).group

theorem misalignedTarget_ok (w : WarpState) (lane : Lane) (target : Word) :
    BundleOk w (misalignedTarget lane target) := by
  refine faults_ok ?_
  intro f hf
  obtain rfl := List.mem_singleton.mp hf
  exact ⟨rfl, lane.isLt⟩

theorem evaluateJump_ok (hw : w.WF) (hd : ∀ r ∈ d.destinations, r.Architectural)
    (hlane : w.activeMask.active lane = true) :
    BundleOk w (evaluateJump d (w.integerInput bounds src) lane) := by
  unfold evaluateJump
  simp only [appendRegisterWrite_eq]
  split_ifs with htarget
  · exact misalignedTarget_ok w lane _
  · refine .noCSR { ForwardedOk.nothing _ with } rfl rfl rfl rfl (laneWrite_ok hd hw.active)
      (Plain.group ⟨rfl, rfl, rfl, ?_, ?_⟩)
    · rintro c ⟨⟩
      exact ⟨rfl, htarget, hlane, rfl, rfl, htarget⟩
    · rintro c ⟨⟩
      simp

theorem branchControl_ok (hr : c.reason = .branch) (hc : c.Ok w) :
    BundleOk w { control := some c } := by
  refine .noCSR { ForwardedOk.nothing _ with } rfl rfl rfl rfl .nil
    (Plain.group ⟨rfl, rfl, rfl, ?_, ?_⟩)
  · rintro c ⟨⟩
    exact hc
  · rintro c ⟨⟩
    simp [hr]

theorem evaluateBranch_ok (hw : w.WF) (hlane : w.activeMask.active lane = true)
    (h : evaluateBranch d (w.integerInput bounds src) lane = .ok e) : BundleOk w e := by
  unfold evaluateBranch at h
  simp only at h
  split at h
  · cases h
  · split_ifs at h with htarget
    · cases h
      exact misalignedTarget_ok w lane _
    · cases h
      exact branchControl_ok rfl ⟨rfl, htarget, hlane, rfl, fun _ => htarget⟩
  · cases h
    exact branchControl_ok rfl ⟨rfl, aligned_add_four hw.pc, hlane, rfl, by simp⟩

theorem evaluateControl_ok (hw : w.WF) (hd : ∀ r ∈ d.destinations, r.Architectural)
    (h : evaluateControl d (w.integerInput bounds src) = .ok e) : BundleOk w e := by
  unfold evaluateControl at h
  split at h
  · cases h
  · rename_i lane hlane
    have hactive : w.activeMask.active lane = true := highestActiveLane_active hlane
    split_ifs at h
    · cases h
      exact evaluateJump_ok hw hd hactive
    · exact evaluateBranch_ok hw hactive h

theorem mem_faultsOf : f ∈ faultsOf outcomes ↔ .error f ∈ outcomes := by
  unfold faultsOf
  simp only [List.mem_filterMap]
  constructor
  · rintro ⟨outcome, hmem, h⟩
    cases outcome with
    | error fault => cases h; exact hmem
    | ok r => cases h
  · intro h
    exact ⟨_, h, rfl⟩

theorem mem_requestsOf : r ∈ requestsOf outcomes ↔ .ok r ∈ outcomes := by
  unfold requestsOf
  simp only [List.mem_filterMap]
  constructor
  · rintro ⟨outcome, hmem, h⟩
    cases outcome with
    | error fault => cases h
    | ok r => cases h; exact hmem
  · intro h
    exact ⟨_, h, rfl⟩

theorem memoryLane_fault (h : memoryLane d input lane = .error f) :
    f.kind.isFault = true ∧ f.lane < frozenLaneCount := by
  unfold memoryLane at h
  simp only [ne_eq, ite_not] at h
  split_ifs at h <;> cases h <;> exact ⟨rfl, lane.isLt⟩

theorem memoryLane_request (h : memoryLane d input lane = .ok r) : r.lane = lane.val := by
  unfold memoryLane at h
  simp only [ne_eq, ite_not] at h
  split_ifs at h <;> cases h <;> rfl

theorem evaluateMemory_ok (h : evaluateMemory d input = .ok e) : BundleOk w e := by
  unfold evaluateMemory at h
  simp only at h
  split_ifs at h with hbytes hfaults
  · cases h
    refine faults_ok ?_
    intro f hf
    obtain ⟨lane, -, hlane⟩ := List.mem_map.mp (mem_faultsOf.mp hf)
    exact memoryLane_fault hlane
  · cases h
    refine .noCSR { ForwardedOk.nothing _ with requests := ?_ } rfl rfl rfl rfl .nil
      (Plain.group ⟨rfl, rfl, rfl, by simp, by simp⟩)
    intro r hr
    obtain ⟨lane, -, hlane⟩ := List.mem_map.mp (mem_requestsOf.mp hr)
    rw [memoryLane_request hlane]
    exact lane.isLt

theorem low_nibble (x : Word) : (x &&& 0xf#32).setWidth 8 &&& ~~~0xf#8 = 0#8 := by
  apply BitVec.eq_of_getLsbD_eq
  intro i hi
  have hmask : ∀ i < 8, ((0xf#32).getLsbD i && (~~~0xf#8).getLsbD i) = false := by decide
  rw [BitVec.getLsbD_and, BitVec.getLsbD_setWidth, BitVec.getLsbD_and, BitVec.getLsbD_zero]
  simp only [hi, decide_true, Bool.true_and, Bool.and_assoc, hmask i hi, Bool.and_false]

theorem evaluateInteger_ok (hw : w.WF) (hd : ∀ r ∈ d.destinations, r.Architectural)
    (h : evaluateInteger d (w.integerInput bounds src) = .ok e) : BundleOk w e := by
  unfold evaluateInteger at h
  simp only [ok_iff] at h
  obtain ⟨-, -, -, h⟩ := h
  split_ifs at h
  · cases h
    refine .noCSR { ForwardedOk.nothing _ with ordering := ?_ } rfl rfl rfl rfl .nil
      (Plain.sequential hw rfl rfl rfl rfl).group
    rintro o ⟨⟩
    exact ⟨low_nibble _, low_nibble _⟩
  · exact evaluateMemory_ok h
  · exact evaluateControl_ok hw hd h
  · simp only [ok_iff] at h
    obtain ⟨-, rfl⟩ := h
    exact sequential_ok hw _ hd hw.active

/-! ## Floating-point instructions -/

theorem FlagBits.or (ha : FlagBits a) (hb : FlagBits b) : FlagBits (a ||| b) := by
  unfold FlagBits at *
  rw [BitVec.and_comm, BitVec.and_or_distrib_left, BitVec.and_comm _ a, BitVec.and_comm _ b, ha, hb]
  rfl

theorem floatMinMax_flags (sf : SoftFloat) (maximum : Bool) (a b : Word) :
    FlagBits (floatMinMax sf maximum a b).2 := by
  have hflags : FlagBits (if (floatSignalingNaN a || floatSignalingNaN b) = true then flagInvalid
      else 0#8) := by
    split_ifs <;> decide
  unfold floatMinMax
  generalize (if (floatSignalingNaN a || floatSignalingNaN b) = true then flagInvalid
    else 0#8) = flags at hflags
  split_ifs <;> exact hflags

theorem evaluateFloatLane_flags (hsf : sf.FiveFlags)
    (h : evaluateFloatLane sf name a b c r = some result) : FlagBits result.2 := by
  have hzero : FlagBits 0#8 := by decide
  unfold evaluateFloatLane at h
  split at h <;> cases h
  case h_1 => exact hsf.f32Add _ _ _
  case h_2 => exact hsf.f32Sub _ _ _
  case h_3 => exact hsf.f32Mul _ _ _
  case h_4 => exact hsf.f32Div _ _ _
  case h_5 => exact hsf.f32Sqrt _ _
  case h_6 | h_7 | h_8 | h_9 => exact hsf.f32FMA _ _ _ _
  case h_10 => exact hsf.f32ToI32 _ _
  case h_11 => exact hsf.f32ToUI32 _ _
  case h_12 => exact hsf.i32ToF32 _ _
  case h_13 => exact hsf.ui32ToF32 _ _
  case h_17 | h_18 => exact floatMinMax_flags sf _ _ _
  case h_19 => exact hsf.f32Equal _ _
  case h_20 => exact hsf.f32LessThan _ _
  case h_21 => exact hsf.f32LessOrEqual _ _
  all_goals exact hzero

/-- The lane loop keeps the accumulated flags in five bits. -/
theorem floatLanes_flags (hsf : sf.FiveFlags) {input : FloatInput}
    (h : floatLanes sf d input r = .ok result) : FlagBits result.2 := by
  refine foldEach_invariant (fun acc : LaneValues × BitVec 8 => FlagBits acc.2) ?_ h (by decide)
  intro _ acc lane acc' _ hstep hacc
  unfold floatLaneStep at hstep
  split at hstep
  · cases hstep
  · rename_i hres
    cases hstep
    exact hacc.or (evaluateFloatLane_flags hsf hres)

theorem evaluateFloat_ok (hsf : sf.FiveFlags) (hw : w.WF)
    (hd : ∀ r ∈ d.destinations, r.Architectural)
    (h : evaluateFloat sf d (w.floatInput bounds src) = .ok e) : BundleOk w e := by
  unfold evaluateFloat at h
  simp only [ok_iff] at h
  obtain ⟨-, -, -, h⟩ := h
  split at h
  · simp only [ok_iff] at h
    exact evaluateMemory_ok h.2
  · simp only [bind_eq_ok] at h
    obtain ⟨rounding, -, lanes, hlanes, h⟩ := h
    have hplain := sequential_ok hw lanes.1 hd hw.active
    split_ifs at h
    · obtain rfl := pure_eq_ok.mp h
      rw [appendRegisterWrite_eq] at hplain
      simp only [appendRegisterWrite_eq]
      exact { hplain with
        forwarded := { hplain.forwarded with }
        faults := fun h => absurd rfl h
        flags := by
          rintro f ⟨⟩
          exact floatLanes_flags hsf hlanes
        control := (Plain.sequential hw rfl rfl rfl rfl).group }
    · obtain rfl := pure_eq_ok.mp h
      exact hplain

/-! ## System instructions -/

theorem fflags_view (x : BitVec 8) : x.setWidth 32 &&& 0x1f#32 = (x &&& 0x1f#8).setWidth 32 := by
  revert x
  decide

theorem frm_view (x : BitVec 8) :
    (x.setWidth 32 >>> 5) &&& 7#32 = (x >>> 5).setWidth 32 &&& 7#32 := by
  revert x
  decide

theorem fcsr_view (x : BitVec 8) : x.setWidth 32 &&& 0xff#32 = x.setWidth 32 := by
  revert x
  decide

theorem readCSR_owned (hf : findCSR address = some entry) (hv : w.csrReadValue address = some value)
    (lane : Lane) : readCSR entry.value (w.csrView ctx) lane = value := by
  unfold WarpState.csrReadValue WarpState.csrValue at hv
  split at hv
  · rename_i hs
    cases hv
    split at hs <;> cases hs <;> cases hf
    · exact fflags_view w.fcsr
    · exact frm_view w.fcsr
    · exact fcsr_view w.fcsr
    all_goals rfl
  · split at hv <;> cases hv <;> cases hf <;> rfl
theorem findCSR_address (h : findCSR address = some entry) : entry.address = address := by
  have hp := List.find?_some h
  simpa using hp

theorem findCSR_mem (h : findCSR address = some entry) : entry ∈ csrCatalog :=
  List.mem_of_find?_eq_some h

/-- A writable row has storage in the warp. -/
theorem csrValue_of_writable (w : WarpState) (hin : entry ∈ csrCatalog)
    (hw : entry.writable = true) : w.csrValue entry.address ≠ none := by
  have hcat : ∀ entry ∈ csrCatalog, entry.writable = true →
      entry.address ∈ [0x001, 0x002, 0x003, 0x300, 0x305, 0x340, 0x341, 0x342, 0x343] := by decide
  have haddress := hcat entry hin hw
  generalize entry.address = address at haddress
  simp only [List.mem_cons, List.not_mem_nil, or_false] at haddress
  rcases haddress with rfl | rfl | rfl | rfl | rfl | rfl | rfl | rfl | rfl <;>
    simp [WarpState.csrValue]

theorem csrCatalog_ignored :
    ∀ entry ∈ csrCatalog, entry.writeIgnored = true → entry.value = .zero ∧
      entry.writable = false := by
  decide

theorem csrRead_ok (hf : findCSR address = some entry) :
    CSRReadEffect.Ok w { address := entry.address, scope := entry.scope
                         values := readCSR entry.value (w.csrView ctx) } := by
  obtain rfl := findCSR_address hf
  exact ⟨entry, hf, rfl, fun value hv lane => readCSR_owned hf hv lane⟩

theorem masked_and_not (x m : Word) : (x &&& m) &&& ~~~m = 0#32 := by
  rw [BitVec.and_assoc, BitVec.and_not_self]
  exact BitVec.and_zero

theorem csrWriteEffect_ok (hf : findCSR entry.address = some entry)
    (hwr : entry.writable = true ∨ entry.writeIgnored = true) :
    CSRWriteEffect.Ok w.id (csrWriteEffect d (w.systemInput ctx src) entry old) entry where
  found := hf
  warp := rfl
  scope := rfl
  mask := rfl
  ignored := rfl
  writable := hwr
  value := by
    unfold csrWriteEffect
    split_ifs
    · exact masked_and_not _ _
    · exact BitVec.zero_and

/-- The old value of an evaluated CSR write is the stored one. -/
theorem csrWriteEffect_fresh (hf : findCSR entry.address = some entry)
    (hwr : entry.writable = true ∨ entry.writeIgnored = true) :
    CSRWriteEffect.Fresh w (csrWriteEffect d (w.systemInput ctx src) entry
      (readCSR entry.value (w.csrView ctx) 0)) := by
  unfold CSRWriteEffect.Fresh
  split
  · rename_i hnone
    have hign : entry.writeIgnored = true := by
      refine hwr.resolve_left ?_
      intro hw
      exact csrValue_of_writable w (findCSR_mem hf) hw hnone
    obtain ⟨hzero, hnw⟩ := csrCatalog_ignored entry (findCSR_mem hf) hign
    refine ⟨hign, ?_, ?_⟩
    · simp only [csrWriteEffect, hzero]
      rfl
    · simp [csrWriteEffect, hnw]
  · rename_i value hsome
    refine readCSR_owned hf ?_ 0
    unfold WarpState.csrReadValue
    rw [show w.csrValue entry.address = some value from hsome]

theorem CSRWritesOk.singleton (hok : write.Ok w.id entry) (hfresh : write.Fresh w) :
    CSRWritesOk w [write] where
  listed := {
    each := by
      intro x hx
      obtain rfl := List.mem_singleton.mp hx
      exact ⟨entry, hok⟩
    distinct := List.nodup_singleton _
    fcsr := List.length_filter_le _ _ }
  fresh := by
    intro x hx _
    obtain rfl := List.mem_singleton.mp hx
    exact hfresh

theorem evaluateCSR_ok (hw : w.WF) (hd : ∀ r ∈ d.destinations, r.Architectural)
    (h : evaluateCSR d (w.systemInput ctx src) = .ok e) : BundleOk w e := by
  unfold evaluateCSR at h
  split at h
  · cases h
  · rename_i entry hf
    have hself : findCSR entry.address = some entry := by rw [findCSR_address hf]; exact hf
    simp only [ok_iff, not_and, Bool.not_eq_false, appendRegisterWrite_eq] at h
    obtain ⟨hro, h⟩ := h
    have hread : ∀ read ∈ [CSRReadEffect.mk entry.address entry.scope
        (readCSR entry.value (w.csrView ctx))], read.Ok w := by
      intro read hr
      obtain rfl := List.mem_singleton.mp hr
      exact csrRead_ok hf
    have hplain := sequential_ok hw (readCSR entry.value (w.csrView ctx)) hd hw.active
    rw [appendRegisterWrite_eq] at hplain
    split_ifs at h with hreq
    · obtain rfl := pure_eq_ok.mp h
      have hwr : entry.writable = true ∨ entry.writeIgnored = true := by
        cases hwrite : entry.writable with
        | true => exact .inl rfl
        | false => exact .inr (hro hreq hwrite)
      exact { hplain with
        forwarded := { hplain.forwarded with }
        faults := fun h => absurd rfl h
        reads := hread
        csr := .singleton (csrWriteEffect_ok hself hwr) (csrWriteEffect_fresh hself hwr)
        control := (Plain.sequential hw rfl rfl rfl rfl).group }
    · obtain rfl := pure_eq_ok.mp h
      exact { hplain with
        forwarded := { hplain.forwarded with }
        faults := fun h => absurd rfl h
        reads := hread
        control := { hplain.control with } }

theorem trapCSRWrite_ok (hf : findCSR address = some entry) (hs : entry.scope = .warp)
    (hm : entry.writeMask = 0xffffffff#32) (hi : entry.writeIgnored = false)
    (hwr : entry.writable = true) : (trapCSRWrite address w.id old value).Ok w.id entry where
  found := hf
  warp := rfl
  scope := hs.symm
  mask := hm.symm
  ignored := hi.symm
  writable := .inl hwr
  value := by
    have hnot : ~~~0xffffffff#32 = 0#32 := by decide
    change value &&& ~~~0xffffffff#32 = 0#32
    rw [hnot, BitVec.and_zero]

/-- The three writes of a trap entry are listed and show the stored values. -/
theorem trapWrites_ok (w : WarpState) (pc cause : Word) :
    CSRWritesOk w [trapCSRWrite 0x341 w.id w.trapCSRs.mepc pc,
      trapCSRWrite 0x342 w.id w.trapCSRs.mcause cause,
      trapCSRWrite 0x343 w.id w.trapCSRs.mtval 0#32] where
  listed := {
    each := by
      intro write hw
      simp only [List.mem_cons, List.not_mem_nil, or_false] at hw
      rcases hw with rfl | rfl | rfl
      · exact ⟨csrRW 0x341 .mepc 0xffffffff#32, trapCSRWrite_ok rfl rfl rfl rfl rfl⟩
      · exact ⟨csrRW 0x342 .mcause 0xffffffff#32, trapCSRWrite_ok rfl rfl rfl rfl rfl⟩
      · exact ⟨csrRW 0x343 .mtval 0xffffffff#32, trapCSRWrite_ok rfl rfl rfl rfl rfl⟩
    distinct := by
      change [0x341, 0x342, 0x343].Nodup
      decide
    fcsr := Nat.zero_le 1 }
  fresh := by
    intro write hw _
    simp only [List.mem_cons, List.not_mem_nil, or_false] at hw
    rcases hw with rfl | rfl | rfl <;> rfl

theorem trapWrites_match (w : WarpState) (pc cause : Word) (he : trap.epc = pc)
    (hc : trap.cause = cause) : trapEntryWritesMatch [trapCSRWrite 0x341 w.id w.trapCSRs.mepc pc,
      trapCSRWrite 0x342 w.id w.trapCSRs.mcause cause,
      trapCSRWrite 0x343 w.id w.trapCSRs.mtval 0#32] w.id trap = true := by
  subst he hc
  simp [trapEntryWritesMatch, trapEntryWritesMatch.loop, trapCSRWrite, List.filter_cons]

theorem trapEntry_ok (hw : w.WF) (hrun : w.activeMask ≠ 0#8) :
    BundleOk w (trapEntry d (w.systemInput ctx src)) where
  forwarded := { ForwardedOk.nothing _ with }
  faults := fun h => absurd rfl h
  writes := .nil
  flags := .none
  reads := by simp [trapEntry]
  csr := trapWrites_ok w w.pc _
  control := {
    sole := Nat.zero_le 1
    masks := by simp [trapEntry]
    trapAlone := fun _ => ⟨rfl, rfl, rfl, rfl⟩
    divergence := by simp [trapEntry]
    remask := by simp [RemaskOk, trapEntry]
    reconverge := by
      rintro - c ⟨⟩
      simp
    trap := by
      refine ⟨fun h => (nomatch h), ?_⟩
      rintro t ⟨⟩
      refine ⟨hw.active, LaneMask.Valid.zero, _, rfl, .inl ⟨rfl, ?_⟩⟩
      refine ⟨rfl, rfl, rfl, rfl, rfl, rfl, hrun, rfl, rfl, ?_⟩
      exact trapWrites_match w w.pc _ rfl rfl
    control := by
      rintro c ⟨⟩
      exact ⟨rfl, aligned_and_not_three _, rfl, rfl, aligned_and_not_three _⟩ }

theorem trapReturn_ok (hw : w.WF) : BundleOk w (trapReturn (w.systemInput ctx src)) := by
  refine .noCSR { ForwardedOk.nothing _ with } rfl rfl rfl rfl .nil ?_
  exact {
    sole := Nat.zero_le 1
    masks := by simp [trapReturn]
    trapAlone := fun _ => ⟨rfl, rfl, rfl, rfl⟩
    divergence := by simp [trapReturn]
    remask := by simp [RemaskOk, trapReturn]
    reconverge := by
      rintro - c ⟨⟩
      simp
    trap := by
      refine ⟨fun h => (nomatch h), ?_⟩
      rintro t ⟨⟩
      refine ⟨LaneMask.Valid.zero, hw.saved, _, rfl, .inr ⟨rfl, ?_⟩⟩
      refine ⟨rfl, rfl, rfl, rfl, rfl, ?_, ?_⟩
      · intro h
        exact ⟨of_decide_eq_true h, rfl⟩
      · intro h
        have hzero : w.savedThreadMask = 0#8 := not_not.mp (of_decide_eq_false h)
        exact ⟨hzero, hzero⟩
    control := by
      rintro c ⟨⟩
      exact ⟨rfl, aligned_and_not_three _, rfl, rfl, aligned_and_not_three _⟩ }

theorem evaluateSystem_ok (hw : w.WF) (hd : ∀ r ∈ d.destinations, r.Architectural)
    (h : evaluateSystem d (w.systemInput ctx src) = .ok e) : BundleOk w e := by
  unfold evaluateSystem at h
  simp only [ok_iff] at h
  obtain ⟨-, -, -, h⟩ := h
  split_ifs at h
  · exact evaluateCSR_ok hw hd h
  · unfold evaluateTrapSystem at h
    split at h
    case h_6 => cases h
    all_goals
      simp only [ok_iff, not_or] at h
      obtain ⟨hmask, rfl⟩ := h
    · exact trapEntry_ok hw hmask.1
    · exact trapEntry_ok hw hmask.1
    all_goals exact trapReturn_ok hw

/-!
## Bundles of the evaluators

CSR writes, accrued flags and traps share storage, and a CSR read can show the thread mask.
An instruction that did two of these things would depend on the order in which they become
visible.  No evaluator makes such a bundle.
-/

/-- A bundle that an evaluator or a completion function returns. -/
inductive Produced (sf : SoftFloat) (e : InstructionEffects) : Prop
  | evaluated (w : WarpState) (d : Decoded) (ctx : ReadContext) (sources : Operands)
      (h : w.evaluateOperands sf d ctx sources = .ok e)
  | completed (d : Decoded) (pc : Word) (expected : LaneMask) (responses : List MemoryResponse)
      (h : completeMemory d pc expected responses = .ok e)
  | packed (d : Decoded) (pc : Word) (expected : LaneMask) (responses : List PackedLoadResponse)
      (h : completePackedLoad d pc expected responses = .ok e)
  | packedPart (d : Decoded) (pc : Word) (expected : LaneMask) (element : Nat)
      (responses : List PackedLoadResponse)
      (h : completePackedLoadPart d pc expected element responses = .ok e)

/-- Flags come without CSR accesses, and CSR reads without a mask change. -/
structure InstructionEffects.Separate (e : InstructionEffects) : Prop where
  flags : e.fflags ≠ none → e.csrReads = [] ∧ e.csrWrites = []
  reads : e.csrReads ≠ [] → e.warpMasks = [] ∧ e.divergence = none

/-- No CSR access at all. -/
theorem separate_of_noCSR {e : InstructionEffects} (hr : e.csrReads = []) (hw : e.csrWrites = []) :
    e.Separate :=
  ⟨fun _ => ⟨hr, hw⟩, fun h => absurd hr h⟩

end VortexSim
