import VortexSim.State.ActiveLanes
import VortexSim.State.Footprint
import VortexSim.State.Refusals
import VortexSim.Timing.Token

/-!
# The hazards of a token

The scoreboard orders instructions by the metadata that `decodeToken` derives from the catalog.
The reads and writes happen elsewhere, in the evaluators.  A token lists them all: evaluation
depends on the used sources, on the parts of FCSR in the read set and on the context of the warp,
and the effects change the destination and the parts of FCSR in the write set.
-/

namespace VortexSim.Timing

open Checked

/-- A register by its number in the scoreboard, integer registers first. -/
def registerValues (w : WarpState) (r : Fin 64) : LaneValues := fun lane =>
  if r.val < 32 then if r.val = 0 then 0#32 else (w.lanes lane).gpr (regIndex r.val)
  else (w.lanes lane).fpr (regIndex (r.val - 32))

/-- The exception flags of the warp. -/
def fflagsOf (w : WarpState) : BitVec 8 := w.fcsr &&& 0x1f#8

/-- The rounding mode of the warp. -/
def frmOf (w : WarpState) : BitVec 8 := w.fcsr >>> 5

/-- Two warps that agree on what the token reads: its used sources and the special registers in
its read set. -/
structure Token.ReadsSame (t : Token) (w w' : WarpState) : Prop where
  sources : ∀ i : Fin 3, t.used.getLsbD i.val = true →
    registerValues w (t.sources i) = registerValues w' (t.sources i)
  fflags : t.readSpecial.getLsbD 0 = true → fflagsOf w = fflagsOf w'
  frm : t.readSpecial.getLsbD 1 = true → frmOf w = frmOf w'

/-- The context that travels with the instruction and the warp. -/
structure SameContext (w w' : WarpState) : Prop where
  pc : w.pc = w'.pc
  activeMask : w.activeMask = w'.activeMask
  divergence : w.divergence = w'.divergence
  trapCSRs : w.trapCSRs = w'.trapCSRs

/-! ## What the token holds -/

section

variable {word : Word} {d : Decoded}

theorem decode_destinations_length (h : decode word = .ok d) : d.destinations.length ≤ 1 := by
  obtain ⟨entry, hin, -, rfl⟩ := decode_eq_ok h
  have hcount : ∀ entry ∈ catalog,
      (entry.operands.filter fun operand => operand.access = .write).length ≤ 1 := by decide
  unfold decodeEntry operandRegisters
  rw [List.length_map]
  exact hcount entry hin

theorem registerId_val (h : r.Architectural) :
    (registerId r).val = if r.file = .float then r.index + 32 else r.index := by
  have hindex : r.index < 32 := h.1
  refine Nat.mod_eq_of_lt ?_
  split <;> omega

theorem registerId_inj (hr : r.Architectural) (hq : q.Architectural)
    (h : registerId r = registerId q) : r = q := by
  have hval := congrArg Fin.val h
  rw [registerId_val hr, registerId_val hq] at hval
  obtain ⟨rf, ri⟩ := r
  obtain ⟨qf, qi⟩ := q
  have hri : ri < 32 := hr.1
  have hqi : qi < 32 := hq.1
  rcases hr.2 with rfl | rfl <;> rcases hq.2 with rfl | rfl <;> simp at hval <;>
    first | (subst hval; rfl) | omega

theorem readRegister_eq (h : r.Architectural) (w : WarpState) :
    w.readRegister r = registerValues w (registerId r) := by
  funext lane
  have hindex : r.index < 32 := h.1
  unfold WarpState.readRegister registerValues
  rw [registerId_val h]
  rcases h.2 with hfile | hfile
  · split <;> simp_all
  · have hne : r.file ≠ .integer := by
      rw [hfile]
      decide
    rw [if_neg hne, if_pos hfile, if_neg (by omega), Nat.add_sub_cancel]

/-- The metadata that matters here, for a legal word. -/
structure Token.Lists (t : Token) (d : Decoded) : Prop where
  sources : ∀ i : Fin 3, ∀ r, d.sources[i.val]? = some r →
    t.used.getLsbD i.val = true ∧ t.sources i = registerId r
  destination : ∀ r ∈ d.destinations, ¬ r.isZero → t.writeback = true ∧ t.destination = registerId r
  readSpecial : t.readSpecial = (specials d).1
  writeSpecial : t.writeSpecial = (specials d).2

/-- A legal word has a token. -/
theorem decodeToken_lists (h : decode word = .ok d) (hword : t.word = word) :
    ∃ token, decodeToken t = .ok token ∧ token.Lists d := by
  obtain ⟨hsources, -⟩ := decode_sources h
  have hdestinations := decode_destinations_length h
  unfold decodeToken
  rw [hword, h]
  simp only [ok_bind, rejectIf_of_not (Nat.not_lt.mpr hsources),
    rejectIf_of_not (Nat.not_lt.mpr hdestinations)]
  refine ⟨_, rfl, ⟨fun i r hr => ⟨?_, ?_⟩, fun r hr hzero => ?_, rfl, rfl⟩⟩
  · have hused : ∀ n : Fin 4, ∀ i : Fin 3, i.val < n.val →
        (BitVec.ofNat 3 (2 ^ n.val - 1)).getLsbD i.val = true := by decide
    exact hused ⟨d.sources.length, Nat.lt_succ_of_le hsources⟩ i (List.getElem?_eq_some_iff.mp hr).1
  · dsimp only
    rw [hr]
    rfl
  · have hhead : d.destinations.head? = some r := by
      cases hlist : d.destinations with
      | nil =>
        rw [hlist] at hr
        cases hr
      | cons x rest =>
        rw [hlist] at hr hdestinations
        have hrest : rest = [] := List.length_eq_zero_iff.mp (by simpa using hdestinations)
        subst hrest
        obtain rfl := List.mem_singleton.mp hr
        rfl
    rw [hhead]
    refine ⟨decide_eq_true fun hid => hzero ?_, rfl⟩
    have harch := decode_destinations h r hr
    have hval : (registerId r).val = 0 := congrArg Fin.val hid
    rw [registerId_val harch] at hval
    rcases harch.2 with hfile | hfile
    · rw [hfile] at hval
      exact ⟨hfile, hval⟩
    · rw [hfile, if_pos rfl] at hval
      omega

end

/-! ## Reads -/

section

variable {word : Word} {d : Decoded} {t : Token} {w w' : WarpState}

theorem Token.Lists.operands (ht : t.Lists d) (hdecode : decode word = .ok d)
    (h : t.ReadsSame w w') : w.operands d = w'.operands d := by
  funext i
  unfold WarpState.operands
  cases hr : d.sources[i.val]? with
  | none => rfl
  | some r =>
    obtain ⟨hused, hid⟩ := ht.sources i r hr
    have harch := (decode_sources hdecode).2 r (List.mem_of_getElem? hr)
    dsimp only
    rw [readRegister_eq harch, readRegister_eq harch, ← hid]
    exact h.sources i hused

/-- Static rounding does not look at the mode of the warp. -/
theorem resolveFloatRounding_static (h : d.rounding ≠ .dynamic) (frm frm' : RoundingMode) :
    resolveFloatRounding d frm = resolveFloatRounding d frm' := by
  unfold resolveFloatRounding
  rw [if_neg h, if_neg h]

theorem evaluateFloat_frm (sf : SoftFloat)
    (h : d.category = .rv32f → d.memory.kind = .none → d.rounding = .dynamic → input.frm = frm) :
    evaluateFloat sf d { input with frm } = evaluateFloat sf d input := by
  unfold evaluateFloat
  by_cases hcategory : d.category = .rv32f
  · by_cases hkind : d.memory.kind = .none
    · have hrounding : resolveFloatRounding d frm = resolveFloatRounding d input.frm := by
        by_cases hdynamic : d.rounding = .dynamic
        · rw [h hcategory hkind hdynamic]
        · exact resolveFloatRounding_static hdynamic _ _
      rw [hrounding]
      rfl
    · rw [if_pos hkind, if_pos hkind]
  · have hbad : d.category ≠ .rv32f ∨ d.format ≠ .single := .inl hcategory
    rw [rejectIf_of hbad]
    rfl

/-- A CSR instruction looks at FCSR through the entry it names. -/
theorem evaluateSystem_fcsr (h : d.csr ≠ .none → ∀ entry, findCSR d.csrAddress = some entry →
      readCSR entry.value { input.csr with fcsr } = readCSR entry.value input.csr) :
    evaluateSystem d { input with csr := { input.csr with fcsr } } = evaluateSystem d input := by
  by_cases hcsr : d.csr = .none
  · unfold evaluateSystem
    rw [if_neg (not_not.mpr hcsr), if_neg (not_not.mpr hcsr)]
    rfl
  · have heval : evaluateCSR d { input with csr := { input.csr with fcsr } } =
      evaluateCSR d input := by
      unfold evaluateCSR
      cases hentry : findCSR d.csrAddress with
      | none => rfl
      | some entry =>
        dsimp only
        rw [h hcsr entry hentry]
        rfl
    unfold evaluateSystem
    rw [if_pos hcsr, if_pos hcsr, heval]

variable {sf : SoftFloat} {e : InstructionEffects}

/-- The three addresses of FCSR are the only ones that show it. -/
theorem findCSR_fcsr (h : findCSR address = some entry) :
    (entry.value = .fflags → address = 1) ∧ (entry.value = .frm → address = 2) ∧
      (entry.value = .fcsr → address = 3) := by
  have hcatalog : ∀ entry ∈ csrCatalog, (entry.value = .fflags → entry.address = 1) ∧
      (entry.value = .frm → entry.address = 2) ∧ (entry.value = .fcsr → entry.address = 3) := by
    decide
  rw [← findCSR_address h]
  exact hcatalog entry (findCSR_mem h)

theorem readCSR_fcsr {view : CSRView}
    (hflags : kind = .fflags → fcsr &&& 0x1f#32 = view.fcsr &&& 0x1f#32)
    (hfrm : kind = .frm → (fcsr >>> 5) &&& 0x07#32 = (view.fcsr >>> 5) &&& 0x07#32)
    (hall : kind = .fcsr → fcsr &&& 0xff#32 = view.fcsr &&& 0xff#32) :
    readCSR kind { view with fcsr } = readCSR kind view := by
  cases kind with
  | fflags => exact congrArg filledValues (hflags rfl)
  | frm => exact congrArg filledValues (hfrm rfl)
  | fcsr => exact congrArg filledValues (hall rfl)
  | _ => rfl

theorem fcsr_eq (hflags : fflagsOf w = fflagsOf w') (hfrm : frmOf w = frmOf w') :
    w.fcsr = w'.fcsr := by
  have hparts : ∀ a : BitVec 8, a = (a &&& 0x1f#8) ||| (a >>> 5) <<< 5 := by decide
  unfold fflagsOf at hflags
  unfold frmOf at hfrm
  rw [hparts w.fcsr, hparts w'.fcsr, hflags, hfrm]

/-- The read set of a CSR instruction on FCSR or on a part of it. -/
theorem specials_read (hcsr : d.csr ≠ .none) :
    (d.csrAddress = 1 → (specials d).1 = 1#2) ∧ (d.csrAddress = 2 → (specials d).1 = 2#2) ∧
      (d.csrAddress = 3 → (specials d).1 = 3#2) := by
  unfold specials
  dsimp only
  rw [if_neg hcsr]
  refine ⟨fun ha => ?_, fun ha => ?_, fun ha => ?_⟩ <;> rw [ha] <;> split <;> rfl

theorem decode_float_csr (hdecode : decode word = .ok d) (hcategory : d.category = .rv32f) :
    d.csr = .none := by
  have hcatalog : ∀ entry ∈ catalog, entry.category = .rv32f → entry.csr = .none := by decide
  obtain ⟨entry, hin, -, rfl⟩ := decode_eq_ok hdecode
  exact hcatalog entry hin hcategory

/-- Dynamic rounding reads the mode. -/
theorem specials_dynamic (hdecode : decode word = .ok d) (hcategory : d.category = .rv32f)
    (hkind : d.memory.kind = .none) (hdynamic : d.rounding = .dynamic) : (specials d).1 = 2#2 := by
  unfold specials
  rw [if_pos (decode_float_csr hdecode hcategory)]
  exact if_pos ⟨decide_eq_true ⟨hcategory, hkind⟩, hdynamic⟩

/-- The CSR that the instruction names shows the same. -/
theorem Token.Lists.readCSR (ht : t.Lists d) (h : t.ReadsSame w w') (hcsr : d.csr ≠ .none)
    (hentry : findCSR d.csrAddress = some entry) (view : CSRView)
    (hview : view.fcsr = w.fcsr.setWidth 32) :
    VortexSim.readCSR entry.value { view with fcsr := w'.fcsr.setWidth 32 } =
      VortexSim.readCSR entry.value view := by
  obtain ⟨hone, htwo, hthree⟩ := findCSR_fcsr hentry
  obtain ⟨hread1, hread2, hread3⟩ := specials_read hcsr
  have hread := ht.readSpecial
  refine readCSR_fcsr (fun hkind => ?_) (fun hkind => ?_) fun hkind => ?_
  · have hsame := h.fflags (by rw [hread, hread1 (hone hkind)]; rfl)
    rw [hview, fflags_view, fflags_view]
    exact congrArg (BitVec.setWidth 32) hsame.symm
  · have hsame := h.frm (by rw [hread, hread2 (htwo hkind)]; rfl)
    rw [hview, frm_view, frm_view]
    exact congrArg (fun v => BitVec.setWidth 32 v &&& 7#32) hsame.symm
  · have hflags := h.fflags (by rw [hread, hread3 (hthree hkind)]; rfl)
    have hfrm := h.frm (by rw [hread, hread3 (hthree hkind)]; rfl)
    rw [hview, fcsr_eq hflags hfrm]

/-- Evaluation looks at nothing that the token does not list. -/
theorem Token.Lists.evaluate (ht : t.Lists d) (hdecode : decode word = .ok d) (sf : SoftFloat)
    (context : ReadContext) (hcontext : SameContext w w') (hid : w.id = w'.id)
    (hsaved : w.savedThreadMask = w'.savedThreadMask) (h : t.ReadsSame w w') :
    w'.evaluate sf d context = w.evaluate sf d context := by
  have hoperands := ht.operands hdecode h
  have hinteger (bounds : Option AddressBounds) (src : Operands) :
      w'.integerInput bounds src = w.integerInput bounds src := by
    unfold WarpState.integerInput
    rw [hcontext.pc, hcontext.activeMask]
  have hfloat (bounds : Option AddressBounds) (src : Operands) :
      evaluateFloat sf d (w'.floatInput bounds src) =
        evaluateFloat sf d (w.floatInput bounds src) := by
    have hinput : w'.floatInput bounds src = { w.floatInput bounds src with
        frm := roundingMode ((w'.fcsr >>> 5) &&& 7#8) } := by
      unfold WarpState.floatInput
      rw [hcontext.pc, hcontext.activeMask]
    rw [hinput]
    refine evaluateFloat_frm sf fun hcategory hkind hdynamic => ?_
    have hsame := h.frm
      (by rw [ht.readSpecial, specials_dynamic hdecode hcategory hkind hdynamic]; rfl)
    unfold frmOf at hsame
    unfold WarpState.floatInput
    rw [hsame]
  have hsystem (src : Operands) :
      evaluateSystem d (w'.systemInput context src) =
        evaluateSystem d (w.systemInput context src) := by
    have hinput : w'.systemInput context src = { w.systemInput context src with
        csr := { (w.systemInput context src).csr with fcsr := w'.fcsr.setWidth 32 } } := by
      unfold WarpState.systemInput WarpState.csrView
      rw [hcontext.pc, hcontext.activeMask, hcontext.trapCSRs, hid, hsaved]
    rw [hinput]
    exact evaluateSystem_fcsr fun hcsr entry hentry => ht.readCSR h hcsr hentry _ rfl
  have hcustom (bounds : Option AddressBounds) (src : Operands) :
      w'.customInput d context bounds src = w.customInput d context bounds src := by
    unfold WarpState.customInput WarpState.divergenceView WarpState.barrierPhaseFor
    rw [hcontext.pc, hcontext.activeMask, hcontext.divergence, hcontext.trapCSRs, hid]
  unfold WarpState.evaluate WarpState.sourceValues
  simp only [bind_assoc, pure_bind, ← hoperands]
  unfold WarpState.evaluateOperands
  simp only [WarpState.sourceValues_check w w', hinteger, hfloat, hsystem, hcustom]

/-! ## Writes -/

/-- An instruction that raises flags writes them. -/
theorem specials_flags (hdecode : decode word = .ok d) (hcategory : d.category = .rv32f)
    (hkind : d.memory.kind = .none) (heffects : d.effects &&& EffectKind.fflags ≠ 0#32) :
    (specials d).2 = 1#2 := by
  have hcatalog : ∀ entry ∈ catalog, entry.effects &&& EffectKind.fflags ≠ 0#32 →
      flagless entry.name = false := by decide
  have hflagless : flagless d.name = false := by
    obtain ⟨entry, hin, -, rfl⟩ := decode_eq_ok hdecode
    exact hcatalog entry hin heffects
  unfold specials
  rw [if_pos (decode_float_csr hdecode hcategory)]
  exact if_pos ⟨decide_eq_true ⟨hcategory, hkind⟩, hflagless⟩

/-- A nonzero operand of a CSR instruction has a nonzero source field. -/
theorem csrSource_field (hdecode : decode word = .ok d) (hcsr : d.csr ≠ .none)
    (h : csrSource d (w.systemInput context (w.operands d)) ≠ 0#32) :
    (d.word >>> 15) &&& 31#32 ≠ 0#32 := by
  have hcatalog : ∀ entry ∈ catalog, entry.csr ≠ .none → entry.name.csrImmediate = false →
      (entry.operands.filter fun operand => operand.access = .read) = [x1] := by decide
  obtain ⟨entry, hin, -, rfl⟩ := decode_eq_ok hdecode
  intro hfield
  have hindex : registerIndex word .rs1 = 0 := congrArg BitVec.toNat hfield
  refine h ?_
  unfold csrSource
  cases himm : entry.name.csrImmediate with
  | true =>
    have himmediate : (decodeEntry word entry).csrImmediate = true :=
      Bool.and_eq_true_iff.mpr ⟨decide_eq_true hcsr, himm⟩
    have hvalue : (decodeEntry word entry).csrImmediateValue = registerIndex word .rs1 :=
      if_pos ⟨hcsr, himm⟩
    rw [himmediate, if_pos rfl, hvalue, hindex]
  | false =>
    have himmediate : (decodeEntry word entry).csrImmediate = false := by
      unfold decodeEntry
      rw [himm, Bool.and_false]
    have hsources : (decodeEntry word entry).sources = [{ file := .integer, index := 0 }] := by
      unfold decodeEntry operandRegisters
      rw [hcatalog entry hin hcsr himm, List.map_singleton, x1, hindex]
    rw [himmediate, if_neg Bool.false_ne_true]
    unfold WarpState.systemInput WarpState.operands
    rw [hsources]
    rfl

/-- A CSR write to FCSR or to a part of it is in the write set. -/
theorem specials_csr (hdecode : decode word = .ok d) (hcsr : d.csr ≠ .none)
    (h : d.csr = .rw ∨ csrSource d (w.systemInput context (w.operands d)) ≠ 0#32) :
    (specials d).2 = (specials d).1 := by
  have hwrite : d.csr = .rw ∨ (d.word >>> 15) &&& 31#32 ≠ 0#32 :=
    h.imp_right (csrSource_field hdecode hcsr)
  unfold specials
  rw [if_neg hcsr, if_pos hwrite]

/-- The bundles of an instruction: what its evaluation gives, and what completes its memory
accesses. -/
inductive Yields (sf : SoftFloat) (d : Decoded) (w : WarpState) (e : InstructionEffects) : Prop
  | evaluated (context : ReadContext) (h : w.evaluate sf d context = .ok e)
  | completed (expected : LaneMask) (responses : List MemoryResponse)
      (h : w.completeMemory d expected responses = .ok e)
  | packed (expected : LaneMask) (responses : List PackedLoadResponse)
      (h : completePackedLoad d w.pc expected responses = .ok e)
  | packedPart (expected : LaneMask) (element : Nat) (responses : List PackedLoadResponse)
      (h : completePackedLoadPart d w.pc expected element responses = .ok e)

theorem Yields.footprint (h : Yields sf d w e) :
    ∃ mask context, Footprint d mask (csrSource d (w.systemInput context (w.operands d))) e := by
  cases h with
  | evaluated context h =>
    unfold WarpState.evaluate WarpState.sourceValues at h
    simp only [ok_iff] at h
    obtain ⟨_, ⟨-, -, -, -, rfl⟩, h⟩ := h
    exact ⟨_, context, (WarpState.evaluateOperands_lawful h).footprint⟩
  | completed expected responses h =>
    exact ⟨expected, {}, (completeMemory_lawful (WarpState.completeMemory_eq_ok h)).footprint⟩
  | packed expected responses h => exact ⟨expected, {}, (completePackedLoadWith_lawful h).footprint⟩
  | packedPart expected element responses h =>
    exact ⟨expected, {}, (completePackedLoadPart_lawful h).footprint⟩

theorem setCSRValue_fflags (c : WarpState) (value : Word) (h : aliasesFCSR address → address = 2) :
    fflagsOf (c.setCSRValue address value) = fflagsOf c := by
  by_cases halias : aliasesFCSR address
  · obtain rfl := h halias
    have hlow : ∀ i < 8, (0x1f#8).getLsbD i = decide (i < 5) := by decide
    refine BitVec.eq_of_getLsbD_eq fun i hi => ?_
    simp only [fflagsOf, WarpState.setCSRValue, BitVec.getLsbD_and, BitVec.getLsbD_or,
      BitVec.getLsbD_setWidth, BitVec.getLsbD_shiftLeft, hlow i hi]
    cases decide (i < 5) <;> simp
  · unfold fflagsOf
    rw [c.setCSRValue_fcsr halias]

theorem setCSRValue_frm (c : WarpState)
    (h : aliasesFCSR address → address = 1 ∧ value &&& ~~~0x1f#32 = 0#32) :
    frmOf (c.setCSRValue address value) = frmOf c := by
  by_cases halias : aliasesFCSR address
  · obtain ⟨rfl, hvalue⟩ := h halias
    have hlow : ∀ i < 3, (0x1f#8).getLsbD (5 + i) = false := by decide
    have hhigh : ∀ i < 3, (~~~0x1f#32).getLsbD (5 + i) = true := by decide
    have hclear (i : Nat) (hi : i < 3) : value.getLsbD (5 + i) = false := by
      have hbit : (value &&& ~~~0x1f#32).getLsbD (5 + i) = false := by
        rw [hvalue]
        exact BitVec.getLsbD_zero
      rwa [BitVec.getLsbD_and, hhigh i hi, Bool.and_true] at hbit
    refine BitVec.eq_of_getLsbD_eq fun i hi => ?_
    simp only [frmOf, WarpState.setCSRValue, BitVec.getLsbD_ushiftRight, BitVec.getLsbD_or,
      BitVec.getLsbD_and, BitVec.getLsbD_not, BitVec.getLsbD_setWidth]
    by_cases hsmall : i < 3
    · rw [hlow i hsmall, hclear i hsmall]
      simp [show 5 + i < 8 by omega]
    · have hlarge : ∀ v : BitVec 8, v.getLsbD (5 + i) = false := fun v =>
        BitVec.getLsbD_of_ge v (5 + i) (by omega)
      simp [hlarge, show ¬ 5 + i < 8 by omega]
  · unfold frmOf
    rw [c.setCSRValue_fcsr halias]

variable (ht : t.Lists d) (hdecode : decode word = .ok d) (h : Yields sf d w e)
include ht hdecode h

/-- The CSR writes of a bundle that reach FCSR go to the address in the write set. -/
theorem Token.Lists.csr_special (hw : write ∈ e.csrWrites) (halias : aliasesFCSR write.address) :
    (write.address = 1 ∧ t.writeSpecial = 1#2) ∨ (write.address = 2 ∧ t.writeSpecial = 2#2) ∨
      (write.address = 3 ∧ t.writeSpecial = 3#2) := by
  obtain ⟨mask, context, hfoot⟩ := h.footprint
  obtain ⟨hcsr, haddress, hwrite⟩ := hfoot.csrs write hw halias
  obtain ⟨hone, htwo, hthree⟩ := specials_read hcsr
  rw [ht.writeSpecial, specials_csr hdecode hcsr hwrite, haddress]
  obtain ⟨hlow, hhigh⟩ := halias
  obtain ha | ha | ha : d.csrAddress = 1 ∨ d.csrAddress = 2 ∨ d.csrAddress = 3 := by omega
  · exact .inl ⟨ha, hone ha⟩
  · exact .inr (.inl ⟨ha, htwo ha⟩)
  · exact .inr (.inr ⟨ha, hthree ha⟩)

theorem Token.Lists.flags_special (hflags : e.fflags ≠ none) : t.writeSpecial = 1#2 := by
  obtain ⟨mask, context, hfoot⟩ := h.footprint
  obtain ⟨hcategory, hkind, heffects⟩ := hfoot.flags hflags
  rw [ht.writeSpecial, specials_flags hdecode hcategory hkind heffects]

theorem Token.Lists.keeps_fflags (hclear : t.writeSpecial.getLsbD 0 = false) :
    fflagsOf (w.apply e) = fflagsOf w := by
  have hflags : e.fflags = none := by
    by_contra hsome
    rw [ht.flags_special hdecode h hsome] at hclear
    cases hclear
  have hdata : fflagsOf (w.apply e) = fflagsOf (w.applyData e) :=
    congrArg (· &&& 0x1f#8) (w.apply_sameData e).fcsr
  have hwrites : fflagsOf (w.writeAll e.registerWrites) = fflagsOf w := by
    rw [w.writeAll_setLanes e.registerWrites]
    rfl
  rw [hdata, WarpState.applyData, hflags]
  refine (WarpState.writeCSRs_keeps (f := fflagsOf) (fun write hw _ c => ?_) _).trans hwrites
  · refine setCSRValue_fflags c write.value fun halias => ?_
    rcases ht.csr_special hdecode h hw halias with ⟨-, hs⟩ | ⟨ha, -⟩ | ⟨-, hs⟩
    · rw [hs] at hclear
      cases hclear
    · exact ha
    · rw [hs] at hclear
      cases hclear

theorem Token.Lists.keeps_frm (hok : BundleOk w e)
    (hclear : t.writeSpecial.getLsbD 1 = false) : frmOf (w.apply e) = frmOf w := by
  have hdata : frmOf (w.apply e) = frmOf (w.applyData e) :=
    congrArg (fun fcsr : BitVec 8 => fcsr >>> 5) (w.apply_sameData e).fcsr
  have hwrites : frmOf (w.writeAll e.registerWrites) = frmOf w := by
    rw [w.writeAll_setLanes e.registerWrites]
    rfl
  have haccrue (c : WarpState) : frmOf (c.accrue e.fflags) = frmOf c := by
    cases hflags : e.fflags with
    | none => rfl
    | some flags =>
      -- accepted flags have five bits
      have hfive := hok.flags flags hflags
      have hshift : ∀ v : BitVec 8, v &&& ~~~0x1f#8 = 0#8 → v >>> 5 = 0#8 := by decide
      unfold frmOf WarpState.accrue
      rw [BitVec.ushiftRight_or_distrib, hshift _ hfive, BitVec.or_zero]
  rw [hdata, WarpState.applyData]
  refine (WarpState.writeCSRs_keeps (f := frmOf) (fun write hw _ c => ?_) _).trans
    ((haccrue _).trans hwrites)
  · refine setCSRValue_frm c fun halias => ?_
    rcases ht.csr_special hdecode h hw halias with ⟨ha, -⟩ | ⟨-, hs⟩ | ⟨-, hs⟩
    · obtain ⟨entry, hentry⟩ := hok.csr.listed.each write hw
      have hmask : findCSR 1 = some (csrRW 0x001 .fflags 0x1f#32) := by decide
      have hvalue := hentry.value
      have hfound := hentry.found
      rw [ha, hmask] at hfound
      rw [hentry.mask, ← Option.some.inj hfound] at hvalue
      exact ⟨ha, hvalue⟩
    · rw [hs] at hclear
      cases hclear
    · rw [hs] at hclear
      cases hclear

end

/-- The token of a legal word lists every hazard of the instruction: evaluation depends on the
context of the warp and on what the token reads, and the effects change no register but its
destination and no part of FCSR outside its write set. -/
theorem decodeToken_lists_hazards (sf : SoftFloat) {word : Word} {d : Decoded}
    (hdecode : decode word = .ok d) {t : Token} (hword : t.word = word) :
    ∃ token, decodeToken t = .ok token ∧
      (∀ w w' context, SameContext w w' → w.id = w'.id → w.savedThreadMask = w'.savedThreadMask →
        token.ReadsSame w w' → w'.evaluate sf d context = w.evaluate sf d context) ∧
      (∀ w e, Yields sf d w e → ∀ write ∈ e.registerWrites, token.writeback = true ∧
        ∀ r : Register, r.Architectural →
          (registerId r = token.destination ↔ r = write.destination)) ∧
      ∀ w e stage, Yields sf d w e → w.stageEffects e = .ok stage →
        (token.writeSpecial.getLsbD 0 = false → fflagsOf stage.after = fflagsOf w) ∧
          (token.writeSpecial.getLsbD 1 = false → frmOf stage.after = frmOf w) := by
  obtain ⟨token, htoken, hlists⟩ := decodeToken_lists hdecode hword
  refine ⟨token, htoken, ?_, ?_, ?_⟩
  · intro w w' context hcontext hid hsaved hreads
    exact hlists.evaluate hdecode sf context hcontext hid hsaved hreads
  · intro w e h write hw
    obtain ⟨mask, context, hfoot⟩ := h.footprint
    obtain ⟨hdestination, hzero⟩ := hfoot.registers write hw
    obtain ⟨hwriteback, hid⟩ := hlists.destination write.destination hdestination hzero
    have harch := decode_destinations hdecode write.destination hdestination
    refine ⟨hwriteback, fun r hr => ⟨fun h => registerId_inj hr harch (h.trans hid), ?_⟩⟩
    rintro rfl
    exact hid.symm
  · intro w e stage h hstage
    obtain ⟨hok, rfl⟩ := stageEffects_eq_ok.mp hstage
    exact ⟨hlists.keeps_fflags hdecode h, hlists.keeps_frm hdecode h hok⟩

/-- `add x3, x1, x2`. -/
def addX3 : Decoded := decodeEntry 0x002081b3#32 (aluR .add .rv32i 0x00#32 0#32)

/-- A running warp with `hidden` in `x5`. -/
def hiddenWarp (hidden : Word) : WarpState :=
  { freshWarp 0 with
    lanes := fun _ => { gpr := fun register => if register.val = 5 then hidden else 1#32 } }

theorem add_ignores_unlisted : hiddenWarp 0#32 ≠ hiddenWarp 1#32 ∧
      (hiddenWarp 1#32).evaluate zeroFloat addX3 {} =
        (hiddenWarp 0#32).evaluate zeroFloat addX3 {} := by
  have hdecode : decode 0x002081b3#32 = .ok addX3 := rfl
  obtain ⟨token, htoken, hevaluate, -⟩ :=
    decodeToken_lists_hazards zeroFloat hdecode (t := { word := 0x002081b3#32 }) rfl
  have hsources : ∀ r : Fin 64, r.val ≠ 5 →
      registerValues (hiddenWarp 0#32) r = registerValues (hiddenWarp 1#32) r := by decide
  have hlisted : (decodeToken { word := 0x002081b3#32 }).toOption.map
      (fun token => decide (∀ i, (token.sources i).val ≠ 5)) = some true := by decide
  rw [htoken] at hlisted
  have hother : ∀ i, (token.sources i).val ≠ 5 := of_decide_eq_true (Option.some.inj hlisted)
  have hreads : token.ReadsSame (hiddenWarp 0#32) (hiddenWarp 1#32) :=
    ⟨fun i _ => hsources _ (hother i), fun _ => rfl, fun _ => rfl⟩
  exact ⟨by decide, hevaluate _ _ {} ⟨rfl, rfl, rfl, rfl⟩ rfl rfl hreads⟩

/-- `mret`. -/
def mretWord : Decoded := decodeEntry 0x30200073#32 (systemOp .mret 0x30200073#32 .trapReturn)

/-- A running warp that saved the thread mask `saved`. -/
def savedWarp (saved : LaneMask) : WarpState := { freshWarp 0 with savedThreadMask := saved }

/-- An MRET restores the saved thread mask, which neither the token nor the context lists. -/
theorem mret_reads_savedThreadMask : decode 0x30200073#32 = .ok mretWord ∧
      ∃ token, decodeToken { word := 0x30200073#32 } = .ok token ∧
        SameContext (savedWarp 1#8) (savedWarp 3#8) ∧
        (savedWarp 1#8).id = (savedWarp 3#8).id ∧
        token.ReadsSame (savedWarp 1#8) (savedWarp 3#8) ∧
        (savedWarp 1#8).evaluate zeroFloat mretWord {} ≠
          (savedWarp 3#8).evaluate zeroFloat mretWord {} := by
  refine ⟨rfl, _, rfl, ⟨rfl, rfl, rfl, rfl⟩, rfl, ⟨fun _ _ => rfl, fun _ => rfl, fun _ => rfl⟩, ?_⟩
  decide

end VortexSim.Timing
