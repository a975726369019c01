import VortexSim.State.WarpState
import VortexSim.Isa.Decode
import VortexSim.Isa.Float
import VortexSim.Isa.System
import VortexSim.Isa.Custom

/-!
# Evaluating an instruction on a warp

The views that a warp hands to the evaluators, and `WarpState.evaluate`, which routes a
decoded instruction to its evaluator.  A snapshot of the source is a detached copy of the
state, so the views here are functions of the state itself.
-/

namespace VortexSim

open Checked

/-- Values whose owners are outside the warp. -/
structure ReadContext where
  coreID : Nat := 0
  activeWarps : WarpMask := 0#8
  cta : CTAView := {}
  counters : CounterView := {}
  bounds : Option AddressBounds := none
  barrierPhase : Bool := false
  barrierPhases : Option (Fin frozenWarpCount → Fin frozenBarrierCount → Bool) := none
  pendingPriorWork : Bool := false
  pendingLSU : Bool := false

/-- The checks of a context. -/
def validateContext (context : ReadContext) : Except Error (Option AddressBounds) := do
  rejectIf (frozenCoreCount ≤ context.coreID)
    (.text s!"state: core id {context.coreID} exceeds frozen core count")
  rejectIf (¬ context.activeWarps.Valid)
    (.text s!"state: active warp mask {hex context.activeWarps.toNat} exceeds frozen warps")
  rejectIf (2 ^ frozenCounterBits ≤ context.counters.cycle.toNat ∨
      2 ^ frozenCounterBits ≤ context.counters.instret.toNat)
    (.text s!"state: counter view exceeds frozen {frozenCounterBits}-bit width")
  rejectIf (boundsValid context.bounds = false)
    (.text "state: address bounds exceed the 32-bit address space")
  pure context.bounds

/-! ## Sources -/

/-- The operands of an instruction, by position. -/
abbrev Operands := Fin 3 → LaneValues

variable (sf : SoftFloat) (w : WarpState) (decoded : Decoded) (context : ReadContext)
  (bounds : Option AddressBounds) (sources : Operands)

/-- The registers of the warp at the source positions, zero at the others. -/
def WarpState.operands : Operands := fun position =>
  match decoded.sources[position.val]? with
  | some register => w.readRegister register
  | none => fun _ => 0#32

def WarpState.sourceValues : Except Error Operands := do
  rejectIf (3 < decoded.sources.length)
    (.text (s!"state: decoded instruction \"{decoded.name.text}\" has " ++
      s!"{decoded.sources.length} sources, maximum is 3"))
  each (fun position register => (validateRegister register).mapError fun err =>
      .text (s!"state: decoded instruction \"{decoded.name.text}\"" ++
        s!" source {position}: {err}"))
    0 decoded.sources
  pure (w.operands decoded)

/-- The rounding mode of a raw FRM value.  A reserved value is no mode. -/
def roundingMode (raw : BitVec 8) : RoundingMode :=
  match raw.toNat with
  | 0 => .rne
  | 1 => .rtz
  | 2 => .rdn
  | 3 => .rup
  | 4 => .rmm
  | _ => .none

/-! ## Inputs -/

def WarpState.integerInput : IntegerInput :=
  { pc := w.pc, activeMask := w.activeMask, rs1 := sources 0, rs2 := sources 1, bounds }

def WarpState.floatInput : FloatInput :=
  { pc := w.pc, activeMask := w.activeMask, rs1 := sources 0, rs2 := sources 1, rs3 := sources 2
    frm := roundingMode ((w.fcsr >>> 5) &&& 7#8), bounds }

/-- The CSR values of the warp with the identity, CTA and counter context. -/
def WarpState.csrView : CSRView :=
  { warpID := w.id, coreID := context.coreID, activeWarps := context.activeWarps
    threadMask := w.activeMask, savedThreadMask := w.savedThreadMask
    fcsr := w.fcsr.setWidth 32, mstatus := w.trapCSRs.mstatus, mtvec := w.trapCSRs.mtvec
    mscratch := w.trapCSRs.mscratch, mepc := w.trapCSRs.mepc, mcause := w.trapCSRs.mcause
    mtval := w.trapCSRs.mtval, cta := context.cta, counters := context.counters }

def WarpState.systemInput : SystemInput :=
  { pc := w.pc, activeMask := w.activeMask, rs1 := sources 0, csr := w.csrView context }

/-- A copy of the row at a pointer. -/
def DivergenceState.rowView (stack : DivergenceState) (pointer : Nat) : DivergenceRecordView :=
  let row := stack.row pointer
  { valid := row.valid, pointer, originalMask := row.originalMask, nextPC := row.nextPC
    elseVisited := row.elseVisited }

/-- The stack as a JOIN sees it: the write pointer and the row it addresses. -/
def WarpState.divergenceView : DivergenceView :=
  let pointer := (sources 0 (decisionLane w.activeMask) &&& 3#32).toNat
  if decoded.control = .join ∧ pointer < frozenDivergenceDepth then
    { writePointer := w.divergence.writePointer, record := w.divergence.rowView pointer }
  else { writePointer := w.divergence.writePointer }

/-- The phase a barrier instruction sees, from the table of the core when there is one. -/
def WarpState.barrierPhaseFor : Bool :=
  match context.barrierPhases with
  | none => context.barrierPhase
  | some phases =>
    if decoded.barrier = .none then context.barrierPhase
    else
      let operand := sources 0 (decisionLane w.activeMask)
      phases (Fin.ofNat _ (operand &&& 3#32).toNat) (Fin.ofNat _ ((operand >>> 8) &&& 7#32).toNat)

def WarpState.customInput : CustomInput :=
  { pc := w.pc, activeMask := w.activeMask, rs1 := sources 0, rs2 := sources 1, rs3 := sources 2
    warpID := w.id, mscratch := w.trapCSRs.mscratch
    divergence := w.divergenceView decoded sources
    barrierPhase := w.barrierPhaseFor decoded context sources
    pendingPriorWork := context.pendingPriorWork, pendingLSU := context.pendingLSU, bounds }

/-! ## Evaluation -/

/-- Route a decoded instruction with given operands to its evaluator. -/
def WarpState.evaluateOperands : Except Error InstructionEffects :=
  match decoded.category with
  | .rv32i | .rv32m | .zicond | .fence => do
      let _ ← w.sourceValues decoded
      let bounds ← validateContext context
      evaluateInteger decoded (w.integerInput bounds sources)
  | .rv32f => do
      let _ ← w.sourceValues decoded
      let bounds ← validateContext context
      evaluateFloat sf decoded (w.floatInput bounds sources)
  | .system => do
      let _ ← w.sourceValues decoded
      let _ ← validateContext context
      evaluateSystem decoded (w.systemInput context sources)
  | .custom => do
      let bounds ← validateContext context
      evaluateCustom decoded (w.customInput decoded context bounds sources)

/-- `Evaluate`: the bundle of an instruction. -/
def WarpState.evaluate : Except Error InstructionEffects := do
  let sources ← w.sourceValues decoded
  w.evaluateOperands sf decoded context sources

/-- The completion of an ordinary load or store at the PC of the warp. -/
def WarpState.completeMemory (expected : LaneMask) (responses : List MemoryResponse) :
    Except Error InstructionEffects :=
  if decoded.category = .rv32f then completeFloatMemory decoded w.pc expected responses
  else VortexSim.completeMemory decoded w.pc expected responses

/-- Both kinds of access are completed alike. -/
theorem WarpState.completeMemory_eq_ok {w : WarpState}
    (h : w.completeMemory d expected responses = .ok e) :
    VortexSim.completeMemory d w.pc expected responses = .ok e := by
  unfold completeMemory completeFloatMemory at h
  split at h
  · simp only [ok_iff] at h
    exact h.2
  · exact h

def WarpState.completePackedLoad (expected : LaneMask) (responses : List PackedLoadResponse) :
    Except Error InstructionEffects :=
  VortexSim.completePackedLoad decoded w.pc expected responses

end VortexSim
