import VortexSim.Isa.Integer

/-!
# System evaluator

CSR reads and writes, and synchronous trap entry and return.
-/

namespace VortexSim

open Checked

/-- `FrozenCoreCount`. -/
def frozenCoreCount : Nat := 1

/-- What the system evaluator sees of a warp. -/
structure SystemInput where
  pc : Word
  activeMask : LaneMask
  rs1 : LaneValues
  csr : CSRView

/-- The cause of EBREAK. -/
def trapCauseBreakpoint : Word := 3#32
/-- The cause of ECALL. -/
def trapCauseEnvironmentCallMMode : Word := 11#32

variable (decoded : Decoded) (input : SystemInput)

/-- The operand of a CSR instruction: register sources come from lane zero. -/
def csrSource : Word :=
  if decoded.csrImmediate then BitVec.ofNat 32 decoded.csrImmediateValue else input.rs1 0

/-- The value a CSR instruction computes from the old one. -/
def csrNewValue (kind : CSRKind) (oldValue source : Word) : Word :=
  match kind with
  | .rs => oldValue ||| source
  | .rc => oldValue &&& ~~~source
  | _ => source

/-- The write of a CSR instruction. -/
def csrWriteEffect (entry : CSREntry) (oldValue : Word) : CSRWriteEffect :=
  { address := entry.address, scope := entry.scope, warpID := input.csr.warpID, oldValue
    value :=
      if entry.writable then
        csrNewValue decoded.csr oldValue (csrSource decoded input) &&& entry.writeMask
      else 0#32
    writeMask := entry.writeMask, ignored := entry.writeIgnored }

/-- A read, and a write where one is asked for. -/
def evaluateCSR : Except Error InstructionEffects :=
  match findCSR decoded.csrAddress with
  | none => .error (.csrAccess decoded.name decoded.csrAddress .unknownAddress)
  | some entry => do
      let values := readCSR entry.value input.csr
      let writeRequested := decoded.csr = .rw ∨ csrSource decoded input ≠ 0#32
      rejectIf (writeRequested ∧ entry.writable = false ∧ entry.writeIgnored = false)
        (.csrAccess decoded.name decoded.csrAddress .readOnlyWrite)
      let effects := appendRegisterWrite
        { control := some (sequentialControl input.pc)
          csrReads := [{ address := entry.address, scope := entry.scope, values }] }
        decoded input.activeMask values
      if writeRequested then
        pure { effects with csrWrites := [csrWriteEffect decoded input entry (values 0)] }
      else pure effects

/-! ## Traps -/

/-- A write of a trap register. -/
def trapCSRWrite (address warpID : Nat) (oldValue value : Word) : CSRWriteEffect :=
  { address, scope := .warp, warpID, oldValue, value, writeMask := 0xffffffff#32, ignored := false }

/-- ECALL and EBREAK save the PC, the cause and the mask. -/
def trapEntry : InstructionEffects :=
  let cause := if decoded.name = .ebreak then trapCauseBreakpoint else trapCauseEnvironmentCallMMode
  let vector := input.csr.mtvec &&& ~~~3#32
  { control := some { reason := .trap, currentPC := input.pc, nextPC := vector, target := vector,
                      taken := true }
    csrWrites := [trapCSRWrite 0x341 input.csr.warpID input.csr.mepc input.pc,
                  trapCSRWrite 0x342 input.csr.warpID input.csr.mcause cause,
                  trapCSRWrite 0x343 input.csr.warpID input.csr.mtval 0#32]
    trap := some { kind := .enter, cause, epc := input.pc, vector,
                   saveThreadMask := input.csr.threadMask } }

/-- A return restores the mask that was saved, if one was. -/
def trapReturn : InstructionEffects :=
  let target := input.csr.mepc &&& ~~~3#32
  { control := some { reason := .trapReturn, currentPC := input.pc, nextPC := target,
                      target := target, taken := true }
    trap := some { kind := .return, epc := input.csr.mepc,
                   restoreThreadMask := input.csr.savedThreadMask
                   restoresThreadMask := decide (input.csr.savedThreadMask ≠ 0#8) } }

/-- Trap entry and return. -/
def evaluateTrapSystem : Except Error InstructionEffects :=
  match decoded.name with
  | .ecall | .ebreak => do
      rejectIf (input.activeMask = 0#8 ∨ input.csr.threadMask = 0#8)
        (evalError decoded "trap entry requires a running thread mask")
      pure (trapEntry decoded input)
  | .uret | .sret | .mret => do
      rejectIf (input.activeMask = 0#8) (evalError decoded "trap return requires an active lane")
      pure (trapReturn input)
  | _ => .error (evalError decoded "missing System functional semantics")

/-- `EvaluateSystem`. -/
def evaluateSystem : Except Error InstructionEffects := do
  rejectIf (¬ input.activeMask.Valid) (evalError decoded "active mask exceeds four frozen lanes")
  rejectIf (frozenWarpCount ≤ input.csr.warpID ∨ frozenCoreCount ≤ input.csr.coreID ∨
      ¬ WarpMask.Valid input.csr.activeWarps ∨
      ¬ input.csr.threadMask.Valid ∨ ¬ input.csr.savedThreadMask.Valid)
    (evalError decoded "CSR context exceeds frozen topology")
  rejectIf (decoded.category ≠ .system) (evalError decoded "instruction is outside System/CSR")
  if decoded.csr ≠ .none then evaluateCSR decoded input else evaluateTrapSystem decoded input

end VortexSim
