import VortexSim.Isa.Types

/-!
# Decoder

`catalog` is the frozen manifest, row by row, built with the same constructor helpers as
the source.  `decode` accepts a word exactly when one row accepts it.
-/

namespace VortexSim

/-! ## Opcodes, masks and operands -/

/-- Opcode of LUI. -/
def opLUI : Word := 0x37#32
/-- Opcode of AUIPC. -/
def opAUIPC : Word := 0x17#32
/-- Opcode of JAL. -/
def opJAL : Word := 0x6f#32
/-- Opcode of JALR. -/
def opJALR : Word := 0x67#32
/-- Opcode of the branches. -/
def opBranch : Word := 0x63#32
/-- Opcode of the loads. -/
def opLoad : Word := 0x03#32
/-- Opcode of the stores. -/
def opStore : Word := 0x23#32
/-- Opcode of arithmetic with an immediate. -/
def opImm : Word := 0x13#32
/-- Opcode of arithmetic on registers. -/
def opReg : Word := 0x33#32
/-- Opcode of FENCE. -/
def opFence : Word := 0x0f#32
/-- Opcode of CSR accesses and traps. -/
def opSystem : Word := 0x73#32
/-- Opcode of FLW. -/
def opFLoad : Word := 0x07#32
/-- Opcode of FSW. -/
def opFStore : Word := 0x27#32
/-- Opcode of FMADD.S. -/
def opFMAdd : Word := 0x43#32
/-- Opcode of FMSUB.S. -/
def opFMSub : Word := 0x47#32
/-- Opcode of FNMSUB.S. -/
def opFNMSub : Word := 0x4b#32
/-- Opcode of FNMADD.S. -/
def opFNMAdd : Word := 0x4f#32
/-- Opcode of float arithmetic. -/
def opFloat : Word := 0x53#32
/-- Opcode of the custom instructions. -/
def opCustom : Word := 0x0b#32
/-- Opcode of WGATHER. -/
def opGather : Word := 0x2b#32

/-- The opcode bits. -/
def maskOpcode : Word := 0x0000007f#32
/-- Opcode and `funct3`. -/
def maskF3 : Word := 0x0000707f#32
/-- Opcode, `funct3` and `funct7`. -/
def maskF7 : Word := 0xfe00707f#32
/-- Opcode and `funct7`. -/
def maskF7NoF3 : Word := 0xfe00007f#32
/-- The `rs2` field. -/
def maskRS2 : Word := 0x01f00000#32
/-- The `rs1` field. -/
def maskRS1 : Word := 0x000f8000#32
/-- The `rd` field. -/
def maskRD : Word := 0x00000f80#32
/-- The rounding field. -/
def maskRM : Word := 0x00007000#32

/-- The rounding modes that have a meaning. -/
def rmConstraint : List ValueConstraint :=
  [{ mask := maskRM, shift := 12, values := [0#32, 1#32, 2#32, 3#32, 4#32, 7#32] }]

/-- Integer destination. -/
def xd : OperandSpec := { field := .rd, file := .integer, access := .write }
/-- Integer source `rs1`. -/
def x1 : OperandSpec := { field := .rs1, file := .integer, access := .read }
/-- Integer source `rs2`. -/
def x2 : OperandSpec := { field := .rs2, file := .integer, access := .read }
/-- Integer source `rs3`. -/
def x3 : OperandSpec := { field := .rs3, file := .integer, access := .read }
/-- Float destination. -/
def fd : OperandSpec := { field := .rd, file := .float, access := .write }
/-- Float source `rs1`. -/
def f1 : OperandSpec := { field := .rs1, file := .float, access := .read }
/-- Float source `rs2`. -/
def f2 : OperandSpec := { field := .rs2, file := .float, access := .read }
/-- Float source `rs3`. -/
def f3 : OperandSpec := { field := .rs3, file := .float, access := .read }

/-- The fixed bits of a word with `funct3`. -/
def bitsF3 (f3 opcode : Word) : Word := f3 <<< 12 ||| opcode
/-- With `funct3` and `funct7`. -/
def bitsF7 (f7 f3 opcode : Word) : Word := f7 <<< 25 ||| bitsF3 f3 opcode
/-- With `rs2` as well. -/
def bitsRS2 (rs2 f7 f3 opcode : Word) : Word := rs2 <<< 20 ||| bitsF7 f7 f3 opcode

/-! ## Row constructors -/

open EffectKind (register memory ordering csr control fflags lane warp barrier)

section

variable (name : Mnemonic)

/-- What all rows have in common. -/
def base (category : Category) (matchBits mask : Word) (operands : List OperandSpec)
    (immediate : ImmediateKind) (result : ResultKind) (effects : EffectKind) : Entry :=
  { name, category, matchBits, mask, operands, immediate, result, effects
    requiresActiveMask := true
    writeMask := if result = .none then .none else .active }

/-- Arithmetic with an immediate. -/
def aluI (f3 : Word) : Entry :=
  base name .rv32i (bitsF3 f3 opImm) maskF3 [xd, x1] .i .integer (register ||| lane)

/-- A shift by an immediate. -/
def shiftI (f7 f3 : Word) : Entry :=
  base name .rv32i (bitsF7 f7 f3 opImm) maskF7 [xd, x1] .shift .integer (register ||| lane)

/-- Arithmetic on two registers. -/
def aluR (category : Category) (f7 f3 : Word) : Entry :=
  base name category (bitsF7 f7 f3 opReg) maskF7 [xd, x1, x2] .none .integer (register ||| lane)

/-- A conditional branch. -/
def branch (f3 : Word) : Entry :=
  { base name .rv32i (bitsF3 f3 opBranch) maskF3 [x1, x2] .b .none (control ||| lane) with
    control := .branch, requiresPC := true }

/-- An integer load. -/
def load (f3 : Word) (bytes : Nat) (signed : Bool) : Entry :=
  { base name .rv32i (bitsF3 f3 opLoad) maskF3 [xd, x1] .i .memoryValue
      (register ||| memory ||| lane) with
    memory := { kind := .load, bytes, signed } }

/-- An integer store. -/
def store (f3 : Word) (bytes : Nat) : Entry :=
  { base name .rv32i (bitsF3 f3 opStore) maskF3 [x1, x2] .s .none (memory ||| lane) with
    memory := { kind := .store, bytes } }

/-- JAL or JALR. -/
def jump (matchBits mask : Word) (operands : List OperandSpec) (immediate : ImmediateKind) :
    Entry :=
  { base name .rv32i matchBits mask operands immediate .integer (register ||| control ||| lane) with
    control := .jump, requiresPC := true }

/-- A float row with a rounding field. -/
def fpRM (matchBits mask : Word) (operands : List OperandSpec) : Entry :=
  { base name .rv32f matchBits mask operands .none .float (register ||| fflags ||| lane) with
    constraints := rmConstraint, rounding := true, format := .single }

/-- A float row without one. -/
def fpFixed (f7 f3 : Word) (operands : List OperandSpec) (result : ResultKind) (flags : Bool) :
    Entry :=
  { base name .rv32f (bitsF7 f7 f3 opFloat) maskF7 operands .none result
      (if flags then register ||| lane ||| fflags else register ||| lane) with
    format := .single }

/-- A conversion: `rs2` selects it. -/
def fpRS2RM (f7 rs2 : Word) (operands : List OperandSpec) (result : ResultKind) : Entry :=
  { fpRM name (bitsRS2 rs2 f7 0#32 opFloat) (maskF7NoF3 ||| maskRS2) operands with
    result := result }

/-- A move or classification row: the `rs2` field is zero. -/
def fpMove (f7 f3 : Word) (operands : List OperandSpec) (result : ResultKind) : Entry :=
  let e := fpFixed name f7 f3 operands result false
  { e with mask := e.mask ||| maskRS2, matchBits := e.matchBits &&& ~~~maskRS2 }

/-- A CSR access. -/
def csrOp (f3 : Word) (kind : CSRKind) (immediate : Bool) : Entry :=
  { base name .system (bitsF3 f3 opSystem) maskF3 (if immediate then [xd] else [xd, x1]) .csr
      .csrValue (register ||| csr ||| lane) with
    csr := kind }

/-- A trap entry or return: the whole word is fixed. -/
def systemOp (word : Word) (kind : ControlKind) : Entry :=
  { base name .system word 0xffffffff#32 [] .none .none (control ||| csr ||| warp) with
    control := kind, requiresPC := true }

/-- A custom row with `funct7` zero. -/
def custom (f3 : Word) (operands : List OperandSpec) (result : ResultKind) (effects : EffectKind)
    (kind : ControlKind) : Entry :=
  { base name .custom (bitsF7 0#32 f3 opCustom) maskF7 operands .none result effects with
    control := kind }

/-- A vote. -/
def vote (f3 : Word) : Entry :=
  base name .custom (bitsF7 1#32 f3 opCustom) (maskF7 ||| maskRS2) [xd, x1] .none .integer
    (register ||| lane)

/-- A shuffle. -/
def shuffle (f3 : Word) : Entry :=
  base name .custom (bitsF7 1#32 f3 opCustom) maskF7 [xd, x1, x2] .none .integer (register ||| lane)

/-- A packed load. -/
def packed (f3 : Word) (bytes count : Nat) : Entry :=
  { base name .custom (bitsF7 4#32 f3 opCustom) maskF7 [fd, x1, x2] .none .memoryValue
      (register ||| memory ||| lane) with
    format := .single
    memory := { kind := .load, bytes, float := true, packed := count } }

end

/-! ## The catalog -/

/-- RV32I, RV32M and Zicond. -/
def integerRows : List Entry :=
  [ base .lui .rv32i opLUI maskOpcode [xd] .u .integer (register ||| lane),
    { base .auipc .rv32i opAUIPC maskOpcode [xd] .u .integer (register ||| lane) with
      requiresPC := true },
    jump .jal opJAL maskOpcode [xd] .j,
    jump .jalr (bitsF3 0#32 opJALR) maskF3 [xd, x1] .i,
    branch .beq 0#32, branch .bne 1#32, branch .blt 4#32, branch .bge 5#32, branch .bltu 6#32,
    branch .bgeu 7#32,
    load .lb 0#32 1 true, load .lh 1#32 2 true, load .lw 2#32 4 true, load .lbu 4#32 1 false,
    load .lhu 5#32 2 false,
    store .sb 0#32 1, store .sh 1#32 2, store .sw 2#32 4,
    aluI .addi 0#32, shiftI .slli 0x00#32 1#32, aluI .slti 2#32, aluI .sltiu 3#32,
    aluI .xori 4#32, shiftI .srli 0x00#32 5#32, shiftI .srai 0x20#32 5#32, aluI .ori 6#32,
    aluI .andi 7#32,
    aluR .add .rv32i 0x00#32 0#32, aluR .sub .rv32i 0x20#32 0#32, aluR .sll .rv32i 0x00#32 1#32,
    aluR .slt .rv32i 0x00#32 2#32, aluR .sltu .rv32i 0x00#32 3#32, aluR .xor .rv32i 0x00#32 4#32,
    aluR .srl .rv32i 0x00#32 5#32, aluR .sra .rv32i 0x20#32 5#32, aluR .or .rv32i 0x00#32 6#32,
    aluR .and .rv32i 0x00#32 7#32,
    { base .fence .fence opFence 0xf00fffff#32 [] .none .none (memory ||| ordering) with
      memory := { kind := .fence } },
    aluR .mul .rv32m 0x01#32 0#32, aluR .mulh .rv32m 0x01#32 1#32,
    aluR .mulhsu .rv32m 0x01#32 2#32, aluR .mulhu .rv32m 0x01#32 3#32,
    aluR .div .rv32m 0x01#32 4#32, aluR .divu .rv32m 0x01#32 5#32, aluR .rem .rv32m 0x01#32 6#32,
    aluR .remu .rv32m 0x01#32 7#32,
    aluR .czeroEqz .zicond 0x07#32 5#32, aluR .czeroNez .zicond 0x07#32 7#32 ]

/-- Traps and CSR accesses. -/
def systemRows : List Entry :=
  [ systemOp .ecall 0x00000073#32 .trap, systemOp .ebreak 0x00100073#32 .trap,
    systemOp .uret 0x00200073#32 .trapReturn, systemOp .sret 0x10200073#32 .trapReturn,
    systemOp .mret 0x30200073#32 .trapReturn,
    csrOp .csrrw 1#32 .rw false, csrOp .csrrs 2#32 .rs false, csrOp .csrrc 3#32 .rc false,
    csrOp .csrrwi 5#32 .rw true, csrOp .csrrsi 6#32 .rs true, csrOp .csrrci 7#32 .rc true ]

/-- RV32F. -/
def floatRows : List Entry :=
  [ { base .flw .rv32f (bitsF3 2#32 opFLoad) maskF3 [fd, x1] .i .memoryValue
        (register ||| memory ||| lane) with
      format := .single, memory := { kind := .load, bytes := 4, float := true } },
    { base .fsw .rv32f (bitsF3 2#32 opFStore) maskF3 [x1, f2] .s .none (memory ||| lane) with
      format := .single, memory := { kind := .store, bytes := 4, float := true } },
    fpRM .fmaddS opFMAdd 0x0600007f#32 [fd, f1, f2, f3],
    fpRM .fmsubS opFMSub 0x0600007f#32 [fd, f1, f2, f3],
    fpRM .fnmsubS opFNMSub 0x0600007f#32 [fd, f1, f2, f3],
    fpRM .fnmaddS opFNMAdd 0x0600007f#32 [fd, f1, f2, f3],
    fpRM .faddS (bitsF7 0x00#32 0#32 opFloat) maskF7NoF3 [fd, f1, f2],
    fpRM .fsubS (bitsF7 0x04#32 0#32 opFloat) maskF7NoF3 [fd, f1, f2],
    fpRM .fmulS (bitsF7 0x08#32 0#32 opFloat) maskF7NoF3 [fd, f1, f2],
    fpRM .fdivS (bitsF7 0x0c#32 0#32 opFloat) maskF7NoF3 [fd, f1, f2],
    fpRS2RM .fsqrtS 0x2c#32 0#32 [fd, f1] .float,
    fpFixed .fsgnjS 0x10#32 0#32 [fd, f1, f2] .float false,
    fpFixed .fsgnjnS 0x10#32 1#32 [fd, f1, f2] .float false,
    fpFixed .fsgnjxS 0x10#32 2#32 [fd, f1, f2] .float false,
    fpFixed .fminS 0x14#32 0#32 [fd, f1, f2] .float true,
    fpFixed .fmaxS 0x14#32 1#32 [fd, f1, f2] .float true,
    fpFixed .fleS 0x50#32 0#32 [xd, f1, f2] .integer true,
    fpFixed .fltS 0x50#32 1#32 [xd, f1, f2] .integer true,
    fpFixed .feqS 0x50#32 2#32 [xd, f1, f2] .integer true,
    fpRS2RM .fcvtWS 0x60#32 0#32 [xd, f1] .integer,
    fpRS2RM .fcvtWuS 0x60#32 1#32 [xd, f1] .integer,
    fpRS2RM .fcvtSW 0x68#32 0#32 [fd, x1] .float,
    fpRS2RM .fcvtSWu 0x68#32 1#32 [fd, x1] .float,
    fpMove .fmvXW 0x70#32 0#32 [xd, f1] .integer,
    fpMove .fclassS 0x70#32 1#32 [xd, f1] .integer,
    fpMove .fmvWX 0x78#32 0#32 [fd, x1] .float ]

/-- The custom instructions. -/
def customRows : List Entry :=
  [ { custom .tmc 0#32 [x1] .none (warp ||| lane ||| control) .threadMask with
      mask := maskF7 ||| maskRD ||| maskRS2 },
    { custom .wspawn 1#32 [x1, x2] .none (warp ||| csr ||| control) .warpSpawn with
      mask := maskF7 ||| maskRD },
    { custom .split 2#32 [xd, x1] .controlValue (register ||| warp ||| control) .split with
      mask := maskF7 ||| 0x01e00000#32, modifier := .splitNegateRS2, requiresPC := true },
    { custom .join 3#32 [x1] .none (warp ||| control) .join with
      mask := maskF7 ||| maskRD ||| maskRS2 },
    { custom .bar 4#32 [x1, x2] .none (barrier ||| warp ||| ordering) .none with
      mask := maskF7 ||| maskRD, barrier := .sync },
    { custom .pred 5#32 [x1, x2] .none (warp ||| lane ||| control) .predicate with
      mask := maskF7 ||| 0x00000f00#32, modifier := .predicateNegateRD },
    { custom .barWait 6#32 [x1, x2] .none (barrier ||| warp ||| ordering) .none with
      mask := maskF7 ||| maskRD, barrier := .wait },
    { custom .barArrive 6#32 [xd, x1, x2] .controlValue
        (register ||| barrier ||| warp ||| ordering) .none with
      constraints := [{ mask := maskRD, shift := 7, nonZero := true }], barrier := .arrive },
    { custom .wsync 7#32 [] .none (warp ||| ordering) .warpSync with
      mask := maskF7 ||| maskRD ||| maskRS1 ||| maskRS2 },
    vote .voteAll 0#32, vote .voteAny 1#32, vote .voteUni 2#32, vote .voteBallot 3#32,
    shuffle .shflUp 4#32, shuffle .shflDown 5#32, shuffle .shflBfly 6#32, shuffle .shflIdx 7#32,
    { base .wgather .custom (bitsF3 0#32 opGather) maskF3 [xd, x1, x2, x3] .none .integer
        (register ||| lane) with
      writeMask := .gatherNonSource, modifier := .gatherSourceLane },
    packed .vxPacklbF 1#32 1 4, packed .vxPacklhF 2#32 2 2 ]

/-- The single frozen manifest. -/
def catalog : List Entry := integerRows ++ systemRows ++ floatRows ++ customRows

/-! ## Decoding -/

/-- The register number in a field. -/
def registerIndex (word : Word) : RegisterField → Nat
  | .rd => ((word >>> 7) &&& 0x1f#32).toNat
  | .rs1 => ((word >>> 15) &&& 0x1f#32).toNat
  | .rs2 => ((word >>> 20) &&& 0x1f#32).toNat
  | .rs3 => ((word >>> 27) &&& 0x1f#32).toNat

/-- The low bits as a signed number. -/
def signExtend (value : Word) (bits : Nat) : Word :=
  (value <<< (32 - bits)).sshiftRight (32 - bits)

/-- The immediate of a word. -/
def decodeImmediate (word : Word) : ImmediateKind → Word
  | .i => signExtend (word >>> 20) 12
  | .s => signExtend (((word >>> 25) <<< 5) ||| ((word >>> 7) &&& 0x1f#32)) 12
  | .b =>
    signExtend (((word >>> 31) <<< 12) ||| (((word >>> 7) &&& 1#32) <<< 11) |||
      (((word >>> 25) &&& 0x3f#32) <<< 5) ||| (((word >>> 8) &&& 0xf#32) <<< 1)) 13
  | .u => word &&& 0xfffff000#32
  | .j =>
    signExtend (((word >>> 31) <<< 20) ||| (((word >>> 12) &&& 0xff#32) <<< 12) |||
      (((word >>> 20) &&& 1#32) <<< 11) ||| (((word >>> 21) &&& 0x3ff#32) <<< 1)) 21
  | .shift => (word >>> 20) &&& 0x1f#32
  | .csr => (word >>> 20) &&& 0xfff#32
  | .none => 0#32

/-- The rounding field.  The source panics on the reserved encodings, which no catalog row
accepts. -/
def decodeRounding (encoded : Word) : RoundingMode :=
  match encoded.toNat with
  | 0 => .rne
  | 1 => .rtz
  | 2 => .rdn
  | 3 => .rup
  | 4 => .rmm
  | 7 => .dynamic
  | _ => .none

/-- The registers of the operands with one kind of access, in catalog order. -/
def operandRegisters (word : Word) (operands : List OperandSpec) (access : OperandAccess) :
    List Register :=
  (operands.filter fun operand => operand.access = access).map fun operand =>
    { file := operand.file, index := registerIndex word operand.field }

/-- The CSR forms with an immediate source. -/
def Mnemonic.csrImmediate : Mnemonic → Bool
  | .csrrwi | .csrrsi | .csrrci => true
  | _ => false

/-- The operation of a word that a row accepts. -/
def decodeEntry (word : Word) (entry : Entry) : Decoded where
  word := word
  name := entry.name
  category := entry.category
  sources := operandRegisters word entry.operands .read
  destinations := operandRegisters word entry.operands .write
  hasImmediate := decide (entry.immediate ≠ .none)
  immediate := decodeImmediate word entry.immediate
  rounding := if entry.rounding then decodeRounding ((word >>> 12) &&& 7#32) else .none
  format := entry.format
  result := entry.result
  effects := entry.effects
  requiresPC := entry.requiresPC
  requiresActiveMask := entry.requiresActiveMask
  writeMask := entry.writeMask
  memory := entry.memory
  csr := entry.csr
  csrAddress := if entry.csr = .none then 0 else (word >>> 20).toNat
  csrImmediate := decide (entry.csr ≠ .none) && entry.name.csrImmediate
  csrImmediateValue :=
    if entry.csr ≠ .none ∧ entry.name.csrImmediate = true then
      ((word >>> 15) &&& 0x1f#32).toNat
    else 0
  control := entry.control
  barrier := entry.barrier
  conditionNegated :=
    match entry.modifier with
    | .splitNegateRS2 => decide ((word >>> 20) &&& 1#32 ≠ 0#32)
    | .predicateNegateRD => decide ((word >>> 7) &&& 1#32 ≠ 0#32)
    | _ => false
  gatherSourceLane :=
    match entry.modifier with
    | .gatherSourceLane => ((word >>> 25) &&& 3#32).toNat
    | _ => 0

/-- Strict decoding: exactly one catalog row accepts the word. -/
def decode (word : Word) : Except Error Decoded :=
  match catalog.filter fun entry => entry.accepts word with
  | [] => .error (.illegalInstruction word)
  | [entry] => .ok (decodeEntry word entry)
  | first :: second :: _ => .error (.ambiguous word first.name second.name)

/-- A decoded word comes from a catalog row that accepts it. -/
theorem decode_eq_ok (h : decode word = .ok d) :
    ∃ entry ∈ catalog, entry.accepts word = true ∧ decodeEntry word entry = d := by
  unfold decode at h
  split at h
  · cases h
  · rename_i entry heq
    have hmem : entry ∈ catalog.filter fun e => e.accepts word := heq ▸ List.mem_singleton_self _
    obtain ⟨hin, hacc⟩ := List.mem_filter.mp hmem
    exact ⟨entry, hin, hacc, Except.ok.inj h⟩
  · cases h

end VortexSim
