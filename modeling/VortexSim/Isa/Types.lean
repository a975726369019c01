import Mathlib.Data.BitVec
import Mathlib.Data.Fintype.Pi

/-!
# Instruction vocabulary

The types of package `isa` that name an instruction and its operands: register
namespaces, the catalog row `Entry` and the decoded operation `Decoded`.  Enumerations
are inductive types.  Where a validator of the source tests an enumeration for a value
outside its declared constants, the type has a constructor `unknown` for those raw values.

A 32-bit quantity is a `Word`, a lane mask is eight bits wide as in the source, and
indices and identities (`uint8` fields that are only compared) are natural numbers.
-/

namespace VortexSim

/-- A 32-bit architectural value. -/
abbrev Word := BitVec 32

/-- One memory byte. -/
abbrev Byte := BitVec 8

/-- Hexadecimal rendering, `%#x`. -/
def hex (n : Nat) : String := "0x" ++ String.ofList (Nat.toDigits 16 n)

/-- `FrozenLaneCount`: threads of one warp. -/
abbrev frozenLaneCount : Nat := 4

/-- `FrozenWarpCount`: warps of the core. -/
abbrev frozenWarpCount : Nat := 4

/-- `FrozenBarrierCount`: barriers of one owning warp. -/
abbrev frozenBarrierCount : Nat := 8

/-- `FrozenRegisterCount`: registers of one namespace. -/
abbrev frozenRegisterCount : Nat := 32

-- Named instances, so that numerals of the index types share one proof.
instance : NeZero frozenLaneCount := ⟨by decide⟩

instance : NeZero frozenBarrierCount := ⟨by decide⟩

instance : NeZero frozenRegisterCount := ⟨by decide⟩

/-- A lane of the frozen configuration. -/
abbrev Lane := Fin frozenLaneCount

/-! ## Masks and lane vectors -/

/-- One bit per lane, in the low bits of a byte. -/
abbrev LaneMask := BitVec 8

/-- The mask of all four lanes. -/
def allLanes : LaneMask := 0xf#8

/-- No bit stands above the frozen lanes. -/
def LaneMask.Valid (m : LaneMask) : Prop := m &&& ~~~allLanes = 0#8

instance (m : LaneMask) : Decidable m.Valid := inferInstanceAs (Decidable (_ = _))

/-- Lane `lane` is selected. -/
def LaneMask.active (m : LaneMask) (lane : Nat) : Bool :=
  decide (lane < frozenLaneCount) && m.getLsbD lane

/-- One bit per warp. -/
abbrev WarpMask := BitVec 8

/-- The mask of all four warps. -/
def allWarps : WarpMask := 0xf#8

/-- No bit stands above the frozen warps. -/
def WarpMask.Valid (m : WarpMask) : Prop := m &&& ~~~allWarps = 0#8

instance (m : WarpMask) : Decidable m.Valid := inferInstanceAs (Decidable (_ = _))

/-- Warp `warp` is selected. -/
def WarpMask.active (m : WarpMask) (warp : Nat) : Bool :=
  decide (warp < frozenWarpCount) && m.getLsbD warp

/-- One word for each lane. -/
abbrev LaneValues := Lane → Word

/-! ## Registers -/

/-- The two register files. -/
inductive RegisterFile where
  | integer
  | float
  | unknown (raw : Nat)
  deriving Repr, DecidableEq

/-- The constant of the source. -/
def RegisterFile.raw : RegisterFile → Nat
  | .integer => 0
  | .float => 1
  | .unknown raw => raw

/-- The register fields of a word. -/
inductive RegisterField where
  | rd
  | rs1
  | rs2
  | rs3
  deriving Repr, DecidableEq

/-- Source or destination. -/
inductive OperandAccess where
  | read
  | write
  deriving Repr, DecidableEq

/-- Catalog metadata of one operand. -/
structure OperandSpec where
  field : RegisterField
  file : RegisterFile
  access : OperandAccess
  deriving Repr, DecidableEq

/-- A register of a file. -/
structure Register where
  file : RegisterFile
  index : Nat
  deriving Repr, DecidableEq

/-! ## Catalog attributes -/

/-- The extension of an instruction. -/
inductive Category where
  | rv32i
  | rv32m
  | rv32f
  | zicond
  | system
  | fence
  | custom
  deriving Repr, DecidableEq

/-- The immediate formats. -/
inductive ImmediateKind where
  | none
  | i
  | s
  | b
  | u
  | j
  | shift
  | csr
  deriving Repr, DecidableEq

/-- The rounding modes. -/
inductive RoundingMode where
  | none
  | rne
  | rtz
  | rdn
  | rup
  | rmm
  | dynamic
  deriving Repr, DecidableEq

/-- The float formats. -/
inductive FloatFormat where
  | none
  | single
  deriving Repr, DecidableEq

/-- Where a result comes from. -/
inductive ResultKind where
  | none
  | integer
  | float
  | memoryValue
  | csrValue
  | controlValue
  deriving Repr, DecidableEq

/-- The set of owner boundaries an instruction may cross, one bit each. -/
abbrev EffectKind := BitVec 32

namespace EffectKind

/-- Register writes. -/
def register : EffectKind := 1#32
/-- Memory accesses. -/
def memory : EffectKind := 2#32
/-- Fences. -/
def ordering : EffectKind := 4#32
/-- CSR accesses. -/
def csr : EffectKind := 8#32
/-- PC changes. -/
def control : EffectKind := 16#32
/-- Exception flags. -/
def fflags : EffectKind := 32#32
/-- Effects of single lanes. -/
def lane : EffectKind := 64#32
/-- Effects of the whole warp. -/
def warp : EffectKind := 128#32
/-- Barriers. -/
def barrier : EffectKind := 256#32

end EffectKind

/-- The lanes of a result. -/
inductive WriteMask where
  | none
  | active
  | gatherNonSource
  deriving Repr, DecidableEq

/-- The kinds of access. -/
inductive MemoryKind where
  | none
  | load
  | store
  | fence
  deriving Repr, DecidableEq

/-- The access of an instruction. -/
structure MemorySpec where
  kind : MemoryKind := .none
  bytes : Nat := 0
  signed : Bool := false
  float : Bool := false
  packed : Nat := 0
  deriving Repr, DecidableEq

/-- Swap, set and clear. -/
inductive CSRKind where
  | none
  | rw
  | rs
  | rc
  deriving Repr, DecidableEq

/-- The control effect of an instruction. -/
inductive ControlKind where
  | none
  | branch
  | jump
  | trap
  | trapReturn
  | threadMask
  | warpSpawn
  | split
  | join
  | predicate
  | warpSync
  deriving Repr, DecidableEq

/-- The barrier operations. -/
inductive BarrierKind where
  | none
  | sync
  | arrive
  | wait
  | unknown (raw : Nat)
  deriving Repr, DecidableEq

/-- Fields with a meaning of their own. -/
inductive ModifierKind where
  | none
  | splitNegateRS2
  | predicateNegateRD
  | gatherSourceLane
  deriving Repr, DecidableEq

/-- The instruction names of the frozen manifest. -/
inductive Mnemonic where
  | lui | auipc | jal | jalr
  | beq | bne | blt | bge | bltu | bgeu
  | lb | lh | lw | lbu | lhu
  | sb | sh | sw
  | addi | slli | slti | sltiu | xori | srli | srai | ori | andi
  | add | sub | sll | slt | sltu | xor | srl | sra | or | and
  | fence
  | mul | mulh | mulhsu | mulhu | div | divu | rem | remu
  | czeroEqz | czeroNez
  | ecall | ebreak | uret | sret | mret
  | csrrw | csrrs | csrrc | csrrwi | csrrsi | csrrci
  | flw | fsw
  | fmaddS | fmsubS | fnmsubS | fnmaddS
  | faddS | fsubS | fmulS | fdivS | fsqrtS
  | fsgnjS | fsgnjnS | fsgnjxS | fminS | fmaxS
  | fleS | fltS | feqS
  | fcvtWS | fcvtWuS | fcvtSW | fcvtSWu
  | fmvXW | fclassS | fmvWX
  | tmc | wspawn | split | join | bar | pred | barWait | barArrive | wsync
  | voteAll | voteAny | voteUni | voteBallot
  | shflUp | shflDown | shflBfly | shflIdx
  | wgather | vxPacklbF | vxPacklhF
  deriving Repr, DecidableEq

/-- The catalog name. -/
def Mnemonic.text : Mnemonic → String
  | .lui => "lui" | .auipc => "auipc" | .jal => "jal" | .jalr => "jalr"
  | .beq => "beq" | .bne => "bne" | .blt => "blt" | .bge => "bge" | .bltu => "bltu"
  | .bgeu => "bgeu"
  | .lb => "lb" | .lh => "lh" | .lw => "lw" | .lbu => "lbu" | .lhu => "lhu"
  | .sb => "sb" | .sh => "sh" | .sw => "sw"
  | .addi => "addi" | .slli => "slli" | .slti => "slti" | .sltiu => "sltiu" | .xori => "xori"
  | .srli => "srli" | .srai => "srai" | .ori => "ori" | .andi => "andi"
  | .add => "add" | .sub => "sub" | .sll => "sll" | .slt => "slt" | .sltu => "sltu"
  | .xor => "xor" | .srl => "srl" | .sra => "sra" | .or => "or" | .and => "and"
  | .fence => "fence"
  | .mul => "mul" | .mulh => "mulh" | .mulhsu => "mulhsu" | .mulhu => "mulhu" | .div => "div"
  | .divu => "divu" | .rem => "rem" | .remu => "remu"
  | .czeroEqz => "czero.eqz" | .czeroNez => "czero.nez"
  | .ecall => "ecall" | .ebreak => "ebreak" | .uret => "uret" | .sret => "sret" | .mret => "mret"
  | .csrrw => "csrrw" | .csrrs => "csrrs" | .csrrc => "csrrc" | .csrrwi => "csrrwi"
  | .csrrsi => "csrrsi" | .csrrci => "csrrci"
  | .flw => "flw" | .fsw => "fsw"
  | .fmaddS => "fmadd.s" | .fmsubS => "fmsub.s" | .fnmsubS => "fnmsub.s" | .fnmaddS => "fnmadd.s"
  | .faddS => "fadd.s" | .fsubS => "fsub.s" | .fmulS => "fmul.s" | .fdivS => "fdiv.s"
  | .fsqrtS => "fsqrt.s"
  | .fsgnjS => "fsgnj.s" | .fsgnjnS => "fsgnjn.s" | .fsgnjxS => "fsgnjx.s" | .fminS => "fmin.s"
  | .fmaxS => "fmax.s"
  | .fleS => "fle.s" | .fltS => "flt.s" | .feqS => "feq.s"
  | .fcvtWS => "fcvt.w.s" | .fcvtWuS => "fcvt.wu.s" | .fcvtSW => "fcvt.s.w"
  | .fcvtSWu => "fcvt.s.wu"
  | .fmvXW => "fmv.x.w" | .fclassS => "fclass.s" | .fmvWX => "fmv.w.x"
  | .tmc => "tmc" | .wspawn => "wspawn" | .split => "split" | .join => "join" | .bar => "bar"
  | .pred => "pred" | .barWait => "bar.wait" | .barArrive => "bar.arrive" | .wsync => "wsync"
  | .voteAll => "vote.all" | .voteAny => "vote.any" | .voteUni => "vote.uni"
  | .voteBallot => "vote.ballot"
  | .shflUp => "shfl.up" | .shflDown => "shfl.down" | .shflBfly => "shfl.bfly"
  | .shflIdx => "shfl.idx"
  | .wgather => "wgather" | .vxPacklbF => "vx_packlb_f" | .vxPacklhF => "vx_packlh_f"

/-! ## Catalog rows and decoded operations -/

/-- A legality rule that no single match/mask pair expresses. -/
structure ValueConstraint where
  mask : Word
  shift : Nat
  values : List Word := []
  nonZero : Bool := false
  deriving Repr, DecidableEq

/-- The instruction field named by the constraint holds an allowed value. -/
def ValueConstraint.accepts (c : ValueConstraint) (word : Word) : Bool :=
  let v := (word &&& c.mask) >>> c.shift
  if c.nonZero && v == 0#32 then false
  else if c.values.length = 0 then true
  else c.values.any (fun allowed => v == allowed)

/-- One authoritative catalog row. -/
structure Entry where
  name : Mnemonic
  category : Category
  matchBits : Word
  mask : Word
  constraints : List ValueConstraint := []
  operands : List OperandSpec
  immediate : ImmediateKind
  rounding : Bool := false
  format : FloatFormat := .none
  result : ResultKind
  effects : EffectKind
  requiresPC : Bool := false
  requiresActiveMask : Bool := false
  writeMask : WriteMask := .none
  memory : MemorySpec := {}
  csr : CSRKind := .none
  control : ControlKind := .none
  barrier : BarrierKind := .none
  modifier : ModifierKind := .none
  deriving Repr, DecidableEq

/-- The word has the fixed bits and keeps the constraints. -/
def Entry.accepts (e : Entry) (word : Word) : Bool :=
  if word &&& e.mask != e.matchBits then false
  else e.constraints.all (fun constraint => constraint.accepts word)

/-- A decoded operation, independent of any register array. -/
structure Decoded where
  word : Word
  name : Mnemonic
  category : Category
  sources : List Register := []
  destinations : List Register := []
  hasImmediate : Bool := false
  immediate : Word := 0#32
  rounding : RoundingMode := .none
  format : FloatFormat
  result : ResultKind
  effects : EffectKind
  requiresPC : Bool
  requiresActiveMask : Bool
  writeMask : WriteMask
  memory : MemorySpec
  csr : CSRKind
  csrAddress : Nat := 0
  csrImmediate : Bool := false
  csrImmediateValue : Nat := 0
  control : ControlKind
  barrier : BarrierKind
  conditionNegated : Bool := false
  gatherSourceLane : Nat := 0
  deriving Repr, DecidableEq

/-! ## Errors -/

/-- Why a CSR access is refused. -/
inductive CSRAccessProblem where
  | unknownAddress
  | readOnlyWrite
  deriving Repr, DecidableEq

/-- The `error` values of the modelled packages. -/
inductive Error where
  /-- `fmt.Errorf` with a plain text. -/
  | text (message : String)
  /-- `IllegalInstructionError`. -/
  | illegalInstruction (word : Word)
  /-- An ambiguous catalog match, with the two rows found. -/
  | ambiguous (word : Word) (first second : Mnemonic)
  /-- `EvaluationError`. -/
  | evaluation (instruction : Mnemonic) (problem : String)
  /-- `CSRAccessError`. -/
  | csrAccess (instruction : Mnemonic) (address : Nat) (problem : CSRAccessProblem)
  /-- `EffectValidationError`. -/
  | effectValidation (field problem : String)
  /-- `ErrCTAResourcesUnavailable`, with what was missing. -/
  | resourcesUnavailable (detail : String)
  /-- `ErrLocalMemoryRange`, with the access. -/
  | localMemoryRange (detail : String)
  /-- `ErrMemoryCrossing`. -/
  | memoryCrossing
  /-- `fmt.Errorf` around another error. -/
  | wrapped (context : String) (cause : Error)
  deriving Repr, DecidableEq

end VortexSim
