import VortexSim.Isa.Decode
import VortexSim.Lib.Checked

/-!
# Tokens

A token is the identity of an instruction, or of one of its micro operations, with the metadata
that the resources of the pipeline look at.  It carries no register or memory value.  Warps,
execution classes and registers are numbered by finite types, so the range checks of the source
have no counterpart here.
-/

namespace VortexSim.Timing

open Checked

scoped instance pairNeZero : NeZero 2 := ⟨by decide⟩

scoped instance sourcesNeZero : NeZero 3 := ⟨by decide⟩

scoped instance warpsNeZero : NeZero 4 := ⟨by decide⟩

scoped instance registersNeZero : NeZero 64 := ⟨by decide⟩

/-- The subpath of an execution unit; `unset` before decoding. -/
inductive Path where
  | unset
  | int
  | mul
  | div
  | load
  | store
  | fence
  | wctl
  | csr
  | fma
  | divsqrt
  | cvt
  | ncp
  deriving Repr, DecidableEq

/-- A micro operation with its decoded metadata. -/
structure Token where
  /-- A branch, jump or trap of the integer unit. -/
  branch : Bool := false
  id : Nat := 0
  epoch : Nat := 0
  warp : Fin 4 := 0
  uop : Nat := 0
  pc : Word := 0#32
  word : Word := 0#32
  /-- Integer registers are numbered from 0, float registers from 32. -/
  destination : Fin 64 := 0
  writeback : Bool := false
  /-- Bit 0 is FFLAGS, bit 1 is FRM. -/
  readSpecial : BitVec 2 := 0#2
  writeSpecial : BitVec 2 := 0#2
  fuLock : Bool := false
  fuUnlock : Bool := false
  warpStall : Bool := false
  sources : Fin 3 → Fin 64 := fun _ => 0
  used : BitVec 3 := 0#3
  readMask : BitVec 3 := 0#3
  lastRead : Bool := false
  mask : LaneMask := 0#8
  /-- The `End` flag. -/
  last : Bool := false
  /-- The execution class: ALU, LSU, SFU, FPU. -/
  unit : Fin 4 := 0
  pack : Nat := 0
  uops : Nat := 0
  path : Path := .unset
  deriving DecidableEq

/-- A wire with a valid bit. -/
abbrev Signal := Option Token

/-- `tokenIdentity`. -/
def Token.identity (t : Token) : Fin 4 × Nat × Nat × Nat := (t.warp, t.epoch, t.id, t.uop)

/-! ## Decoding -/

/-- The number of a register in the scoreboard. -/
def registerId (r : Register) : Fin 64 :=
  Fin.ofNat 64 (if r.file = .float then r.index + 32 else r.index)

/-- Float instructions that raise no flags. -/
def flagless : Mnemonic → Bool
  | .fsgnjS | .fsgnjnS | .fsgnjxS | .fmvXW | .fmvWX | .fclassS => true
  | _ => false

/-- The special registers an instruction reads and writes. -/
def specials (d : Decoded) : BitVec 2 × BitVec 2 :=
  let float := decide (d.category = .rv32f ∧ d.memory.kind = .none)
  let dynamic := if float = true ∧ d.rounding = .dynamic then 2#2 else 0#2
  let flags := if float = true ∧ flagless d.name = false then 1#2 else 0#2
  if d.csr = .none then (dynamic, flags)
  else
    let read := match d.csrAddress with
      | 1 => 1#2
      | 2 => 2#2
      | 3 => 3#2
      | _ => dynamic
    -- the encoded source field decides, not its value
    if d.csr = .rw ∨ (d.word >>> 15) &&& 31#32 ≠ 0#32 then (read, read) else (read, flags)

/-- The subpath of a float instruction. -/
def floatPath : Mnemonic → Path
  | .fcvtWS | .fcvtWuS | .fcvtSW | .fcvtSWu => .cvt
  | .fdivS | .fsqrtS => .divsqrt
  | .faddS | .fsubS | .fmulS | .fmaddS | .fmsubS | .fnmaddS | .fnmsubS => .fma
  | _ => .ncp

/-- The cross-lane instructions that the integer unit executes. -/
def crossLane : Mnemonic → Bool
  | .voteAll | .voteAny | .voteUni | .voteBallot => true
  | .shflUp | .shflDown | .shflBfly | .shflIdx | .wgather => true
  | _ => false

/-- The instructions of the multiplier. -/
def multiplies : Mnemonic → Bool
  | .mul | .mulh | .mulhsu | .mulhu => true
  | _ => false

/-- Execution class and subpath. -/
def route (d : Decoded) : Fin 4 × Path :=
  match d.memory.kind with
  | .load => (1, .load)
  | .store => (1, .store)
  | .fence => (1, .fence)
  | _ =>
    match d.category with
    | .rv32i | .zicond => (0, .int)
    | .rv32m => if multiplies d.name then (0, .mul) else (0, .div)
    | .system => if d.csr ≠ .none then (2, .csr) else (0, .int)
    | .fence => (1, .fence)
    | .custom => if crossLane d.name then (0, .int) else (2, .wctl)
    | .rv32f => (3, floatPath d.name)

/-- The transfers that the integer unit resolves. -/
def branches : ControlKind → Bool
  | .branch | .jump | .trap | .trapReturn => true
  | _ => false

/-- `DecodeToken`: fills in the metadata of a fetched word. -/
def decodeToken (t : Token) : Except Error Token := do
  let d ← decode t.word
  rejectIf (3 < d.sources.length) (.text "unsupported source count")
  rejectIf (1 < d.destinations.length) (.text "unsupported destination count")
  let destination := (d.destinations.head?.map registerId).getD 0
  let (unit, path) := route d
  pure { t with
    sources := fun i => (d.sources[i.val]?.map registerId).getD 0
    used := BitVec.ofNat 3 (2 ^ d.sources.length - 1)
    readMask := 0#3
    lastRead := false
    pack := if d.memory.kind = .load ∧ d.memory.packed ≠ 0 then d.memory.bytes else 0
    uop := 0
    uops := 1
    last := true
    branch := branches d.control
    destination
    writeback := decide (destination ≠ 0)
    fuLock := true
    fuUnlock := true
    readSpecial := (specials d).1
    writeSpecial := (specials d).2
    unit
    path
    warpStall := branches d.control || (decide (path = .wctl) && decide (d.barrier ≠ .arrive)) }

end VortexSim.Timing
