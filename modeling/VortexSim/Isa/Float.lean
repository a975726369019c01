import VortexSim.Isa.Integer

/-!
# Floating-point evaluator

The binary32 mathematics is Berkeley SoftFloat, a C library outside the repository.  It is
the parameter `SoftFloat`, one function for each bridge call, and `SoftFloat.FiveFlags` is
the only fact assumed about it: the exception set it reports has five bits.
-/

namespace VortexSim

open Checked

/-- The rounding modes the evaluator hands to the library. -/
inductive FloatRounding where
  | nearEven
  | towardZero
  | down
  | up
  | nearAway
  deriving Repr, DecidableEq

/-- A bit pattern and the exceptions raised for it. -/
structure Result32 where
  bits : Word
  flags : BitVec 8
  deriving Repr, DecidableEq

/-- A truth value with exception flags. -/
structure CompareResult where
  value : Bool
  flags : BitVec 8
  deriving Repr, DecidableEq

/-- The calls of package `softfloat`. -/
structure SoftFloat where
  f32Add : Word → Word → FloatRounding → Result32
  f32Sub : Word → Word → FloatRounding → Result32
  f32Mul : Word → Word → FloatRounding → Result32
  f32Div : Word → Word → FloatRounding → Result32
  f32Sqrt : Word → FloatRounding → Result32
  f32FMA : Word → Word → Word → FloatRounding → Result32
  f32ToI32 : Word → FloatRounding → Result32
  f32ToUI32 : Word → FloatRounding → Result32
  i32ToF32 : Word → FloatRounding → Result32
  ui32ToF32 : Word → FloatRounding → Result32
  f32Equal : Word → Word → CompareResult
  f32LessThan : Word → Word → CompareResult
  f32LessOrEqual : Word → Word → CompareResult

/-- No bit above the five IEEE exception flags is set. -/
def FlagBits (flags : BitVec 8) : Prop := flags &&& ~~~0x1f#8 = 0#8

instance (flags : BitVec 8) : Decidable (FlagBits flags) := inferInstanceAs (Decidable (_ = _))

/-- Every call reports exceptions out of the five declared ones. -/
structure SoftFloat.FiveFlags (sf : SoftFloat) : Prop where
  f32Add : ∀ a b r, FlagBits (sf.f32Add a b r).flags
  f32Sub : ∀ a b r, FlagBits (sf.f32Sub a b r).flags
  f32Mul : ∀ a b r, FlagBits (sf.f32Mul a b r).flags
  f32Div : ∀ a b r, FlagBits (sf.f32Div a b r).flags
  f32Sqrt : ∀ a r, FlagBits (sf.f32Sqrt a r).flags
  f32FMA : ∀ a b c r, FlagBits (sf.f32FMA a b c r).flags
  f32ToI32 : ∀ a r, FlagBits (sf.f32ToI32 a r).flags
  f32ToUI32 : ∀ a r, FlagBits (sf.f32ToUI32 a r).flags
  i32ToF32 : ∀ a r, FlagBits (sf.i32ToF32 a r).flags
  ui32ToF32 : ∀ a r, FlagBits (sf.ui32ToF32 a r).flags
  f32Equal : ∀ a b, FlagBits (sf.f32Equal a b).flags
  f32LessThan : ∀ a b, FlagBits (sf.f32LessThan a b).flags
  f32LessOrEqual : ∀ a b, FlagBits (sf.f32LessOrEqual a b).flags

/-- A float library that answers zero to everything. -/
def zeroFloat : SoftFloat where
  f32Add _ _ _ := ⟨0#32, 0#8⟩
  f32Sub _ _ _ := ⟨0#32, 0#8⟩
  f32Mul _ _ _ := ⟨0#32, 0#8⟩
  f32Div _ _ _ := ⟨0#32, 0#8⟩
  f32Sqrt _ _ := ⟨0#32, 0#8⟩
  f32FMA _ _ _ _ := ⟨0#32, 0#8⟩
  f32ToI32 _ _ := ⟨0#32, 0#8⟩
  f32ToUI32 _ _ := ⟨0#32, 0#8⟩
  i32ToF32 _ _ := ⟨0#32, 0#8⟩
  ui32ToF32 _ _ := ⟨0#32, 0#8⟩
  f32Equal _ _ := ⟨false, 0#8⟩
  f32LessThan _ _ := ⟨false, 0#8⟩
  f32LessOrEqual _ _ := ⟨false, 0#8⟩

theorem zeroFloat_fiveFlags : zeroFloat.FiveFlags := by
  have hzero : FlagBits 0#8 := by decide
  constructor <;> intros <;> exact hzero

/-! ## Classification, minimum and maximum -/

/-- The sign bit. -/
def f32Sign : Word := 0x80000000#32
/-- The exponent bits. -/
def f32Exponent : Word := 0x7f800000#32
/-- The fraction bits. -/
def f32Fraction : Word := 0x007fffff#32
/-- The bit of a quiet NaN. -/
def f32Quiet : Word := 0x00400000#32
/-- The canonical NaN. -/
def f32CanonicalQ : Word := 0x7fc00000#32

/-- `FlagInvalid`. -/
def flagInvalid : BitVec 8 := 16#8

/-- Exponent of ones with a fraction. -/
def floatNaN (bits : Word) : Bool :=
  bits &&& f32Exponent == f32Exponent && bits &&& f32Fraction != 0#32

/-- A NaN that is not quiet. -/
def floatSignalingNaN (bits : Word) : Bool :=
  floatNaN bits && bits &&& f32Quiet == 0#32

/-- FCLASS.S. -/
def floatClass (bits : Word) : Word :=
  let sign : Bool := bits &&& f32Sign != 0#32
  let exponent := bits &&& f32Exponent
  let fraction := bits &&& f32Fraction
  if exponent = f32Exponent ∧ fraction = 0#32 then if sign then 0x001#32 else 0x080#32
  else if exponent = f32Exponent then if bits &&& f32Quiet = 0#32 then 0x100#32 else 0x200#32
  else if exponent = 0#32 ∧ fraction = 0#32 then if sign then 0x008#32 else 0x010#32
  else if exponent = 0#32 then if sign then 0x004#32 else 0x020#32
  else if sign then 0x002#32 else 0x040#32

variable (sf : SoftFloat)

/-- FMIN.S and FMAX.S. -/
def floatMinMax (maximum : Bool) (a b : Word) : Word × BitVec 8 :=
  let flags := if floatSignalingNaN a || floatSignalingNaN b then flagInvalid else 0#8
  if floatNaN a && floatNaN b then (f32CanonicalQ, flags)
  else if floatNaN a then (b, flags)
  else if floatNaN b then (a, flags)
  else if a <<< 1 = 0#32 ∧ b <<< 1 = 0#32 then
    -- two zeros: a maximum is negative only if both are, a minimum if either is
    (if maximum then a &&& b else a ||| b, flags)
  else if maximum then (if (sf.f32LessThan a b).value then b else a, flags)
  else (if (sf.f32LessThan a b).value then a else b, flags)

/-! ## Lanes -/

/-- One lane of a floating-point instruction, `none` for a name without such semantics. -/
def evaluateFloatLane (name : Mnemonic) (a b c : Word) (rounding : FloatRounding) :
    Option (Word × BitVec 8) :=
  let result (r : Result32) : Option (Word × BitVec 8) := some (r.bits, r.flags)
  let comparison (r : CompareResult) : Option (Word × BitVec 8) := some (boolWord r.value, r.flags)
  match name with
  | .faddS => result (sf.f32Add a b rounding)
  | .fsubS => result (sf.f32Sub a b rounding)
  | .fmulS => result (sf.f32Mul a b rounding)
  | .fdivS => result (sf.f32Div a b rounding)
  | .fsqrtS => result (sf.f32Sqrt a rounding)
  | .fmaddS => result (sf.f32FMA a b c rounding)
  | .fmsubS => result (sf.f32FMA a b (c ^^^ f32Sign) rounding)
  | .fnmsubS => result (sf.f32FMA (a ^^^ f32Sign) b c rounding)
  | .fnmaddS => result (sf.f32FMA (a ^^^ f32Sign) b (c ^^^ f32Sign) rounding)
  | .fcvtWS => result (sf.f32ToI32 a rounding)
  | .fcvtWuS => result (sf.f32ToUI32 a rounding)
  | .fcvtSW => result (sf.i32ToF32 a rounding)
  | .fcvtSWu => result (sf.ui32ToF32 a rounding)
  | .fsgnjS => some (a &&& ~~~f32Sign ||| b &&& f32Sign, 0#8)
  | .fsgnjnS => some (a &&& ~~~f32Sign ||| ~~~b &&& f32Sign, 0#8)
  | .fsgnjxS => some (a ^^^ (b &&& f32Sign), 0#8)
  | .fminS => some (floatMinMax sf false a b)
  | .fmaxS => some (floatMinMax sf true a b)
  | .feqS => comparison (sf.f32Equal a b)
  | .fltS => comparison (sf.f32LessThan a b)
  | .fleS => comparison (sf.f32LessOrEqual a b)
  | .fclassS => some (floatClass a, 0#8)
  | .fmvXW | .fmvWX => some (a, 0#8)
  | _ => none

variable (decoded : Decoded) (input : FloatInput)

/-- The static rounding mode, or the dynamic one from the warp. -/
def resolveFloatRounding (frm : RoundingMode) : Except Error FloatRounding :=
  if decoded.rounding = .none then .ok .nearEven
  else
    match if decoded.rounding = .dynamic then frm else decoded.rounding with
    | .rne => .ok .nearEven
    | .rtz => .ok .towardZero
    | .rdn => .ok .down
    | .rup => .ok .up
    | .rmm => .ok .nearAway
    | _ => .error (evalError decoded "dynamic rounding requires a legal FRM value")

/-- Add the result and the exceptions of one lane. -/
def floatLaneStep (rounding : FloatRounding) (acc : LaneValues × BitVec 8) (lane : Lane) :
    Except Error (LaneValues × BitVec 8) :=
  match evaluateFloatLane sf decoded.name (input.rs1 lane) (input.rs2 lane) (input.rs3 lane)
      rounding with
  | none => .error (evalError decoded "missing RV32F functional semantics")
  | some (result, flags) => .ok (Function.update acc.1 lane result, acc.2 ||| flags)

/-- Every active lane in order, with the union of the raised exceptions. -/
def floatLanes (rounding : FloatRounding) : Except Error (LaneValues × BitVec 8) :=
  foldEach (fun _ => floatLaneStep sf decoded input rounding) 0 (fun _ => 0#32, 0#8)
    input.activeMask.lanes

/-! ## The evaluator -/

/-- `EvaluateFloat`. -/
def evaluateFloat : Except Error InstructionEffects := do
  rejectIf (¬ input.activeMask.Valid) (evalError decoded "active mask exceeds four frozen lanes")
  rejectIf (boundsValid input.bounds = false) (evalError decoded "invalid memory bounds view")
  rejectIf (decoded.category ≠ .rv32f ∨ decoded.format ≠ .single)
    (evalError decoded "instruction is outside frozen RV32F")
  if decoded.memory.kind ≠ .none then do
    rejectIf (decoded.memory.float = false ∨ (decoded.name ≠ .flw ∧ decoded.name ≠ .fsw))
      (evalError decoded "unsupported floating memory operation")
    evaluateMemory decoded
      { pc := input.pc, activeMask := input.activeMask, rs1 := input.rs1, rs2 := input.rs2,
        bounds := input.bounds }
  else do
    let rounding ← resolveFloatRounding decoded input.frm
    let lanes ← floatLanes sf decoded input rounding
    let effects := appendRegisterWrite { control := some (sequentialControl input.pc) } decoded
      input.activeMask lanes.1
    if decoded.effects &&& EffectKind.fflags ≠ 0#32 then
      pure { effects with fflags := some { accumulate := lanes.2 } }
    else pure effects

/-- `CompleteFloatMemory`. -/
def completeFloatMemory (pc : Word) (expected : LaneMask) (responses : List MemoryResponse) :
    Except Error InstructionEffects := do
  rejectIf (decoded.category ≠ .rv32f ∨ decoded.memory.float = false)
    (evalError decoded "instruction is not floating memory")
  completeMemory decoded pc expected responses

end VortexSim
