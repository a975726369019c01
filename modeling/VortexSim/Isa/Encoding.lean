import Mathlib.Tactic.IntervalCases
import VortexSim.Isa.Decode

/-!
# Encoding

No word is accepted by two rows of the catalog, so `decode` refuses a word only as illegal.  What it
reads can be written back: a row has its fixed bits and a list of fields, and each field encodes the
decoded value into the bits it was read from.  The predecessor and successor sets of a fence are
the only bits that no field of its row reads.
-/

namespace VortexSim

/-! ## One row for a word -/

/-- A constraint that rules out the fixed bits of a row. -/
def ValueConstraint.excludes (c : ValueConstraint) (e : Entry) : Bool :=
  c.nonZero && c.mask &&& ~~~e.mask == 0#32 && e.matchBits &&& c.mask == 0#32

/-- Two rows that fix a bit differently, or one of which excludes the other. -/
def Entry.clashes (e f : Entry) : Bool :=
  e.matchBits &&& f.mask != f.matchBits &&& e.mask ||
    e.constraints.any (·.excludes f) || f.constraints.any (·.excludes e)

variable {e f : Entry} {word : Word}

theorem accepts_iff : e.accepts word = true ↔
    word &&& e.mask = e.matchBits ∧ ∀ c ∈ e.constraints, c.accepts word = true := by
  unfold Entry.accepts
  by_cases h : word &&& e.mask = e.matchBits <;> simp [h]

theorem not_accepts_of_excludes (hc : c ∈ e.constraints) (hx : c.excludes f = true)
    (he : e.accepts word = true) (hf : word &&& f.mask = f.matchBits) : False := by
  simp only [ValueConstraint.excludes, Bool.and_eq_true, beq_iff_eq] at hx
  obtain ⟨⟨hnonZero, hwithin⟩, hzero⟩ := hx
  have hsub : c.mask = f.mask &&& c.mask := by
    have hsplit : c.mask = c.mask &&& f.mask ||| c.mask &&& ~~~f.mask := by
      rw [← BitVec.and_or_distrib_left, BitVec.or_not_self, BitVec.and_allOnes]
    rw [hwithin, BitVec.or_zero, BitVec.and_comm] at hsplit
    exact hsplit
  have hfield : (word &&& c.mask) >>> c.shift = 0#32 := by
    rw [hsub, ← BitVec.and_assoc, hf, hzero, BitVec.zero_ushiftRight]
  have haccepts := (accepts_iff.mp he).2 c hc
  simp [ValueConstraint.accepts, hfield, hnonZero] at haccepts

/-- Rows that clash accept no word in common. -/
theorem Entry.clashes.disjoint (h : e.clashes f = true) (he : e.accepts word = true)
    (hf : f.accepts word = true) : False := by
  obtain ⟨hefixed, -⟩ := accepts_iff.mp he
  obtain ⟨hffixed, -⟩ := accepts_iff.mp hf
  unfold Entry.clashes at h
  rcases Bool.or_eq_true_iff.mp h with h | h
  · rcases Bool.or_eq_true_iff.mp h with h | h
    · refine bne_iff_ne.mp h ?_
      rw [← hefixed, ← hffixed, BitVec.and_assoc, BitVec.and_assoc, BitVec.and_comm e.mask]
    · obtain ⟨c, hc, hx⟩ := List.any_eq_true.mp h
      exact not_accepts_of_excludes hc hx he hffixed
  · obtain ⟨c, hc, hx⟩ := List.any_eq_true.mp h
    exact not_accepts_of_excludes hc hx hf hefixed

theorem catalog_clashes : catalog.Pairwise fun e f => e.clashes f = true := by
  decide +kernel

/-- A word has one row or none. -/
theorem catalog_accepts (word : Word) : (catalog.filter fun e => e.accepts word) = [] ∨
    ∃ e, (catalog.filter fun e => e.accepts word) = [e] := by
  have hpair := catalog_clashes.filter fun e => e.accepts word
  have hall : ∀ e ∈ catalog.filter fun e => e.accepts word, e.accepts word = true :=
    fun e he => (List.mem_filter.mp he).2
  generalize (catalog.filter fun e => e.accepts word) = rows at hpair hall
  match rows with
  | [] => exact .inl rfl
  | [e] => exact .inr ⟨e, rfl⟩
  | e :: f :: rest =>
    have hclash := List.rel_of_pairwise_cons hpair (List.mem_cons_self ..)
    exact (Entry.clashes.disjoint hclash (hall e (by simp)) (hall f (by simp))).elim

/-! ## Fields -/

/-- A field of a row: the bits it occupies and how the decoded value is written there. -/
structure Field where
  mask : Word
  encode : Decoded → Word

/-- The lowest bit of a register field. -/
def RegisterField.shift : RegisterField → Nat
  | .rd => 7
  | .rs1 => 15
  | .rs2 => 20
  | .rs3 => 27

/-- The fields of the operands with one kind of access. -/
def registerFields (operands : List OperandSpec) (access : OperandAccess)
    (registers : Decoded → List Register) : List Field :=
  (operands.filter fun operand => operand.access = access).mapIdx fun i operand =>
    { mask := 0x1f#32 <<< operand.field.shift
      encode := fun d =>
        BitVec.ofNat 32 ((registers d)[i]?.elim 0 Register.index) <<< operand.field.shift }

/-- The bits of an immediate. -/
def ImmediateKind.mask : ImmediateKind → Word
  | .i | .csr => 0xfff00000#32
  | .s | .b => 0xfe000f80#32
  | .u | .j => 0xfffff000#32
  | .shift => 0x01f00000#32
  | .none => 0#32

/-- The bits of a word that decode to an immediate. -/
def encodeImmediate (value : Word) : ImmediateKind → Word
  | .i | .csr => value <<< 20
  | .s => ((value >>> 5) &&& 0x7f#32) <<< 25 ||| (value &&& 0x1f#32) <<< 7
  | .b =>
    ((value >>> 12) &&& 1#32) <<< 31 ||| ((value >>> 11) &&& 1#32) <<< 7 |||
      ((value >>> 5) &&& 0x3f#32) <<< 25 ||| ((value >>> 1) &&& 0xf#32) <<< 8
  | .u => value
  | .j =>
    ((value >>> 20) &&& 1#32) <<< 31 ||| ((value >>> 12) &&& 0xff#32) <<< 12 |||
      ((value >>> 11) &&& 1#32) <<< 20 ||| ((value >>> 1) &&& 0x3ff#32) <<< 21
  | .shift => value <<< 20
  | .none => 0#32

/-- The rounding field of a mode. -/
def encodeRounding : RoundingMode → Word
  | .rne => 0#32
  | .rtz => 1#32
  | .rdn => 2#32
  | .rup => 3#32
  | .rmm => 4#32
  | .dynamic => 7#32
  | .none => 5#32

/-- A flag as a word. -/
def encodeBit (bit : Bool) : Word := if bit then 1#32 else 0#32

/-- The fields that the modifier of a row adds. -/
def ModifierKind.fields : ModifierKind → List Field
  | .none => []
  | .splitNegateRS2 =>
    [{ mask := 1#32 <<< 20, encode := fun d => encodeBit d.conditionNegated <<< 20 }]
  | .predicateNegateRD =>
    [{ mask := 1#32 <<< 7, encode := fun d => encodeBit d.conditionNegated <<< 7 }]
  | .gatherSourceLane =>
    [{ mask := 3#32 <<< 25, encode := fun d => BitVec.ofNat 32 d.gatherSourceLane <<< 25 }]

/-- The CSR address, and the immediate source where the row has one. -/
def Entry.csrFields (e : Entry) : List Field :=
  if e.csr = .none then []
  else
    { mask := 0xfff#32 <<< 20, encode := fun d => BitVec.ofNat 32 d.csrAddress <<< 20 } ::
      if e.name.csrImmediate then
        [{ mask := 0x1f#32 <<< 15, encode := fun d => BitVec.ofNat 32 d.csrImmediateValue <<< 15 }]
      else []

/-- All fields that decoding reads. -/
def Entry.fields (e : Entry) : List Field :=
  registerFields e.operands .read Decoded.sources ++
    registerFields e.operands .write Decoded.destinations ++
    [{ mask := e.immediate.mask, encode := fun d => encodeImmediate d.immediate e.immediate }] ++
    (if e.rounding then
      [{ mask := 7#32 <<< 12, encode := fun d => encodeRounding d.rounding <<< 12 }] else []) ++
    e.csrFields ++ e.modifier.fields

/-- The bits that a row fixes or reads. -/
def Entry.covered (e : Entry) : Word := e.fields.foldr (fun f bits => f.mask ||| bits) e.mask

/-- The fixed bits of a row with the decoded values in its fields. -/
def Entry.encode (e : Entry) (d : Decoded) : Word :=
  e.fields.foldr (fun f bits => f.encode d ||| bits) e.matchBits

/-! ## Each field is written where it was read -/

theorem field_bits (word mask : Word) (s : Nat) :
    ((word >>> s) &&& mask) <<< s = word &&& (mask <<< s) := by
  refine BitVec.eq_of_getLsbD_eq fun i hi => ?_
  simp only [BitVec.getLsbD_shiftLeft, BitVec.getLsbD_and, BitVec.getLsbD_ushiftRight]
  by_cases hs : i < s
  · simp [hs]
  · rw [Nat.add_sub_cancel' (Nat.le_of_not_lt hs)]
    simp [hs, hi]

theorem ofNat_field_bits (word mask : Word) (s : Nat) :
    BitVec.ofNat 32 ((word >>> s) &&& mask).toNat <<< s = word &&& (mask <<< s) := by
  rw [BitVec.ofNat_toNat, BitVec.setWidth_eq]
  exact field_bits word mask s

theorem registerIndex_bits (word : Word) (field : RegisterField) :
    BitVec.ofNat 32 (registerIndex word field) <<< field.shift =
      word &&& (0x1f#32 <<< field.shift) := by
  cases field <;> exact ofNat_field_bits ..

/-- Sign extension keeps the bits of the value. -/
theorem getElem_signExtend (hi : i < 32) (hlow : i < bits) (hbits : bits ≤ 32) :
    (signExtend value bits)[i] = value[i] := by
  have hshift : 32 - bits + i < 32 := by omega
  have hback : 32 - bits + i - (32 - bits) = i := by omega
  simp [signExtend, BitVec.getElem_sshiftRight, hshift, hback]

theorem immediate_bits (word : Word) (kind : ImmediateKind) :
    encodeImmediate (decodeImmediate word kind) kind = word &&& kind.mask := by
  cases kind
  case none => simp [encodeImmediate, ImmediateKind.mask]
  case u => rfl
  case csr => exact field_bits word 0xfff#32 20
  case shift => exact field_bits word 0x1f#32 20
  all_goals
    refine BitVec.eq_of_getLsbD_eq fun i hi => ?_
    unfold encodeImmediate decodeImmediate ImmediateKind.mask
    interval_cases i <;> simp [getElem_signExtend]

theorem bit_bits (word : Word) (s : Nat) :
    encodeBit (decide ((word >>> s) &&& 1#32 ≠ 0#32)) <<< s = word &&& (1#32 <<< s) := by
  rw [← field_bits]
  congr 1
  have hbit : (word >>> s) &&& 1#32 = 0#32 ∨ (word >>> s) &&& 1#32 = 1#32 := by
    have hlt : ((word >>> s) &&& 1#32).toNat < 2 := by
      rw [BitVec.toNat_and]
      exact Nat.lt_succ_of_le Nat.and_le_right
    generalize (word >>> s) &&& 1#32 = bit at hlt
    have hvalue : bit.toNat = 0 ∨ bit.toNat = 1 := by omega
    exact hvalue.imp BitVec.eq_of_toNat_eq BitVec.eq_of_toNat_eq
  rcases hbit with h | h <;> rw [h] <;> rfl

theorem registerFields_bits
    (hread : registers (decodeEntry word e) = operandRegisters word e.operands access)
    (hfield : field ∈ registerFields e.operands access registers) :
    field.encode (decodeEntry word e) = word &&& field.mask := by
  obtain ⟨i, hi, rfl⟩ := List.mem_mapIdx.mp hfield
  dsimp only
  rw [hread, operandRegisters, List.getElem?_map, List.getElem?_eq_getElem hi]
  exact registerIndex_bits word _

/-- A row that reads a rounding mode accepts the six legal ones only. -/
theorem catalog_rounding : ∀ e ∈ catalog, e.rounding = true → e.constraints = rmConstraint := by
  decide

theorem rounding_bits (he : e ∈ catalog) (hword : e.accepts word = true)
    (hround : e.rounding = true) : (decodeEntry word e).rounding ≠ .none ∧
      encodeRounding (decodeEntry word e).rounding <<< 12 = word &&& (7#32 <<< 12) := by
  have hlegal := (accepts_iff.mp hword).2
    { mask := maskRM, shift := 12, values := [0#32, 1#32, 2#32, 3#32, 4#32, 7#32] }
    (by rw [catalog_rounding e he hround]; exact List.mem_singleton_self _)
  have hmode : (decodeEntry word e).rounding = decodeRounding ((word >>> 12) &&& 7#32) :=
    if_pos hround
  have hfield : (word &&& maskRM) >>> 12 = (word >>> 12) &&& 7#32 := by
    rw [BitVec.ushiftRight_and_distrib]
    rfl
  have hvalues : ∀ x ∈ [0#32, 1#32, 2#32, 3#32, 4#32, 7#32],
      decodeRounding x ≠ .none ∧ encodeRounding (decodeRounding x) = x := by
    simp [decodeRounding, encodeRounding]
  rw [hmode, ← field_bits]
  have hmem : (word >>> 12) &&& 7#32 ∈ [0#32, 1#32, 2#32, 3#32, 4#32, 7#32] := by
    simpa [ValueConstraint.accepts, hfield] using hlegal
  obtain ⟨hsome, hback⟩ := hvalues _ hmem
  exact ⟨hsome, by rw [hback]⟩

theorem csrFields_bits (hfield : field ∈ e.csrFields) :
    field.encode (decodeEntry word e) = word &&& field.mask := by
  unfold Entry.csrFields at hfield
  split at hfield
  · cases hfield
  · rename_i hcsr
    rcases List.mem_cons.mp hfield with rfl | hfield
    · have haddress : (decodeEntry word e).csrAddress = (word >>> 20).toNat := if_neg hcsr
      have hmask : 0xfff#32 <<< 20 = BitVec.allOnes 32 <<< 20 := by decide
      have hbits := ofNat_field_bits word (BitVec.allOnes 32) 20
      rw [BitVec.and_allOnes] at hbits
      dsimp only
      rw [haddress, hbits, hmask]
    · split at hfield
      · rename_i himm
        obtain rfl := List.mem_singleton.mp hfield
        have hvalue : (decodeEntry word e).csrImmediateValue = ((word >>> 15) &&& 0x1f#32).toNat :=
          if_pos ⟨hcsr, himm⟩
        dsimp only
        rw [hvalue]
        exact ofNat_field_bits ..
      · cases hfield

theorem modifier_bits (hfield : field ∈ e.modifier.fields) :
    field.encode (decodeEntry word e) = word &&& field.mask := by
  unfold decodeEntry
  cases hmodifier : e.modifier with
  | none =>
    rw [hmodifier] at hfield
    cases hfield
  | splitNegateRS2 =>
    rw [hmodifier] at hfield
    obtain rfl := List.mem_singleton.mp hfield
    exact bit_bits word 20
  | predicateNegateRD =>
    rw [hmodifier] at hfield
    obtain rfl := List.mem_singleton.mp hfield
    exact bit_bits word 7
  | gatherSourceLane =>
    rw [hmodifier] at hfield
    obtain rfl := List.mem_singleton.mp hfield
    exact ofNat_field_bits word 3#32 25

/-- A field encodes the bits of the word that it was read from. -/
theorem fields_bits (he : e ∈ catalog) (hword : e.accepts word = true) (hfield : field ∈ e.fields) :
    field.encode (decodeEntry word e) = word &&& field.mask := by
  simp only [Entry.fields, List.mem_append, List.mem_singleton] at hfield
  rcases hfield with ((((hreg | hreg) | rfl) | hround) | hcsr) | hmodifier
  · exact registerFields_bits rfl hreg
  · exact registerFields_bits rfl hreg
  · exact immediate_bits word e.immediate
  · split at hround
    · rename_i hrounding
      obtain rfl := List.mem_singleton.mp hround
      exact (rounding_bits he hword hrounding).2
    · cases hround
  · exact csrFields_bits hcsr
  · exact modifier_bits hmodifier

/-- The encoded fields are the word on the bits that they cover. -/
theorem foldr_bits {fields : List Field} (hfixed : word &&& mask = fixed)
    (h : ∀ f ∈ fields, f.encode d = word &&& f.mask) :
    fields.foldr (fun f bits => f.encode d ||| bits) fixed =
      word &&& fields.foldr (fun f bits => f.mask ||| bits) mask := by
  induction fields with
  | nil => exact hfixed.symm
  | cons f rest ih =>
    obtain ⟨hf, hrest⟩ := List.forall_mem_cons.mp h
    rw [List.foldr_cons, List.foldr_cons, hf, ih hrest, BitVec.and_or_distrib_left]

/-- Every bit but those of the sets of a fence is fixed or read. -/
theorem catalog_covered : ∀ e ∈ catalog,
    e.covered = if e.name = .fence then 0xf00fffff#32 else 0xffffffff#32 := by
  decide +kernel

/-- No word has two rows, a word is refused only as illegal, and what is read of a word can be
written back: on every bit that the row fixes or reads the encoded fields are the word, and these
are all bits except for the sets of a fence. -/
theorem decode_unique_reencodes (word : Word) :
    (catalog.filter fun e => e.accepts word).length ≤ 1 ∧
      (∀ err, decode word = .error err → err = .illegalInstruction word) ∧
      ∀ e ∈ catalog, e.accepts word = true → decode word = .ok (decodeEntry word e) ∧
        (e.rounding = true → (decodeEntry word e).rounding ≠ .none) ∧
        e.encode (decodeEntry word e) = word &&& e.covered ∧
        e.covered = if e.name = .fence then 0xf00fffff#32 else 0xffffffff#32 := by
  have hrows := catalog_accepts word
  refine ⟨?_, ?_, fun e he hword => ⟨?_, fun hround => (rounding_bits he hword hround).1, ?_,
    catalog_covered e he⟩⟩
  · rcases hrows with h | ⟨e, h⟩ <;> rw [h]
    · exact Nat.zero_le 1
    · exact Nat.le_refl 1
  · intro err herr
    unfold decode at herr
    rcases hrows with h | ⟨e, h⟩ <;> rw [h] at herr <;> cases herr
    rfl
  · have hmem : e ∈ catalog.filter fun e => e.accepts word := List.mem_filter.mpr ⟨he, hword⟩
    unfold decode
    rcases hrows with h | ⟨f, h⟩
    · rw [h] at hmem
      cases hmem
    · rw [h] at hmem ⊢
      rw [List.mem_singleton.mp hmem]
  · exact foldr_bits (accepts_iff.mp hword).1 fun field hfield => fields_bits he hword hfield

/-- `addi x1, x0, 5` is written back as it was. -/
theorem addi_reencodes : (aluI .addi 0#32).encode (decodeEntry 0x00500093#32 (aluI .addi 0#32)) =
    0x00500093#32 := by
  have h := (decode_unique_reencodes 0x00500093#32).2.2 (aluI .addi 0#32) (by decide) (by decide)
  rw [h.2.2.1, h.2.2.2]
  decide

end VortexSim
