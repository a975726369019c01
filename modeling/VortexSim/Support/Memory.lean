import VortexSim.Lib.Checked
import VortexSim.Lib.Spans
import VortexSim.Isa.Types

/-!
# Functional byte memory

`Memory` is a contiguous memory with 32-bit byte addresses.  A write is refused before any
byte changes, and a batch of writes is checked as a whole, ranges and overlaps, before the
first one is carried out.  The lock of the source serialises the calls; here every call is
one function.
-/

namespace VortexSim

open Checked Overwrite Spans

def addressSpaceSize : Nat := 2 ^ 32

/-- A flat memory. -/
structure Memory where
  data : List Byte
  fits : data.length ≤ addressSpaceSize

/-- `New`: zero-initialized memory. -/
def Memory.new (size : Nat) : Except Error Memory :=
  if h : size ≤ addressSpaceSize then
    .ok { data := List.replicate size 0#8, fits := by rw [List.length_replicate]; exact h }
  else .error (.text s!"invalid memory size: {size}")

/-- `BoundsError`. -/
def boundsError (addr : Word) (length capacity : Nat) : Error :=
  .text (s!"memory access out of bounds: address={hex addr.toNat} length={length}" ++
    s!" capacity={capacity}")

def Memory.checkRange (m : Memory) (addr : Word) (length : Nat) : Except Error Unit :=
  rejectIf (m.data.length < addr.toNat ∨ m.data.length - addr.toNat < length)
    (boundsError addr length m.data.length)

/-- `Read`: the bytes from an address on. -/
def Memory.read (m : Memory) (addr : Word) (length : Nat) : Except Error (List Byte) := do
  m.checkRange addr length
  pure ((m.data.drop addr.toNat).take length)

/-- Put bytes at an address, or nothing where they do not fit. -/
def Memory.copy (m : Memory) (addr : Word) (src : List Byte) : Memory :=
  if h : addr.toNat + src.length ≤ m.data.length then
    { data := overwrite m.data addr.toNat src
      fits := by rw [length_overwrite h]; exact m.fits }
  else m

/-- `Write`. -/
def Memory.write (m : Memory) (addr : Word) (src : List Byte) : Memory × Option Error :=
  match m.checkRange addr src.length with
  | .error err => (m, some err)
  | .ok () => (m.copy addr src, none)

/-- Two byte ranges share an address. -/
def overlaps (a b : Word × List Byte) : Prop :=
  a.1.toNat < b.1.toNat + b.2.length ∧ b.1.toNat < a.1.toNat + a.2.length

instance (a b : Word × List Byte) : Decidable (overlaps a b) := inferInstanceAs (Decidable (_ ∧ _))

/-- The check of one entry of a batch: its range, and the entries before it. -/
def Memory.checkEntry (m : Memory) (entries : List (Word × List Byte)) (index : Nat)
    (entry : Word × List Byte) : Except Error Unit := do
  m.checkRange entry.1 entry.2.length
  each (fun previous other => rejectIf (overlaps entry other)
    (.text s!"overlapping writes in atomic batch: entries {previous} and {index}")) 0
    (entries.take index)

/-- `WriteBatch`: all of the writes or none. -/
def Memory.writeBatch (m : Memory) (addresses : List Word) (sources : List (List Byte)) :
    Memory × Option Error :=
  if addresses.length ≠ sources.length then
    (m, some (.text (s!"memory: atomic batch has {addresses.length} addresses and" ++
      s!" {sources.length} sources")))
  else
    let entries := addresses.zip sources
    match each (m.checkEntry entries) 0 entries with
    | .error err => (m, some err)
    | .ok () => (entries.foldl (fun m entry => m.copy entry.1 entry.2) m, none)

/-! ## What a batch leaves behind -/

/-- The addresses of a range. -/
def extent (entry : Word × List Byte) : Span := (entry.1.toNat, entry.1.toNat + entry.2.length)

/-- The bytes of the entries are in place, and every other address is as before. -/
structure Written (entries : List (Word × List Byte)) (before after : Nat → Option Byte) :
    Prop where
  put : ∀ entry ∈ entries, ∀ i, Holds (extent entry) i → after i = entry.2[i - entry.1.toNat]?
  rest : ∀ i, (∀ entry ∈ entries, ¬ Holds (extent entry) i) → after i = before i

theorem not_holds_of_not_overlaps (h : ¬ overlaps a b) (ha : Holds (extent a) i) :
    ¬ Holds (extent b) i := by
  intro hb
  exact h ⟨Nat.lt_of_le_of_lt ha.1 hb.2, Nat.lt_of_le_of_lt hb.1 ha.2⟩

theorem Memory.copy_data {m : Memory} (h : (extent entry).2 ≤ m.data.length) :
    (m.copy entry.1 entry.2).data = overwrite m.data entry.1.toNat entry.2 := by
  unfold Memory.copy
  split
  · rfl
  · exact absurd h ‹_›

/-- Copies that do not overlap do not undo each other. -/
theorem Memory.copies_written {m : Memory}
    (hfits : ∀ entry ∈ entries, (extent entry).2 ≤ m.data.length)
    (hapart : entries.Pairwise fun a b => ¬ overlaps b a) : Written entries (m.data[·]?)
      ((entries.foldl (fun m entry => m.copy entry.1 entry.2) m).data[·]?) := by
  induction entries generalizing m with
  | nil => exact ⟨fun entry hmem => absurd hmem List.not_mem_nil, fun _ _ => rfl⟩
  | cons entry entries ih =>
    obtain ⟨hentry, hothers⟩ := List.forall_mem_cons.mp hfits
    obtain ⟨hfirst, hapart⟩ := List.pairwise_cons.mp hapart
    have hdata := copy_data hentry
    have hlength : (m.copy entry.1 entry.2).data.length = m.data.length := by
      rw [hdata, length_overwrite hentry]
    obtain ⟨hput, hrest⟩ := ih (m := m.copy entry.1 entry.2) (by rwa [hlength]) hapart
    refine ⟨List.forall_mem_cons.mpr ⟨fun i hi => ?_, hput⟩, fun i hi => ?_⟩
    · refine (hrest i fun other hother hheld => ?_).trans ?_
      · exact not_holds_of_not_overlaps (hfirst other hother) hheld hi
      · rw [hdata, getElem?_overwrite hentry]
        exact if_pos hi
    · obtain ⟨hi, hothers⟩ := List.forall_mem_cons.mp hi
      refine (hrest i hothers).trans ?_
      rw [hdata, getElem?_overwrite hentry]
      exact if_neg hi

theorem Memory.write_refused (m : Memory) :
    (m.write addr src).2 ≠ none → (m.write addr src).1 = m := by
  unfold Memory.write
  split
  · exact fun _ => rfl
  · exact fun h => absurd rfl h

theorem Memory.writeBatch_refused (m : Memory) :
    (m.writeBatch addresses sources).2 ≠ none → (m.writeBatch addresses sources).1 = m := by
  unfold Memory.writeBatch
  split
  · exact fun _ => rfl
  · dsimp only
    split
    · exact fun _ => rfl
    · exact fun h => absurd rfl h

theorem Memory.checkRange_eq_ok {m : Memory} (h : m.checkRange entry.1 entry.2.length = .ok u) :
    (extent entry).2 ≤ m.data.length := by
  unfold Memory.checkRange at h
  rw [rejectIf_eq_ok] at h
  unfold extent
  omega

theorem Memory.checkEntries_eq_ok {m : Memory} (h : each (m.checkEntry entries) 0 entries = .ok u) :
    (∀ entry ∈ entries, (extent entry).2 ≤ m.data.length) ∧
      entries.Pairwise fun a b => ¬ overlaps b a := by
  have hentry : ∀ i entry u, m.checkEntry entries i entry = .ok u →
      (extent entry).2 ≤ m.data.length ∧ ∀ other ∈ entries.take i, ¬ overlaps entry other := by
    intro i entry u hstep
    unfold checkEntry at hstep
    simp only [ok_iff, each_rejectIf_eq_ok] at hstep
    exact ⟨checkRange_eq_ok hstep.1, hstep.2⟩
  rw [each_eq_foldEach] at h
  exact ⟨foldEach_entries (fun i _ entry u hstep => (hentry i entry u hstep).1) h,
    foldEach_pairwise [] (fun i _ entry u hstep => (hentry i entry u hstep).2) h .nil⟩

theorem Memory.writeBatch_done {m : Memory} (h : (m.writeBatch addresses sources).2 = none) :
    let entries := addresses.zip sources
    (∀ entry ∈ entries, (extent entry).2 ≤ m.data.length) ∧
      (entries.Pairwise fun a b => ¬ overlaps b a) ∧
      (m.writeBatch addresses sources).1 =
        entries.foldl (fun m entry => m.copy entry.1 entry.2) m := by
  unfold Memory.writeBatch at h ⊢
  split at h
  · cases h
  · rename_i hlengths
    rw [if_neg hlengths]
    dsimp only at h ⊢
    split at h
    · cases h
    · rename_i hchecked
      obtain ⟨hfits, hapart⟩ := checkEntries_eq_ok hchecked
      exact ⟨hfits, hapart, rfl⟩

/-- A read that succeeds returns the bytes from its address on. -/
theorem Memory.read_bytes {m : Memory} (h : m.read addr length = .ok bytes) :
    bytes.length = length ∧ ∀ j < length, bytes[j]? = m.data[addr.toNat + j]? := by
  unfold Memory.read Memory.checkRange at h
  simp only [ok_iff] at h
  obtain ⟨hrange, rfl⟩ := h
  refine ⟨?_, fun j hj => ?_⟩
  · rw [List.length_take, List.length_drop]
    omega
  · rw [List.getElem?_take_of_lt hj, List.getElem?_drop]

/-- A batch without an error puts its bytes in place. -/
theorem Memory.writeBatch_written {m : Memory} (h : (m.writeBatch addresses sources).2 = none) :
    Written (addresses.zip sources) (m.data[·]?)
      ((m.writeBatch addresses sources).1.data[·]?) := by
  obtain ⟨hfits, hapart, hdone⟩ := writeBatch_done h
  rw [hdone]
  exact copies_written hfits hapart

end VortexSim
