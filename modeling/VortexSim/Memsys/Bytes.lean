import VortexSim.Memsys.ExternalQueue
import VortexSim.Support.Memory

/-!
# The bytes behind the requests

What line requests mean for single bytes: a write gives its enabled bytes to their addresses, a
read returns the 64 bytes of its sector, and nothing else happens to a byte.  The owner of the
bytes is outside the backend, so this rests on laws of the owner (`AtomicService.Lawful`), which
the memory of the support package keeps.
-/

namespace VortexSim.Memsys

open Spans

variable {σ : Type} {service : AtomicService σ} {look : σ → Nat → Option Byte}

/-! ## The owner -/

/-- What is assumed of an owner; `look` shows its bytes. -/
structure AtomicService.Lawful (service : AtomicService σ) (look : σ → Nat → Option Byte) :
    Prop where
  /-- A read that succeeds returns the bytes from its address on. -/
  read : ∀ s address length bytes, service.read s address length = .ok bytes →
    bytes.length = length ∧ ∀ j < length, bytes[j]? = look s (address.toNat + j)
  /-- A batch without an error puts its bytes in place and leaves the others. -/
  written : ∀ s addresses sources, (service.writeBatch s addresses sources).2 = none →
    Written (addresses.zip sources) (look s) (look (service.writeBatch s addresses sources).1)
  /-- A batch with an error changes nothing. -/
  refused : ∀ s addresses sources, (service.writeBatch s addresses sources).2 ≠ none →
    look (service.writeBatch s addresses sources).1 = look s

/-- The functional memory as the owner of a backend. -/
def memoryService : AtomicService Memory where
  read := Memory.read
  writeBatch := Memory.writeBatch

theorem memoryService_lawful : memoryService.Lawful fun m i => m.data[i]? where
  read _ _ _ _ h := Memory.read_bytes h
  written _ _ _ h := Memory.writeBatch_written h
  refused m addresses sources h := by
    have hsame : (memoryService.writeBatch m addresses sources).1 = m := m.writeBatch_refused h
    rw [hsame]

/-! ## Writes -/

/-- The byte that a request gives to an address. -/
def LineRequest.byteFor (r : LineRequest) (i : Nat) : Option Byte :=
  if h : i - r.address.toNat < sectorBytes then
    if r.operation = .write ∧ r.address.toNat ≤ i ∧ r.byteEnable.getLsbD (i - r.address.toNat) then
      some (r.data ⟨i - r.address.toNat, h⟩)
    else none
  else none

/-- The entries of a batch hold the bytes of the request, and no others. -/
def LineRequest.Carried (r : LineRequest) (entries : List (Word × List Byte)) : Prop :=
  ∀ i v, r.byteFor i = some v ↔
    ∃ entry ∈ entries, Holds (extent entry) i ∧ entry.2[i - entry.1.toNat]? = some v

/-- The byte of a run at an offset. -/
def byteIn (i : Nat) (run : Nat × List Byte) : Option Byte :=
  if run.1 ≤ i then run.2[i - run.1]? else none

theorem byteIn_cons (i j : Nat) (b : Byte) (bytes : List Byte) :
    byteIn i (j, b :: bytes) = if i = j then some b else byteIn i (j + 1, bytes) := by
  unfold byteIn
  rcases Nat.lt_trichotomy i j with hlt | rfl | hgt
  · rw [if_neg (by omega), if_neg (by omega), if_neg (by omega)]
  · simp
  · rw [if_pos (by omega), if_neg (by omega), if_pos (by omega),
      show i - j = i - (j + 1) + 1 by omega, List.getElem?_cons_succ]

theorem byteIn_nil (i j : Nat) : byteIn i (j, []) = none := ite_self none

theorem byteIn_before (h : i < start) (bytes : List Byte) : byteIn i (start, bytes) = none :=
  if_neg (by omega)

/-- The runs hold the enabled bytes, and no others. -/
theorem mem_byteRuns (xs : List (Bool × Byte)) (j i : Nat) (v : Byte) :
    (∃ run ∈ byteRuns j xs, byteIn i run = some v) ↔ j ≤ i ∧ xs[i - j]? = some (true, v) := by
  induction xs generalizing j with
  | nil => simp [byteRuns]
  | cons x xs ih =>
    -- a byte in front of the others is at `j`, and theirs are counted from `j + 1` on
    have hnext : (j ≤ i ∧ (x :: xs)[i - j]? = some (true, v)) ↔
        (i = j ∧ x = (true, v)) ∨ (j + 1 ≤ i ∧ xs[i - (j + 1)]? = some (true, v)) := by
      rcases Nat.lt_trichotomy i j with hlt | rfl | hgt
      · omega
      · simp
      · rw [show i - j = i - (j + 1) + 1 by omega, List.getElem?_cons_succ]
        simp [hgt.ne', hgt.le, Nat.succ_le_of_lt hgt]
    rw [hnext, ← ih (j + 1)]
    obtain ⟨_ | _, b⟩ := x
    · simp [byteRuns]
    · rw [byteRuns]
      cases byteRuns (j + 1) xs with
      | nil => by_cases hij : i = j <;> simp [byteIn_cons, byteIn_nil, hij]
      | cons run more =>
        obtain ⟨start, bytes⟩ := run
        dsimp only
        split
        · rename_i hstart
          subst hstart
          by_cases hij : i = j
          · simp [byteIn_cons, byteIn_before, hij]
          · simp [byteIn_cons, hij]
        · by_cases hij : i = j <;> simp [byteIn_cons, byteIn_nil, hij]

theorem getElem?_enabledBytes (mask : LineMask) (data : Line) (k : Nat) :
    (enabledBytes mask data)[k]? =
      if h : k < sectorBytes then some (mask.getLsbD k, data ⟨k, h⟩) else none := by
  unfold enabledBytes
  rw [List.getElem?_map]
  split
  · rename_i hk
    rw [List.getElem?_eq_getElem (by rw [List.length_finRange]; exact hk), List.getElem_finRange]
    rfl
  · rename_i hk
    rw [List.getElem?_eq_none (by rw [List.length_finRange]; omega)]
    rfl

theorem mem_enabledRuns {mask : LineMask} {data : Line} {k : Nat} {v : Byte} :
    (∃ run ∈ byteRuns 0 (enabledBytes mask data), byteIn k run = some v) ↔
      ∃ h : k < sectorBytes, mask.getLsbD k = true ∧ data ⟨k, h⟩ = v := by
  rw [mem_byteRuns, Nat.sub_zero, getElem?_enabledBytes]
  by_cases hk : k < sectorBytes <;> simp [hk]

/-- A write is aligned to its sector. -/
theorem LineRequest.aligned_of_write {r : LineRequest} (hr : ¬ r.Malformed)
    (hwrite : r.operation = .write) : r.address.toNat % sectorBytes = 0 := by
  by_contra hno
  refine hr (.inr ⟨?_, hno⟩)
  rw [hwrite]
  exact Operation.noConfusion

/-- The batch of a write carries the bytes that it enables. -/
theorem LineRequest.carried {r : LineRequest} (hwrite : r.operation = .write)
    (haligned : r.address.toNat % sectorBytes = 0) :
    r.Carried ((byteRuns 0 (enabledBytes r.byteEnable r.data)).map fun run =>
      (r.address + BitVec.ofNat 32 run.1, run.2)) := by
  -- a sector does not wrap around
  have haddress {start : Nat} (h : start < sectorBytes) :
      (r.address + BitVec.ofNat 32 start).toNat = r.address.toNat + start := by
    have hbound := r.address.isLt
    unfold sectorBytes at *
    rw [BitVec.toNat_add, BitVec.toNat_ofNat]
    omega
  intro i v
  constructor
  · intro h
    unfold byteFor at h
    split at h
    · rename_i hk
      split at h
      · rename_i hbyte
        obtain ⟨run, hrun, hv⟩ := mem_enabledRuns.mpr ⟨hk, hbyte.2.2, Option.some.inj h⟩
        unfold byteIn at hv
        split at hv
        · rename_i hle
          have hlt := (List.getElem?_eq_some_iff.mp hv).1
          refine ⟨_, List.mem_map_of_mem hrun, ?_⟩
          unfold Holds extent
          dsimp only
          rw [haddress (by omega)]
          refine ⟨⟨by omega, by omega⟩, ?_⟩
          rw [show i - (r.address.toNat + run.1) = i - r.address.toNat - run.1 by omega]
          exact hv
        · cases hv
      · cases h
    · cases h
  · rintro ⟨entry, hentry, hholds, hv⟩
    obtain ⟨run, hrun, rfl⟩ := List.mem_map.mp hentry
    dsimp only at hv
    have hlt := (List.getElem?_eq_some_iff.mp hv).1
    obtain ⟨hstart, -⟩ := mem_enabledRuns.mp ⟨run, hrun, show byteIn run.1 run = some _ by
      unfold byteIn
      rw [if_pos (Nat.le_refl _), Nat.sub_self]
      exact List.getElem?_eq_getElem (by omega)⟩
    unfold Holds extent at hholds
    dsimp only at hholds
    rw [haddress hstart] at hholds hv
    have hbyte : byteIn (i - r.address.toNat) run = some v := by
      unfold byteIn
      rw [if_pos (by omega), ← hv]
      congr 1
      omega
    obtain ⟨hk, henabled, hdata⟩ := mem_enabledRuns.mp ⟨run, hrun, hbyte⟩
    unfold byteFor
    rw [dif_pos hk, if_pos ⟨hwrite, by omega, henabled⟩, hdata]

/-- A batch that carries a request does to every byte what the request says. -/
theorem LineRequest.Carried.written {r : LineRequest} (hr : r.Carried entries)
    (h : Written entries before after) (i : Nat) : after i = (r.byteFor i).or (before i) := by
  cases hbyte : r.byteFor i with
  | none =>
    refine h.rest i fun entry hentry hholds => ?_
    have hlt : i - entry.1.toNat < entry.2.length := by
      unfold Holds extent at hholds
      omega
    have hsome := (hr i _).mpr ⟨entry, hentry, hholds, List.getElem?_eq_getElem hlt⟩
    rw [hbyte] at hsome
    cases hsome
  | some v =>
    obtain ⟨entry, hentry, hholds, hv⟩ := (hr i v).mp hbyte
    rw [h.put entry hentry i hholds, hv]
    rfl

theorem LineRequest.byteFor_of_ne {r : LineRequest} (h : r.operation ≠ .write) (i : Nat) :
    r.byteFor i = none := by
  unfold byteFor
  simp [h]

/-- What one access does to the bytes: a write that is not refused gives its bytes. -/
theorem AtomicService.Lawful.serveLine (hl : service.Lawful look) {r : LineRequest}
    (hr : ¬ r.Malformed) (s : LineState σ) (i : Nat) : look (serveLine service s r).1.owner i =
      (if (serveLine service s r).2.err = none then r.byteFor i else none).or
        (look s.owner i) := by
  by_cases hwrite : r.operation = .write
  · have hcarried := LineRequest.carried hwrite (r.aligned_of_write hr hwrite)
    unfold Memsys.serveLine
    rw [hwrite]
    dsimp only
    unfold writeLine
    dsimp only
    split
    · rename_i hempty
      rw [List.length_eq_zero_iff.mp hempty] at hcarried
      have hnone : r.byteFor i = none := by
        refine Option.eq_none_iff_forall_not_mem.mpr fun v hv => ?_
        obtain ⟨entry, hentry, -⟩ := (hcarried i v).mp hv
        cases hentry
      rw [hnone, ite_self]
      rfl
    · rw [← List.zip_map'] at hcarried
      dsimp only
      split
      · exact hcarried.written (hl.written _ _ _ ‹_›) i
      · exact congrFun (hl.refused _ _ _ ‹_›) i
  · have howner : (Memsys.serveLine service s r).1 = s := by
      unfold Memsys.serveLine
      split
      · split <;> rfl
      · exact absurd ‹_› hwrite
      · rfl
      · rfl
    rw [howner, LineRequest.byteFor_of_ne hwrite, ite_self]
    rfl

/-- A read that succeeds returns its sector. -/
theorem AtomicService.Lawful.read_data (hl : service.Lawful look) {r : LineRequest}
    (hread : r.operation = .read) {s : LineState σ}
    (hok : (Memsys.serveLine service s r).2.err = none) (j : Fin sectorBytes) :
    some ((Memsys.serveLine service s r).2.data j) = look s.owner (r.address.toNat + j) := by
  unfold Memsys.serveLine at hok ⊢
  rw [hread] at hok ⊢
  dsimp only at hok ⊢
  cases hbytes : service.read s.owner r.address sectorBytes with
  | error err =>
    rw [hbytes] at hok
    cases hok
  | ok bytes =>
    obtain ⟨hlength, hlook⟩ := hl.read _ _ _ _ hbytes
    rw [← hlook j j.isLt]
    dsimp only
    rw [List.getD_eq_getElem?_getD, List.getElem?_eq_getElem (by omega)]
    rfl

/-! ## Errors -/

/-- Where the error of an access comes from: the owner refused the read or the batch of the
write. -/
inductive Blame (service : AtomicService σ) (r : LineRequest) (err : Error) : Prop where
  | read (owner : σ) : r.operation = .read →
      service.read owner r.address sectorBytes = .error err → Blame service r err
  | batch (owner : σ) (addresses : List Word) (sources : List (List Byte)) :
      r.operation = .write → r.Carried (addresses.zip sources) →
      (service.writeBatch owner addresses sources).2 = some err → Blame service r err

theorem serveLine_blame {r : LineRequest} (hr : ¬ r.Malformed) (haccess : r.operation ≠ .visibility)
    {s : LineState σ} (h : (serveLine service s r).2.err = some err) : Blame service r err := by
  unfold serveLine at h
  cases hoperation : r.operation with
  | read =>
    rw [hoperation] at h
    dsimp only at h
    cases hread : service.read s.owner r.address sectorBytes with
    | ok bytes =>
      rw [hread] at h
      cases h
    | error err' =>
      rw [hread] at h
      cases h
      exact .read s.owner hoperation hread
  | write =>
    have hcarried := LineRequest.carried hoperation (r.aligned_of_write hr hoperation)
    rw [hoperation] at h
    dsimp only at h
    unfold writeLine at h
    dsimp only at h
    split at h
    · cases h
    · rw [← List.zip_map'] at hcarried
      exact .batch s.owner _ _ hoperation hcarried h
  | visibility => exact absurd hoperation haccess
  | unknown raw => exact absurd (.inl ⟨raw, hoperation⟩) hr

end VortexSim.Memsys
