import VortexSim.State.Apply

/-!
# What an accepted bundle does

`stageEffects` interleaves tests and updates.  Here the two are taken apart.  For every
stage function there is a predicate that says when it accepts, which never looks at the
candidate, and an update that is total and never looks at the state before.  The lemmas
`stage…_eq_ok` say that the stage function is exactly their combination.

Together they give `stageEffects_eq_ok`: a bundle is accepted on `w` when `BundleOk w`
holds, and then the candidate is `w.apply` of the bundle.  Everything later about staging
uses this form.
-/

namespace VortexSim

open Checked

/-! ## Register writes -/

variable {writes : List CSRWriteEffect} {c w before : WarpState} {effect : DivergenceEffect}
  {mask : Option WarpMaskEffect} {control : ControlEffect} {e : InstructionEffects}

theorem validateRegister_eq_ok : validateRegister register = .ok u ↔
      register.index < frozenRegisterCount ∧
        (register.file = .integer ∨ register.file = .float) := by
  obtain ⟨file, index⟩ := register
  cases file <;> simp [validateRegister]

/-- A write that names an architectural register and stays in its bytes and lanes. -/
@[mk_iff] structure RegisterWriteEffect.Ok (write : RegisterWriteEffect) : Prop where
  index : write.destination.index < frozenRegisterCount
  file : write.destination.file = .integer ∨ write.destination.file = .float
  bytes : write.byteMask &&& ~~~15#8 = 0#8
  mask : write.mask.Valid

theorem stageRegisterWrite_eq_ok {acc' : WarpState × List Register} :
    stageRegisterWrite i acc write = .ok acc' ↔ write.Ok ∧ write.destination ∉ acc.2 ∧
        (acc.1.writeBack write, write.destination :: acc.2) = acc' := by
  unfold stageRegisterWrite
  simp only [ok_iff, mapError_eq_ok, validateRegister_eq_ok, ne_eq, not_not,
    RegisterWriteEffect.ok_iff, and_assoc]

/-- Distinct, well-formed writes. -/
structure WritesOk (writes : List RegisterWriteEffect) : Prop where
  each : ∀ write ∈ writes, write.Ok
  distinct : (writes.map RegisterWriteEffect.destination).Nodup

/-- All register writes of a bundle. -/
def WarpState.writeAll (c : WarpState) (writes : List RegisterWriteEffect) : WarpState :=
  writes.foldl WarpState.writeBack c

theorem foldStageRegisterWrite_eq_ok {writes : List RegisterWriteEffect} {seen : List Register} :
    foldEach stageRegisterWrite i (c, seen) writes = .ok (c', seen') ↔
      (∀ write ∈ writes, write.Ok) ∧ (writes.map RegisterWriteEffect.destination).Disjoint seen ∧
        (writes.map RegisterWriteEffect.destination).Nodup ∧ c.writeAll writes = c' ∧
        (writes.map RegisterWriteEffect.destination).reverse ++ seen = seen' := by
  induction writes generalizing i c seen with
  | nil => simp [WarpState.writeAll]
  | cons write writes ih =>
    simp only [foldEach_cons, stageRegisterWrite_eq_ok, ih, List.forall_mem_cons, List.map_cons,
      List.disjoint_cons_left, List.nodup_cons]
    constructor
    · rintro ⟨_, ⟨hok, hseen, rfl⟩, hall, hdisjoint, hnodup, rfl, rfl⟩
      obtain ⟨hnot, hdisjoint⟩ := List.disjoint_cons_right.mp hdisjoint
      exact ⟨⟨hok, hall⟩, ⟨hseen, hdisjoint⟩, ⟨hnot, hnodup⟩, rfl, by simp⟩
    · rintro ⟨⟨hok, hall⟩, ⟨hseen, hdisjoint⟩, ⟨hnot, hnodup⟩, rfl, rfl⟩
      exact ⟨_, ⟨hok, hseen, rfl⟩, hall, List.disjoint_cons_right.mpr ⟨hnot, hdisjoint⟩, hnodup,
        rfl, by simp⟩

theorem stageRegisterWrites_eq_ok {writes : List RegisterWriteEffect} :
    stageRegisterWrites c writes = .ok c' ↔ WritesOk writes ∧ c.writeAll writes = c' := by
  unfold stageRegisterWrites
  simp only [ok_iff]
  constructor
  · rintro ⟨⟨m, seen⟩, hm, rfl⟩
    obtain ⟨hall, -, hnodup, rfl, -⟩ := foldStageRegisterWrite_eq_ok.mp hm
    exact ⟨⟨hall, hnodup⟩, rfl⟩
  · rintro ⟨⟨hall, hnodup⟩, rfl⟩
    exact ⟨_, foldStageRegisterWrite_eq_ok.mpr
      ⟨hall, List.disjoint_nil_right _, hnodup, rfl, rfl⟩, rfl⟩

/-! ## Flags -/

/-- The accumulated flags stay in the five implemented bits. -/
def FlagsOk (effect : Option FFlagsEffect) : Prop :=
  ∀ e ∈ effect, e.accumulate &&& ~~~0x1f#8 = 0#8

/-- Accumulate the flags of a bundle. -/
def WarpState.accrue (c : WarpState) (effect : Option FFlagsEffect) : WarpState :=
  match effect with
  | none => c
  | some e => { c with fcsr := c.fcsr ||| e.accumulate }

theorem stageFFlags_eq_ok {effect : Option FFlagsEffect} :
    stageFFlags c effect = .ok c' ↔ FlagsOk effect ∧ c.accrue effect = c' := by
  cases effect with
  | none => simp [stageFFlags, FlagsOk, WarpState.accrue]
  | some e =>
    simp only [ok_iff, stageFFlags, FlagsOk, WarpState.accrue, ne_eq, not_not, Option.mem_def,
      Option.some.injEq, forall_eq']

/-! ## CSRs -/

/-- A read of a catalogued CSR that shows the value the warp has, if the warp owns it. -/
def CSRReadEffect.Ok (w : WarpState) (read : CSRReadEffect) : Prop :=
  ∃ entry, findCSR read.address = some entry ∧ read.scope = entry.scope ∧
    ∀ value ∈ w.csrReadValue read.address, ∀ lane, read.values lane = value

theorem validateCSRRead_eq_ok {read : CSRReadEffect} :
    w.validateCSRRead i read = .ok u ↔ read.Ok w := by
  unfold WarpState.validateCSRRead CSRReadEffect.Ok
  cases hentry : findCSR read.address with
  | none => simp
  | some entry =>
    cases hvalue : w.csrReadValue read.address with
    | none => simp [rejectIf]
    | some value =>
      simp only [ok_iff, each_rejectIf_eq_ok, ne_eq, not_not, Option.some.injEq, exists_eq_left',
        Option.mem_def, forall_eq', List.mem_finRange, forall_true_left]

theorem validateCSRReads_eq_ok {reads : List CSRReadEffect} :
    w.validateCSRReads reads = .ok u ↔ ∀ read ∈ reads, read.Ok w := by
  refine each_eq_ok_iff ?_ 0 reads
  intro i read
  exact validateCSRRead_eq_ok

/-- A write that agrees with its catalog row and belongs to warp `id`. -/
structure CSRWriteEffect.Ok (id : Nat) (write : CSRWriteEffect) (entry : CSREntry) : Prop where
  found : findCSR write.address = some entry
  warp : write.warpID = id
  scope : write.scope = entry.scope
  mask : write.writeMask = entry.writeMask
  ignored : write.ignored = entry.writeIgnored
  writable : entry.writable = true ∨ entry.writeIgnored = true
  value : write.value &&& ~~~write.writeMask = 0#32

/-- The scan after one more write. -/
def CSRWriteScan.add (scan : CSRWriteScan) (write : CSRWriteEffect) : CSRWriteScan where
  kept := if write.isLocal then scan.kept ++ [write] else scan.kept
  seen := write.address :: scan.seen
  fcsrWrites := if aliasesFCSR write.address then scan.fcsrWrites + 1 else scan.fcsrWrites

theorem scanCSRWrite_eq_ok {scan' : CSRWriteScan} : w.scanCSRWrite i scan write = .ok scan' ↔
      (∃ entry, write.Ok w.id entry) ∧ write.address ∉ scan.seen ∧
        (aliasesFCSR write.address → scan.fcsrWrites = 0) ∧ scan.add write = scan' := by
  unfold WarpState.scanCSRWrite
  cases hentry : findCSR write.address with
  | none =>
    refine iff_of_false (by simp) ?_
    rintro ⟨⟨entry, hok⟩, -⟩
    rw [hok.found] at hentry
    cases hentry
  | some entry =>
    simp only [ok_iff, ne_eq, not_or, not_not, not_and, Nat.not_le, Nat.lt_one_iff]
    constructor
    · rintro ⟨hwarp, ⟨hscope, hmask, hign⟩, hwr, hval, hseen, halias, h⟩
      refine ⟨⟨entry, hentry, hwarp, hscope, hmask, hign, ?_, hval⟩, hseen, halias, h⟩
      by_cases hw : entry.writable = true
      · exact .inl hw
      · exact .inr (by simpa using hwr (by simpa using hw))
    · rintro ⟨⟨entry', hok⟩, hseen, halias, h⟩
      obtain rfl : entry = entry' := Option.some.inj (hentry.symm.trans hok.found)
      refine ⟨hok.warp, ⟨hok.scope, hok.mask, hok.ignored⟩, ?_, hok.value, hseen, halias, h⟩
      rcases hok.writable with h | h <;> simp_all

/-- The writes to FCSR storage. -/
def fcsrWrites (writes : List CSRWriteEffect) : List CSRWriteEffect :=
  writes.filter fun write => aliasesFCSR write.address

theorem fcsrWrites_cons (write : CSRWriteEffect) (writes : List CSRWriteEffect) :
    (fcsrWrites (write :: writes)).length =
      (fcsrWrites writes).length + if aliasesFCSR write.address then 1 else 0 := by
  unfold fcsrWrites
  by_cases h : aliasesFCSR write.address <;> simp [h]

theorem foldScanCSRWrite_eq_ok {scan' : CSRWriteScan} :
    foldEach w.scanCSRWrite i scan writes = .ok scan' ↔
      (∀ write ∈ writes, ∃ entry, write.Ok w.id entry) ∧
        (writes.map CSRWriteEffect.address).Disjoint scan.seen ∧
        (writes.map CSRWriteEffect.address).Nodup ∧
        ((fcsrWrites writes).length = 0 ∨ scan.fcsrWrites + (fcsrWrites writes).length ≤ 1) ∧
        writes.foldl CSRWriteScan.add scan = scan' := by
  induction writes generalizing i scan with
  | nil => simp [fcsrWrites]
  | cons write writes ih =>
    -- the FCSR clause is arithmetic on the count, whether or not this write aliases FCSR
    have hcount : ((aliasesFCSR write.address → scan.fcsrWrites = 0) ∧
          ((fcsrWrites writes).length = 0 ∨
            (scan.add write).fcsrWrites + (fcsrWrites writes).length ≤ 1)) ↔
        ((fcsrWrites (write :: writes)).length = 0 ∨
          scan.fcsrWrites + (fcsrWrites (write :: writes)).length ≤ 1) := by
      rw [fcsrWrites_cons]
      by_cases ha : aliasesFCSR write.address
      · simp only [CSRWriteScan.add, ha, if_true, forall_true_left]
        omega
      · simp only [CSRWriteScan.add, ha, if_false, false_implies, true_and, Nat.add_zero]
    simp only [foldEach_cons, scanCSRWrite_eq_ok, ih, List.forall_mem_cons, List.map_cons,
      List.disjoint_cons_left, List.nodup_cons, List.foldl_cons, ← hcount]
    constructor
    · rintro ⟨_, ⟨hok, hnew, halias, rfl⟩, hall, hdisjoint, hnodup, hf, rfl⟩
      obtain ⟨hnot, hdisjoint⟩ := List.disjoint_cons_right.mp hdisjoint
      exact ⟨⟨hok, hall⟩, ⟨hnew, hdisjoint⟩, ⟨hnot, hnodup⟩, ⟨halias, hf⟩, rfl⟩
    · rintro ⟨⟨hok, hall⟩, ⟨hnew, hdisjoint⟩, ⟨hnot, hnodup⟩, ⟨halias, hf⟩, rfl⟩
      exact ⟨_, ⟨hok, hnew, halias, rfl⟩, hall,
        List.disjoint_cons_right.mpr ⟨hnot, hdisjoint⟩, hnodup, hf, rfl⟩

theorem foldl_add_kept (writes : List CSRWriteEffect) (scan : CSRWriteScan) :
    (writes.foldl CSRWriteScan.add scan).kept =
      scan.kept ++ writes.filter CSRWriteEffect.isLocal := by
  induction writes generalizing scan with
  | nil => simp
  | cons write writes ih =>
    rw [List.foldl_cons, ih, List.filter_cons]
    by_cases h : write.isLocal = true <;> simp [CSRWriteScan.add, h]

/-- Distinct, well-formed CSR writes, at most one of them to FCSR storage. -/
structure CSRWritesListed (id : Nat) (writes : List CSRWriteEffect) : Prop where
  each : ∀ write ∈ writes, ∃ entry, write.Ok id entry
  distinct : (writes.map CSRWriteEffect.address).Nodup
  fcsr : (fcsrWrites writes).length ≤ 1

theorem localCSRWrites_eq_ok : w.localCSRWrites writes = .ok kept ↔
      CSRWritesListed w.id writes ∧ writes.filter CSRWriteEffect.isLocal = kept := by
  unfold WarpState.localCSRWrites
  simp only [ok_iff, foldScanCSRWrite_eq_ok]
  constructor
  · rintro ⟨scan, ⟨hall, -, hnodup, hf, rfl⟩, rfl⟩
    refine ⟨⟨hall, hnodup, ?_⟩, by rw [foldl_add_kept]; rfl⟩
    rcases hf with h | h <;> omega
  · rintro ⟨⟨hall, hnodup, hf⟩, rfl⟩
    exact ⟨_, ⟨hall, List.disjoint_nil_right _, hnodup, Or.inr (by simpa using hf), rfl⟩,
      by rw [foldl_add_kept]; rfl⟩

/-- The old value in a write is the stored one, and a write without storage is a no-op. -/
def CSRWriteEffect.Fresh (before : WarpState) (write : CSRWriteEffect) : Prop :=
  match before.csrValue write.address with
  | none => write.ignored = true ∧ write.oldValue = 0#32 ∧ write.value = 0#32
  | some old => write.oldValue = old

/-- One CSR write carried out. -/
def WarpState.writeCSR (c : WarpState) (write : CSRWriteEffect) : WarpState :=
  c.setCSRValue write.address write.value

/-- An address has storage in every warp or in none. -/
theorem setCSRValue_of_none {value : Word} (h : before.csrValue address = none) :
    c.setCSRValue address value = c := by
  unfold WarpState.csrValue at h
  unfold WarpState.setCSRValue
  split at h <;> simp_all

theorem stageCSRWrite_eq_ok :
    stageCSRWrite before i c write = .ok c' ↔ write.Fresh before ∧ c.writeCSR write = c' := by
  unfold stageCSRWrite CSRWriteEffect.Fresh WarpState.writeCSR
  cases hvalue : before.csrValue write.address with
  | none =>
    simp only [ok_iff, ne_eq, not_or, not_not, Bool.not_eq_false, setCSRValue_of_none hvalue]
  | some old =>
    simp only [ok_iff, ne_eq, not_not]

theorem stageCSRWrites_eq_ok : stageCSRWrites before c writes = .ok c' ↔
      (∀ write ∈ writes, write.Fresh before) ∧ writes.foldl WarpState.writeCSR c = c' := by
  unfold stageCSRWrites
  generalize 0 = i
  induction writes generalizing i c with
  | nil => simp
  | cons write writes ih =>
    simp only [foldEach_cons, stageCSRWrite_eq_ok, ih, List.mem_cons, forall_eq_or_imp,
      List.foldl_cons]
    constructor
    · rintro ⟨m, ⟨hw, rfl⟩, hall, h⟩
      exact ⟨⟨hw, hall⟩, h⟩
    · rintro ⟨⟨hw, hall⟩, h⟩
      exact ⟨_, ⟨hw, rfl⟩, hall, h⟩

/-- The CSR writes of a bundle that belong to the warp. -/
def WarpState.writeCSRs (c : WarpState) (writes : List CSRWriteEffect) : WarpState :=
  (writes.filter CSRWriteEffect.isLocal).foldl WarpState.writeCSR c

/-- The CSR writes of a bundle are listed in the catalog and show the current values. -/
structure CSRWritesOk (w : WarpState) (writes : List CSRWriteEffect) : Prop where
  listed : CSRWritesListed w.id writes
  fresh : ∀ write ∈ writes, write.isLocal = true → write.Fresh w

/-! ## Masks and divergence -/

/-- A mask replacement of warp `id` whose lifecycle flag agrees with its mask. -/
@[mk_iff] structure WarpMaskEffect.Ok (id : Nat) (mask : WarpMaskEffect) : Prop where
  warp : mask.warpID = id
  valid : mask.mask.Valid
  active : mask.active = decide (mask.mask ≠ 0#8)
  reason : mask.reason.undeclared = none

theorem soleWarpMask_eq_ok : soleWarpMask before masks = .ok mask ↔
      masks.length ≤ 1 ∧ (∀ m ∈ masks, m.Ok before.id) ∧ masks.head? = mask := by
  unfold soleWarpMask
  rcases masks with _ | ⟨m, _ | ⟨m', masks⟩⟩
  · simp [rejectIf]
  · simp only [ok_iff, List.length_singleton, Nat.lt_irrefl, not_false_eq_true, true_and, ne_eq,
      not_or, not_not, Nat.le_refl, List.mem_singleton, forall_eq, List.head?_cons,
      WarpMaskEffect.ok_iff, and_assoc]
  · simp [rejectIf]

/-- When a SPLIT is accepted. -/
@[mk_iff] structure SplitOk (before : WarpState) (effect : DivergenceEffect)
    (mask : Option WarpMaskEffect) (control : ControlEffect) : Prop where
  pointer : effect.stackPointer = before.divergence.writePointer
  original : effect.originalMask = before.activeMask
  noMark : effect.markElseVisited = false
  noPop : effect.pop = false
  push : effect.push = effect.divergent
  sequential : control.reason = .sequential
  pc : effect.reconvergencePC = before.pc + 4#32
  disjoint : effect.executeMask &&& effect.deferredMask = 0#8
  cover : effect.executeMask ||| effect.deferredMask = effect.originalMask
  uniform : effect.divergent = false →
    mask = none ∧ (effect.executeMask ≠ 0#8 → effect.deferredMask = 0#8)
  divergent : effect.divergent = true → before.divergence.writePointer < frozenDivergenceDepth ∧
      ¬ misaligned effect.reconvergencePC ∧ effect.executeMask ≠ 0#8 ∧
      effect.deferredMask ≠ 0#8 ∧
      ∃ m, mask = some m ∧ m.reason = .split ∧ m.mask = effect.executeMask ∧ m.active = true

/-- A JOIN at an unvisited row: the deferred lanes run next. -/
@[mk_iff] structure JoinSwitchOk (before : WarpState) (effect : DivergenceEffect)
    (control : ControlEffect) : Prop where
  unvisited : (before.divergence.row effect.stackPointer).elseVisited = false
  execute : effect.executeMask =
    (before.divergence.row effect.stackPointer).originalMask &&& ~~~before.activeMask
  nonempty : effect.executeMask ≠ 0#8
  reason : control.reason = .reconverge
  target : control.nextPC = (before.divergence.row effect.stackPointer).nextPC

/-- A JOIN at a visited row: the row is popped and must be the top one. -/
@[mk_iff] structure JoinPopOk (before : WarpState) (effect : DivergenceEffect)
    (control : ControlEffect) : Prop where
  visited : (before.divergence.row effect.stackPointer).elseVisited = true
  top : effect.stackPointer + 1 = before.divergence.writePointer
  execute : effect.executeMask = (before.divergence.row effect.stackPointer).originalMask
  reason : control.reason = .sequential

/-- A JOIN without divergence names the free row and asks for nothing. -/
@[mk_iff] structure JoinIdleOk (before : WarpState) (effect : DivergenceEffect)
    (mask : Option WarpMaskEffect) (control : ControlEffect) : Prop where
  pointer : effect.stackPointer = before.divergence.writePointer
  original : effect.originalMask = before.activeMask
  execute : effect.executeMask = 0#8
  deferred : effect.deferredMask = 0#8
  pc : effect.reconvergencePC = 0#32
  noMark : effect.markElseVisited = false
  noPop : effect.pop = false
  noMask : mask = none
  reason : control.reason = .sequential

/-- A divergent JOIN shows a live row and agrees with its mask effect. -/
@[mk_iff] structure JoinRowOk (before : WarpState) (effect : DivergenceEffect)
    (mask : Option WarpMaskEffect) (control : ControlEffect) : Prop where
  flags : effect.markElseVisited ≠ effect.pop
  pointer : effect.stackPointer < frozenDivergenceDepth
  live : (before.divergence.row effect.stackPointer).valid = true
  original : effect.originalMask = (before.divergence.row effect.stackPointer).originalMask
  pc : effect.reconvergencePC = (before.divergence.row effect.stackPointer).nextPC
  mask : ∃ m, mask = some m ∧ m.reason = .join ∧ m.mask = effect.executeMask ∧
    m.active = decide (effect.executeMask ≠ 0#8)
  switch : effect.markElseVisited = true → JoinSwitchOk before effect control
  pop : effect.markElseVisited = false → JoinPopOk before effect control

/-- When a JOIN is accepted. -/
@[mk_iff] structure JoinOk (before : WarpState) (effect : DivergenceEffect)
    (mask : Option WarpMaskEffect) (control : ControlEffect) : Prop where
  noPush : effect.push = false
  idle : effect.divergent = false → JoinIdleOk before effect mask control
  row : effect.divergent = true → JoinRowOk before effect mask control

/-- What a divergence effect does to the stack and the mask. -/
def WarpState.diverge (c : WarpState) (effect : DivergenceEffect) : WarpState :=
  if effect.divergent = false then c
  else
    match effect.action with
    | .split =>
      { c with
        divergence := c.divergence.push effect.stackPointer
          { valid := true, originalMask := effect.originalMask
            nextPC := effect.reconvergencePC }
        activeMask := effect.executeMask
        lifecycle := .running }
    | .join =>
      { c with
        divergence :=
          if effect.markElseVisited then c.divergence.visitElse effect.stackPointer
          else c.divergence.pop effect.stackPointer
        activeMask := effect.executeMask
        lifecycle := lifecycleFor (decide (effect.executeMask ≠ 0#8)) }
    | .unknown _ => c

theorem stageSplit_eq_ok (ha : effect.action = .split) :
    stageSplit before c effect mask control = .ok c' ↔
      SplitOk before effect mask control ∧ c.diverge effect = c' := by
  unfold stageSplit WarpState.diverge
  simp only [ok_iff, ne_eq, not_or, not_not, ha]
  by_cases hd : effect.divergent = false
  · simp only [ok_iff, hd, if_true, not_or, not_not, not_and, Bool.not_eq_true, splitOk_iff,
      Bool.false_eq_true, forall_true_left, false_implies, true_and, and_assoc]
  · rw [Bool.not_eq_false] at hd
    simp only [ok_iff, hd, Bool.true_eq_false, if_false, not_or, not_not, Bool.not_eq_true,
      Nat.not_le]
    constructor
    · rintro ⟨⟨hp, ho⟩, ⟨hm, hpop, hpush⟩, ⟨hr, hpc, hdis, hcov⟩, ⟨hcap, hal, he, hdf, -⟩, h⟩
      cases mask with
      | none => cases h
      | some m =>
        simp only [ok_iff, not_or, not_not, Bool.not_eq_false] at h
        obtain ⟨⟨hreason, hmask, hact⟩, h⟩ := h
        refine ⟨⟨hp, ho, hm, hpop, by rw [hpush, hd], hr, hpc, hdis, hcov, ?_, ?_⟩, ?_⟩
        · intro hdf'
          rw [hd] at hdf'
          cases hdf'
        · exact fun _ => ⟨hcap, hal, he, hdf, m, rfl, hreason, hmask, hact⟩
        · rw [hp, ← hmask]
          exact h
    · rintro ⟨hok, h⟩
      obtain ⟨hcap, hal, he, hdf, m, rfl, hreason, hmask, hact⟩ := hok.divergent hd
      refine ⟨⟨hok.pointer, hok.original⟩, ⟨hok.noMark, hok.noPop, by rw [hok.push, hd]⟩,
        ⟨hok.sequential, hok.pc, hok.disjoint, hok.cover⟩, ⟨hcap, hal, he, hdf, hok.disjoint⟩, ?_⟩
      simp only [ok_iff, not_or, not_not, Bool.not_eq_false]
      refine ⟨⟨hreason, hmask, hact⟩, ?_⟩
      rw [← hok.pointer, hmask]
      exact h

theorem stageJoin_idle_eq_ok (hd : effect.divergent = false) :
    stageJoin before c effect mask control = .ok c' ↔
      JoinOk before effect mask control ∧ c.diverge effect = c' := by
  unfold stageJoin WarpState.diverge
  simp only [ok_iff, hd, if_true, ne_eq, not_or, not_not, Bool.not_eq_true, Bool.false_eq_true,
    and_false, not_false_eq_true, and_true, joinOk_iff, joinIdleOk_iff, forall_true_left,
    false_implies, and_assoc]

theorem stageJoin_row_eq_ok (ha : effect.action = .join) (hd : effect.divergent = true) :
    stageJoin before c effect mask control = .ok c' ↔
      JoinOk before effect mask control ∧ c.diverge effect = c' := by
  unfold stageJoin WarpState.diverge
  simp only [ok_iff, hd, ha, Bool.true_eq_false, if_false, ne_eq, not_or, not_not, Bool.not_eq_true,
    and_true, Bool.not_eq_false, Nat.not_le]
  cases mask with
  | none =>
    refine iff_of_false (by simp) ?_
    rintro ⟨hok, -⟩
    obtain ⟨m, hm, -⟩ := (hok.row hd).mask
    cases hm
  | some m =>
    by_cases hmark : effect.markElseVisited = true
    · simp only [ok_iff, hmark, if_true, not_or, not_not, Bool.not_eq_true]
      constructor
      · rintro ⟨⟨hpush, hflag⟩, hp, ⟨hl, ho, hpc⟩, ⟨hr, hmm, hact⟩, ⟨hv, he, hne, hcr, ht⟩, h⟩
        refine ⟨⟨hpush, by simp [hd], fun _ => ⟨by rwa [hmark], hp, hl, ho, hpc,
          ⟨m, rfl, hr, hmm, hact⟩, fun _ => ⟨hv, he, hne, hcr, ht⟩, by simp [hmark]⟩⟩, ?_⟩
        rw [← hact, ← hmm]
        exact h
      · rintro ⟨hok, h⟩
        obtain ⟨hflag, hp, hl, ho, hpc, ⟨m', hm', hr, hmm, hact⟩, hsw, -⟩ := hok.row hd
        obtain rfl : m = m' := Option.some.inj hm'
        obtain ⟨hv, he, hne, hcr, ht⟩ := hsw hmark
        rw [hmark] at hflag
        refine ⟨⟨hok.noPush, hflag⟩, hp, ⟨hl, ho, hpc⟩, ⟨hr, hmm, hact⟩, ⟨hv, he, hne, hcr, ht⟩, ?_⟩
        rw [hact, hmm]
        exact h
    · rw [Bool.not_eq_true] at hmark
      simp only [ok_iff, hmark, Bool.false_eq_true, if_false, not_or, not_not, Bool.not_eq_false]
      constructor
      · rintro ⟨⟨hpush, hflag⟩, hp, ⟨hl, ho, hpc⟩, ⟨hr, hmm, hact⟩, ⟨hv, ht, he, hcr⟩, h⟩
        refine ⟨⟨hpush, by simp [hd], fun _ => ⟨by rwa [hmark], hp, hl, ho, hpc,
          ⟨m, rfl, hr, hmm, hact⟩, by simp [hmark], fun _ => ⟨hv, ht, he, hcr⟩⟩⟩, ?_⟩
        rw [← hact, ← hmm]
        exact h
      · rintro ⟨hok, h⟩
        obtain ⟨hflag, hp, hl, ho, hpc, ⟨m', hm', hr, hmm, hact⟩, -, hpop⟩ := hok.row hd
        obtain rfl : m = m' := Option.some.inj hm'
        obtain ⟨hv, ht, he, hcr⟩ := hpop hmark
        rw [hmark] at hflag
        refine ⟨⟨hok.noPush, hflag⟩, hp, ⟨hl, ho, hpc⟩, ⟨hr, hmm, hact⟩, ⟨hv, ht, he, hcr⟩, ?_⟩
        rw [hact, hmm]
        exact h

/-- When a divergence effect is accepted. -/
@[mk_iff] structure DivergenceEffect.Ok (before : WarpState) (effect : DivergenceEffect)
    (mask : Option WarpMaskEffect) (control : Option ControlEffect) : Prop where
  warp : effect.warpID = before.id
  pointer : effect.stackPointer ≤ frozenDivergenceDepth
  original : effect.originalMask.Valid
  execute : effect.executeMask.Valid
  deferred : effect.deferredMask.Valid
  action : ∃ c, control = some c ∧ ((effect.action = .split ∧ SplitOk before effect mask c) ∨
      (effect.action = .join ∧ JoinOk before effect mask c))

/-- The divergence effect of a bundle carried out. -/
def WarpState.divergeAll (c : WarpState) (effect : Option DivergenceEffect) : WarpState :=
  match effect with
  | none => c
  | some effect => c.diverge effect

theorem stageDivergence_eq_ok {effect : Option DivergenceEffect} {control : Option ControlEffect} :
    stageDivergence before c effect mask control = .ok c' ↔
      (∀ e ∈ effect, e.Ok before mask control) ∧ c.divergeAll effect = c' := by
  unfold stageDivergence WarpState.divergeAll
  cases effect with
  | none => simp
  | some effect =>
    simp only [ok_iff, ne_eq, not_or, not_not, Nat.not_lt, Option.mem_def, Option.some.injEq,
      forall_eq', DivergenceEffect.ok_iff, and_assoc]
    cases control with
    | none => simp
    | some control =>
      simp only [Option.some.injEq, exists_eq_left']
      cases ha : effect.action with
      | split =>
        simp only [DivergenceAction.undeclared, true_and, stageSplit_eq_ok ha, reduceCtorEq,
          false_and, or_false]
      | join =>
        have hjoin : stageJoin before c effect mask control = .ok c' ↔
            JoinOk before effect mask control ∧ c.diverge effect = c' := by
          by_cases hd : effect.divergent = true
          · exact stageJoin_row_eq_ok ha hd
          · exact stageJoin_idle_eq_ok (Bool.not_eq_true _ ▸ hd)
        simp only [DivergenceAction.undeclared, true_and, hjoin, reduceCtorEq, false_and, false_or]
      | unknown raw => simp [DivergenceAction.undeclared]

/-- A mask replacement outside a divergence effect comes from TMC or PRED. -/
def RemaskOk (divergence : Option DivergenceEffect) (mask : Option WarpMaskEffect)
    (control : Option ControlEffect) : Prop :=
  divergence = none → ∀ m ∈ mask, (m.reason = .tmc ∨ m.reason = .predicate) ∧
    ∃ c ∈ control, c.reason = .sequential

/-- The mask replacement of a bundle without divergence effect. -/
def WarpState.remask (c : WarpState) (divergence : Option DivergenceEffect)
    (mask : Option WarpMaskEffect) : WarpState :=
  match divergence, mask with
  | none, some mask => { c with activeMask := mask.mask, lifecycle := lifecycleFor mask.active }
  | _, _ => c

theorem stageWarpMask_eq_ok {control : Option ControlEffect} :
    stageWarpMask c divergence mask control = .ok c' ↔
      RemaskOk divergence mask control ∧ c.remask divergence mask = c' := by
  unfold stageWarpMask RemaskOk WarpState.remask
  cases divergence with
  | some d => simp
  | none =>
    cases mask with
    | none => simp
    | some m =>
      simp only [ok_iff, ne_eq, not_not, not_and_or, forall_true_left, Option.mem_def,
        Option.some.injEq, forall_eq', and_assoc]

/-! ## Traps and control -/

/-- When a trap entry is accepted. -/
@[mk_iff] structure TrapEnterOk (before : WarpState) (trap : TrapEffect) (control : ControlEffect)
    (writes : List CSRWriteEffect) : Prop where
  reason : control.reason = .trap
  epc : trap.epc = before.pc
  vector : trap.vector = before.trapCSRs.mtvec &&& ~~~3#32
  nextPC : control.nextPC = before.trapCSRs.mtvec &&& ~~~3#32
  target : control.target = before.trapCSRs.mtvec &&& ~~~3#32
  saved : trap.saveThreadMask = before.activeMask
  running : trap.saveThreadMask ≠ 0#8
  noRestore : trap.restoresThreadMask = false
  noMask : trap.restoreThreadMask = 0#8
  writes : trapEntryWritesMatch writes before.id trap = true

/-- When a trap return is accepted. -/
@[mk_iff] structure TrapReturnOk (before : WarpState) (trap : TrapEffect) (control : ControlEffect)
    (writes : List CSRWriteEffect) : Prop where
  reason : control.reason = .trapReturn
  epc : trap.epc = before.trapCSRs.mepc
  nextPC : control.nextPC = trap.epc &&& ~~~3#32
  noSave : trap.saveThreadMask = 0#8
  noWrites : writes.length = 0
  restore : trap.restoresThreadMask = true →
    trap.restoreThreadMask ≠ 0#8 ∧ trap.restoreThreadMask = before.savedThreadMask
  keep : trap.restoresThreadMask = false →
    trap.restoreThreadMask = 0#8 ∧ before.savedThreadMask = 0#8

/-- When a trap effect is accepted. -/
@[mk_iff] structure TrapEffect.Ok (before : WarpState) (trap : TrapEffect)
    (control : Option ControlEffect) (writes : List CSRWriteEffect) : Prop where
  save : trap.saveThreadMask.Valid
  restore : trap.restoreThreadMask.Valid
  kind : ∃ c, control = some c ∧ ((trap.kind = .enter ∧ TrapEnterOk before trap c writes) ∨
      (trap.kind = .return ∧ TrapReturnOk before trap c writes))

/-- Without a trap effect there is no trap control. -/
def TrapsOk (before : WarpState) (trap : Option TrapEffect) (control : Option ControlEffect)
    (writes : List CSRWriteEffect) : Prop :=
  (trap = none → ∀ c ∈ control, c.reason ≠ .trap ∧ c.reason ≠ .trapReturn) ∧
    ∀ t ∈ trap, t.Ok before control writes

/-- What a trap effect does to the masks. -/
def WarpState.takeTrap (c : WarpState) (trap : Option TrapEffect) : WarpState :=
  match trap with
  | none => c
  | some trap =>
    match trap.kind with
    | .enter => { c with savedThreadMask := trap.saveThreadMask }
    | .return =>
      if trap.restoresThreadMask then
        { c with activeMask := trap.restoreThreadMask, lifecycle := .running }
      else c
    | .unknown _ => c

theorem stageTrapEnter_eq_ok (hk : trap.kind = .enter) :
    stageTrapEnter before c trap control writes = .ok c' ↔
      TrapEnterOk before trap control writes ∧ c.takeTrap (some trap) = c' := by
  unfold stageTrapEnter WarpState.takeTrap
  simp only [ok_iff, ne_eq, not_or, not_not, Bool.not_eq_true, Bool.not_eq_false, hk,
    trapEnterOk_iff, and_assoc]

theorem stageTrapReturn_eq_ok (hk : trap.kind = .return) :
    stageTrapReturn before c trap control writes = .ok c' ↔
      TrapReturnOk before trap control writes ∧ c.takeTrap (some trap) = c' := by
  unfold stageTrapReturn WarpState.takeTrap
  cases hres : trap.restoresThreadMask <;>
    simp only [ok_iff, ne_eq, not_or, not_not, hk, hres, if_true, Bool.false_eq_true,
      Bool.true_eq_false, if_false, trapReturnOk_iff, forall_true_left, false_implies, true_and,
      and_assoc]

theorem stageTrap_eq_ok {control : Option ControlEffect} :
    stageTrap before c trap control writes = .ok c' ↔
      TrapsOk before trap control writes ∧ c.takeTrap trap = c' := by
  unfold stageTrap TrapsOk
  cases trap with
  | none =>
    simp only [ok_iff, not_exists, not_and, not_or, forall_true_left, Option.mem_def, reduceCtorEq,
      false_implies, implies_true, and_true, WarpState.takeTrap]
  | some trap =>
    simp only [ok_iff, not_or, not_not, reduceCtorEq, false_implies, true_and, Option.mem_def,
      Option.some.injEq, forall_eq', TrapEffect.ok_iff, and_assoc]
    cases control with
    | none => simp
    | some control =>
      simp only [Option.some.injEq, exists_eq_left']
      cases hk : trap.kind with
      | enter => simp only [stageTrapEnter_eq_ok hk, reduceCtorEq, false_and, or_false, true_and]
      | «return» =>
        simp only [stageTrapReturn_eq_ok hk, reduceCtorEq, false_and, false_or, true_and]
      | unknown raw => simp

/-- The next PC is the one its reason and decision lane ask for. -/
def ControlEffect.Relation (before : WarpState) (control : ControlEffect) : Prop :=
  match control.reason with
  | .sequential => control.taken = false ∧ control.nextPC = control.currentPC + 4#32
  | .branch =>
    before.activeMask.active control.decisionLane = true ∧
      control.nextPC = choosePC control.taken control.target (control.currentPC + 4#32) ∧
      (control.taken = true → ¬ misaligned control.target)
  | .jump | .reconverge =>
    before.activeMask.active control.decisionLane = true ∧ control.taken = true ∧
      control.nextPC = control.target ∧ ¬ misaligned control.target
  | .trap | .trapReturn =>
    control.taken = true ∧ control.nextPC = control.target ∧ ¬ misaligned control.target
  | .unknown _ => False

/-- When a control effect is accepted. -/
@[mk_iff] structure ControlEffect.Ok (before : WarpState) (control : ControlEffect) : Prop where
  current : control.currentPC = before.pc
  aligned : ¬ misaligned control.nextPC
  relation : control.Relation before

theorem validateControl_eq_ok {control : Option ControlEffect} :
    validateControl before control = .ok u ↔ ∀ c ∈ control, c.Ok before := by
  unfold validateControl
  cases control with
  | none => simp
  | some control =>
    simp only [ok_iff, ne_eq, not_or, not_not, Option.mem_def, Option.some.injEq, forall_eq',
      ControlEffect.ok_iff, and_assoc]
    refine and_congr_right fun _ => and_congr_right fun _ => ?_
    unfold ControlEffect.Relation
    cases control.reason <;>
      simp only [rejectIf_eq_ok, not_or, not_and, not_not, Bool.not_eq_true, Bool.not_eq_false,
        reduceCtorEq]

/-! ## The whole bundle -/

/-- When the control group of a bundle is accepted. -/
@[mk_iff] structure ControlGroupOk (before : WarpState) (e : InstructionEffects) : Prop where
  sole : e.warpMasks.length ≤ 1
  masks : ∀ m ∈ e.warpMasks, m.Ok before.id
  trapAlone : e.trap ≠ none → e.divergence = none ∧ e.warpMasks.head? = none ∧
    e.registerWrites.length = 0 ∧ e.fflags = none
  divergence : ∀ d ∈ e.divergence, d.Ok before e.warpMasks.head? e.control
  remask : RemaskOk e.divergence e.warpMasks.head? e.control
  reconverge : e.divergence = none → ∀ c ∈ e.control, c.reason ≠ .reconverge
  trap : TrapsOk before e.trap e.control e.csrWrites
  control : ∀ c ∈ e.control, c.Ok before

/-- The control group of a bundle carried out. -/
def WarpState.transfer (c : WarpState) (e : InstructionEffects) : WarpState :=
  (((c.divergeAll e.divergence).remask e.divergence e.warpMasks.head?).takeTrap e.trap).redirect
    e.control

theorem stageControl_eq_ok : stageControlMaskDivergenceTrap before c e = .ok c' ↔
      ControlGroupOk before e ∧ c.transfer e = c' := by
  unfold stageControlMaskDivergenceTrap WarpState.transfer
  simp only [ok_iff, soleWarpMask_eq_ok, stageDivergence_eq_ok, stageWarpMask_eq_ok,
    stageTrap_eq_ok, validateControl_eq_ok, not_and, not_or, not_exists, ne_eq, not_not,
    controlGroupOk_iff, and_assoc, exists_and_left, exists_eq_left']

/-- When the effects of other owners are accepted. -/
@[mk_iff] structure ForwardedOk (id : Nat) (e : InstructionEffects) : Prop where
  requests : ∀ r ∈ e.memoryRequests, r.lane < frozenLaneCount
  ordering : ∀ o ∈ e.ordering, o.predecessor &&& ~~~0xf#8 = 0#8 ∧ o.successor &&& ~~~0xf#8 = 0#8
  spawn : ∀ s ∈ e.warpSpawn, s.sourceWarp = id ∧ s.targets.Valid ∧ s.initialLaneMask.Valid ∧
    ¬ misaligned s.targetPC
  drains : ∀ d ∈ e.warpDrains, d.warpID = id ∧ d.kind.declared = true
  barriers : ∀ b ∈ e.barriers, b.warpID = id ∧ b.addressWarp < frozenWarpCount ∧
    b.id < frozenBarrierCount ∧ b.kind.operation = true
  packed : ∀ r ∈ e.packedLoads, r.lane < frozenLaneCount
  faults : ∀ f ∈ e.faults, f.kind.isFault = true ∧ f.lane < frozenLaneCount

theorem validateForwarded_eq_ok {id : Nat} : validateForwarded id e = .ok u ↔ ForwardedOk id e := by
  unfold validateForwarded validateOrdering validateWarpSpawn
  simp only [ok_iff, each_rejectIf_eq_ok, not_exists, not_and, not_or, not_not, ne_eq, Nat.not_le,
    Bool.not_eq_false, forwardedOk_iff]

/-- When a bundle is accepted on `w`. -/
structure BundleOk (w : WarpState) (e : InstructionEffects) : Prop where
  forwarded : ForwardedOk w.id e
  faults : e.faults.length ≠ 0 → hasLocalMutation e = false
  writes : WritesOk e.registerWrites
  flags : FlagsOk e.fflags
  reads : ∀ read ∈ e.csrReads, read.Ok w
  csr : CSRWritesOk w e.csrWrites
  control : ControlGroupOk w e

/-- A bundle carried out. -/
def WarpState.apply (w : WarpState) (e : InstructionEffects) : WarpState :=
  (((w.writeAll e.registerWrites).accrue e.fflags).writeCSRs e.csrWrites).transfer e

/-- The stage of an accepted bundle. -/
def WarpState.stageOf (w : WarpState) (e : InstructionEffects) : EffectStage where
  before := w
  after := w.apply e
  forwarded := forwardedEffects e
  requiresExternal := requiresOwner (forwardedEffects e)

/-- Staging is the acceptance test followed by the update. -/
theorem stageEffects_eq_ok {s : EffectStage} :
    w.stageEffects e = .ok s ↔ BundleOk w e ∧ w.stageOf e = s := by
  unfold WarpState.stageEffects stageLocal
  simp only [ok_iff, validateForwarded_eq_ok, stageRegisterWrites_eq_ok, stageFFlags_eq_ok,
    validateCSRReads_eq_ok, localCSRWrites_eq_ok, stageCSRWrites_eq_ok, stageControl_eq_ok, not_and,
    ne_eq, Bool.not_eq_true]
  constructor
  · rintro ⟨hf, hfault, _, ⟨_, ⟨hw, rfl⟩, _, ⟨hfl, rfl⟩, hr, kept, ⟨hlist, rfl⟩, _, ⟨hfresh, rfl⟩,
      hc, rfl⟩, rfl⟩
    refine ⟨⟨hf, hfault, hw, hfl, hr, ⟨hlist, ?_⟩, hc⟩, rfl⟩
    intro write hwrite hlocal
    exact hfresh write (List.mem_filter.mpr ⟨hwrite, hlocal⟩)
  · rintro ⟨⟨hf, hfault, hw, hfl, hr, ⟨hlist, hfresh⟩, hc⟩, rfl⟩
    refine ⟨hf, hfault, _, ⟨_, ⟨hw, rfl⟩, _, ⟨hfl, rfl⟩, hr, _, ⟨hlist, rfl⟩, _, ⟨?_, rfl⟩, hc,
      rfl⟩, rfl⟩
    intro write hwrite
    obtain ⟨hmem, hlocal⟩ := List.mem_filter.mp hwrite
    exact hfresh write hmem hlocal

end VortexSim
