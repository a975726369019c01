import VortexSim.Core.Cta
import VortexSim.Support.Memory
import VortexSim.Warp.Step

/-!
# Memory routes

The window of local memory has the same addresses for every CTA.  `CTAMemory` sends an access
inside the window to the interval of the CTA its warp belongs to and any other access to the
global memory.  Managers are named by identity, and the bytes of each manager's local memory
are kept apart from its tables, which no access changes.
-/

namespace VortexSim

open Checked

/-- The identity of a manager, the pointer of the source. -/
abbrev ManagerID := Nat

/-- The tables of every manager. -/
abbrev Managers := ManagerID → CTAManager

/-- The local memory of every manager. -/
abbrev LocalMemories := ManagerID → Memory

variable {σ : Type}

/-! ## Classification -/

/-- The memory that serves a range. -/
inductive MemoryRoute where
  | globalMemory
  | localMemory
  deriving Repr, DecidableEq

/-- A range is in one memory, or refused. -/
def classifyMemoryRange (address : Word) (length : Nat) : Except Error MemoryRoute :=
  let start := address.toNat
  let finish := start + length
  let localStart := frozenLocalMemBase.toNat
  let localEnd := localStart + frozenLocalMemSize
  if addressSpaceSize < finish then .error .memoryCrossing
  else if length = 0 then
    .ok (if localStart ≤ start ∧ start < localEnd then .localMemory else .globalMemory)
  else
    let overlapping := start < localEnd ∧ localStart < finish
    let inside := localStart ≤ start ∧ finish ≤ localEnd
    if overlapping ∧ ¬ inside then .error .memoryCrossing
    else if inside then .ok .localMemory else .ok .globalMemory

/-! ## Local accesses -/

variable (m : CTAManager) (memory : Memory) (warpID : WarpID)

/-- `localRangeLocked`: the offset of a local access of a warp. -/
def CTAManager.localRange (address : Word) (length : Nat) : Except Error Nat :=
  match (m.byWarp warpID).bind fun key => m.ctas key.ctaID with
  | none => .error (.localMemoryRange s!"warp {warpID.val} has no CTA")
  | some cta => do
      let start := address.toNat
      let finish := start + length
      let allocStart := cta.allocation.address.toNat
      let allocEnd := allocStart + cta.allocation.size
      rejectIf (start < allocStart ∨ allocEnd < finish ∨ (length ≠ 0 ∧ start = allocEnd))
        (.localMemoryRange (s!"CTA {cta.config.id.toNat} address={hex start} length={length}" ++
          s!" allocation=[{hex allocStart},{hex allocEnd})"))
      pure (cta.backingOffset + (start - allocStart))

/-- The bytes behind a local range. -/
def Memory.bytesAt (offset length : Nat) : List Byte := (memory.data.drop offset).take length

/-- `readLocal`. -/
def CTAManager.readLocal (address : Word) (length : Nat) : Except Error (List Byte) := do
  let offset ← m.localRange warpID address length
  pure (memory.bytesAt offset length)

/-- The check of one entry of a local batch, with the offsets found so far. -/
def CTAManager.checkLocal (entries : List (Word × List Byte)) (index : Nat) (offsets : List Nat)
    (entry : Word × List Byte) : Except Error (List Nat) := do
  let offset ← m.localRange warpID entry.1 entry.2.length
  each (fun previous other => rejectIf (overlaps entry other)
    (.text s!"core: overlapping local-memory batch entries {previous} and {index}")) 0
    (entries.take index)
  pure (offsets ++ [offset])

/-- `writeLocalWithExternal`: check every range, then the external batch, then the bytes. -/
def CTAManager.writeLocalWithExternal (entries : List (Word × List Byte)) (s : σ)
    (external : σ → σ × Option Error) : (Memory × σ) × Option Error :=
  match foldEach (m.checkLocal warpID entries) 0 [] entries with
  | .error err => ((memory, s), some err)
  | .ok offsets =>
    match external s with
    | (s', some err) => ((memory, s'), some err)
    | (s', none) =>
      (((offsets.zip entries).foldl
        (fun memory entry => memory.copy (BitVec.ofNat 32 entry.1) entry.2.2) memory, s'), none)

/-! ## The route of a warp -/

/-- `CTAMemory`. -/
structure CTAMemory (σ : Type) where
  manager : ManagerID
  warpID : WarpID
  globalMemory : DataService σ

namespace CTAMemory

variable (route : CTAMemory σ) (managers : Managers)

/-- `Read`. -/
def read (s : LocalMemories × σ) (address : Word) (length : Nat) : Except Error (List Byte) := do
  match ← classifyMemoryRange address length with
  | .globalMemory => route.globalMemory.read s.2 address length
  | .localMemory =>
    (managers route.manager).readLocal (s.1 route.manager) route.warpID address length

/-- A batch of local entries with the global part beside it. -/
def writeEntries (s : LocalMemories × σ) (entries : List (Word × List Byte))
    (external : σ → σ × Option Error) : (LocalMemories × σ) × Option Error :=
  let written := (managers route.manager).writeLocalWithExternal (s.1 route.manager)
    route.warpID entries s.2 external
  ((Function.update s.1 route.manager written.1.1, written.1.2), written.2)

/-- `Write`. -/
def write (s : LocalMemories × σ) (address : Word) (source : List Byte) :
    (LocalMemories × σ) × Option Error :=
  match classifyMemoryRange address source.length with
  | .error err => (s, some err)
  | .ok .globalMemory =>
    let written := route.globalMemory.write s.2 address source
    ((s.1, written.1), written.2)
  | .ok .localMemory => route.writeEntries managers s [(address, source)] fun s => (s, none)

/-- Sort the entries of a batch by route. -/
def splitBatch (_ : Nat) (parts : List (Word × List Byte) × List (Word × List Byte))
    (entry : Word × List Byte) :
    Except Error (List (Word × List Byte) × List (Word × List Byte)) := do
  match ← classifyMemoryRange entry.1 entry.2.length with
  | .localMemory => pure (parts.1 ++ [entry], parts.2)
  | .globalMemory => pure (parts.1, parts.2 ++ [entry])

/-- `WriteBatch`. -/
def writeBatch (s : LocalMemories × σ) (addresses : List Word) (sources : List (List Byte)) :
    (LocalMemories × σ) × Option Error :=
  if addresses.length ≠ sources.length then
    (s, some (.text (s!"core: atomic batch has {addresses.length} addresses and" ++
      s!" {sources.length} sources")))
  else
    match foldEach splitBatch 0 ([], []) (addresses.zip sources) with
    | .error err => (s, some err)
    | .ok (localEntries, []) => route.writeEntries managers s localEntries fun s => (s, none)
    | .ok (localEntries, globalEntries) =>
      match route.globalMemory.writeBatch with
      | none => (s, some (.text "core: global memory lacks atomic batch support"))
      | some writeGlobal =>
        let external := fun s =>
          writeGlobal s (globalEntries.map Prod.fst) (globalEntries.map Prod.snd)
        if localEntries.length = 0 then
          let written := external s.2
          ((s.1, written.1), written.2)
        else route.writeEntries managers s localEntries external

/-- The service a routed warp uses. -/
def service : DataService (LocalMemories × σ) where
  read := route.read managers
  write := route.write managers
  writeBatch := some (route.writeBatch managers)

end CTAMemory

/-- A service that does not know of local memory. -/
def DataService.lift (memory : DataService σ) : DataService (LocalMemories × σ) where
  read s := memory.read s.2
  write s address bytes :=
    let written := memory.write s.2 address bytes
    ((s.1, written.1), written.2)
  writeBatch := memory.writeBatch.map fun writeBatch s addresses sources =>
    let written := writeBatch s.2 addresses sources
    ((s.1, written.1), written.2)

/-! ## Executors -/

/-- `DataMemoryService`: how the data accesses of a warp are routed. -/
inductive DataRoute (σ : Type) where
  | unbound
  | direct (memory : DataService σ)
  | cta (route : CTAMemory σ)

/-- A `Warp`: the canonical state it executes and its services. -/
structure Executor (σ : Type) where
  owner : Nat
  fetch : Managers → LocalMemories × σ → Word → Nat → Except Error (List Byte)
  data : DataRoute σ

/-- The services of an executor. -/
def Executor.services (executor : Executor σ) (managers : Managers) :
    Services (LocalMemories × σ) where
  fetch := executor.fetch managers
  memory :=
    match executor.data with
    | .unbound => none
    | .direct memory => some memory.lift
    | .cta route => some (route.service managers)

end VortexSim
