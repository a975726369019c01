import VortexSim.State.WarpState
import VortexSim.Isa.Csr

/-!
# Staging and committing effects

`WarpState.stageEffects` validates a whole effect bundle against a warp and builds the
candidate next state without touching the warp.  The effects that other owners have to
accept first are kept in `forwarded`.  The commit functions install the candidate, after
checking that the warp is still the one the stage was built on.

Every stage function takes the state before the instruction and the candidate built so
far, and returns the next candidate or the first refusal, in the order of the source.
-/

namespace VortexSim

open Checked

def effectError (field problem : String) : Error := .effectValidation field problem

/-! ## Register writes and flags -/

/-- The bits of a word that a byte mask selects.  Mask zero selects the whole word. -/
def byteBits (byteMask : BitVec 8) : Word :=
  let mask := if byteMask = 0#8 then 15#8 else byteMask
  (List.range 4).foldl
    (fun bits b => if mask.getLsbD b then bits ||| (255#32 <<< (8 * b)) else bits) 0#32

/-- The old value with the selected bits replaced. -/
def mergeBits (bits old new : Word) : Word := (old &&& ~~~bits) ||| (new &&& bits)

/-- Integer register zero. -/
def Register.isZero (r : Register) : Prop := r.file = .integer ∧ r.index = 0

instance (r : Register) : Decidable r.isZero := inferInstanceAs (Decidable (_ ∧ _))

/-- One register write carried out.  A write to integer register zero does nothing. -/
def WarpState.writeBack (c : WarpState) (write : RegisterWriteEffect) : WarpState :=
  if write.destination.isZero then c
  else c.mapLanes write.mask fun lane l =>
    l.set write.destination
      (mergeBits (byteBits write.byteMask) (l.get write.destination) (write.values lane))

/-- One write with the registers already written by the bundle. -/
def stageRegisterWrite (index : Nat) (acc : WarpState × List Register)
    (write : RegisterWriteEffect) : Except Error (WarpState × List Register) := do
  (validateRegister write.destination).mapError fun err =>
    effectError "register-write" s!"entry {index}: {err}"
  rejectIf (write.byteMask &&& ~~~15#8 ≠ 0#8)
    (effectError "register-write" "byte mask exceeds one word")
  rejectIf (¬ write.mask.Valid) (effectError "register-write"
      s!"entry {index} mask {hex write.mask.toNat} exceeds frozen lanes")
  rejectIf (write.destination ∈ acc.2)
    (effectError "register-write" (s!"duplicate destination namespace=" ++
      s!"{write.destination.file.raw} index={write.destination.index}"))
  pure (acc.1.writeBack write, write.destination :: acc.2)

variable (w before candidate : WarpState) (effects : InstructionEffects)

def stageRegisterWrites (writes : List RegisterWriteEffect) : Except Error WarpState := do
  let acc ← foldEach stageRegisterWrite 0 (candidate, []) writes
  pure acc.1

def stageFFlags (effect : Option FFlagsEffect) : Except Error WarpState :=
  match effect with
  | none => pure candidate
  | some effect => do
      rejectIf (effect.accumulate &&& ~~~0x1f#8 ≠ 0#8) (effectError "fflags"
          s!"accumulation {hex effect.accumulate.toNat} exceeds five implemented bits")
      pure { candidate with fcsr := candidate.fcsr ||| effect.accumulate }

/-! ## CSRs -/

/-- The storage of the warp at a CSR address. -/
def WarpState.csrValue (address : Nat) : Option Word :=
  match address with
  | 0x001 => some ((w.fcsr &&& 0x1f#8).setWidth 32)
  | 0x002 => some ((w.fcsr >>> 5).setWidth 32 &&& 7#32)
  | 0x003 => some (w.fcsr.setWidth 32)
  | 0x300 => some w.trapCSRs.mstatus
  | 0x305 => some w.trapCSRs.mtvec
  | 0x340 => some w.trapCSRs.mscratch
  | 0x341 => some w.trapCSRs.mepc
  | 0x342 => some w.trapCSRs.mcause
  | 0x343 => some w.trapCSRs.mtval
  | _ => none

/-- The value of a CSR the warp can check: its storage, its identity and its mask. -/
def WarpState.csrReadValue (address : Nat) : Option Word :=
  match w.csrValue address with
  | some value => some value
  | none =>
    match address with
    | 0xcc1 => some (BitVec.ofNat 32 w.id)
    | 0xcc4 => some (w.activeMask.setWidth 32)
    | _ => none

/-- Store a CSR; three addresses share FCSR. -/
def WarpState.setCSRValue (address : Nat) (value : Word) : WarpState :=
  match address with
  | 0x001 => { w with fcsr := (w.fcsr &&& ~~~0x1f#8) ||| value.setWidth 8 }
  | 0x002 => { w with fcsr := (w.fcsr &&& 0x1f#8) ||| (value <<< 5).setWidth 8 }
  | 0x003 => { w with fcsr := value.setWidth 8 }
  | 0x300 => { w with trapCSRs := { w.trapCSRs with mstatus := value } }
  | 0x305 => { w with trapCSRs := { w.trapCSRs with mtvec := value } }
  | 0x340 => { w with trapCSRs := { w.trapCSRs with mscratch := value } }
  | 0x341 => { w with trapCSRs := { w.trapCSRs with mepc := value } }
  | 0x342 => { w with trapCSRs := { w.trapCSRs with mcause := value } }
  | 0x343 => { w with trapCSRs := { w.trapCSRs with mtval := value } }
  | _ => w

def WarpState.validateCSRRead (index : Nat) (read : CSRReadEffect) : Except Error Unit :=
  match findCSR read.address with
  | none =>
    .error (effectError "csr-read" s!"entry {index} has unknown address {hex read.address}")
  | some entry => do
      rejectIf (read.scope ≠ entry.scope)
        (effectError "csr-read" (s!"entry {index} address {hex read.address}" ++
          s!" scope={read.scope.raw}, want {entry.scope.raw}"))
      match w.csrReadValue read.address with
      | none => pure ()
      | some value =>
        each (fun _ lane => rejectIf (read.values lane ≠ value)
            (effectError "csr-read" (s!"entry {index} lane {lane.val} stale value" ++
              s!" {hex (read.values lane).toNat}, canonical value is {hex value.toNat}")))
          0 (List.finRange frozenLaneCount)

def WarpState.validateCSRReads (reads : List CSRReadEffect) : Except Error Unit :=
  each w.validateCSRRead 0 reads

/-- The writes kept for the warp, the addresses seen and the writes to FCSR storage. -/
structure CSRWriteScan where
  kept : List CSRWriteEffect := []
  seen : List Nat := []
  fcsrWrites : Nat := 0

/-- `fflags`, `frm` and `fcsr` share one register. -/
def aliasesFCSR (address : Nat) : Prop := 0x001 ≤ address ∧ address ≤ 0x003

instance (address : Nat) : Decidable (aliasesFCSR address) :=
  inferInstanceAs (Decidable (_ ∧ _))

/-- The checks of a CSR write. -/
def WarpState.scanCSRWrite (index : Nat) (scan : CSRWriteScan) (write : CSRWriteEffect) :
    Except Error CSRWriteScan :=
  match findCSR write.address with
  | none =>
    .error (effectError "csr-write" s!"entry {index} has unknown address {hex write.address}")
  | some entry => do
      rejectIf (write.warpID ≠ w.id) (effectError "csr-write"
          s!"entry {index} targets warp {write.warpID}, owner is warp {w.id}")
      rejectIf (write.scope ≠ entry.scope ∨ write.writeMask ≠ entry.writeMask ∨
          write.ignored ≠ entry.writeIgnored)
        (effectError "csr-write"
          s!"entry {index} metadata does not match catalog for address {hex write.address}")
      rejectIf (entry.writable = false ∧ entry.writeIgnored = false)
        (effectError "csr-write" s!"entry {index} writes read-only address {hex write.address}")
      rejectIf (write.value &&& ~~~write.writeMask ≠ 0#32)
        (effectError "csr-write" (s!"entry {index} value {hex write.value.toNat}" ++
          s!" exceeds write mask {hex write.writeMask.toNat}"))
      rejectIf (write.address ∈ scan.seen)
        (effectError "csr-write" s!"duplicate address {hex write.address}")
      rejectIf (aliasesFCSR write.address ∧ 1 ≤ scan.fcsrWrites)
        (effectError "csr-write" "multiple software writes alias the same FCSR storage")
      pure {
        kept := if write.isLocal then scan.kept ++ [write] else scan.kept
        seen := write.address :: scan.seen
        fcsrWrites := if aliasesFCSR write.address then scan.fcsrWrites + 1 else scan.fcsrWrites }

/-- The CSR writes that the warp owns. -/
def WarpState.localCSRWrites (writes : List CSRWriteEffect) :
    Except Error (List CSRWriteEffect) := do
  let scan ← foldEach w.scanCSRWrite 0 {} writes
  pure scan.kept

/-- A write to a state that is as it was read. -/
def stageCSRWrite (index : Nat) (candidate : WarpState) (write : CSRWriteEffect) :
    Except Error WarpState :=
  match before.csrValue write.address with
  | none => do
      rejectIf (write.ignored = false ∨ write.oldValue ≠ 0#32 ∨ write.value ≠ 0#32)
        (effectError "csr-write" s!"entry {index} ignored write is not a zero no-op")
      pure candidate
  | some old => do
      rejectIf (write.oldValue ≠ old)
        (effectError "csr-write" (s!"entry {index} stale old value {hex write.oldValue.toNat}," ++
          s!" canonical value is {hex old.toNat}"))
      pure (candidate.setCSRValue write.address write.value)

def stageCSRWrites (writes : List CSRWriteEffect) : Except Error WarpState :=
  foldEach (stageCSRWrite before) 0 candidate writes

/-! ## Divergence -/

/-- The value of an action outside the declared constants. -/
def DivergenceAction.undeclared : DivergenceAction → Option Nat
  | .split | .join => none
  | .unknown raw => some raw

/-- A SPLIT: the uniform form pushes nothing, the divergent form pushes one row and selects
the execute mask. -/
def stageSplit (effect : DivergenceEffect) (mask : Option WarpMaskEffect)
    (control : ControlEffect) : Except Error WarpState := do
  rejectIf (effect.stackPointer ≠ before.divergence.writePointer ∨
      effect.originalMask ≠ before.activeMask)
    (effectError "divergence" "SPLIT pointer/mask is stale")
  rejectIf (effect.markElseVisited = true ∨ effect.pop = true ∨ effect.push ≠ effect.divergent)
    (effectError "divergence" "SPLIT action flags are contradictory")
  rejectIf (control.reason ≠ .sequential ∨ effect.reconvergencePC ≠ before.pc + 4#32 ∨
      effect.executeMask &&& effect.deferredMask ≠ 0#8 ∨
      effect.executeMask ||| effect.deferredMask ≠ effect.originalMask)
    (effectError "divergence" "SPLIT control, PC, or mask partition is inconsistent")
  if effect.divergent = false then do
    rejectIf (mask ≠ none ∨ (effect.executeMask ≠ 0#8 ∧ effect.deferredMask ≠ 0#8))
      (effectError "divergence" "uniform SPLIT cannot replace the active mask")
    pure candidate
  else do
    rejectIf (frozenDivergenceDepth ≤ before.divergence.writePointer ∨
        misaligned effect.reconvergencePC ∨ effect.executeMask = 0#8 ∨
        effect.deferredMask = 0#8 ∨ effect.executeMask &&& effect.deferredMask ≠ 0#8)
      (effectError "divergence" "SPLIT push has invalid capacity, PC, or mask partition")
    match mask with
    | none => .error (effectError "divergence" "SPLIT mask effect does not match execute mask")
    | some mask => do
        rejectIf (mask.reason ≠ .split ∨ mask.mask ≠ effect.executeMask ∨ mask.active = false)
          (effectError "divergence" "SPLIT mask effect does not match execute mask")
        pure { candidate with
          divergence := candidate.divergence.push before.divergence.writePointer
            { valid := true, originalMask := effect.originalMask
              nextPC := effect.reconvergencePC }
          activeMask := mask.mask
          lifecycle := .running }

/-- A JOIN: without divergence a no-op, at an unvisited row the switch to the deferred
lanes, at a visited row the pop. -/
def stageJoin (effect : DivergenceEffect) (mask : Option WarpMaskEffect) (control : ControlEffect) :
    Except Error WarpState := do
  rejectIf (effect.push = true ∨ (effect.markElseVisited = effect.pop ∧ effect.divergent = true))
    (effectError "divergence" "JOIN action flags are contradictory")
  if effect.divergent = false then do
    rejectIf (effect.stackPointer ≠ before.divergence.writePointer ∨
        effect.originalMask ≠ before.activeMask ∨ effect.executeMask ≠ 0#8 ∨
        effect.deferredMask ≠ 0#8 ∨ effect.reconvergencePC ≠ 0#32 ∨
        effect.markElseVisited = true ∨ effect.pop = true ∨ mask ≠ none ∨
        control.reason ≠ .sequential)
      (effectError "divergence" "non-divergent JOIN metadata is inconsistent")
    pure candidate
  else do
    rejectIf (frozenDivergenceDepth ≤ effect.stackPointer)
      (effectError "divergence" s!"JOIN pointer {effect.stackPointer} has no record row")
    let record := before.divergence.row effect.stackPointer
    rejectIf (record.valid = false ∨ effect.originalMask ≠ record.originalMask ∨
        effect.reconvergencePC ≠ record.nextPC)
      (effectError "divergence" "JOIN record view is stale")
    match mask with
    | none => .error (effectError "divergence" "JOIN mask effect does not match execute mask")
    | some mask => do
        rejectIf (mask.reason ≠ .join ∨ mask.mask ≠ effect.executeMask ∨
            mask.active ≠ decide (effect.executeMask ≠ 0#8))
          (effectError "divergence" "JOIN mask effect does not match execute mask")
        if effect.markElseVisited then do
          rejectIf (record.elseVisited = true ∨
              effect.executeMask ≠ record.originalMask &&& ~~~before.activeMask ∨
              effect.executeMask = 0#8 ∨ control.reason ≠ .reconverge ∨
              control.nextPC ≠ record.nextPC)
            (effectError "divergence" "JOIN mark-else transition is invalid")
          pure { candidate with
            divergence := candidate.divergence.visitElse effect.stackPointer
            activeMask := mask.mask
            lifecycle := lifecycleFor mask.active }
        else do
          rejectIf (record.elseVisited = false ∨
              effect.stackPointer + 1 ≠ before.divergence.writePointer ∨
              effect.executeMask ≠ record.originalMask ∨ control.reason ≠ .sequential)
            (effectError "divergence" "JOIN pop transition is invalid")
          pure { candidate with
            divergence := candidate.divergence.pop effect.stackPointer
            activeMask := mask.mask
            lifecycle := lifecycleFor mask.active }

/-- `stageDivergence`: a SPLIT or a JOIN. -/
def stageDivergence (effect : Option DivergenceEffect) (mask : Option WarpMaskEffect)
    (control : Option ControlEffect) : Except Error WarpState :=
  match effect with
  | none => pure candidate
  | some effect => do
      rejectIf (effect.warpID ≠ before.id)
        (effectError "divergence" s!"targets warp {effect.warpID}, owner is warp {before.id}")
      rejectIf (frozenDivergenceDepth < effect.stackPointer ∨ ¬ effect.originalMask.Valid ∨
          ¬ effect.executeMask.Valid ∨ ¬ effect.deferredMask.Valid)
        (effectError "divergence" "pointer or lane mask exceeds frozen capacity")
      rejectIf (effect.action.undeclared ≠ none)
        (effectError "divergence" s!"unknown action {effect.action.undeclared.getD 0}")
      match control with
      | none => .error (effectError "divergence" "missing control effect")
      | some control =>
        match effect.action with
        | .split => stageSplit before candidate effect mask control
        | .join => stageJoin before candidate effect mask control
        | .unknown _ => pure candidate

/-! ## Traps and control -/

/-- The CSR writes are exactly MEPC, MCAUSE and MTVAL with the values of the trap. -/
def trapEntryWritesMatch (writes : List CSRWriteEffect) (warpID : Nat) (trap : TrapEffect) : Bool :=
  let want : List (Nat × Word) := [(0x341, trap.epc), (0x342, trap.cause), (0x343, 0#32)]
  let rec loop : List CSRWriteEffect → List (Nat × Word) → Bool
    | [], want => want.isEmpty
    | write :: rest, want =>
      match want.lookup write.address with
      | none => false
      | some value =>
        if write.scope ≠ .warp ∨ write.warpID ≠ warpID ∨ write.value ≠ value then false
        else loop rest (want.filter fun pair => pair.1 != write.address)
  if writes.length ≠ 3 then false else loop writes want

def stageTrapEnter (trap : TrapEffect) (control : ControlEffect) (writes : List CSRWriteEffect) :
    Except Error WarpState := do
  let expectedVector := before.trapCSRs.mtvec &&& ~~~3#32
  rejectIf (control.reason ≠ .trap ∨ trap.epc ≠ before.pc ∨ trap.vector ≠ expectedVector ∨
      control.nextPC ≠ expectedVector ∨ control.target ≠ expectedVector ∨
      trap.saveThreadMask ≠ before.activeMask ∨ trap.saveThreadMask = 0#8 ∨
      trap.restoresThreadMask = true ∨ trap.restoreThreadMask ≠ 0#8)
    (effectError "trap" "entry PC/vector/mask metadata is inconsistent")
  rejectIf (trapEntryWritesMatch writes before.id trap = false)
    (effectError "trap" "entry requires exact MEPC/MCAUSE/MTVAL writes")
  pure { candidate with savedThreadMask := trap.saveThreadMask }

def stageTrapReturn (trap : TrapEffect) (control : ControlEffect) (writes : List CSRWriteEffect) :
    Except Error WarpState := do
  rejectIf (control.reason ≠ .trapReturn ∨ trap.epc ≠ before.trapCSRs.mepc ∨
      control.nextPC ≠ trap.epc &&& ~~~3#32 ∨ trap.saveThreadMask ≠ 0#8 ∨ writes.length ≠ 0)
    (effectError "trap" "return PC/CSR metadata is inconsistent")
  if trap.restoresThreadMask then do
    rejectIf (trap.restoreThreadMask = 0#8 ∨ trap.restoreThreadMask ≠ before.savedThreadMask)
      (effectError "trap" "return restore mask is stale or empty")
    pure { candidate with activeMask := trap.restoreThreadMask, lifecycle := .running }
  else do
    rejectIf (trap.restoreThreadMask ≠ 0#8 ∨ before.savedThreadMask ≠ 0#8)
      (effectError "trap" "return omitted a nonzero saved mask")
    pure candidate

def stageTrap (trap : Option TrapEffect) (control : Option ControlEffect)
    (writes : List CSRWriteEffect) : Except Error WarpState :=
  match trap with
  | none => do
      rejectIf (∃ c ∈ control, c.reason = .trap ∨ c.reason = .trapReturn)
        (effectError "trap" "trap control is missing its trap effect")
      pure candidate
  | some trap => do
      rejectIf (¬ trap.saveThreadMask.Valid ∨ ¬ trap.restoreThreadMask.Valid)
        (effectError "trap" "mask exceeds frozen lanes or control is missing")
      match control with
      | none => .error (effectError "trap" "mask exceeds frozen lanes or control is missing")
      | some control =>
        match trap.kind with
        | .enter => stageTrapEnter before candidate trap control writes
        | .return => stageTrapReturn before candidate trap control writes
        | .unknown raw => .error (effectError "trap" s!"unknown kind {raw}")

def choosePC (taken : Bool) (target sequential : Word) : Word :=
  if taken then target else sequential

def validateControl (control : Option ControlEffect) : Except Error Unit :=
  match control with
  | none => pure ()
  | some control => do
      rejectIf (control.currentPC ≠ before.pc ∨ misaligned control.nextPC)
        (effectError "control" (s!"current PC is stale or next PC {hex control.nextPC.toNat}" ++
          " is misaligned"))
      let decisionActive := before.activeMask.active control.decisionLane
      match control.reason with
      | .sequential =>
        rejectIf (control.taken = true ∨ control.nextPC ≠ control.currentPC + 4#32)
          (effectError "control" "sequential relationship is inconsistent")
      | .branch =>
        rejectIf (decisionActive = false ∨
            control.nextPC ≠ choosePC control.taken control.target (control.currentPC + 4#32) ∨
            (control.taken = true ∧ misaligned control.target))
          (effectError "control" "branch decision lane or target relationship is inconsistent")
      | .jump =>
        rejectIf (decisionActive = false ∨ control.taken = false ∨
            control.nextPC ≠ control.target ∨ misaligned control.target)
          (effectError "control" "jump decision lane or target relationship is inconsistent")
      | .trap | .trapReturn =>
        rejectIf (control.taken = false ∨ control.nextPC ≠ control.target ∨
            misaligned control.target)
          (effectError "control" "trap target relationship is inconsistent")
      | .reconverge =>
        rejectIf (decisionActive = false ∨ control.taken = false ∨
            control.nextPC ≠ control.target ∨ misaligned control.target)
          (effectError "control" "reconvergence target relationship is inconsistent")
      | .unknown raw => .error (effectError "control" s!"unknown reason {raw}")

/-- The value of a mask reason outside the declared constants. -/
def WarpMaskReason.undeclared : WarpMaskReason → Option Nat
  | .tmc | .predicate | .split | .join => none
  | .unknown raw => some raw

/-- The single mask replacement of a bundle. -/
def soleWarpMask (masks : List WarpMaskEffect) : Except Error (Option WarpMaskEffect) := do
  rejectIf (1 < masks.length)
    (effectError "warp-mask" s!"bundle contains {masks.length} replacements")
  match masks with
  | [] => pure none
  | mask :: _ => do
      rejectIf (mask.warpID ≠ before.id)
        (effectError "warp-mask" s!"targets warp {mask.warpID}, owner is warp {before.id}")
      rejectIf (¬ mask.mask.Valid ∨ mask.active ≠ decide (mask.mask ≠ 0#8)) (effectError "warp-mask"
          s!"mask {hex mask.mask.toNat} and active={mask.active} are inconsistent")
      rejectIf (mask.reason.undeclared ≠ none)
        (effectError "warp-mask" s!"unknown reason {mask.reason.undeclared.getD 0}")
      pure (some mask)

/-- A mask replacement without a divergence effect: TMC or PRED. -/
def stageWarpMask (divergence : Option DivergenceEffect) (mask : Option WarpMaskEffect)
    (control : Option ControlEffect) : Except Error WarpState :=
  match divergence, mask with
  | none, some mask => do
      rejectIf (mask.reason ≠ .tmc ∧ mask.reason ≠ .predicate)
        (effectError "warp-mask" "split/join reason requires a divergence effect")
      rejectIf (¬ ∃ c ∈ control, c.reason = .sequential)
        (effectError "warp-mask" "TMC/PRED replacement requires sequential control")
      pure { candidate with activeMask := mask.mask, lifecycle := lifecycleFor mask.active }
  | _, _ => pure candidate

/-- The PC a control effect asks for. -/
def WarpState.redirect (c : WarpState) (control : Option ControlEffect) : WarpState :=
  match control with
  | none => c
  | some control => { c with pc := control.nextPC }

def stageControlMaskDivergenceTrap : Except Error WarpState := do
  let mask ← soleWarpMask before effects.warpMasks
  rejectIf (effects.trap ≠ none ∧ (effects.divergence ≠ none ∨ mask ≠ none ∨
      effects.registerWrites.length ≠ 0 ∨ effects.fflags ≠ none))
    (effectError "bundle"
      "trap cannot coexist with register, FFLAGS, warp-mask, or divergence mutation")
  let candidate ← stageDivergence before candidate effects.divergence mask effects.control
  let candidate ← stageWarpMask candidate effects.divergence mask effects.control
  rejectIf (effects.divergence = none ∧ ∃ c ∈ effects.control, c.reason = .reconverge)
    (effectError "control" "reconvergence requires a divergence transition")
  let candidate ← stageTrap before candidate effects.trap effects.control effects.csrWrites
  validateControl before effects.control
  pure (candidate.redirect effects.control)

/-! ## Effects of other owners -/

/-- The effects the warp does not consume. -/
def forwardedEffects : InstructionEffects where
  memoryRequests := effects.memoryRequests
  ordering := effects.ordering
  csrReads := effects.csrReads
  csrWrites := effects.csrWrites.filter fun write => !write.isLocal
  warpSpawn := effects.warpSpawn
  warpDrains := effects.warpDrains
  barriers := effects.barriers
  packedLoads := effects.packedLoads
  faults := effects.faults

/-- Some owner other than the warp has to act first. -/
def requiresOwner (forwarded : InstructionEffects) : Bool :=
  decide (forwarded.memoryRequests.length ≠ 0) || forwarded.ordering.isSome ||
  decide (forwarded.csrWrites.length ≠ 0) || forwarded.warpSpawn.isSome ||
  decide (forwarded.warpDrains.length ≠ 0) || decide (forwarded.barriers.length ≠ 0) ||
  decide (forwarded.packedLoads.length ≠ 0) || decide (forwarded.faults.length ≠ 0)

def validateOrdering (ordering : Option OrderingEffect) : Except Error Unit :=
  rejectIf (∃ o ∈ ordering, o.predecessor &&& ~~~0xf#8 ≠ 0#8 ∨ o.successor &&& ~~~0xf#8 ≠ 0#8)
    (effectError "ordering" "I/O/R/W mask exceeds four bits")

def validateWarpSpawn (id : Nat) (spawn : Option WarpSpawnEffect) : Except Error Unit :=
  rejectIf (∃ s ∈ spawn, s.sourceWarp ≠ id ∨ ¬ s.targets.Valid ∨ ¬ s.initialLaneMask.Valid ∨
      misaligned s.targetPC)
    (effectError "warp-spawn" "source, target mask, lane mask, or PC exceeds frozen topology")

/-- A drain kind of the declared constants. -/
def WarpDrainKind.declared : WarpDrainKind → Bool
  | .priorInstructions | .lsu => true
  | .unknown _ => false

/-- A barrier operation, not `BarrierNone` and not an undeclared value. -/
def BarrierKind.operation : BarrierKind → Bool
  | .sync | .arrive | .wait => true
  | .none | .unknown _ => false

/-- A fault kind, not `FaultNone` and not an undeclared value. -/
def FaultKind.isFault : FaultKind → Bool
  | .none | .unknown _ => false
  | _ => true

/-- The validation half of `classifyAndValidateForwarded`. -/
def validateForwarded (id : Nat) (effects : InstructionEffects) : Except Error Unit := do
  each (fun index request => rejectIf (frozenLaneCount ≤ request.lane) (effectError "memory-request"
        s!"entry {index} lane {request.lane} exceeds frozen lanes")) 0 effects.memoryRequests
  validateOrdering effects.ordering
  validateWarpSpawn id effects.warpSpawn
  each (fun index drain => rejectIf (drain.warpID ≠ id ∨ drain.kind.declared = false)
      (effectError "warp-drain" s!"entry {index} has wrong warp or unknown kind"))
    0 effects.warpDrains
  each (fun index barrier => rejectIf (barrier.warpID ≠ id ∨
        frozenWarpCount ≤ barrier.addressWarp ∨ frozenBarrierCount ≤ barrier.id ∨
        barrier.kind.operation = false)
      (effectError "barrier" s!"entry {index} exceeds frozen identity or kind"))
    0 effects.barriers
  each (fun index request => rejectIf (frozenLaneCount ≤ request.lane) (effectError "packed-load"
        s!"entry {index} lane {request.lane} exceeds frozen lanes")) 0 effects.packedLoads
  each (fun index fault => rejectIf (fault.kind.isFault = false ∨ frozenLaneCount ≤ fault.lane)
      (effectError "fault" s!"entry {index} has invalid kind or lane")) 0 effects.faults

/-! ## The stage -/

/-- A validated candidate transaction.  The warp it belongs to is passed at commit. -/
structure EffectStage where
  before : WarpState
  after : WarpState
  forwarded : InstructionEffects
  requiresExternal : Bool
  committed : Bool := false

/-- The bundle would change the warp. -/
def hasLocalMutation : Bool :=
  decide (effects.registerWrites.length ≠ 0) || effects.control.isSome ||
  effects.fflags.isSome || effects.trap.isSome || decide (effects.warpMasks.length ≠ 0) ||
  effects.divergence.isSome || effects.csrWrites.any CSRWriteEffect.isLocal

/-- The candidate after all local parts of a bundle. -/
def stageLocal : Except Error WarpState := do
  let candidate ← stageRegisterWrites w effects.registerWrites
  let candidate ← stageFFlags candidate effects.fflags
  w.validateCSRReads effects.csrReads
  let localWrites ← w.localCSRWrites effects.csrWrites
  let candidate ← stageCSRWrites w candidate localWrites
  stageControlMaskDivergenceTrap w candidate effects

/-- Validate a whole bundle and build the detached next state. -/
def WarpState.stageEffects : Except Error EffectStage := do
  validateForwarded w.id effects
  rejectIf (effects.faults.length ≠ 0 ∧ hasLocalMutation effects = true)
    (effectError "bundle" "fault routing cannot coexist with original local mutation")
  let candidate ← stageLocal w effects
  pure {
    before := w, after := candidate, forwarded := forwardedEffects effects
    requiresExternal := requiresOwner (forwardedEffects effects) }

/-! ## Commit -/

/-- What a commit leaves behind: the owner, the stage and the reported error. -/
structure CommitResult where
  owner : WarpState
  stage : EffectStage
  error : Option Error := none

namespace EffectStage

variable {ω : Type} (s : EffectStage) (owner : WarpState) (world : ω) (apply : ω → ω × Option Error)

/-- A refused commit changes neither the owner nor the stage. -/
def refuse (message : String) : CommitResult := { owner, stage := s, error := some (.text message) }

/-- A successful commit installs the candidate and uses the stage up. -/
def accept : CommitResult := { owner := s.after, stage := { s with committed := true } }

/-- The common tail: refuse a used or stale stage, else install the candidate. -/
def install : CommitResult :=
  if s.committed then s.refuse owner "state: effect stage was already committed"
  else if owner ≠ s.before then
    s.refuse owner "state: effect stage is stale because canonical state changed"
  else s.accept

/-- Apply a local-only stage. -/
def commit : CommitResult :=
  if s.requiresExternal then
    s.refuse owner "state: effect stage requires external owner success"
  else s.install owner

/-- Apply a stage whose forwarded prerequisites the caller has committed. -/
def commitAfterExternal : CommitResult :=
  if s.requiresExternal = false then
    s.refuse owner "state: effect stage has no external prerequisite"
  else s.install owner

/-- Commit together with one synchronous operation on an external world.  Staleness is
checked before the operation runs, and an operation that fails leaves the owner as it was
before the stage. -/
def coordinate : ω × CommitResult :=
  if s.committed then (world, s.refuse owner "state: effect stage was already committed")
  else if owner ≠ s.before then
    (world, s.refuse owner "state: effect stage is stale because canonical state changed")
  else
    match apply world with
    | (world', some err) => (world', { owner := s.before, stage := s, error := some err })
    | (world', none) => (world', s.accept)

/-- Commit a local-only stage with an external operation. -/
def commitWithExternal : ω × CommitResult :=
  if s.requiresExternal then
    (world, s.refuse owner "state: coordinated commit requires a local-only effect stage")
  else s.coordinate owner world apply

/-- Commit a forwarded-effect stage with its external owner. -/
def commitForwardedWithExternal : ω × CommitResult :=
  if s.requiresExternal = false then
    (world, s.refuse owner "state: coordinated forwarded commit requires an external prerequisite")
  else s.coordinate owner world apply

end EffectStage

/-- `ApplyEffects`: the new owner, with the stage when it still waits for other owners. -/
def WarpState.applyEffects (w : WarpState) (effects : InstructionEffects) :
    Except Error (WarpState × Option EffectStage) := do
  let stage ← w.stageEffects effects
  if stage.requiresExternal then pure (w, some stage)
  else
    match (stage.commit w).error with
    | some err => .error err
    | none => pure ((stage.commit w).owner, none)

end VortexSim
