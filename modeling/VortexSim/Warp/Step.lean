import VortexSim.State.View
import VortexSim.State.Apply

/-!
# One functional step of a warp

`Warp.step` fetches, decodes, evaluates, stages and commits one instruction of one warp.  A
memory instruction is completed here when a data service is bound: every lane is read or
checked first, and the bytes of a store are written between the last check of the stage and
its commit.

The owner of program and data bytes is outside the package.  Its states form a type `σ`, and
`Services` has the calls the step makes on them.
-/

namespace VortexSim

open Checked

/-! ## Services -/

/-- `MemoryService`, with the optional batch write of `AtomicMemoryService`.  A write returns
the next state of the owner together with the error. -/
structure DataService (σ : Type) where
  read : σ → Word → Nat → Except Error (List Byte)
  write : σ → Word → List Byte → σ × Option Error
  writeBatch : Option (σ → List Word → List (List Byte) → σ × Option Error)

/-- The instruction source and the data service of a `Warp`. -/
structure Services (σ : Type) where
  fetch : σ → Word → Nat → Except Error (List Byte)
  memory : Option (DataService σ)

/-! ## Results -/

/-- How a step ends. -/
inductive Outcome where
  | retired
  | trap
  | fault
  | deferred
  | finished
  deriving Repr, DecidableEq

/-- The boundary that rejected a step. -/
inductive StepFaultKind where
  | state
  | executionMode
  | instructionAlignment
  | instructionAccess
  | illegalInstruction
  | view
  | evaluation
  | effectValidation
  | commit
  | architectural
  deriving Repr, DecidableEq

/-- `Fault`.  The cause is the list of joined errors. -/
structure StepFault where
  kind : StepFaultKind
  pc : Word
  cause : List Error := []
  architectural : List FaultEffect := []
  deriving DecidableEq

/-- The report of a step. -/
structure Result where
  outcome : Outcome := .retired
  warpID : Nat
  pc : Word
  activeMask : LaneMask
  lifecycle : WarpLifecycle
  divergencePointer : Nat
  raw : Option Word := none
  decoded : Option Decoded := none
  issuedEffects : Option InstructionEffects := none
  effects : Option InstructionEffects := none
  nextPC : Word
  nextActiveMask : LaneMask
  nextLifecycle : WarpLifecycle
  nextDivergencePointer : Nat
  fault : Option StepFault := none

/-- A result with the state and the services it leaves. -/
structure StepResult (σ : Type) where
  result : Result
  state : WarpState
  services : σ

/-- The observations of a step that has not done anything yet. -/
def WarpState.startResult (w : WarpState) : Result where
  warpID := w.id
  pc := w.pc
  activeMask := w.activeMask
  lifecycle := w.lifecycle
  divergencePointer := w.divergence.writePointer
  nextPC := w.pc
  nextActiveMask := w.activeMask
  nextLifecycle := w.lifecycle
  nextDivergencePointer := w.divergence.writePointer

/-- The deferred refresh: every result reports the state at the return boundary. -/
def Result.refresh (r : Result) (w : WarpState) : Result :=
  { r with
    nextPC := w.pc
    nextActiveMask := w.activeMask
    nextLifecycle := w.lifecycle
    nextDivergencePointer := w.divergence.writePointer }

/-- `stepError`. -/
def Result.stepError (r : Result) (kind : StepFaultKind) (cause : Error) : Result :=
  { r with outcome := .fault, fault := some { kind, pc := r.pc, cause := [cause] } }

/-- `architecturalFault`. -/
def Result.architecturalFault (r : Result) (faults : List FaultEffect) (cause : List Error) :
    Result :=
  { r with
    outcome := .fault
    fault := some { kind := .architectural, pc := r.pc, cause, architectural := faults } }

/-! ## Memory accesses of one instruction -/

/-- The access widths the services support. -/
def supportedWidth (width : Nat) : Prop := width = 1 ∨ width = 2 ∨ width = 4

instance (width : Nat) : Decidable (supportedWidth width) := inferInstanceAs (Decidable (_ ∨ _))

/-- Little-endian value of a byte string. -/
def littleEndian (bytes : List Byte) : Word :=
  bytes.zipIdx.foldl
    (fun (value : Word) entry => value ||| ((entry.1.setWidth 32 : Word) <<< (8 * entry.2))) 0#32

variable {σ : Type} (sf : SoftFloat) (memory : DataService σ) (services : Services σ)
  (context : ReadContext) (r : Result) (w : WarpState) (s : σ)

def DataService.readMemory (address : Word) (width : Nat) : Except Error Word := do
  rejectIf (¬ supportedWidth width) (.text s!"warp: unsupported memory width {width}")
  let bytes ← memory.read s address width
  pure (littleEndian bytes)

/-- A store that has passed its checks. -/
structure StoreTransaction where
  request : MemoryRequest
  address : Word
  after : List Byte

/-- The byte mask of an access inside its aligned word. -/
def wantMask (width : Nat) (offset : Word) : BitVec 8 :=
  BitVec.ofNat 8 (2 ^ width - 1) <<< offset.toNat

def DataService.prepareStore (request : MemoryRequest) : Except Error StoreTransaction := do
  rejectIf (¬ supportedWidth request.width)
    (.text s!"warp: unsupported store width {request.width}")
  let offset := request.address - request.alignedAddress
  rejectIf (4#32 < offset + BitVec.ofNat 32 request.width ∨
      request.byteMask ≠ wantMask request.width offset)
    (.text (s!"warp: store byte mask {hex request.byteMask.toNat} does not match address" ++
      s!" {hex request.address.toNat} width {request.width}"))
  let _ ← memory.read s request.address request.width
  let value := request.storeData >>> (8#32 * offset).toNat
  pure { request, address := request.address
         after := (List.range request.width).map fun index =>
           (value >>> (8 * index)).setWidth 8 }

def DataService.writeStores (stores : List StoreTransaction) (s : σ) : σ × Option Error :=
  match stores with
  | [store] => memory.write s store.address store.after
  | stores =>
    match memory.writeBatch with
    | none => (s, some (.text "warp: memory service lacks atomic multi-address store support"))
    | some writeBatch =>
      writeBatch s (stores.map StoreTransaction.address) (stores.map StoreTransaction.after)

def memoryFaultResponse (request : MemoryRequest) : MemoryResponse :=
  { request, fault := if request.kind = .store then .storeAccess else .loadAccess
    reason := .memoryService }

/-- The loop over the requests of one instruction: responses, stores and service errors. -/
structure Serviced where
  responses : List MemoryResponse := []
  stores : List StoreTransaction := []
  errors : List Error := []

/-- Serve one request of an instruction. -/
def DataService.serve (done : Serviced) (request : MemoryRequest) : Serviced :=
  if request.kind = .store then
    match memory.prepareStore s request with
    | .error err =>
      { done with
        errors := done.errors ++ [err]
        responses := done.responses ++ [memoryFaultResponse request] }
    | .ok transaction =>
      { done with
        stores := done.stores ++ [transaction]
        responses := done.responses ++ [{ request }] }
  else
    match memory.readMemory s request.address request.width with
    | .error err =>
      { done with
        errors := done.errors ++ [err]
        responses := done.responses ++ [memoryFaultResponse request] }
    | .ok data => { done with responses := done.responses ++ [{ request, data }] }

/-- The step ends with nothing changed. -/
def StepResult.keep : StepResult σ := { result := r, state := w, services := s }

/-- The step ends with a commit by the warp alone. -/
def StepResult.commit (outcome : Outcome) (s : σ) : CommitResult → StepResult σ
  | { owner, error := some err, .. } => .keep (r.stepError .commit err) owner s
  | { owner, error := none, .. } => .keep { r with outcome } owner s

/-- The bundle of a store whose write has failed: every lane reports the service. -/
def failedStore (requests : List MemoryRequest) : List MemoryResponse × List FaultEffect :=
  (requests.map fun request =>
      { request, fault := .storeAccess, reason := .memoryService },
    requests.map fun request =>
      { kind := .storeAccess, reason := .memoryService, lane := request.lane
        address := request.address, width := request.width })

/-- The report of a store whose write has failed. -/
def Result.storeFailed (decoded : Decoded) (expected : LaneMask) (requests : List MemoryRequest)
    (err : Error) : Result :=
  match w.completeMemory decoded expected (failedStore requests).1 with
  | .error completionErr => r.architecturalFault (failedStore requests).2 [err, completionErr]
  | .ok failed =>
    let r := { r with effects := some failed }
    match w.stageEffects failed with
    | .error validationErr => r.stepError .effectValidation validationErr
    | .ok _ => r.architecturalFault failed.faults [err]

/-- Commit a completed access, for a store together with its write. -/
def DataService.commitAccess (decoded : Decoded) (expected : LaneMask)
    (requests : List MemoryRequest) (stores : List StoreTransaction) (stage : EffectStage) :
    StepResult σ :=
  if stores.length ≠ 0 then
    let committed := stage.commitWithExternal w (s, false) fun world =>
      let written := memory.writeStores stores world.1
      ((written.1, true), written.2)
    match committed with
    | ((s', writeCalled), { owner, error := some err, .. }) =>
      if writeCalled then .keep (r.storeFailed w decoded expected requests err) owner s'
      else .keep (r.stepError .commit err) owner s'
    | ((s', _), { owner, error := none, .. }) => .keep { r with outcome := .retired } owner s'
  else .commit r .retired s (stage.commit w)

/-- The end of an access that has been answered: its completed bundle is staged, and committed
where no lane has faulted. -/
def Result.finishAccess (completed : Except Error InstructionEffects) (errors : List Error)
    (commit : Result → EffectStage → StepResult σ) : StepResult σ :=
  match completed with
  | .error err => .keep ({ r with effects := some {} }.stepError .evaluation err) w s
  | .ok completed =>
    let r := { r with effects := some completed }
    match w.stageEffects completed with
    | .error err => .keep (r.stepError .effectValidation err) w s
    | .ok stage =>
      if completed.faults.length ≠ 0 then
        .keep (r.architecturalFault completed.faults errors) w s
      else commit r stage

/-- `completeMemory`: service every request, complete the instruction and commit it. -/
def DataService.completeMemory (decoded : Decoded) (requests : List MemoryRequest)
    (expected : LaneMask) : StepResult σ :=
  let serviced := requests.foldl (memory.serve s) {}
  r.finishAccess w s (w.completeMemory decoded expected serviced.responses) serviced.errors
    fun r stage => memory.commitAccess r w s decoded expected requests serviced.stores stage

/-- The response of one element of a packed load. -/
def DataService.servePacked (request : PackedLoadRequest) : PackedLoadResponse :=
  match memory.readMemory s request.address request.width with
  | .error _ => { request, fault := .loadAccess, reason := .memoryService }
  | .ok data => { request, data }

/-- The error of the last element that failed. -/
def DataService.packedError (requests : List PackedLoadRequest) : List Error :=
  requests.foldl (fun last request =>
    match memory.readMemory s request.address request.width with
    | .error err => [err]
    | .ok _ => last) []

/-- `completePackedLoad`. -/
def DataService.completePackedLoad (decoded : Decoded) (requests : List PackedLoadRequest)
    (expected : LaneMask) : StepResult σ :=
  r.finishAccess w s (w.completePackedLoad decoded expected (requests.map (memory.servePacked s)))
    (memory.packedError s requests) fun r stage => .commit r .retired s (stage.commit w)

/-! ## The step -/

/-- Effects that no synchronous byte owner can complete. -/
def hasUnresolvedExternal (e : InstructionEffects) : Bool :=
  decide (e.memoryRequests.length ≠ 0) || decide (e.csrWrites.length ≠ 0) || e.warpSpawn.isSome ||
  decide (e.warpDrains.length ≠ 0) || decide (e.barriers.length ≠ 0) ||
  decide (e.packedLoads.length ≠ 0) || decide (e.faults.length ≠ 0)

/-- The fault kind of a refused evaluation. -/
def evaluationFault (err : Error) : StepFaultKind :=
  match err with
  | .evaluation _ _ | .csrAccess _ _ _ => .evaluation
  | _ => .view

/-- A fence: the synchronous byte owner has finished all earlier accesses. -/
def Services.commitOrdering (e : InstructionEffects) (stage : EffectStage) : StepResult σ :=
  if services.memory.isNone ∨ hasUnresolvedExternal e = true then
    .keep { r with outcome := .deferred } w s
  else .commit r .retired s (stage.commitAfterExternal w)

/-- Everything after the stage of the issued effects. -/
def Services.route (decoded : Decoded) (e : InstructionEffects) (stage : EffectStage) :
    StepResult σ :=
  if e.faults.length ≠ 0 then .keep (r.architecturalFault e.faults []) w s
  else if e.memoryRequests.length ≠ 0 then
    match services.memory with
    | none => .keep { r with outcome := .deferred } w s
    | some memory => memory.completeMemory r w s decoded e.memoryRequests w.activeMask
  else if e.packedLoads.length ≠ 0 then
    match services.memory with
    | none => .keep { r with outcome := .deferred } w s
    | some memory => memory.completePackedLoad r w s decoded e.packedLoads w.activeMask
  else if e.ordering.isSome = true ∧ stage.requiresExternal = true then
    services.commitOrdering r w s e stage
  else if stage.requiresExternal then .keep { r with outcome := .deferred } w s
  else .commit r (if e.trap.isSome then .trap else .retired) s (stage.commit w)

/-- Decode, evaluate and stage a fetched word. -/
def Services.execute (raw : Word) : StepResult σ :=
  let r := { r with raw := some raw }
  match decode raw with
  | .error err => .keep (r.stepError .illegalInstruction err) w s
  | .ok decoded =>
    let r := { r with decoded := some decoded }
    match w.evaluate sf decoded context with
    | .error err =>
      .keep ({ r with issuedEffects := some {}, effects := some {} }.stepError
        (evaluationFault err) err) w s
    | .ok e =>
      let r := { r with issuedEffects := some e, effects := some e }
      match w.stageEffects e with
      | .error err => .keep (r.stepError .effectValidation err) w s
      | .ok stage => services.route r w s decoded e stage

/-- `Step` without the refresh of the result. -/
def Services.stepBody : StepResult σ :=
  let r := w.startResult
  if w.lifecycle = .inactive then .keep { r with outcome := .finished } w s
  else if ¬ w.activeMask.Valid ∨ w.activeMask = 0#8 then
    .keep (r.stepError .state
      (.text s!"warp: running warp has invalid active mask {hex w.activeMask.toNat}")) w s
  else if misaligned w.pc then
    .keep (r.stepError .instructionAlignment
      (.text s!"warp: instruction PC {hex w.pc.toNat} is not four-byte aligned")) w s
  else
    match services.fetch s w.pc 4 with
    | .error err => .keep (r.stepError .instructionAccess err) w s
    | .ok bytes => services.execute sf context r w s (littleEndian bytes)

/-- `Step`: execute one instruction of the warp. -/
def Services.step : StepResult σ :=
  let done := services.stepBody sf context w s
  { done with result := done.result.refresh done.state }

end VortexSim
