import VortexSim.Support.Memory
import VortexSim.Warp.Outcome

/-!
# A step that does not retire changes nothing

All fallible work of a step is done before its first side effect, and the write of a store
is made between the last check of the stage and its commit.  So a step either retires, takes
a trap, or leaves warp and memory as they were.  The only assumption is the contract of the
memory service: a write or a batch that reports an error has not changed any byte.
-/

namespace VortexSim

open Checked

variable {σ β : Type}

/-- A refused write of the service leaves what `view` shows of memory alone. -/
structure DataService.AllOrError (memory : DataService σ) (view : σ → β) : Prop where
  write : ∀ s address bytes, (memory.write s address bytes).2 ≠ none →
    view (memory.write s address bytes).1 = view s
  writeBatch : ∀ writeBatch ∈ memory.writeBatch, ∀ s addresses sources,
    (writeBatch s addresses sources).2 ≠ none → view (writeBatch s addresses sources).1 = view s

/-- A step that has not retired and has not trapped left everything as it was. -/
def StepResult.Atomic (view : σ → β) (w : WarpState) (s : σ) (r : StepResult σ) : Prop :=
  r.result.outcome ≠ .retired → r.result.outcome ≠ .trap → r.state = w ∧ view r.services = view s

section

variable {view : σ → β} {w : WarpState} {s : σ} {memory : DataService σ} {services : Services σ}

theorem DataService.AllOrError.writeStores (h : memory.AllOrError view)
    (stores : List StoreTransaction) :
    (memory.writeStores stores s).2 ≠ none → view (memory.writeStores stores s).1 = view s := by
  unfold DataService.writeStores
  split
  · exact h.write _ _ _
  · split
    · exact fun _ => rfl
    · rename_i writeBatch hbatch
      exact h.writeBatch writeBatch hbatch _ _ _

variable {e : InstructionEffects}

theorem StepOutcome.atomic (h : StepOutcome services w s r)
    (hmem : ∀ memory ∈ services.memory, memory.AllOrError view) : r.Atomic view w s := by
  intro hretired htrap
  cases h with
  | kept r => exact ⟨rfl, rfl⟩
  | installed bundle done => exact absurd done (not_or.mpr ⟨hretired, htrap⟩)
  | stored bound stores bundle done => exact absurd done hretired
  | unstored r bound stores failed => exact ⟨rfl, (hmem _ bound).writeStores stores failed⟩

/-! ## Faults of single lanes -/

/-- The response of one request. -/
def DataService.respond (memory : DataService σ) (s : σ) (request : MemoryRequest) :
    MemoryResponse :=
  if request.kind = .store then
    match memory.prepareStore s request with
    | .error _ => memoryFaultResponse request
    | .ok _ => { request }
  else
    match memory.readMemory s request.address request.width with
    | .error _ => memoryFaultResponse request
    | .ok data => { request, data }

theorem DataService.serve_responses (memory : DataService σ) (s : σ)
    (requests : List MemoryRequest) (done : Serviced) :
    (requests.foldl (memory.serve s) done).responses =
      done.responses ++ requests.map (memory.respond s) := by
  induction requests generalizing done with
  | nil => simp
  | cons request requests ih =>
    have hserve : (memory.serve s done request).responses =
        done.responses ++ [memory.respond s request] := by
      unfold DataService.serve DataService.respond
      split
      · cases memory.prepareStore s request <;> rfl
      · cases memory.readMemory s request.address request.width <;> rfl
    rw [List.foldl_cons, ih, hserve, List.map_cons, List.append_assoc]
    rfl

/-- A fault, once reported, stays reported. -/
theorem scanResponse_faults (h : scanResponse d scan response = .ok scan')
    (hf : scan.faults ≠ [] ∨ response.fault ≠ .none) : scan'.faults ≠ [] := by
  unfold scanResponse at h
  dsimp only at h
  split at h
  · simp only [ok_iff] at h
    obtain ⟨-, -, h⟩ := h
    split_ifs at h with hfault hload
    · simp only [ok_iff] at h
      obtain ⟨-, rfl⟩ := h
      simp
    · cases h
      exact hf.resolve_right hfault
    · cases h
      exact hf.resolve_right hfault
  · cases h

/-- A response set with a fault completes to faults only. -/
theorem completeMemory_faults (h : completeMemory d pc expected responses = .ok e)
    (hf : ∃ response ∈ responses, response.fault ≠ .none) : e.faults ≠ [] := by
  unfold completeMemory at h
  simp only [ok_iff] at h
  obtain ⟨-, -, scan, hscan, -, h⟩ := h
  have hne := foldEach_reaches (fun scan : ResponseScan => scan.faults ≠ [])
    (fun response : MemoryResponse => response.fault ≠ .none)
    (fun _ _ _ _ => scanResponse_faults) hscan (.inr hf)
  rw [if_pos hne] at h
  cases h
  exact hne

theorem scanPackedResponse_faults (h : scanPackedResponse d scan response = .ok scan')
    (hf : scan.faults ≠ [] ∨ response.fault ≠ .none) : scan'.faults ≠ [] := by
  unfold scanPackedResponse at h
  dsimp only at h
  split at h
  · simp only [ok_iff] at h
    obtain ⟨-, h⟩ := h
    by_cases hfault : response.fault ≠ .none
    · simp only [ok_iff, if_pos hfault] at h
      obtain ⟨-, rfl⟩ := h
      simp
    · rw [if_neg hfault] at h
      cases h
      exact hf.resolve_right hfault
  · cases h

theorem completePackedLoad_faults (h : w.completePackedLoad d expected responses = .ok e)
    (hf : ∃ response ∈ responses, response.fault ≠ .none) : e.faults ≠ [] := by
  unfold WarpState.completePackedLoad VortexSim.completePackedLoad completePackedLoadWith at h
  simp only [ok_iff] at h
  obtain ⟨-, -, scan, hscan, -, h⟩ := h
  have hne := foldEach_reaches (fun scan : PackedScan => scan.faults ≠ [])
    (fun response : PackedLoadResponse => response.fault ≠ .none)
    (fun _ _ _ _ => scanPackedResponse_faults) hscan (.inr hf)
  rw [if_pos hne] at h
  cases h
  exact hne

/-- Some access of the instruction faults: in its lane, or at the memory service.  The elements
of a packed load are read where there is no scalar request. -/
def DataService.SomeFault (memory : DataService σ) (s : σ) (e : InstructionEffects) : Prop :=
  e.faults ≠ [] ∨ (∃ request ∈ e.memoryRequests, (memory.respond s request).fault ≠ .none) ∨
    e.memoryRequests = [] ∧ ∃ request ∈ e.packedLoads, (memory.servePacked s request).fault ≠ .none

instance (memory : DataService σ) (s : σ) (e : InstructionEffects) :
    Decidable (memory.SomeFault s e) :=
  inferInstanceAs (Decidable (_ ∨ _ ∨ _))

/-- The step ends in a fault with nothing changed. -/
structure StepResult.Stopped (w : WarpState) (s : σ) (r : StepResult σ) : Prop where
  outcome : r.result.outcome = .fault
  state : r.state = w
  services : r.services = s

theorem StepResult.stopped_error (r : Result) (kind : StepFaultKind) (err : Error) :
    (StepResult.keep (r.stepError kind err) w s).Stopped w s :=
  ⟨rfl, rfl, rfl⟩

theorem StepResult.stopped_fault (r : Result) (faults : List FaultEffect) (cause : List Error) :
    (StepResult.keep (r.architecturalFault faults cause) w s).Stopped w s :=
  ⟨rfl, rfl, rfl⟩

/-- An access whose completion reports a fault stops. -/
theorem Result.finishAccess_stopped (r : Result) (errors : List Error)
    (commit : Result → EffectStage → StepResult σ)
    (hfaults : ∀ e, completed = .ok e → e.faults ≠ []) :
    (r.finishAccess w s completed errors commit).Stopped w s := by
  cases completed with
  | error err => exact StepResult.stopped_error _ _ _
  | ok e =>
    unfold Result.finishAccess
    dsimp only
    split
    · exact StepResult.stopped_error _ _ _
    · rw [if_pos fun hzero => hfaults e rfl (List.length_eq_zero_iff.mp hzero)]
      exact StepResult.stopped_fault _ _ _

theorem DataService.completeMemory_stopped (r : Result) (decoded : Decoded) (expected : LaneMask)
    (h : ∃ request ∈ requests, (memory.respond s request).fault ≠ .none) :
    (memory.completeMemory r w s decoded requests expected).Stopped w s := by
  unfold DataService.completeMemory
  refine r.finishAccess_stopped _ _ fun e hcompleted => ?_
  refine completeMemory_faults (WarpState.completeMemory_eq_ok hcompleted) ?_
  obtain ⟨request, hin, hf⟩ := h
  rw [memory.serve_responses]
  exact ⟨_, List.mem_append_right _ (List.mem_map_of_mem hin), hf⟩

theorem DataService.completePackedLoad_stopped (r : Result) (decoded : Decoded)
    (expected : LaneMask) (h : ∃ request ∈ requests, (memory.servePacked s request).fault ≠ .none) :
    (memory.completePackedLoad r w s decoded requests expected).Stopped w s := by
  refine r.finishAccess_stopped _ _ fun e hcompleted => ?_
  obtain ⟨request, hin, hf⟩ := h
  exact completePackedLoad_faults hcompleted ⟨_, List.mem_map_of_mem hin, hf⟩

theorem Services.route_stopped (hmemory : services.memory = some memory) (r : Result)
    (decoded : Decoded) (stage : EffectStage) (h : memory.SomeFault s e) :
    (services.route r w s decoded e stage).Stopped w s := by
  unfold Services.route
  by_cases hfaults : e.faults.length ≠ 0
  · rw [if_pos hfaults]
    exact StepResult.stopped_fault _ _ _
  · rw [if_neg hfaults]
    rcases h with h | h | ⟨hnone, h⟩
    · exact absurd (List.length_eq_zero_iff.not.mpr h) hfaults
    · obtain ⟨request, hin, -⟩ := id h
      rw [if_pos (List.length_pos_of_mem hin).ne', hmemory]
      exact memory.completeMemory_stopped _ _ _ h
    · obtain ⟨request, hin, -⟩ := id h
      rw [if_neg (not_not.mpr (List.length_eq_zero_iff.mpr hnone)),
        if_pos (List.length_pos_of_mem hin).ne', hmemory]
      exact memory.completePackedLoad_stopped _ _ _ h

/-- A step whose instruction faults on some lane stops. -/
theorem Services.stepBody_stopped (hmemory : services.memory = some memory)
    (hrun : w.lifecycle ≠ .inactive) (hfetch : services.fetch s w.pc 4 = .ok bytes)
    (hdec : decode (littleEndian bytes) = .ok decoded) (he : w.evaluate sf decoded context = .ok e)
    (h : memory.SomeFault s e) : (services.stepBody sf context w s).Stopped w s := by
  unfold Services.stepBody
  rw [if_neg hrun, hfetch]
  split_ifs
  · exact StepResult.stopped_error _ _ _
  · exact StepResult.stopped_error _ _ _
  · unfold Services.execute
    simp only [hdec, he]
    split
    · exact StepResult.stopped_error _ _ _
    · exact services.route_stopped hmemory _ _ _ h

end

/-- A step that neither retires nor takes a trap leaves the warp and every byte of memory as
they were; a load, store or packed load that faults on any lane is such a step. -/
theorem Services.step_unretired_unchanged (sf : SoftFloat) (services : Services σ) (view : σ → β)
    (hmem : ∀ memory ∈ services.memory, memory.AllOrError view) (context : ReadContext)
    (w : WarpState) (s : σ) :
    (services.step sf context w s).Atomic view w s ∧
      ∀ memory bytes decoded e, services.memory = some memory → w.lifecycle ≠ .inactive →
        services.fetch s w.pc 4 = .ok bytes → decode (littleEndian bytes) = .ok decoded →
        w.evaluate sf decoded context = .ok e → memory.SomeFault s e →
        (services.step sf context w s).Stopped w s := by
  refine ⟨(services.stepBody_outcome sf context w s).atomic hmem, ?_⟩
  intro memory bytes decoded e hmemory hrun hfetch hdec he hfault
  obtain ⟨houtcome, hstate, hservices⟩ :=
    services.stepBody_stopped hmemory hrun hfetch hdec he hfault
  exact ⟨houtcome, hstate, hservices⟩

/-- Program and data in one functional memory. -/
def memoryServices : Services Memory where
  fetch := Memory.read
  memory := some { read := Memory.read, write := Memory.write,
                   writeBatch := some Memory.writeBatch }

theorem memoryServices_allOrError :
    ∀ memory ∈ memoryServices.memory, memory.AllOrError Memory.data := by
  rintro memory ⟨⟩
  refine ⟨?_, ?_⟩
  · intro m address bytes herr
    rw [Memory.write_refused m herr]
  · rintro writeBatch ⟨⟩ m addresses sources herr
    rw [Memory.writeBatch_refused m herr]

/-- `sw x1, 0(x2)` in front of four bytes of data. -/
def storeImage : Memory where
  data := [0x23#8, 0x20#8, 0x11#8, 0x00#8, 1#8, 2#8, 3#8, 4#8]
  fits := by decide

/-- A running warp whose lane 0 points at the data and whose lane 1 points outside. -/
def storeWarp : WarpState :=
  { freshWarp 0 with
    activeMask := 0x3#8
    lanes := fun lane =>
      { gpr := fun register =>
          if register.val = 2 then if lane.val = 0 then 4#32 else 4096#32 else 0#32 } }

theorem step_unretired_unchanged_sw :
    (memoryServices.step zeroFloat {} storeWarp storeImage).Stopped storeWarp storeImage := by
  have h := memoryServices.step_unretired_unchanged zeroFloat Memory.data memoryServices_allOrError
    {} storeWarp storeImage
  refine h.2 _ _ _ _ rfl ?_ rfl rfl rfl ?_
  · decide
  · decide +kernel

end VortexSim
