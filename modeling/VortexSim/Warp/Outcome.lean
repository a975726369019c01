import VortexSim.State.Footprint
import VortexSim.Warp.Step

/-!
# What a step can do

A step leaves everything alone, installs the bundle of its instruction, or does so together with
its stores.  It writes at most once, the stores of its instruction together, and a write that the
service refuses leaves the warp alone.
-/

namespace VortexSim

open Checked

variable {σ : Type}

/-- The instruction that a step of the warp fetches. -/
def Services.instruction (services : Services σ) (w : WarpState) (s : σ) :
    Except Error Decoded := do
  let bytes ← services.fetch s w.pc 4
  decode (littleEndian bytes)

/-- A bundle that a step of the warp may install. -/
structure Services.Bundle (services : Services σ) (w : WarpState) (s : σ)
    (e : InstructionEffects) : Prop where
  ok : BundleOk w e
  footprint : ∃ d source, services.instruction w s = .ok d ∧ Footprint d w.activeMask source e

/-- What a step can leave behind. -/
inductive StepOutcome (services : Services σ) (w : WarpState) (s : σ) : StepResult σ → Prop
  | kept (r : Result) : StepOutcome services w s (.keep r w s)
  | installed {r : Result} {e : InstructionEffects} (bundle : services.Bundle w s e)
      (done : r.outcome = .retired ∨ r.outcome = .trap) :
      StepOutcome services w s (.keep r (w.apply e) s)
  | stored {r : Result} {e : InstructionEffects} {memory : DataService σ}
      (bound : memory ∈ services.memory) (stores : List StoreTransaction)
      (bundle : services.Bundle w s e) (done : r.outcome = .retired) :
      StepOutcome services w s (.keep r (w.apply e) (memory.writeStores stores s).1)
  | unstored (r : Result) {memory : DataService σ} (bound : memory ∈ services.memory)
      (stores : List StoreTransaction) (failed : (memory.writeStores stores s).2 ≠ none) :
      StepOutcome services w s (.keep r w (memory.writeStores stores s).1)

/-! ## Commits of a fresh stage -/

theorem stageOf_install (w : WarpState) (e : InstructionEffects) :
    (w.stageOf e).install w = (w.stageOf e).accept :=
  (if_neg Bool.false_ne_true).trans (if_neg (not_not.mpr rfl))

theorem stageOf_commit (w : WarpState) (e : InstructionEffects) : (w.stageOf e).commit w =
      if requiresOwner (forwardedEffects e) then
        (w.stageOf e).refuse w "state: effect stage requires external owner success"
      else (w.stageOf e).accept := by
  unfold EffectStage.commit
  rw [stageOf_install]
  rfl

theorem stageOf_coordinate (w : WarpState) (e : InstructionEffects) (world : ω)
    (apply : ω → ω × Option Error) : (w.stageOf e).coordinate w world apply = match apply world with
      | (world', some err) => (world', { owner := w, stage := w.stageOf e, error := some err })
      | (world', none) => (world', (w.stageOf e).accept) :=
  (if_neg Bool.false_ne_true).trans (if_neg (not_not.mpr rfl))

/-! ## The walk over the step -/

section

variable {services : Services σ} {w : WarpState} {s : σ} {memory : DataService σ} {d : Decoded}
  {e : InstructionEffects}

/-- The warp alone commits the bundle, or the step keeps everything. -/
theorem StepOutcome.commit (bundle : services.Bundle w s e) (r : Result)
    (houtcome : outcome = .retired ∨ outcome = .trap) :
    StepOutcome services w s (.commit r outcome s ((w.stageOf e).commit w)) := by
  rw [stageOf_commit]
  cases requiresOwner (forwardedEffects e) with
  | true => exact .kept _
  | false => exact .installed bundle houtcome

theorem DataService.commitAccess_outcome (bound : memory ∈ services.memory)
    (bundle : services.Bundle w s e) (r : Result) (expected : LaneMask)
    (requests : List MemoryRequest) (stores : List StoreTransaction) :
    StepOutcome services w s
      (memory.commitAccess r w s d expected requests stores (w.stageOf e)) := by
  unfold DataService.commitAccess
  split
  · unfold EffectStage.commitWithExternal
    rw [stageOf_coordinate]
    cases (w.stageOf e).requiresExternal with
    | true => exact .kept _
    | false =>
      dsimp only
      cases hwrite : (memory.writeStores stores s).2 with
      | some err => exact .unstored _ bound stores (hwrite ▸ Option.some_ne_none err)
      | none => exact .stored bound stores bundle rfl
  · exact .commit bundle r (.inl rfl)

theorem Result.finishAccess_outcome (hd : services.instruction w s = .ok d) (r : Result)
    (errors : List Error) {commit : Result → EffectStage → StepResult σ}
    (hfoot : ∀ e, completed = .ok e → Footprint d w.activeMask 0#32 e)
    (hcommit : ∀ r e, services.Bundle w s e → StepOutcome services w s (commit r (w.stageOf e))) :
    StepOutcome services w s (r.finishAccess w s completed errors commit) := by
  cases completed with
  | error err => exact .kept _
  | ok e =>
    unfold Result.finishAccess
    dsimp only
    cases hstage : w.stageEffects e with
    | error err => exact .kept _
    | ok stage =>
      obtain ⟨hok, rfl⟩ := stageEffects_eq_ok.mp hstage
      dsimp only
      split
      · exact .kept _
      · exact hcommit _ e ⟨hok, d, 0#32, hd, hfoot e rfl⟩

theorem DataService.completeMemory_outcome (bound : memory ∈ services.memory)
    (hd : services.instruction w s = .ok d) (r : Result) (requests : List MemoryRequest) :
    StepOutcome services w s (memory.completeMemory r w s d requests w.activeMask) :=
  r.finishAccess_outcome hd _
    (fun _ h => (completeMemory_lawful (WarpState.completeMemory_eq_ok h)).footprint)
    fun r _ bundle => memory.commitAccess_outcome bound bundle r _ _ _

theorem DataService.completePackedLoad_outcome (hd : services.instruction w s = .ok d) (r : Result)
    (requests : List PackedLoadRequest) :
    StepOutcome services w s (memory.completePackedLoad r w s d requests w.activeMask) :=
  r.finishAccess_outcome hd _ (fun _ h => (completePackedLoadWith_lawful h).footprint)
    fun r _ bundle => .commit bundle r (.inl rfl)

theorem Services.route_outcome (hd : services.instruction w s = .ok d)
    (bundle : services.Bundle w s e) (r : Result) :
    StepOutcome services w s (services.route r w s d e (w.stageOf e)) := by
  unfold Services.route
  split
  · exact .kept _
  split
  · cases hmemory : services.memory with
    | none => exact .kept _
    | some memory => exact memory.completeMemory_outcome hmemory hd r e.memoryRequests
  split
  · cases services.memory with
    | none => exact .kept _
    | some memory => exact memory.completePackedLoad_outcome hd r e.packedLoads
  split
  · unfold Services.commitOrdering EffectStage.commitAfterExternal
    rw [stageOf_install]
    split
    · exact .kept _
    · cases (w.stageOf e).requiresExternal with
      | true => exact .installed bundle (.inl rfl)
      | false => exact .kept _
  split
  · exact .kept _
  refine .commit bundle r ?_
  cases e.trap.isSome with
  | true => exact .inr rfl
  | false => exact .inl rfl

theorem Services.stepBody_outcome (sf : SoftFloat) (services : Services σ) (context : ReadContext)
    (w : WarpState) (s : σ) :
    StepOutcome services w s (services.stepBody sf context w s) := by
  unfold Services.stepBody
  split
  · exact .kept _
  split
  · exact .kept _
  split
  · exact .kept _
  cases hfetch : services.fetch s w.pc 4 with
  | error err => exact .kept _
  | ok bytes =>
    dsimp only
    unfold Services.execute
    cases hdecode : decode (littleEndian bytes) with
    | error err => exact .kept _
    | ok d =>
      have hd : services.instruction w s = .ok d := bind_eq_ok.mpr ⟨bytes, hfetch, hdecode⟩
      dsimp only
      cases heval : w.evaluate sf d context with
      | error err => exact .kept _
      | ok e =>
        obtain ⟨sources, -, heval⟩ := bind_eq_ok.mp heval
        have hfoot := (WarpState.evaluateOperands_lawful heval).footprint
        dsimp only
        cases hstage : w.stageEffects e with
        | error err => exact .kept _
        | ok stage =>
          obtain ⟨hok, rfl⟩ := stageEffects_eq_ok.mp hstage
          exact services.route_outcome hd ⟨hok, d, _, hd, hfoot⟩ _

end

section

variable {w : WarpState} {s : σ} {r : StepResult σ}

theorem StepOutcome.state (h : StepOutcome calls w s r) :
    r.state = w ∨ ∃ e, calls.Bundle w s e ∧ r.state = w.apply e := by
  cases h with
  | kept r => exact .inl rfl
  | installed bundle => exact .inr ⟨_, bundle, rfl⟩
  | stored bound stores bundle => exact .inr ⟨_, bundle, rfl⟩
  | unstored r bound stores failed => exact .inl rfl

/-- The services are as before, or have taken one batch of stores. -/
theorem StepOutcome.services (h : StepOutcome calls w s r) : r.services = s ∨
      ∃ memory ∈ calls.memory, ∃ stores, r.services = (memory.writeStores stores s).1 := by
  cases h with
  | kept r => exact .inl rfl
  | installed bundle => exact .inl rfl
  | stored bound stores bundle => exact .inr ⟨_, bound, stores, rfl⟩
  | unstored r bound stores failed => exact .inr ⟨_, bound, stores, rfl⟩

end

end VortexSim
