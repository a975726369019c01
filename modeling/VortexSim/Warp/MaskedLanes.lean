import VortexSim.State.ActiveLanes
import VortexSim.State.Refusals
import VortexSim.Warp.Atomic

/-!
# Masked-off lanes

A step neither reads nor writes the registers of the lanes that are masked off.  Two warps that
differ there only take the same step: the same report, with the effects and therefore the memory
accesses of the instruction, the same services afterwards, and states that again differ there
only.  Two exceptions are part of the instruction set: a CSR instruction with a register source
reads lane zero whether it is active or not, and a gather writes all lanes but one.
-/

namespace VortexSim

open Checked

variable {σ : Type}

/-- Two results of a step that differ at most in the registers of the lanes outside a mask. -/
structure StepResult.AgreeOn (mask : LaneMask) (r r' : StepResult σ) : Prop where
  result : r.result = r'.result
  state : r.state.AgreeOn mask r'.state
  services : r.services = r'.services

section

variable {mask : LaneMask} {w : WarpState} {lanes : Lane → LaneState} {s : σ}

theorem WarpState.apply_agree (h : w.AgreeOn mask (w.setLanes lanes)) (e : InstructionEffects) :
    (w.apply e).AgreeOn mask ((w.setLanes lanes).apply e) where
  others := by
    rw [w.apply_setLanes lanes e]
    rfl
  lanes := by
    intro lane hl
    rw [WarpState.apply_lanes, WarpState.apply_lanes]
    exact WarpState.writeAll_lanes_congr (h.lanes lane hl) e.registerWrites

/-- The same refusal, or the same bundle carried out. -/
theorem stageEffects_agree (w : WarpState) (lanes : Lane → LaneState) (e : InstructionEffects) :
    (∃ err, w.stageEffects e = .error err ∧ (w.setLanes lanes).stageEffects e = .error err) ∨
      w.stageEffects e = .ok (w.stageOf e) ∧
        (w.setLanes lanes).stageEffects e = .ok ((w.setLanes lanes).stageOf e) := by
  have hverdict := stageEffects_verdict w lanes e
  cases hstage : w.stageEffects e with
  | error err => exact .inl ⟨err, rfl, error_of_verdict hverdict hstage⟩
  | ok stage =>
    refine .inr ⟨congrArg Except.ok (stageEffects_eq_ok.mp hstage).2.symm, ?_⟩
    cases hother : (w.setLanes lanes).stageEffects e with
    | error err => cases hstage.symm.trans (error_of_verdict hverdict.symm hother)
    | ok other => exact congrArg Except.ok (stageEffects_eq_ok.mp hother).2.symm

theorem Result.storeFailed_setLanes (r : Result) (w : WarpState) (lanes : Lane → LaneState)
    (d : Decoded) (expected : LaneMask) (requests : List MemoryRequest) (err : Error) :
    r.storeFailed (w.setLanes lanes) d expected requests err =
      r.storeFailed w d expected requests err := by
  have hcomplete : (w.setLanes lanes).completeMemory d expected (failedStore requests).1 =
      w.completeMemory d expected (failedStore requests).1 := rfl
  unfold Result.storeFailed
  rw [hcomplete]
  cases w.completeMemory d expected (failedStore requests).1 with
  | error completionErr => rfl
  | ok failed =>
    dsimp only
    rcases stageEffects_agree w lanes failed with ⟨err', h, h'⟩ | ⟨h, h'⟩ <;> rw [h, h']

theorem StepResult.AgreeOn.commit (h : w.AgreeOn mask (w.setLanes lanes)) (r : Result)
    (outcome : Outcome) (e : InstructionEffects) :
    (StepResult.commit r outcome s ((w.stageOf e).commit w)).AgreeOn mask
      (.commit r outcome s (((w.setLanes lanes).stageOf e).commit (w.setLanes lanes))) := by
  rw [stageOf_commit, stageOf_commit]
  cases requiresOwner (forwardedEffects e) with
  | true => exact ⟨rfl, h, rfl⟩
  | false => exact ⟨rfl, WarpState.apply_agree h e, rfl⟩

theorem DataService.commitAccess_agree (memory : DataService σ)
    (h : w.AgreeOn mask (w.setLanes lanes)) (r : Result) (d : Decoded) (expected : LaneMask)
    (requests : List MemoryRequest) (stores : List StoreTransaction) (e : InstructionEffects) :
    (memory.commitAccess r w s d expected requests stores (w.stageOf e)).AgreeOn mask
      (memory.commitAccess r (w.setLanes lanes) s d expected requests stores
        ((w.setLanes lanes).stageOf e)) := by
  unfold DataService.commitAccess
  by_cases hstores : stores.length ≠ 0
  · rw [if_pos hstores, if_pos hstores]
    unfold EffectStage.commitWithExternal
    rw [stageOf_coordinate, stageOf_coordinate]
    cases hrequires : requiresOwner (forwardedEffects e) with
    | true =>
      have hw : (w.stageOf e).requiresExternal = true := hrequires
      have hw' : ((w.setLanes lanes).stageOf e).requiresExternal = true := hrequires
      rw [hw, hw']
      exact ⟨rfl, h, rfl⟩
    | false =>
      have hw : (w.stageOf e).requiresExternal = false := hrequires
      have hw' : ((w.setLanes lanes).stageOf e).requiresExternal = false := hrequires
      rw [hw, hw']
      dsimp only
      cases (memory.writeStores stores s).2 with
      | some err =>
        exact ⟨(Result.storeFailed_setLanes r w lanes d expected requests err).symm, h, rfl⟩
      | none => exact ⟨rfl, WarpState.apply_agree h e, rfl⟩
  · rw [if_neg hstores, if_neg hstores]
    exact .commit h r .retired e

theorem Result.finishAccess_agree (r : Result) (h : w.AgreeOn mask (w.setLanes lanes))
    (completed : Except Error InstructionEffects) (errors : List Error)
    {commit commit' : Result → EffectStage → StepResult σ}
    (hcommit : ∀ r e, (commit r (w.stageOf e)).AgreeOn mask
      (commit' r ((w.setLanes lanes).stageOf e))) :
    (r.finishAccess w s completed errors commit).AgreeOn mask
      (r.finishAccess (w.setLanes lanes) s completed errors commit') := by
  cases completed with
  | error err => exact ⟨rfl, h, rfl⟩
  | ok completed =>
    unfold Result.finishAccess
    dsimp only
    rcases stageEffects_agree w lanes completed with ⟨err, hw, hw'⟩ | ⟨hw, hw'⟩
    · rw [hw, hw']
      exact ⟨rfl, h, rfl⟩
    · rw [hw, hw']
      dsimp only
      split
      · exact ⟨rfl, h, rfl⟩
      · exact hcommit _ completed

theorem DataService.completeMemory_agree (memory : DataService σ)
    (h : w.AgreeOn mask (w.setLanes lanes)) (r : Result) (d : Decoded)
    (requests : List MemoryRequest) (expected : LaneMask) :
    (memory.completeMemory r w s d requests expected).AgreeOn mask
      (memory.completeMemory r (w.setLanes lanes) s d requests expected) :=
  r.finishAccess_agree h _ _ fun r e => memory.commitAccess_agree h r d expected requests _ e

theorem DataService.completePackedLoad_agree (memory : DataService σ)
    (h : w.AgreeOn mask (w.setLanes lanes)) (r : Result) (d : Decoded)
    (requests : List PackedLoadRequest) (expected : LaneMask) :
    (memory.completePackedLoad r w s d requests expected).AgreeOn mask
      (memory.completePackedLoad r (w.setLanes lanes) s d requests expected) :=
  r.finishAccess_agree h _ _ fun r e => .commit h r .retired e

theorem Services.route_agree (services : Services σ) (h : w.AgreeOn mask (w.setLanes lanes))
    (r : Result) (d : Decoded) (e : InstructionEffects) :
    (services.route r w s d e (w.stageOf e)).AgreeOn mask
      (services.route r (w.setLanes lanes) s d e ((w.setLanes lanes).stageOf e)) := by
  unfold Services.route
  by_cases hfaults : e.faults.length ≠ 0
  · rw [if_pos hfaults, if_pos hfaults]
    exact ⟨rfl, h, rfl⟩
  rw [if_neg hfaults, if_neg hfaults]
  by_cases hrequests : e.memoryRequests.length ≠ 0
  · rw [if_pos hrequests, if_pos hrequests]
    cases services.memory with
    | none => exact ⟨rfl, h, rfl⟩
    | some memory => exact memory.completeMemory_agree h r d e.memoryRequests w.activeMask
  rw [if_neg hrequests, if_neg hrequests]
  by_cases hpacked : e.packedLoads.length ≠ 0
  · rw [if_pos hpacked, if_pos hpacked]
    cases services.memory with
    | none => exact ⟨rfl, h, rfl⟩
    | some memory => exact memory.completePackedLoad_agree h r d e.packedLoads w.activeMask
  rw [if_neg hpacked, if_neg hpacked]
  have hexternal : ((w.setLanes lanes).stageOf e).requiresExternal =
    (w.stageOf e).requiresExternal := rfl
  rw [hexternal]
  split
  · rename_i hordering
    unfold Services.commitOrdering EffectStage.commitAfterExternal
    rw [stageOf_install, stageOf_install, hexternal, hordering.2]
    split
    · exact ⟨rfl, h, rfl⟩
    · exact ⟨rfl, WarpState.apply_agree h e, rfl⟩
  · split
    · exact ⟨rfl, h, rfl⟩
    · exact .commit h r _ e

/-! ## Registers of inactive lanes -/

/-- A bundle that writes active lanes only. -/
theorem Footprint.apply_lanes (h : Footprint d w.activeMask source e) (hname : d.name ≠ .wgather)
    {lane : Lane} (hl : w.activeMask.active lane = false) :
    (w.apply e).lanes lane = w.lanes lane := by
  rw [WarpState.apply_lanes]
  refine w.writeAll_lanes_of_inactive fun write hw => Bool.eq_false_iff.mpr fun hmask => ?_
  exact Bool.eq_false_iff.mp hl (h.lanes hname write hw lane hmask)

end

/-! ## The step -/

variable (sf : SoftFloat) (services : Services σ) (context : ReadContext) {w : WarpState} {s : σ}

namespace Services

/-- A fetched word. -/
theorem execute_agree (h : w.AgreeOn w.activeMask (w.setLanes lanes))
    (hcsr : ∀ d, decode raw = .ok d → ¬ d.registerCSR)
    (hlane : w.activeMask.active (decisionLane w.activeMask) = true) (r : Result) :
    (services.execute sf context r w s raw).AgreeOn w.activeMask
      (services.execute sf context r (w.setLanes lanes) s raw) := by
  unfold execute
  cases hdecode : decode raw with
  | error err => exact ⟨rfl, h, rfl⟩
  | ok d =>
    dsimp only
    rw [WarpState.evaluate_agree sf h (hcsr d hdecode) hlane]
    cases w.evaluate sf d context with
    | error err => exact ⟨rfl, h, rfl⟩
    | ok e =>
      dsimp only
      rcases stageEffects_agree w lanes e with ⟨err, hw, hw'⟩ | ⟨hw, hw'⟩
      · rw [hw, hw']
        exact ⟨rfl, h, rfl⟩
      · rw [hw, hw']
        exact services.route_agree h _ d e

theorem stepBody_agree (h : w.AgreeOn w.activeMask (w.setLanes lanes))
    (hcsr : ∀ d, services.instruction w s = .ok d → ¬ d.registerCSR) :
    (services.stepBody sf context w s).AgreeOn w.activeMask
      (services.stepBody sf context (w.setLanes lanes) s) := by
  have hlifecycle : (w.setLanes lanes).lifecycle = w.lifecycle := rfl
  have hmask : (w.setLanes lanes).activeMask = w.activeMask := rfl
  have hpc : (w.setLanes lanes).pc = w.pc := rfl
  unfold stepBody
  rw [hlifecycle, hmask, hpc]
  split
  · exact ⟨rfl, h, rfl⟩
  split
  · exact ⟨rfl, h, rfl⟩
  rename_i hvalid
  split
  · exact ⟨rfl, h, rfl⟩
  unfold instruction at hcsr
  cases hfetch : services.fetch s w.pc 4 with
  | error err => exact ⟨rfl, h, rfl⟩
  | ok bytes =>
    rw [hfetch] at hcsr
    have hlane := decisionLane_active (not_not.mp (not_or.mp hvalid).1) (not_or.mp hvalid).2
    exact services.execute_agree sf context h hcsr hlane w.startResult

theorem step_agree (h : w.AgreeOn w.activeMask w')
    (hcsr : ∀ d, services.instruction w s = .ok d → ¬ d.registerCSR) :
    (services.step sf context w s).AgreeOn w.activeMask (services.step sf context w' s) := by
  have hw' : w.setLanes w'.lanes = w' := h.others
  rw [← hw'] at h ⊢
  obtain ⟨hresult, hstate, hservices⟩ := services.stepBody_agree sf context h hcsr
  refine ⟨?_, hstate, hservices⟩
  unfold step
  dsimp only
  rw [hresult, ← hstate.others]
  rfl

theorem step_lanes {lane : Lane} (hl : w.activeMask.active lane = false)
    (hgather : ∀ d, services.instruction w s = .ok d → d.name ≠ .wgather) :
    (services.step sf context w s).state.lanes lane = w.lanes lane := by
  rcases (services.stepBody_outcome sf context w s).state with hkept | ⟨e, bundle, happlied⟩
  · exact congrArg (fun state => state.lanes lane) hkept
  · obtain ⟨d, source, hd, hfoot⟩ := bundle.footprint
    exact (congrArg (fun state => state.lanes lane) happlied).trans
      (hfoot.apply_lanes (hgather d hd) hl)

/-- Masked-off lanes neither influence a step nor are touched by it. -/
theorem step_isolates_inactive_lanes (sf : SoftFloat) (services : Services σ)
    (context : ReadContext) (w : WarpState) (s : σ) :
    (∀ w', w.AgreeOn w.activeMask w' → (∀ d, services.instruction w s = .ok d → ¬ d.registerCSR) →
        (services.step sf context w s).AgreeOn w.activeMask (services.step sf context w' s)) ∧
    ∀ lane : Lane, w.activeMask.active lane = false →
      (∀ d, services.instruction w s = .ok d → d.name ≠ .wgather) →
        (services.step sf context w s).state.lanes lane = w.lanes lane :=
  ⟨fun _ h hcsr => services.step_agree sf context h hcsr,
    fun _ hl hgather => services.step_lanes sf context hl hgather⟩

end Services

/-- `vote.ballot x3, x1`. -/
def ballotImage : Memory where
  data := [0x8b#8, 0xb1#8, 0x00#8, 0x02#8]
  fits := by decide

/-- A running warp with lanes 0 and 2 active, and `hidden` in lane 1. -/
def ballotWarp (hidden : Word) : WarpState :=
  { freshWarp 0 with
    activeMask := 0x5#8
    lanes := fun lane =>
      { gpr := fun register =>
          if register.val = 1 then if lane.val = 1 then hidden else 1#32 else 0#32 } }

theorem ballot_isolates_lane : ballotWarp 0#32 ≠ ballotWarp 1#32 ∧
      (memoryServices.step zeroFloat {} (ballotWarp 0#32) ballotImage).AgreeOn 0x5#8
        (memoryServices.step zeroFloat {} (ballotWarp 1#32) ballotImage) ∧
      (memoryServices.step zeroFloat {} (ballotWarp 0#32) ballotImage).state.lanes 1 =
        (ballotWarp 0#32).lanes 1 := by
  have hvote : (memoryServices.instruction (ballotWarp 0#32) ballotImage).toOption.map
      (fun d => (d.csr, d.name)) = some (.none, .voteBallot) := by decide +kernel
  have hd (d : Decoded) (hd : memoryServices.instruction (ballotWarp 0#32) ballotImage = .ok d) :
      d.csr = .none ∧ d.name = .voteBallot := by
    rw [hd] at hvote
    exact Prod.mk.inj (Option.some.inj hvote)
  have hagree : (ballotWarp 0#32).AgreeOn (ballotWarp 0#32).activeMask (ballotWarp 1#32) :=
    ⟨rfl, by decide⟩
  have h := memoryServices.step_isolates_inactive_lanes zeroFloat {} (ballotWarp 0#32) ballotImage
  refine ⟨by decide, h.1 (ballotWarp 1#32) hagree fun d hi hregister => ?_,
    h.2 1 rfl fun d hi hname => ?_⟩
  · exact hregister.1 (hd d hi).1
  · cases (hd d hi).2.symm.trans hname

end VortexSim
