import VortexSim.Lib.Lists
import VortexSim.State.Invariant

/-!
# The spawn transaction

A WSPAWN moves the PC of its source and starts the warps below the requested count, all at
once or not at all.  Staging scans the target list: every entry names a selected warp, no
warp and no owner twice, its owner is inactive and still the image that the issue of the
instruction saw.  The commit checks source and targets again before it writes the first of
them.

At the activation edge of a streamed delivery the image of each target is the live one, so
an old image is no reason to refuse there, and the source goes on from its latched PC.
-/

namespace VortexSim

open Checked

theorem installAll_of_mem (owners : Owners) (h : ∃ c ∈ targets, c.owner = o) :
    ∃ c ∈ targets, c.owner = o ∧ installAll owners targets o = c.after :=
  Lists.foldl_update_of_mem OwnerCandidate.owner OwnerCandidate.after owners h

theorem installAll_of_not_mem (owners : Owners) (h : ∀ c ∈ targets, c.owner ≠ o) :
    installAll owners targets o = owners o :=
  Lists.foldl_update_of_not_mem OwnerCandidate.owner OwnerCandidate.after owners h

section

variable {owners owners' staged : Owners} {o : Owner} {source : EffectStage} {pc : Option Word}
  {spawn : WarpSpawnEffect} {targets : List WarpSpawnTarget} {s s' : WarpSpawnStage}
  {d : EffectDelivery} {stream : EffectStream} {activation : Bool}

/-! ## Staging -/

/-- When the source of a spawn is accepted. -/
structure SpawnSourceOk (owners : Owners) (o : Owner) (source : EffectStage) (pc : Option Word)
    (spawn : WarpSpawnEffect) : Prop where
  live : source.before = owners o
  forwarded : source.forwarded.warpSpawn = some spawn
  frozen : validateFrozenSpawn (owners o).id spawn = .ok ()
  mscratch : spawn.mscratch = (owners o).trapCSRs.mscratch
  after : source.after = { owners o with pc := pc.getD (owners o).pc + 4#32 }

theorem validateSpawnSource_ok (h : validateSpawnSource owners o source pc = .ok spawn) :
    SpawnSourceOk owners o source pc spawn := by
  unfold validateSpawnSource at h
  simp only [ok_iff, ne_eq, not_not] at h
  obtain ⟨-, -, hlive, h⟩ := h
  split at h
  · cases h
  · rename_i effect heffect
    simp only [ok_iff, not_or, not_not] at h
    obtain ⟨-, hfrozen, ⟨-, -, hscratch⟩, hafter, rfl⟩ := h
    rw [← hlive] at hscratch hafter
    exact ⟨hlive.symm, heffect, hfrozen, hscratch, hafter⟩

/-- When a target of a spawn is accepted. -/
@[mk_iff] structure SpawnTargetOk (owners : Owners) (spawn : WarpSpawnEffect)
    (target : WarpSpawnTarget) : Prop where
  number : target.warpID < frozenWarpCount
  selected : spawn.targets.getLsbD target.warpID = true
  owned : (owners target.owner).id = target.warpID
  fresh : owners target.owner = target.expected
  inactive : (owners target.owner).lifecycle = .inactive
  masked : (owners target.owner).activeMask = 0#8

/-- What the transaction makes of one target. -/
def WarpSpawnTarget.candidate (owners : Owners) (spawn : WarpSpawnEffect)
    (target : WarpSpawnTarget) : OwnerCandidate where
  owner := target.owner
  before := owners target.owner
  after := spawnCandidate spawn (owners target.owner)

theorem scanSpawnTarget_ok (h : scanSpawnTarget owners spawn i scan target = .ok scan') :
    SpawnTargetOk owners spawn target ∧ target.warpID ∉ scan.ids ∧ target.owner ∉ scan.used ∧
      scan' = { candidates := scan.candidates ++ [target.candidate owners spawn]
                ids := target.warpID :: scan.ids
                used := target.owner :: scan.used } := by
  unfold scanSpawnTarget at h
  simp only [ok_iff, not_or, not_not, Nat.not_le, Bool.not_eq_false] at h
  obtain ⟨⟨hlt, hbit⟩, hid, hused, howned, ⟨hfresh, -⟩, ⟨hlife, hmask⟩, rfl⟩ := h
  exact ⟨⟨hlt, hbit, howned, hfresh, hlife, hmask⟩, hid, hused, rfl⟩

/-- When a target list is accepted. -/
structure SpawnTargetsOk (owners : Owners) (o : Owner) (spawn : WarpSpawnEffect)
    (targets : List WarpSpawnTarget) : Prop where
  each : ∀ target ∈ targets, SpawnTargetOk owners spawn target
  ids : (targets.map WarpSpawnTarget.warpID).Nodup
  used : (o :: targets.map WarpSpawnTarget.owner).Nodup
  complete : ∀ id ∈ selectedWarps spawn.targets, id ∈ targets.map WarpSpawnTarget.warpID

/-- What an accepted spawn is: one candidate for each entry of an accepted list. -/
theorem stageWarpSpawn_ok (h : stageWarpSpawn owners o source targets pc = .ok s) :
    ∃ spawn, SpawnSourceOk owners o source pc spawn ∧ SpawnTargetsOk owners o spawn targets ∧
      s = { sourceOwner := o, source
            targets := targets.map (WarpSpawnTarget.candidate owners spawn) } := by
  unfold stageWarpSpawn at h
  simp only [ok_iff, each_rejectIf_eq_ok, not_not] at h
  obtain ⟨spawn, hspawn, -, scan, hscan, hcomplete, rfl⟩ := h
  have hids : scan.ids.reverse = targets.map WarpSpawnTarget.warpID := by
    refine (foldEach_collects (fun scan => scan.ids.reverse) _ ?_ hscan).trans (List.nil_append _)
    intro i scan target scan' hstep
    obtain ⟨-, -, -, rfl⟩ := scanSpawnTarget_ok hstep
    exact List.reverse_cons
  have hused : scan.used.reverse = o :: targets.map WarpSpawnTarget.owner := by
    refine foldEach_collects (fun scan => scan.used.reverse) _ ?_ hscan
    intro i scan target scan' hstep
    obtain ⟨-, -, -, rfl⟩ := scanSpawnTarget_ok hstep
    exact List.reverse_cons
  have hcandidates : scan.candidates = targets.map (WarpSpawnTarget.candidate owners spawn) := by
    refine (foldEach_collects TargetScan.candidates _ ?_ hscan).trans (List.nil_append _)
    intro i scan target scan' hstep
    obtain ⟨-, -, -, rfl⟩ := scanSpawnTarget_ok hstep
    rfl
  have hnodup : scan.ids.Nodup ∧ scan.used.Nodup := by
    refine foldEach_invariant (fun scan => scan.ids.Nodup ∧ scan.used.Nodup) ?_ hscan
      ⟨List.nodup_nil, List.nodup_singleton o⟩
    rintro i scan target scan' - hstep ⟨hn, hm⟩
    obtain ⟨-, hid, howner, rfl⟩ := scanSpawnTarget_ok hstep
    exact ⟨List.nodup_cons.mpr ⟨hid, hn⟩, List.nodup_cons.mpr ⟨howner, hm⟩⟩
  refine ⟨spawn, validateSpawnSource_ok hspawn, ⟨?_, ?_, ?_, ?_⟩, by rw [hcandidates]⟩
  · exact foldEach_entries (fun i scan target scan' hstep => (scanSpawnTarget_ok hstep).1) hscan
  · rw [← hids]
    exact List.nodup_reverse.mpr hnodup.1
  · rw [← hused]
    exact List.nodup_reverse.mpr hnodup.2
  · intro id hid
    rw [← hids]
    exact List.mem_reverse.mpr (hcomplete id hid)

theorem stageWarpSpawn_sound (h : stageWarpSpawn owners o source targets pc = .ok s) :
    s.source = source ∧ s.sourceOwner = o ∧ ∀ c ∈ s.targets, c.Sound := by
  obtain ⟨spawn, hsource, -, rfl⟩ := stageWarpSpawn_ok h
  refine ⟨rfl, rfl, fun c hc => ?_⟩
  obtain ⟨target, -, rfl⟩ := List.mem_map.mp hc
  exact spawnCandidate_sound hsource.frozen _

/-! ## Commit -/

/-- A spawn carried out.  The source goes on at the instruction after `pc`, the warps below the
requested count start at lane 0 with the `mscratch` of the source, and nothing else moves. -/
structure SpawnApplied (owners : Owners) (o : Owner) (spawn : WarpSpawnEffect) (pc : Word)
    (targets : List WarpSpawnTarget) (owners' : Owners) : Prop where
  ids : ∀ id, id ∈ targets.map WarpSpawnTarget.warpID ↔
    id < frozenWarpCount ∧ id < spawn.requestedCount ∧ id ≠ (owners o).id
  owned : ∀ target ∈ targets, (owners target.owner).id = target.warpID
  source : owners' o = { owners o with pc := pc + 4#32 }
  started : ∀ target ∈ targets, owners' target.owner = { owners target.owner with
    pc := spawn.targetPC
    activeMask := 1#8
    lifecycle := .running
    trapCSRs := { (owners target.owner).trapCSRs with
      mscratch := (owners o).trapCSRs.mscratch } }
  others : ∀ p, p ≠ o → p ∉ targets.map WarpSpawnTarget.owner → owners' p = owners p

/-- The list has a running, repeated or foreign target. -/
def UnfitTargets (owners : Owners) (o : Owner) (targets : List WarpSpawnTarget) : Prop :=
  (∃ target ∈ targets, (owners target.owner).lifecycle ≠ .inactive ∨
    (owners target.owner).activeMask ≠ 0#8 ∨ (owners target.owner).id ≠ target.warpID) ∨
  ¬ (targets.map WarpSpawnTarget.warpID).Nodup ∨
  ¬ (o :: targets.map WarpSpawnTarget.owner).Nodup

/-- Some target is not the image it is listed with. -/
def StaleTargets (owners : Owners) (targets : List WarpSpawnTarget) : Prop :=
  ∃ target ∈ targets, owners target.owner ≠ target.expected

/-- The selected warps are those the frozen contract asks for. -/
theorem validateFrozenSpawn_selected {id : Nat} (h : validateFrozenSpawn id spawn = .ok ())
    (other : Nat) :
    other < frozenWarpCount ∧ spawn.targets.getLsbD other = true ↔
      other < frozenWarpCount ∧ other < spawn.requestedCount ∧ other ≠ id := by
  unfold validateFrozenSpawn at h
  simp only [ok_iff, not_or, not_not, Nat.not_le, Nat.not_lt] at h
  obtain ⟨⟨-, hid⟩, -, hcount, htargets, -⟩ := h
  have hbits : ∀ id < frozenWarpCount, ∀ n ≤ 7, ∀ other < frozenWarpCount,
      (spawnTargets id n).getLsbD other = true ↔ other < n ∧ other ≠ id := by decide
  refine and_congr_right fun hother => ?_
  rw [htargets]
  exact hbits id hid _ hcount other hother

theorem SpawnTargetsOk.fit (h : SpawnTargetsOk owners o spawn targets) :
    ¬ UnfitTargets owners o targets ∧ ¬ StaleTargets owners targets := by
  refine ⟨?_, fun ⟨target, hin, hne⟩ => hne (h.each target hin).fresh⟩
  rintro (⟨target, hin, hrun | hmask | hid⟩ | hids | hused)
  · exact hrun (h.each target hin).inactive
  · exact hmask (h.each target hin).masked
  · exact hid (h.each target hin).owned
  · exact hids h.ids
  · exact hused h.used

/-- A committed spawn.  The store may have moved since staging, but not at source and targets. -/
theorem spawn_committed (h : stageWarpSpawn staged o source targets pc = .ok s)
    (hcommit : s.commit owners = .ok (owners', s')) :
    ∃ spawn, SpawnSourceOk staged o source pc spawn ∧ SpawnTargetsOk owners o spawn targets ∧
      SpawnApplied owners o spawn (pc.getD (owners o).pc) targets owners' := by
  obtain ⟨spawn, hsource, htargets, rfl⟩ := stageWarpSpawn_ok h
  unfold WarpSpawnStage.commit at hcommit
  simp only [ok_iff, Prod.mk.injEq, ne_eq, not_not] at hcommit
  obtain ⟨-, hlive, hfresh, rfl, -⟩ := hcommit
  have hsame : ∀ target ∈ targets, staged target.owner = owners target.owner := by
    intro target hin
    by_contra hne
    exact hfresh ⟨target.candidate staged spawn, List.mem_map_of_mem hin, fun he => hne he.symm⟩
  rw [hsource.live] at hlive
  have hapart := (List.nodup_cons.mp htargets.used).1
  have hfrozen := hsource.frozen
  rw [← hlive] at hfrozen
  refine ⟨spawn, hsource, ⟨fun target hin => ?_, htargets.ids, htargets.used, htargets.complete⟩,
    ⟨fun id => ?_, fun target hin => ?_, ?_, fun target hin => ?_, fun p hp hpt => ?_⟩⟩
  · have hok := htargets.each target hin
    rw [spawnTargetOk_iff, hsame target hin, ← spawnTargetOk_iff] at hok
    exact hok
  · rw [← validateFrozenSpawn_selected hfrozen]
    constructor
    · intro hmem
      obtain ⟨target, hin, rfl⟩ := List.mem_map.mp hmem
      exact ⟨(htargets.each target hin).number, (htargets.each target hin).selected⟩
    · intro hsel
      exact htargets.complete id (List.mem_filter.mpr ⟨List.mem_range.mpr hsel.1, hsel.2⟩)
  · rw [← hsame target hin]
    exact (htargets.each target hin).owned
  · rw [installAll_of_not_mem]
    · rw [Function.update_self, hlive]
      exact hsource.after
    · intro c hc he
      obtain ⟨target, hin, rfl⟩ := List.mem_map.mp hc
      exact hapart (he ▸ List.mem_map_of_mem hin)
  · have hlisted : ∃ c ∈ targets.map (WarpSpawnTarget.candidate staged spawn),
        c.owner = target.owner := ⟨_, List.mem_map_of_mem hin, rfl⟩
    obtain ⟨c, hc, howner, hafter⟩ :=
      installAll_of_mem (Function.update owners o source.after) hlisted
    obtain ⟨other, -, rfl⟩ := List.mem_map.mp hc
    change other.owner = target.owner at howner
    refine hafter.trans ?_
    change spawnCandidate spawn (staged other.owner) = _
    rw [howner, hsame target hin, spawnCandidate, hsource.mscratch, hlive]
    have hlane : spawn.initialLaneMask = 1#8 := by
      unfold validateFrozenSpawn at hfrozen
      simp only [ok_iff, not_or, not_not] at hfrozen
      exact hfrozen.2.2.2.2.2.1
    rw [hlane]
  · rw [installAll_of_not_mem, Function.update_of_ne hp]
    intro c hc he
    obtain ⟨target, hin, rfl⟩ := List.mem_map.mp hc
    exact hpt (he ▸ List.mem_map_of_mem hin)

/-! ## Delivery -/

/-- The latched PC that the source goes on from at the activation edge of a stream. -/
def EffectDelivery.activationPC (d : EffectDelivery) (activation : Bool) : Option Word :=
  if activation then d.slot.map fun slot => slot.instruction.pc else none

theorem stageEffects_forwarded {w : WarpState} (h : w.stageEffects e = .ok stage) :
    stage.forwarded = forwardedEffects e := by
  obtain ⟨-, rfl⟩ := stageEffects_eq_ok.mp h
  rfl

/-- The transaction behind a spawn delivery. -/
theorem stageSpawn_ok (h : d.stageSpawn owners o stream targets activation = .ok s) :
    ∃ source listed effect,
      stageWarpSpawn owners o source listed (d.activationPC activation) = .ok s ∧
      (listed = targets ∨ d.activationPC activation ≠ none ∧
        listed = targets.map fun target => { target with expected := owners target.owner }) ∧
      d.effects.warpSpawn = some effect ∧ ∃ mscratch,
        source.forwarded.warpSpawn = some { effect with mscratch } := by
  unfold EffectDelivery.stageSpawn at h
  simp only [ok_iff, not_or] at h
  obtain ⟨-, ⟨-, -, hspawn⟩, h⟩ := h
  obtain ⟨effect, heffect⟩ := Option.ne_none_iff_exists'.mp hspawn
  have hlive : (owners o).stageEffects (controlPart d.effects) >>= (fun source =>
      stageWarpSpawn owners o source targets none) = .ok s →
      ∃ source listed effect, stageWarpSpawn owners o source listed none = .ok s ∧
        (listed = targets ∨ (none : Option Word) ≠ none ∧
          listed = targets.map fun target => { target with expected := owners target.owner }) ∧
        d.effects.warpSpawn = some effect ∧ ∃ mscratch,
          source.forwarded.warpSpawn = some { effect with mscratch } := by
    intro h
    obtain ⟨source, hsource, h⟩ := bind_eq_ok.mp h
    refine ⟨source, targets, effect, h, .inl rfl, heffect, effect.mscratch, ?_⟩
    rw [stageEffects_forwarded hsource]
    exact heffect
  unfold EffectDelivery.activationPC
  cases hslot : d.slot with
  | none =>
    rw [hslot] at h
    rw [Option.map_none, ite_self]
    exact hlive h
  | some slot =>
    rw [hslot] at h
    cases activation with
    | false => exact hlive h
    | true =>
      dsimp only at h
      split at h
      · split at h <;> cases h
      · rename_i source hsource
        refine ⟨source, _, effect, h, .inr ⟨Option.some_ne_none _, rfl⟩, heffect,
          (owners o).trapCSRs.mscratch, ?_⟩
        unfold WarpState.stageInstructionEffects at hsource
        simp only [ok_iff] at hsource
        obtain ⟨logical, -, stage, hstage, rfl⟩ := hsource
        rw [stageEffects_forwarded hstage]
        simp only [forwardedEffects, activationPart, controlPart, heffect, Option.map_some]

/-- A spawn is carried out as a whole or reported as an error with nothing changed, by the
functional transaction and by a delivery.  A running, repeated or foreign target is an error,
and outside the activation edge so is one that moved since the instruction was issued. -/
theorem warp_spawn_all_or_nothing :
    (∀ (staged owners owners' : Owners) (o : Owner) (source : EffectStage)
      (targets : List WarpSpawnTarget) (s s' : WarpSpawnStage),
      stageWarpSpawn staged o source targets none = .ok s → s.commit owners = .ok (owners', s') →
      ¬ UnfitTargets owners o targets ∧ ¬ StaleTargets owners targets ∧
        ∃ spawn, source.forwarded.warpSpawn = some spawn ∧
          SpawnApplied owners o spawn (owners o).pc targets owners') ∧
    ∀ (d : EffectDelivery) (owners : Owners) (o : Owner) (stream : EffectStream)
      (targets : List WarpSpawnTarget) (activation : Bool) (r : SpawnResult),
      d.deliverWarpSpawn owners o stream targets activation = r →
      (r.error ≠ none → r.owners = owners ∧ r.stream = stream ∧ r.delivery = d) ∧
      (UnfitTargets owners o targets ∨
        d.activationPC activation = none ∧ StaleTargets owners targets → r.error ≠ none) ∧
      (r.error = none → (∃ spawn, d.effects.warpSpawn = some spawn ∧
          SpawnApplied owners o spawn ((d.activationPC activation).getD (owners o).pc) targets
            r.owners) ∧
        r.delivery = { d with delivered := Function.update d.delivered .control true } ∧
        r.stream = { stream with
          controlOrder := (d.slot.map StreamSlot.order).getD stream.controlOrder }) := by
  constructor
  · intro staged owners owners' o source targets s s' h hcommit
    obtain ⟨spawn, hsource, htargets, happlied⟩ := spawn_committed h hcommit
    exact ⟨htargets.fit.1, htargets.fit.2, spawn, hsource.forwarded, happlied⟩
  · rintro d owners o stream targets activation r rfl
    unfold EffectDelivery.deliverWarpSpawn
    split
    · exact ⟨fun _ => ⟨rfl, rfl, rfl⟩, fun _ => Option.some_ne_none _,
        fun h => absurd h (Option.some_ne_none _)⟩
    · rename_i owners' s' heq
      obtain ⟨s, hs, hcommit⟩ := bind_eq_ok.mp heq
      obtain ⟨source, listed, effect, hstage, hlisted, heffect, mscratch, hforwarded⟩ :=
        stageSpawn_ok hs
      obtain ⟨spawn, hsource, htargets, happlied⟩ := spawn_committed hstage hcommit
      obtain rfl : { effect with mscratch } = spawn :=
        Option.some.inj (hforwarded.symm.trans hsource.forwarded)
      refine ⟨fun he => absurd rfl he, fun hbad => absurd hbad ?_, fun _ => ⟨⟨effect, heffect, ?_⟩,
        rfl, ?_⟩⟩
      · obtain ⟨hfit, hfresh⟩ := htargets.fit
        rcases hlisted with rfl | ⟨hpc, rfl⟩
        · rintro (hunfit | ⟨-, hstale⟩)
          · exact hfit hunfit
          · exact hfresh hstale
        · rintro (hunfit | ⟨hnone, -⟩)
          · refine hfit ?_
            unfold UnfitTargets at hunfit ⊢
            rw [List.map_map, List.map_map]
            refine hunfit.imp_left ?_
            rintro ⟨target, hin, h⟩
            exact ⟨_, List.mem_map_of_mem hin, h⟩
          · exact hpc hnone
      · rcases hlisted with rfl | ⟨-, rfl⟩
        · exact ⟨happlied.ids, happlied.owned, happlied.source, happlied.started, happlied.others⟩
        · obtain ⟨hids, howned, hsrc, hstarted, hothers⟩ := happlied
          rw [List.map_map] at hids hothers
          rw [List.forall_mem_map] at howned hstarted
          exact ⟨hids, howned, hsrc, hstarted, hothers⟩
      · cases d.slot <;> rfl

end

/-- A WSPAWN of two warps by warp 0 at PC zero. -/
def spawnTwo : InstructionEffects where
  control := some { currentPC := 0#32, nextPC := 4#32, reason := .sequential }
  warpSpawn := some {
    sourceWarp := 0, requestedCount := 2, targets := 2#8, targetPC := 0x40#32
    initialLaneMask := 1#8, copyMScratch := true, mscratch := 0#32
    requiresSingleActiveWarp := true, releaseSourceAfterApply := true }

/-- Warp 0 runs at `pc`, the others sleep. -/
def soleWarp (pc : Word) : Owners := fun o =>
  if o = 0 then { freshWarp 0 with pc } else
    { freshWarp o with activeMask := 0#8, lifecycle := .inactive }

def streamedSpawn : EffectDelivery where
  slot := some { order := 1, instruction := { warpID := 0, pc := 0#32, mask := allLanes } }
  effects := spawnTwo

/-- An activation starts a warp that its caller lists as running, and takes the source from PC 8
back to the instruction after the latched one. -/
theorem stale_target_activated :
    let targets : List WarpSpawnTarget := [{ warpID := 1, owner := 1, expected := freshWarp 1 }]
    let r := streamedSpawn.deliverWarpSpawn (soleWarp 8#32) 0 {} targets true
    StaleTargets (soleWarp 8#32) targets ∧ r.error = none ∧
      (r.owners 1).lifecycle = .running ∧ (r.owners 0).pc = 4#32 := by
  have hne : soleWarp 8#32 1 ≠ freshWarp 1 := by decide
  exact ⟨⟨_, List.mem_singleton_self _, hne⟩, rfl, rfl, rfl⟩

theorem spawnTwo_applied : (∃ source s owners' s',
      stageWarpSpawn (soleWarp 0#32) 0 source [⟨1, 1, soleWarp 0#32 1⟩] none = .ok s ∧
      s.commit (soleWarp 0#32) = .ok (owners', s') ∧
      ¬ StaleTargets (soleWarp 0#32) [⟨1, 1, soleWarp 0#32 1⟩]) ∧
    ∃ spawn, SpawnApplied (soleWarp 8#32) 0 spawn 0#32 [⟨1, 1, freshWarp 1⟩]
      (streamedSpawn.deliverWarpSpawn (soleWarp 8#32) 0 {} [⟨1, 1, freshWarp 1⟩] true).owners := by
  obtain ⟨hfunctional, hdelivery⟩ := warp_spawn_all_or_nothing
  constructor
  · obtain ⟨s, owners', s', hs, hc⟩ : ∃ s owners' s',
        stageWarpSpawn (soleWarp 0#32) 0 ((soleWarp 0#32 0).stageOf spawnTwo)
          [⟨1, 1, soleWarp 0#32 1⟩] none = .ok s ∧
        s.commit (soleWarp 0#32) = .ok (owners', s') := ⟨_, _, _, rfl, rfl⟩
    exact ⟨_, s, owners', s', hs, hc, (hfunctional _ _ _ _ _ _ _ _ hs hc).2.1⟩
  · obtain ⟨-, -, happlied⟩ := hdelivery streamedSpawn (soleWarp 8#32) 0 {}
      [⟨1, 1, freshWarp 1⟩] true _ rfl
    obtain ⟨⟨spawn, -, h⟩, -⟩ := happlied rfl
    exact ⟨spawn, h⟩

end VortexSim
