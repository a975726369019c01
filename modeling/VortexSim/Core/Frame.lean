import VortexSim.Core.Confined
import VortexSim.Core.Kept

/-!
# What a step leaves alone

A step of the core and the completion of an event change slots, owners, records and bytes.
Which CTAs are resident, with which warps and where in local memory, they leave alone; so does
what the core was built from.
-/

namespace VortexSim

open Checked Stateful Act Spans

variable {σ : Type}

/-- The manager has the same CTAs in the same intervals. -/
structure CTAManager.SameResidents (m m' : CTAManager) : Prop where
  isDynamic : m'.dynamic = m.dynamic
  intervals : ∀ slot, (m'.ctas slot).map CTAState.interval = (m.ctas slot).map CTAState.interval

namespace CTAManager.SameResidents

variable {m m' : CTAManager}

theorem none_iff (h : m.SameResidents m') (slot : CTASlot) :
    m'.ctas slot = none ↔ m.ctas slot = none := by
  rw [← Option.map_eq_none_iff (f := CTAState.interval), h.intervals, Option.map_eq_none_iff]

theorem placed (h : m.SameResidents m') (hm : m.Placed) : m'.Placed := by
  have hold : ∀ slot cta, m'.ctas slot = some cta →
      ∃ old, m.ctas slot = some old ∧ old.interval = cta.interval := by
    intro slot cta hcta
    have hslot := h.intervals slot
    rw [hcta, Option.map_some] at hslot
    exact Option.map_eq_some_iff.mp hslot.symm
  refine ⟨fun slot cta hcta => ?_, fun a b ca cb hne ha hb => ?_⟩
  · obtain ⟨old, hmem, heq⟩ := hold slot cta hcta
    rw [← heq]
    exact hm.inside slot old hmem
  · obtain ⟨olda, hmema, heqa⟩ := hold a ca ha
    obtain ⟨oldb, hmemb, heqb⟩ := hold b cb hb
    rw [← heqa, ← heqb]
    exact hm.apart a b olda oldb hne hmema hmemb

end CTAManager.SameResidents

/-- The CTA without the observations of its finished members. -/
def CTAState.tenancy (cta : CTAState) : CTAState :=
  { cta with members := cta.members.map fun member => { member with finished := false } }

theorem CTAState.tenancy_finish (cta : CTAState) (rank : Nat) :
    (cta.finish rank).tenancy = cta.tenancy := by
  unfold CTAState.tenancy CTAState.finish
  congr 1
  refine List.ext_getElem? fun i => ?_
  rw [List.getElem?_map, List.getElem?_map, List.getElem?_modify]
  cases cta.members[i]? with
  | none => rfl
  | some member =>
    split <;> rfl

theorem CTAState.warps_tenancy (cta : CTAState) :
    cta.tenancy.members.map WarpMembership.warpID = cta.members.map WarpMembership.warpID := by
  unfold CTAState.tenancy
  rw [List.map_map]
  rfl

/-- The manager has the same CTAs, with the same warps, in the same intervals. -/
structure CTAManager.SameTenants (m m' : CTAManager) : Prop where
  isDynamic : m'.dynamic = m.dynamic
  isSealed : m.isSealed = true → m'.isSealed = true
  coordinated : m.barriers.isSome = true → m'.barriers.isSome = true
  byWarp : m'.byWarp = m.byWarp
  tenants : ∀ slot, (m'.ctas slot).map CTAState.tenancy = (m.ctas slot).map CTAState.tenancy

namespace CTAManager.SameTenants

variable {m m' : CTAManager}

theorem refl (m : CTAManager) : m.SameTenants m := ⟨rfl, id, id, rfl, fun _ => rfl⟩

theorem trans (h : m.SameTenants m') (h' : m'.SameTenants m'') : m.SameTenants m'' where
  isDynamic := h'.isDynamic.trans h.isDynamic
  isSealed := fun hs => h'.isSealed (h.isSealed hs)
  coordinated := fun hs => h'.coordinated (h.coordinated hs)
  byWarp := h'.byWarp.trans h.byWarp
  tenants := fun slot => (h'.tenants slot).trans (h.tenants slot)

theorem resident (h : m.SameTenants m') (hcta : m.ctas slot = some cta) :
    ∃ cta', m'.ctas slot = some cta' ∧ cta'.tenancy = cta.tenancy := by
  have hslot := h.tenants slot
  rw [hcta, Option.map_some, Option.map_eq_some_iff] at hslot
  exact hslot

theorem residents (h : m.SameTenants m') : m.SameResidents m' := by
  refine ⟨h.isDynamic, fun slot => ?_⟩
  have hslot := congrArg (Option.map CTAState.interval) (h.tenants slot)
  rw [Option.map_map, Option.map_map] at hslot
  exact hslot

/-- A warp has the same interval. -/
theorem spanOf (h : m.SameTenants m') (warp : WarpID) : m'.spanOf warp = m.spanOf warp := by
  unfold CTAManager.spanOf CTAManager.residentOf
  rw [h.byWarp]
  cases m.byWarp warp with
  | none => rfl
  | some key => exact congrArg (Option.getD · (0, 0)) (h.residents.intervals key.ctaID)

theorem withRecords (m : CTAManager) (records : BarrierRecords) :
    m.SameTenants (m.withRecords records) := ⟨rfl, id, fun _ => rfl, rfl, fun _ => rfl⟩

/-- Only the flags of a member change when it has finished. -/
theorem observes (h : m.observeWarpFinished warp = .ok m') : m.SameTenants m' := by
  obtain ⟨slot, cta, rank, hcta, rfl⟩ := CTAManager.observeWarpFinished_eq_ok h
  refine ⟨rfl, id, id, rfl, fun other => ?_⟩
  dsimp only
  rw [Function.update_apply]
  split
  · rename_i heq
    rw [heq, hcta]
    exact congrArg some (cta.tenancy_finish rank)
  · rfl

end CTAManager.SameTenants

namespace World

/-- Every local byte that has changed is in the interval of the CTA of one of the warps. -/
def Reached (who : WarpID → Prop) (w0 : World σ) (memories : LocalMemories) : Prop :=
  ∀ manager i, (memories manager).data[i]? ≠ (w0.localMemories manager).data[i]? →
    ∃ id route, who id ∧ (w0.core.slots id).executor.data = .cta route ∧
      route.manager = manager ∧ Holds ((w0.managers manager).spanOf route.warpID) i

/-- Where every CTA has its place. -/
def Placed (w : World σ) : Prop := ∀ manager, (w.managers manager).Placed

/-- The core has the same parts and its residents the same warps, and only the warps given have
reached local memory. -/
structure Steady (who : WarpID → Prop) (w0 w : World σ) : Prop where
  ctas : w.core.ctas = w0.core.ctas
  pendingWork : w.core.pendingWork = w0.core.pendingWork
  executors : ∀ id, (w.core.slots id).executor = (w0.core.slots id).executor
  managers : ∀ manager, (w0.managers manager).SameTenants (w.managers manager)
  reached : w0.Placed → Reached who w0 w.localMemories

section

variable {who : WarpID → Prop} {w0 w : World σ}

theorem Steady.refl (who : WarpID → Prop) (w : World σ) : Steady who w w :=
  ⟨rfl, rfl, fun _ => rfl, fun _ => .refl _, fun _ _ _ h => absurd rfl h⟩

theorem Steady.mono (h : Steady who w0 w) (hsub : ∀ id, who id → who' id) : Steady who' w0 w := by
  refine ⟨h.ctas, h.pendingWork, h.executors, h.managers, fun hplaced manager i hne => ?_⟩
  obtain ⟨id, route, hid, hrest⟩ := h.reached hplaced manager i hne
  exact ⟨id, route, hsub id hid, hrest⟩

theorem Steady.setSlot (h : Steady who w0 w) {id : WarpID}
    (hslot : slot.executor = (w.core.slots id).executor) : Steady who w0 (w.setSlot id slot) := by
  refine ⟨h.ctas, h.pendingWork, ?_, h.managers, h.reached⟩
  exact (Function.forall_update_iff _ fun other (slot : Slot σ) =>
    slot.executor = (w0.core.slots other).executor).mpr
    ⟨hslot.trans (h.executors id), fun other _ => h.executors other⟩

theorem Steady.moveSlot (h : Steady who w0 w) (id : WarpID) (lifecycle : SlotLifecycle)
    (reason : BlockReason) : Steady who w0 (w.moveSlot id lifecycle reason) := h.setSlot rfl

theorem Steady.startSlot (h : Steady who w0 w) (id : WarpID) : Steady who w0 (w.startSlot id) :=
  h.setSlot rfl

theorem Steady.owners (h : Steady who w0 w) (owners : Owners) : Steady who w0 { w with owners } :=
  ⟨h.ctas, h.pendingWork, h.executors, h.managers, h.reached⟩

theorem Steady.setManager (h : Steady who w0 w) (hm : (w.managers manager).SameTenants m) :
    Steady who w0 (w.setManager manager m) := by
  refine ⟨h.ctas, h.pendingWork, h.executors, ?_, h.reached⟩
  exact (Function.forall_update_iff _ fun other => (w0.managers other).SameTenants).mpr
    ⟨(h.managers manager).trans hm, fun other _ => h.managers other⟩

theorem Steady.release (h : Steady who w0 w) (source : Option WarpID) (result : BarrierResult) :
    Steady who w0 (w.applyBarrierReleases source result) := by
  refine ⟨h.ctas, h.pendingWork, fun id => ?_, h.managers, h.reached⟩
  rw [← h.executors id]
  change (releasedSlot source result.releases id (w.core.slots id)).executor = _
  unfold releasedSlot
  split
  · rfl
  · rfl

end

variable {who : WarpID → Prop} {w0 : World σ}

theorem pendingPriorWork_steady (id : WarpID) (otherwise : Bool) (context : String) :
    Keeps (Steady who w0) (pendingPriorWork id otherwise context) := by
  refine pendingPriorWork_keeps (fun w memory hw => ?_) id otherwise context
  exact ⟨hw.ctas, hw.pendingWork, hw.executors, hw.managers, hw.reached⟩

/-- A refresh asks for pending work and wakes the slot. -/
theorem refreshSlot_keeps {P : World σ → Prop} {id : WarpID}
    (hwake : ∀ w, P w → P (w.moveSlot id .runnable .none))
    (hpending : ∀ otherwise context, Keeps P (pendingPriorWork id otherwise context)) :
    Keeps P (refreshSlot context active id) := by
  refine .bind Keeps.gets fun slot => .ite (fun _ => .pure _) fun _ => ?_
  cases slot.blockReason with
  | warpSpawn | barrier => exact .ite (fun _ => .update hwake) fun _ => .pure _
  | pendingWork =>
    exact .bind (hpending _ _) fun pending =>
      Keeps.ite (fun _ => .pure _) fun _ => .update hwake
  | _ => exact .pure _

theorem refreshFunctionalWaits_steady (context : ReadContext) :
    Keeps (Steady who w0) (refreshFunctionalWaits context) := by
  refine .bind Keeps.gets fun active => ?_
  refine .bind (.forEach (fun id => ?_) _) fun _ => .examine
  exact refreshSlot_keeps (fun w hw => hw.moveSlot id _ _) (pendingPriorWork_steady id)

/-! ## Coordination -/

theorem coordinateWarpSpawn_steady (sourceID : WarpID) (active : WarpMask)
    (ownerBefore : WarpID → WarpState) (result : Result) :
    Keeps (Steady who w0) (coordinateWarpSpawn sourceID active ownerBefore result) := by
  refine .bind Keeps.examine fun checked => .ite (fun _ => ?_) fun _ => ?_
  · exact .bind (.update fun w hw => hw.moveSlot _ _ _) fun _ => .pure _
  · refine .bind Keeps.examine fun owners => ?_
    refine .bind (.update fun w hw => ?_) fun _ => .gets
    have hstarted : ∀ (ids : List WarpID) (w : World σ), Steady who w0 w →
        Steady who w0 (ids.foldl World.startSlot w) := by
      intro ids
      induction ids with
      | nil => exact fun _ hw => hw
      | cons id ids ih => exact fun w hw => ih _ (hw.startSlot id)
    exact (hstarted _ _ (hw.owners owners)).moveSlot _ _ _

theorem coordinateWarpSync_steady (sourceID : WarpID) (pending : Bool) (result : Result) :
    Keeps (Steady who w0) (coordinateWarpSync sourceID pending result) := by
  refine .bind Keeps.examine fun effects => .ite (fun _ => ?_) fun _ => ?_
  · exact .bind (.update fun w hw => hw.moveSlot _ _ _) fun _ => .pure _
  · refine .bind Keeps.examine fun owner => ?_
    refine .bind (.update fun w hw => ?_) fun _ => .pure _
    exact Steady.moveSlot (hw.owners _) _ _ _

theorem installBarrier_steady (hw : Steady who w0 w) (sourceID : WarpID)
    (accepted : AcceptedBarrier) : Steady who w0 (w.installBarrier sourceID accepted) := by
  have hrecords : ((w.setWarp sourceID accepted.owner).managers accepted.manager).SameTenants
      ((w.managers accepted.manager).withRecords accepted.records) := .withRecords _ _
  have hwarp : Steady who w0 (w.setWarp sourceID accepted.owner) := hw.owners _
  refine Steady.setSlot ((hwarp.setManager hrecords).release _ _) ?_
  unfold barrierSlot
  split
  · rfl
  · rfl

theorem coordinateBarrier_steady (sourceID : WarpID) (issued : WarpState) (view : BarrierView)
    (pendingLSU : Bool) (result : Result) :
    Keeps (Steady who w0) (coordinateBarrier sourceID issued view pendingLSU result) := by
  refine .bind Keeps.examine fun decoded => .ite (fun _ => ?_) fun _ => ?_
  · refine .bind Keeps.examine fun _ => ?_
    exact .bind (.update fun w hw => hw.setSlot rfl) fun _ => .pure _
  · refine .bind Keeps.examine fun accepted => ?_
    exact .bind (.update fun w hw => installBarrier_steady hw _ _) fun _ => .pure _

/-! ## The step -/

/-- The stores of a step reach local memory by the route of the executor only. -/
theorem Executor.services_touches {executor : Executor σ} {managers : Managers}
    (hplaced : ∀ manager, (managers manager).Placed) {memory : DataService (LocalMemories × σ)}
    (hmemory : memory ∈ (executor.services managers).memory) (stores : List StoreTransaction)
    (s : LocalMemories × σ) :
    (memory.writeStores stores s).1.1 = s.1 ∨ ∃ route, executor.data = .cta route ∧
      Touches route.manager ((managers route.manager).spanOf route.warpID) s.1
        (memory.writeStores stores s).1.1 := by
  unfold Executor.services at hmemory
  split at hmemory
  · cases hmemory
  · cases hmemory
    exact .inl (DataService.lift_writeStores _ stores s)
  · rename_i route hroute
    cases hmemory
    refine .inr ⟨route, hroute, ?_⟩
    exact (CTAMemory.service_confined ((hplaced _).spanOf _)).writeStores stores s

theorem execute_steady (sf : SoftFloat) {selected : WarpID} (hwho : who selected)
    (context : ReadContext) : Keeps (Steady who w0) (execute sf selected context) := by
  refine .of_after fun w hw => ?_
  refine ⟨hw.ctas, hw.pendingWork, hw.executors, hw.managers, fun hplaced manager i hne => ?_⟩
  have hnow : w.Placed := fun manager => (hw.managers manager).residents.placed (hplaced manager)
  have hstored := (Services.stepBody_outcome sf
    ((w.core.slots selected).executor.services w.managers)
    context (w.warp selected) (w.localMemories, w.memory)).services
  -- a byte that differs was changed earlier or is changed by the stores of this step
  by_cases hearlier : (w.localMemories manager).data[i]? = (w0.localMemories manager).data[i]?
  · rw [← hearlier] at hne
    rcases hstored with hsame | ⟨memory, hmemory, stores, hstores⟩
    · exact absurd (congrArg (fun s => (s.1 manager).data[i]?) hsame) hne
    · replace hne : ((memory.writeStores stores (w.localMemories, w.memory)).1.1 manager).data[i]? ≠
          (w.localMemories manager).data[i]? := fun he =>
        hne ((congrArg (fun s => (s.1 manager).data[i]?) hstores).trans he)
      rcases Executor.services_touches hnow hmemory stores (w.localMemories, w.memory) with
        hsame | ⟨route, hroute, htouches, hothers⟩
      · exact absurd (congrArg (fun memories => (memories manager).data[i]?) hsame) hne
      · obtain rfl : manager = route.manager := by
          by_contra hother
          exact hne (congrArg (fun memory => memory.data[i]?) (hothers manager hother))
        refine ⟨selected, route, hwho, (hw.executors selected) ▸ hroute, rfl, ?_⟩
        rw [← (hw.managers route.manager).spanOf]
        by_contra houtside
        exact hne (htouches i houtside)
  · exact hw.reached hplaced manager i hearlier

theorem faultSlot_steady (selected : WarpID) (result : Result) (err : Error) :
    Keeps (Steady who w0) (faultSlot selected result err) :=
  Keeps.bind (.update fun _ hw => hw.moveSlot _ _ _) fun _ => .pure _

theorem coordinate_steady (selected : WarpID) (before : Slot σ) (active : WarpMask)
    (ownerBefore : WarpID → WarpState) (view : Option IssueView) (context : ReadContext)
    (result : Result) :
    Keeps (Steady who w0) (coordinate selected before active ownerBefore view context result) := by
  refine .ite (fun _ => .pure _) fun _ => ?_
  split
  case h_1 =>
    refine .bind (coordinateWarpSpawn_steady _ _ _ _).attempt fun ended => ?_
    rcases ended with err | ⟨result', _ | err⟩
    · exact faultSlot_steady _ _ _
    · exact .pure _
    · exact faultSlot_steady _ _ _
  case h_2 =>
    refine .bind (coordinateWarpSync_steady _ _ _).attempt fun ended => ?_
    rcases ended with err | result'
    · exact faultSlot_steady _ _ _
    · exact .pure _
  case h_6 => exact .pure _
  -- the three barrier instructions
  all_goals
    refine .bind Keeps.gets fun barriers => .ite (fun _ => ?_) fun _ => ?_
    · exact .bind (.update fun w hw => hw.setSlot rfl) fun _ => .pure _
    · refine .bind (coordinateBarrier_steady _ _ _ _ _).attempt fun ended => ?_
      cases ended with
      | error err =>
        exact .bind (.update fun w hw => hw.setSlot rfl) fun _ => .pure _
      | ok out => exact .pure _

theorem settle_steady (selected : WarpID) (result : Result) :
    Keeps (Steady who w0) (settle selected result) := by
  refine .ite (fun _ => ?_) fun _ => ?_
  · refine .bind (.update fun w hw => hw.moveSlot _ _ _) fun _ => ?_
    intro w hw
    unfold noteFinished
    split
    · exact ⟨fun _ _ => hw, fun _ _ => hw⟩
    · split
      · rename_i hok
        have hnoted := hw.setManager (CTAManager.SameTenants.observes hok)
        exact ⟨fun _ _ => hnoted, fun _ _ => hnoted⟩
      · have hfault := hw.moveSlot selected .blocked .fault
        exact ⟨fun _ _ => hfault, fun _ _ => hfault⟩
  · split
    · refine .bind Keeps.gets fun _ => .ite (fun _ => .pure _) fun _ => ?_
      exact .bind (.update fun w hw => hw.setSlot rfl) fun _ => .pure _
    · exact .bind (.update fun w hw => hw.moveSlot _ _ _) fun _ => .pure _
    · exact .pure _

theorem issueWarp_steady (sf : SoftFloat) (context : ReadContext) (hwho : who selected) :
    Keeps (Steady who w0) (issueWarp sf context selected) := by
  refine .bind Keeps.gets fun active => .bind Keeps.gets fun owners => ?_
  refine .bind Keeps.examine fun view => ?_
  refine .bind (pendingPriorWork_steady _ _ _) fun pending => ?_
  refine .bind (.update fun w hw =>
    ⟨hw.ctas, hw.pendingWork, hw.executors, hw.managers, hw.reached⟩) fun _ => ?_
  refine .bind Keeps.gets fun before => ?_
  exact .bind (execute_steady _ hwho _) fun result => .pure _

theorem stepWarp_steady (sf : SoftFloat) (context : ReadContext) (hwho : who selected) :
    Keeps (Steady who w0) (stepWarp sf context selected) := by
  refine .bind (issueWarp_steady sf context hwho) fun issued => ?_
  refine .bind (coordinate_steady _ _ _ _ _ _ _) fun coordinated => ?_
  cases coordinated.error with
  | some err => exact .gets
  | none =>
    refine .bind (settle_steady _ _) fun ended => ?_
    cases ended with
    | some err => exact .gets
    | none => exact .bind Keeps.examine fun _ => .gets

/-- One warp takes the step. -/
theorem step_steady (sf : SoftFloat) (context : ReadContext) :
    Triple (Steady (fun _ => False) w0) (step sf context)
      (fun _ w => ∃ id, Steady (fun other => other = id) w0 w)
      (fun w => ∃ id, Steady (fun other => other = id) w0 w) := by
  have hidle : ∀ {w : World σ}, Steady (fun _ => False) w0 w →
      ∃ id, Steady (fun other => other = id) w0 w :=
    fun h => ⟨0, h.mono fun _ hf => hf.elim⟩
  refine .bind (Q := fun _ => Steady (fun _ => False) w0)
    (Keeps.examine.weaken fun _ => hidle) fun _ => ?_
  refine .bind (Q := fun _ => Steady (fun _ => False) w0)
    ((refreshFunctionalWaits_steady context).weaken fun _ => hidle) fun _ => ?_
  refine .bind (Q := fun _ => Steady (fun _ => False) w0)
    (Keeps.gets.weaken fun _ => hidle) fun selected => ?_
  cases selected with
  | none => exact .pure fun _ h => hidle h
  | some id =>
    have hstep : Keeps (Steady (fun other => other = id) w0) (stepWarp sf context id) :=
      stepWarp_steady sf context rfl
    refine .bind (Q := fun _ w => ∃ id, Steady (fun other => other = id) w0 w)
      (hstep.consequence (fun _ h => h.mono fun _ hf => hf.elim) (fun _ _ h => ⟨id, h⟩)
        fun _ h => ⟨id, h⟩) fun _ => .pure fun _ h => h

theorem completeBarrierEvent_steady (key : RawBarrierKey) :
    Keeps (Steady who w0) (completeBarrierEvent key) := by
  refine .bind Keeps.examine fun out => ?_
  refine .bind (.update fun w hw => hw.setManager (.withRecords _ _)) fun _ => ?_
  exact .update fun w hw => hw.release _ _

end World

end VortexSim
