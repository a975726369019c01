import VortexSim.Core.Started
import VortexSim.Device.Clusters

/-!
# Admission of a cluster

A cluster of an accepted launch passes every check of `AdmitCTACluster` but those for free
resources.  The proof follows the stages of the admission: the choice of the warps, the staged
candidates, the launch of the warps, and the commit.  In each stage the only reason to fail is
that something is occupied, and then a CTA is resident.
-/

namespace VortexSim

open Checked World

variable {σ : Type} {launch : LaunchState}

/-- A failure for lack of resources, which only a busy core has. -/
def Scarce (busy : Prop) (e : Error) : Prop :=
  busy ∧ ∃ detail, e = .resourcesUnavailable detail

/-! ## The choice of the warps -/

/-- A slot an admission can take. -/
def Slot.Vacant (slot : Slot σ) : Prop := slot.lifecycle = .inactive ∧ slot.participated = false

/-- The warps chosen for some CTAs. -/
structure Selection (slots : WarpID → Slot σ) (required : Nat) (warpIDs : List (List WarpID)) :
    Prop where
  sizes : ∀ warps ∈ warpIDs, warps.length = required
  distinct : warpIDs.flatten.Nodup
  vacant : ∀ id ∈ warpIDs.flatten, (slots id).Vacant

theorem mem_freeSlots {id : WarpID} (h : id ∈ freeSlots slots selected required) :
    id ∉ selected ∧ (slots id).Vacant := by
  have hmem := List.mem_of_mem_take h
  rw [List.mem_filter, Bool.and_eq_true, List.all_eq_true, decide_eq_true_eq] at hmem
  exact ⟨fun hin => of_decide_eq_true (hmem.2.1 id hin) rfl, hmem.2.2⟩

theorem freeSlots_nodup (slots : WarpID → Slot σ) (selected : List WarpID) (required : Nat) :
    (freeSlots slots selected required).Nodup :=
  ((List.nodup_finRange _).filter _).sublist (List.take_sublist _ _)

/-- Where every slot is vacant there are free ones as long as the demand fits. -/
theorem freeSlots_length {slots : WarpID → Slot σ} (hvacant : ∀ id, (slots id).Vacant)
    (hroom : selected.length + required ≤ frozenWarpCount) :
    (freeSlots slots selected required).length = required := by
  set outside : WarpID → Bool := fun id => selected.all fun other => decide (other ≠ id)
    with houtside
  have hfilter : ((List.finRange frozenWarpCount).filter fun id => outside id &&
      decide ((slots id).lifecycle = .inactive ∧ (slots id).participated = false)) =
      (List.finRange frozenWarpCount).filter outside := by
    refine List.filter_congr fun id _ => ?_
    have hfree : decide ((slots id).lifecycle = .inactive ∧ (slots id).participated = false) =
        true := decide_eq_true (hvacant id)
    rw [hfree, Bool.and_true]
  have htaken : ((List.finRange frozenWarpCount).filter fun id => !outside id).length ≤
      selected.length := by
    refine (((List.nodup_finRange _).filter _).subperm fun id hid => ?_).length_le
    have hin := (List.mem_filter.mp hid).2
    rw [houtside] at hin
    simpa using hin
  have hsplit : frozenWarpCount = ((List.finRange frozenWarpCount).filter outside).length +
      ((List.finRange frozenWarpCount).filter fun id => !outside id).length := by
    rw [← List.length_eq_length_filter_add outside, List.length_finRange]
  unfold freeSlots
  rw [List.length_take, hfilter]
  omega

/-! ### The scan -/

section

variable {slots : WarpID → Slot σ} {busy : Prop}

theorem scanOrigin_first (hplace : ∀ axis, (config.blockID axis).toNat =
      origin axis + clusterOffset first.clusterDimensions 0 axis) (start : Fin 3 → Nat) :
    foldEach (scanOrigin first config 0) 0 start [0, 1, 2] = .ok origin := by
  have hstep : ∀ i o axis, scanOrigin first config 0 i o axis =
      .ok (Function.update o axis (origin axis)) := by
    intro i o axis
    unfold scanOrigin
    dsimp only
    rw [hplace, rejectIf_of_not (Nat.not_lt.mpr (Nat.le_add_left _ _)), Nat.add_sub_cancel]
    rfl
  simp only [foldEach, hstep, ok_bind]
  refine congrArg Except.ok (funext (forall_axes ?_ ?_ ?_))
  · rw [Function.update_of_ne (by decide), Function.update_of_ne (by decide), Function.update_self]
  · rw [Function.update_of_ne (by decide), Function.update_self]
  · rw [Function.update_self]

theorem scanOrigin_later (hindex : index ≠ 0) (hplace : ∀ axis, (config.blockID axis).toNat =
      origin axis + clusterOffset first.clusterDimensions index axis) :
    foldEach (scanOrigin first config index) 0 origin [0, 1, 2] = .ok origin := by
  have hstep : ∀ i axis, scanOrigin first config index i origin axis = .ok origin := by
    intro i axis
    unfold scanOrigin
    dsimp only
    rw [hplace, rejectIf_of_not (Nat.not_lt.mpr (Nat.le_add_left _ _)), Nat.add_sub_cancel,
      if_neg hindex]
    simp only [ok_iff, ne_eq, not_not, and_self]
  simp only [foldEach, hstep, ok_bind]

/-- What the scan has chosen after some CTAs. -/
structure Scanned (slots : WarpID → Slot σ) (required : Nat) (origin : Fin 3 → Nat) (k : Nat)
    (scan : ClusterScan) : Prop where
  selection : Selection slots required scan.warpIDs
  count : scan.warpIDs.length = k
  selected : scan.selected = scan.warpIDs.flatten
  origin : k ≠ 0 → scan.origin = origin

theorem Selection.flatten_length (h : Selection slots required warpIDs) :
    warpIDs.flatten.length = warpIDs.length * required := by
  rw [List.length_flatten, List.map_eq_replicate_iff.mpr h.sizes, List.sum_replicate_nat]

theorem Selection.snoc (h : Selection slots required warpIDs)
    (hlength : (freeSlots slots warpIDs.flatten required).length = required) :
    Selection slots required (warpIDs ++ [freeSlots slots warpIDs.flatten required]) := by
  have hflatten : (warpIDs ++ [freeSlots slots warpIDs.flatten required]).flatten =
      warpIDs.flatten ++ freeSlots slots warpIDs.flatten required := by
    rw [List.flatten_append, List.flatten_singleton]
  refine ⟨Lists.forall_mem_snoc h.sizes hlength, ?_, ?_⟩
  · rw [hflatten]
    refine List.nodup_append.mpr ⟨h.distinct, freeSlots_nodup _ _ _, ?_⟩
    rintro id hid other hother rfl
    exact (mem_freeSlots hother).1 hid
  · intro id hid
    rw [hflatten, List.mem_append] at hid
    rcases hid with hid | hid
    · exact h.vacant id hid
    · exact (mem_freeSlots hid).2

theorem LaunchState.Cluster.scan (hv : launch.Valid) (hc : launch.Cluster configs)
    (hvacant : ¬ busy → ∀ id, (slots id).Vacant) {first : CTAConfig}
    (hfirst : configs[0]? = some first) {origin : Fin 3 → Nat}
    (horigin : ∀ (k : Nat) config, configs[k]? = some config → ∀ axis,
      (config.blockID axis).toNat = origin axis + clusterOffset launch.clusterDimensions k axis)
    {config : CTAConfig} (hk : configs[k]? = some config) {scan : ClusterScan}
    (hs : Scanned slots (requiredWarps launch.blockSize) origin k scan) :
    Ends (scanCluster slots first k scan config)
      (Scanned slots (requiredWarps launch.blockSize) origin (k + 1)) (Scarce busy) := by
  have hshared := hc.shared k config hk
  have hlead := hc.shared 0 first hfirst
  have hplace := horigin k config hk
  have hdimensions : first.clusterDimensions = launch.clusterDimensions := by rw [hlead]; rfl
  have hblock : config.blockSize = launch.blockSize := by rw [hshared]; rfl
  have horiginOk : foldEach (scanOrigin first config k) 0 scan.origin [0, 1, 2] = .ok origin := by
    rw [← hdimensions] at hplace
    by_cases hzero : k = 0
    · subst hzero
      exact scanOrigin_first hplace scan.origin
    · rw [hs.origin hzero]
      exact scanOrigin_later hzero hplace
  refine .check ?_ (.check ?_ (.check ?_ ?_))
  · rw [hshared]
    exact not_not.mpr rfl
  · rw [hshared, hlead]
    simp [LaunchState.config]
  · rw [hshared, hlead]
    exact not_not.mpr ⟨rfl, rfl, rfl, rfl, rfl, rfl, rfl, rfl⟩
  refine .bind (.of_eq horiginOk rfl) ?_
  rintro _ rfl
  refine .check ?_ (.refuse ?_ fun hlength => .pure ?_)
  · rw [hblock, not_or, Nat.not_lt]
    exact hv.threads
  · intro hfew
    refine ⟨?_, _, rfl⟩
    by_contra hidle
    refine hfew (freeSlots_length (hvacant hidle) ?_)
    rw [hs.selected, hs.selection.flatten_length, hs.count, hblock]
    have hlt : k + 1 ≤ launch.clusterSize.toNat := by
      rw [← hc.complete]
      exact (List.getElem?_eq_some_iff.mp hk).1
    calc k * requiredWarps launch.blockSize + requiredWarps launch.blockSize
        = (k + 1) * requiredWarps launch.blockSize := (Nat.succ_mul _ _).symm
      _ ≤ launch.clusterSize.toNat * requiredWarps launch.blockSize := Nat.mul_le_mul_right _ hlt
      _ ≤ frozenWarpCount := hv.warps
  · rw [not_not, hblock, hs.selected] at hlength
    rw [hblock, hs.selected]
    refine ⟨hs.selection.snoc hlength, ?_, ?_, fun _ => rfl⟩
    · rw [List.length_append, hs.count]
      rfl
    · rw [List.flatten_append, List.flatten_singleton]

/-- The choice of the warps fails only where slots are taken. -/
theorem LaunchState.Cluster.select (hv : launch.Valid) (hc : launch.Cluster configs)
    (hvacant : ¬ busy → ∀ id, (slots id).Vacant) :
    Ends (selectCluster slots configs)
      (fun warpIDs => Selection slots (requiredWarps launch.blockSize) warpIDs ∧
        warpIDs.length = configs.length) (Scarce busy) := by
  obtain ⟨origin, horigin⟩ := hc.origin
  cases configs with
  | nil =>
    have hpos := hv.size_pos
    rw [← hc.complete] at hpos
    exact absurd hpos (Nat.lt_irrefl 0)
  | cons first rest =>
    have hlead := hc.shared 0 first rfl
    have hdimensions : first.clusterDimensions = launch.clusterDimensions := by rw [hlead]; rfl
    have hsize : first.clusterSize = launch.clusterSize := by rw [hlead]; rfl
    have hproduct : clusterProduct first.clusterDimensions = .ok launch.clusterSize.toNat := by
      rw [hv.size, hdimensions]
      refine foldAxes_ok fun i n axis => ?_
      rw [rejectIf_of_not]
      · rfl
      · exact not_or.mpr (hv.cluster axis)
    refine .check ?_ (.check ?_ (.bind (.of_eq hproduct rfl) ?_))
    · rw [hc.complete, Nat.not_lt]
      exact hv.slots
    · rw [hc.complete, hsize, BitVec.ofNat_toNat, BitVec.setWidth_eq]
      exact not_not.mpr rfl
    rintro _ rfl
    refine .check (not_not.mpr (by rw [hsize])) ?_
    refine .bind (.foldEach (Scanned slots (requiredWarps launch.blockSize) origin)
      (fun k config scan hk hs => ?_) ?_) fun scan hscan => .pure ?_
    · rw [Nat.zero_add] at hs ⊢
      exact hc.scan hv hvacant rfl horigin hk hs
    · refine ⟨⟨?_, List.nodup_nil, ?_⟩, rfl, rfl, fun h => absurd rfl h⟩
      · exact fun _ hin => absurd hin List.not_mem_nil
      · exact fun _ hin => absurd hin List.not_mem_nil
    · rw [Nat.zero_add] at hscan
      exact ⟨hscan.selection, hscan.count⟩

end

/-! ## The staged candidates -/

section

variable {m : CTAManager} {busy : Prop}

theorem freeOffset_le (hoffset : offset ≤ bound) (h : ∀ interval ∈ intervals, interval.2 ≤ bound) :
    freeOffset size intervals offset ≤ bound := by
  induction intervals generalizing offset with
  | nil => exact hoffset
  | cons interval rest ih =>
    rw [freeOffset]
    split
    · exact hoffset
    · refine ih (Nat.max_le.mpr ⟨hoffset, h interval List.mem_cons_self⟩) ?_
      exact fun other hother => h other (List.mem_cons_of_mem _ hother)

/-- First fit never goes beyond the end of the occupied intervals. -/
theorem allocateFromIntervals_ends (hroom : bound + size ≤ frozenLocalMemSize)
    (hbound : ¬ busy → ∀ interval ∈ intervals, interval.2 ≤ bound) :
    Ends ((allocateFromIntervals size intervals).mapError fun
        | .text message => .resourcesUnavailable message
        | err => err)
      (fun place => place.1.size = size ∧ (¬ busy → place.2 ≤ bound)) (Scarce busy) := by
  have hle : ¬ busy → freeOffset size (intervals.mergeSort fun a b => decide (a.1 ≤ b.1)) 0 ≤
      bound := by
    intro hidle
    refine freeOffset_le (Nat.zero_le _) fun interval hin => ?_
    exact hbound hidle interval (List.mem_mergeSort.mp hin)
  unfold allocateFromIntervals
  dsimp only
  by_cases hfull : frozenLocalMemSize <
      freeOffset size (intervals.mergeSort fun a b => decide (a.1 ≤ b.1)) 0 + size
  · rw [rejectIf, if_pos hfull]
    refine ⟨?_, _, rfl⟩
    by_contra hidle
    have := hle hidle
    omega
  · rw [rejectIf, if_neg hfull]
    exact ⟨rfl, hle⟩

theorem stageMembers_ends (hbusy : ∀ warp, m.byWarp warp ≠ none → busy)
    (hfresh : ∀ warp ∈ members.map WarpMembership.warpID, warp ∉ staged)
    (hnodup : (members.map WarpMembership.warpID).Nodup) :
    Ends (foldEach m.stageMember i staged members) (fun staged' => (∀ warp, warp ∈ staged' ↔
          warp ∈ staged ∨ warp ∈ members.map WarpMembership.warpID) ∧
        ∀ member ∈ members, m.byWarp member.warpID = none) (Scarce busy) := by
  induction members generalizing staged i with
  | nil =>
    refine ⟨fun warp => ?_, fun _ hin => absurd hin List.not_mem_nil⟩
    simp
  | cons member members ih =>
    obtain ⟨hnew, hrest⟩ := List.nodup_cons.mp hnodup
    have hone : Ends (m.stageMember i staged member)
        (fun staged' => staged' = member.warpID :: staged ∧ m.byWarp member.warpID = none)
        (Scarce busy) := by
      unfold CTAManager.stageMember
      cases hkey : m.byWarp member.warpID with
      | some key =>
        refine ⟨hbusy member.warpID ?_, _, rfl⟩
        rw [hkey]
        exact Option.some_ne_none key
      | none => exact .check (hfresh _ List.mem_cons_self) (.pure ⟨rfl, rfl⟩)
    refine .bind hone ?_
    rintro _ ⟨rfl, hnone⟩
    refine .mono (ih (i := i + 1) ?_ hrest) ?_
    · intro warp hwarp hin
      rcases List.mem_cons.mp hin with rfl | hin
      · exact hnew hwarp
      · exact hfresh warp (List.mem_cons_of_mem _ hwarp) hin
    · rintro staged' - ⟨hmarked, hfree⟩
      refine ⟨fun warp => ?_, ?_⟩
      · rw [hmarked, List.map_cons, List.mem_cons, List.mem_cons, or_assoc]
        exact or_left_comm
      · intro other hother
        rcases List.mem_cons.mp hother with rfl | hother
        · exact hnone
        · exact hfree other hother

/-- A candidate of the launch at a free slot and with free warps. -/
structure CTAManager.Candidate (m : CTAManager) (launch : LaunchState) (cta : CTAState) : Prop where
  made : ∃ warps, cta.Made launch warps
  slot : m.ctas (Fin.ofNat frozenWarpCount cta.config.id.toNat) = none
  warps : ∀ member ∈ cta.members, m.byWarp member.warpID = none

/-- The stage after some candidates. -/
structure CTAManager.Staging (m : CTAManager) (launch : LaunchState) (warpIDs : List (List WarpID))
    (busy : Prop) (k : Nat) (scan : CTAManager.AdmissionScan) : Prop where
  count : scan.candidates.length = k
  started : startedWarps scan.candidates = (warpIDs.take k).flatten
  marked : ∀ warp, warp ∈ scan.stagedWarps ↔ warp ∈ (warpIDs.take k).flatten
  candidates : ∀ cta ∈ scan.candidates, m.Candidate launch cta
  intervals : ¬ busy → ∀ interval ∈ scan.intervals,
    interval.2 ≤ k * launch.alignedLocalMemorySize.toNat

variable {warpIDs : List (List WarpID)} {k : Nat} {warps : List WarpID} {slots : WarpID → Slot σ}

theorem flatten_take_succ (h : warpIDs[k]? = some warps) :
    (warpIDs.take (k + 1)).flatten = (warpIDs.take k).flatten ++ warps := by
  rw [List.take_add_one, h, Option.toList_some, List.flatten_append, List.flatten_singleton]

/-- A later set of warps is distinct from those before it. -/
theorem Selection.fresh (h : Selection slots required warpIDs) (hk : warpIDs[k]? = some warps) :
    warps.Nodup ∧ ∀ warp ∈ warps, warp ∉ (warpIDs.take k).flatten := by
  have hsub : ((warpIDs.take (k + 1)).flatten).Nodup :=
    h.distinct.sublist (List.Sublist.flatten (List.take_sublist _ _))
  rw [flatten_take_succ hk] at hsub
  obtain ⟨-, hnodup, hdisjoint⟩ := List.nodup_append.mp hsub
  exact ⟨hnodup, fun warp hwarp hin => hdisjoint warp hin warp hwarp rfl⟩

theorem LaunchState.Cluster.stageCandidate (hv : launch.Valid) (hc : launch.Cluster configs)
    (hs : Selection slots (requiredWarps launch.blockSize) warpIDs)
    (hbusy : ∀ warp, m.byWarp warp ≠ none → busy) {config : CTAConfig}
    (hconfig : configs[k]? = some config) (hwarps : warpIDs[k]? = some warps)
    (hslot : m.ctas slot = none) {scan : CTAManager.AdmissionScan}
    (hscan : m.Staging launch warpIDs busy k scan) :
    Ends (m.stageCandidate k scan ({ config with warpIDs := warps.map Fin.val }, slot))
      (m.Staging launch warpIDs busy (k + 1)) (Scarce busy) := by
  obtain ⟨hnodup, hfresh⟩ := hs.fresh hwarps
  have hid : (BitVec.ofNat 32 slot.val).toNat = slot.val := slot_toNat slot
  obtain ⟨cta, hok, hmade⟩ := hv.accepts (BitVec.ofNat 32 slot.val) config.blockID
    (decide (k = 0)) (hid.symm ▸ slot.isLt) (hc.inside k config hconfig) hnodup
    (hs.sizes warps (List.mem_of_getElem? hwarps))
  have hlt : k + 1 ≤ launch.clusterSize.toNat := by
    rw [← hc.complete]
    exact (List.getElem?_eq_some_iff.mp hconfig).1
  have hroom : k * launch.alignedLocalMemorySize.toNat + launch.alignedLocalMemorySize.toNat ≤
      frozenLocalMemSize := by
    rw [← Nat.succ_mul]
    exact Nat.le_trans (Nat.mul_le_mul_right _ hlt) hv.memory
  have hctaID := (validateCTAConfig_ranked hok).1
  rw [hc.shared k config hconfig]
  refine .bind (.of_eq hok rfl) ?_
  rintro _ rfl
  refine .bind (stageMembers_ends hbusy (fun warp hwarp hin => ?_) ?_) fun staged hstaged => ?_
  · rw [hmade.warps] at hwarp
    exact hfresh warp hwarp ((hscan.marked warp).mp hin)
  · rw [hmade.warps]
    exact hnodup
  rw [hmade.memory]
  refine .bind (allocateFromIntervals_ends hroom hscan.intervals) fun place hplace =>
    Ends.pure ⟨?_, ?_, ?_, ?_, ?_⟩
  · rw [List.length_append, hscan.count]
    rfl
  · rw [startedWarps_snoc, hscan.started, flatten_take_succ hwarps, ← hmade.warps]
    rfl
  · intro warp
    rw [hstaged.1, hscan.marked, flatten_take_succ hwarps, List.mem_append, hmade.warps]
  · refine Lists.forall_mem_snoc hscan.candidates ⟨⟨warps, ?_⟩, ?_, hstaged.2⟩
    · exact ⟨hmade.startup, hmade.memory, hmade.warps, hmade.masks⟩
    · change m.ctas (Fin.ofNat frozenWarpCount cta.config.id.toNat) = none
      rw [hctaID, ofNat_slot]
      exact hslot
  · intro hidle
    refine Lists.forall_mem_snoc (fun interval hin => ?_) ?_
    · refine Nat.le_trans (hscan.intervals hidle interval hin) ?_
      exact Nat.mul_le_mul_right _ (Nat.le_succ k)
    · change place.2 + place.1.size ≤ _
      rw [hplace.1, Nat.succ_mul]
      exact Nat.add_le_add_right (hplace.2 hidle) _

/-- What an admission has staged. -/
structure CTAManager.StageOk (m : CTAManager) (launch : LaunchState)
    (warpIDs : List (List WarpID)) (stage : CTAManager.AdmissionStage) : Prop where
  epoch : stage.epoch = m.epoch
  count : stage.candidates.length = warpIDs.length
  started : startedWarps stage.candidates = warpIDs.flatten
  candidates : ∀ cta ∈ stage.candidates, m.Candidate launch cta

theorem mem_freeCTAIDs (h : slot ∈ m.freeCTAIDs) : m.ctas slot = none :=
  Option.isNone_iff_eq_none.mp (List.mem_filter.mp h).2

theorem CTAManager.Consistent.busy_of_byWarp (hm : m.Consistent)
    (hbusy : ∀ slot, m.ctas slot ≠ none → busy) {warp : WarpID} (h : m.byWarp warp ≠ none) :
    busy := by
  obtain ⟨key, hkey⟩ := Option.ne_none_iff_exists'.mp h
  obtain ⟨cta, hcta, -⟩ := hm.placed warp key hkey
  refine hbusy key.ctaID ?_
  rw [hcta]
  exact Option.some_ne_none cta

/-- The stage fails only where CTAs are resident. -/
theorem LaunchState.Cluster.stage (hv : launch.Valid) (hc : launch.Cluster configs)
    (hs : Selection slots (requiredWarps launch.blockSize) warpIDs)
    (hlength : warpIDs.length = configs.length) (hm : m.Consistent)
    (hattached : m.dynamic = true ∧ m.isSealed = true ∧ m.barriers.isSome = true)
    (hbusy : ∀ slot, m.ctas slot ≠ none → busy) :
    Ends (m.stageDynamicAdmissions configs warpIDs) (m.StageOk launch warpIDs) (Scarce busy) := by
  have hpos : 0 < configs.length := hc.complete ▸ hv.size_pos
  refine .check ?_ (.check ?_ (.refuse ?_ fun hslots => ?_))
  · rw [not_or, not_not]
    exact ⟨hpos.ne', hlength.symm⟩
  · obtain ⟨hdynamic, hsealed, hbarriers⟩ := hattached
    rw [not_or, not_or, hdynamic, hsealed, Bool.not_eq_true, Option.isNone_eq_false_iff]
    exact ⟨Bool.noConfusion, Bool.noConfusion, hbarriers⟩
  · intro hfew
    refine ⟨?_, _, rfl⟩
    by_contra hidle
    have hall : m.freeCTAIDs = List.finRange frozenWarpCount := by
      refine List.filter_eq_self.mpr fun slot _ => Option.isNone_iff_eq_none.mpr ?_
      by_contra hresident
      exact hidle (hbusy slot hresident)
    rw [hall, List.length_finRange, hc.complete] at hfew
    exact absurd hv.slots (Nat.not_le.mpr hfew)
  rw [Nat.not_lt] at hslots
  set entries := ((configs.zip warpIDs).map fun entry : CTAConfig × List WarpID =>
    { entry.1 with warpIDs := entry.2.map Fin.val }).zip m.freeCTAIDs with hentries
  have hcount : entries.length = warpIDs.length := by
    rw [hentries, List.length_zip, List.length_map, List.length_zip, hlength, Nat.min_self]
    exact Nat.min_eq_left hslots
  refine .bind (.foldEach (m.Staging launch warpIDs busy) (fun k entry scan hk hscan => ?_)
    ?_) fun scan hscan => .pure ?_
  · rw [Nat.zero_add] at hscan ⊢
    obtain ⟨hfirst, hslot⟩ := List.getElem?_zip_eq_some.mp hk
    rw [List.getElem?_map, Option.map_eq_some_iff] at hfirst
    obtain ⟨⟨config, warps⟩, hpair, hentry⟩ := hfirst
    obtain ⟨hconfig, hwarps⟩ := List.getElem?_zip_eq_some.mp hpair
    have heq : entry = ({ config with warpIDs := warps.map Fin.val }, entry.2) :=
      Prod.ext hentry.symm rfl
    rw [heq]
    exact hc.stageCandidate hv hs (fun _ => hm.busy_of_byWarp hbusy) hconfig hwarps
      (mem_freeCTAIDs (List.mem_of_getElem? hslot)) hscan
  · refine ⟨rfl, rfl, fun warp => ?_, fun _ hin => absurd hin List.not_mem_nil, ?_⟩
    · simp
    · intro hidle interval hin
      obtain ⟨slot, -, hsome⟩ := List.mem_filterMap.mp hin
      obtain ⟨cta, hcta, -⟩ := Option.map_eq_some_iff.mp hsome
      refine absurd (hbusy slot ?_) hidle
      rw [hcta]
      exact Option.some_ne_none cta
  · rw [Nat.zero_add, hcount] at hscan
    refine ⟨rfl, hscan.count, ?_, hscan.candidates⟩
    rw [hscan.started, List.take_length]

end

/-! ## The launch of the warps -/

/-- A target the owners can launch. -/
structure WarpLaunchTarget.Ready (target : WarpLaunchTarget) (owners : Owners) : Prop where
  inRange : target.warpID < frozenWarpCount
  names : (owners target.owner).id = target.warpID
  aligned : ¬ misaligned target.startupPC
  mask : target.activeMask.Valid ∧ target.activeMask ≠ 0#8
  idle : (owners target.owner).lifecycle = .inactive ∧ (owners target.owner).activeMask = 0#8

theorem scanLaunchTargets_ok {owners : Owners} (hready : ∀ target ∈ targets, target.Ready owners)
    (hids : (targets.map WarpLaunchTarget.warpID).Nodup)
    (howners : (targets.map WarpLaunchTarget.owner).Nodup) (scan : TargetScan) (i : Nat)
    (hnew : ∀ target ∈ targets, target.warpID ∉ scan.ids ∧ target.owner ∉ scan.used) :
    ∃ scan', foldEach (scanLaunchTarget owners) i scan targets = .ok scan' := by
  induction targets generalizing scan i with
  | nil => exact ⟨scan, rfl⟩
  | cons target targets ih =>
    obtain ⟨hid, hids⟩ := List.nodup_cons.mp hids
    obtain ⟨howner, howners⟩ := List.nodup_cons.mp howners
    have hfirst := hready target List.mem_cons_self
    have hone : Ends (scanLaunchTarget owners i scan target) (fun scan' =>
        scan'.ids = target.warpID :: scan.ids ∧ scan'.used = target.owner :: scan.used)
        fun _ => False := by
      obtain ⟨hunmarked, hunused⟩ := hnew target List.mem_cons_self
      refine .check (Nat.not_le.mpr hfirst.inRange) (.check (not_not.mpr hfirst.names)
        (.check hunmarked (.check hunused (.check hfirst.aligned
          (.check ?_ (.check ?_ (.pure ⟨rfl, rfl⟩)))))))
      · exact not_or.mpr ⟨not_not.mpr hfirst.mask.1, hfirst.mask.2⟩
      · exact not_or.mpr ⟨not_not.mpr hfirst.idle.1, not_not.mpr hfirst.idle.2⟩
    obtain ⟨middle, hstep, hmarked, hused⟩ := hone.ok
    have hrest : ∀ other ∈ targets, other.warpID ∉ middle.ids ∧ other.owner ∉ middle.used := by
      intro other hother
      have hold := hnew other (List.mem_cons_of_mem _ hother)
      rw [hmarked, hused, List.mem_cons, List.mem_cons, not_or, not_or]
      refine ⟨⟨fun he => hid ?_, hold.1⟩, fun he => howner ?_, hold.2⟩
      · exact he ▸ List.mem_map_of_mem hother
      · exact he ▸ List.mem_map_of_mem hother
    obtain ⟨scan', hscan'⟩ := ih (fun t ht => hready t (List.mem_cons_of_mem _ ht)) hids howners
      middle (i + 1) hrest
    exact ⟨scan', foldEach_cons.mpr ⟨middle, hstep, hscan'⟩⟩

/-- Targets that are ready and distinct are launched. -/
theorem stageWarpLaunch_ok {owners : Owners} (hready : ∀ target ∈ targets, target.Ready owners)
    (hids : (targets.map WarpLaunchTarget.warpID).Nodup)
    (howners : (targets.map WarpLaunchTarget.owner).Nodup)
    (hcount : targets.length ≠ 0 ∧ targets.length ≤ frozenWarpCount) :
    ∃ stage out, stageWarpLaunch owners targets = .ok stage ∧ stage.commit owners = .ok out := by
  obtain ⟨scan, hscan⟩ := scanLaunchTargets_ok hready hids howners {} 0
    fun _ _ => ⟨List.not_mem_nil, List.not_mem_nil⟩
  have hstage : stageWarpLaunch owners targets = .ok { targets := scan.candidates } := by
    unfold stageWarpLaunch
    simp only [ok_iff]
    exact ⟨not_or.mpr ⟨hcount.1, Nat.not_lt.mpr hcount.2⟩, scan, hscan, rfl⟩
  have htargets := stageWarpLaunch_targets hstage
  have hcommit : Ends (WarpLaunchStage.commit { targets := scan.candidates } owners)
      (fun _ => True) fun _ => False := by
    refine .check ?_ (.check Bool.false_ne_true (.check ?_ (.pure trivial)))
    · rw [htargets, List.length_map]
      exact hcount.1
    · rintro ⟨c, hc, hstale⟩
      rw [htargets, List.mem_map] at hc
      obtain ⟨target, -, rfl⟩ := hc
      exact hstale rfl
  obtain ⟨out, hout, -⟩ := hcommit.ok
  exact ⟨_, out, hstage, hout⟩

/-! ## The whole admission -/

section

variable {w : World σ}

theorem Slot.Ok.unused {warp : WarpState} (h : slot.Ok warp) (hv : slot.Vacant) :
    slotUnused slot ∧ warp.lifecycle = .inactive := by
  have hfits := h.fits
  unfold Slot.Fits at hfits
  rw [hv.1] at hfits
  obtain ⟨hp, hreason, hwarp⟩ := hfits
  have hmeta := h.metadata (by rw [hreason]; decide)
  exact ⟨⟨hv.1, hp, hreason, hmeta⟩, hwarp⟩

/-- A core without a resident CTA has only vacant slots. -/
theorem World.Inv.vacant (h : w.Inv) (hctas : w.core.ctas = some manager)
    (hidle : ∀ slot, (w.managers manager).ctas slot = none) (id : WarpID) :
    (w.core.slots id).Vacant := by
  have hp : (w.core.slots id).participated = false := by
    by_contra hp
    have hmember := (h.attached manager hctas).members id (Bool.not_eq_false _ ▸ hp)
    obtain ⟨key, hkey⟩ := Option.isSome_iff_exists.mp hmember
    obtain ⟨cta, hcta, -⟩ := (h.managers manager).placed id key hkey
    rw [hidle] at hcta
    cases hcta
  refine ⟨?_, hp⟩
  have hfits := (h.slots id).fits
  unfold Slot.Fits at hfits
  cases hl : (w.core.slots id).lifecycle with
  | inactive => rfl
  | runnable | blocked | finished =>
    rw [hl, hp] at hfits
    cases hfits.1

/-- The staged warps are launched. -/
theorem World.Inv.launches (h : w.Inv) (hv : launch.Valid)
    (hs : Selection w.core.slots (requiredWarps launch.blockSize) warpIDs) {m : CTAManager}
    (hstage : m.StageOk launch warpIDs stage)
    (hcount : warpIDs.flatten.length ≠ 0 ∧ warpIDs.flatten.length ≤ frozenWarpCount) :
    ∃ launched out, stageWarpLaunch w.owners (w.launchTargets stage.candidates) = .ok launched ∧
      launched.commit w.owners = .ok out := by
  have hwarps : (w.launchTargets stage.candidates).map WarpLaunchTarget.warpID =
      warpIDs.flatten.map Fin.val := by
    rw [← hstage.started]
    unfold launchTargets startedWarps
    rw [List.map_flatMap, List.map_flatMap]
    refine congrArg (fun f => stage.candidates.flatMap f) (funext fun candidate => ?_)
    rw [List.map_map, List.map_map]
    rfl
  have howners := w.launchTargets_owner stage.candidates
  rw [hstage.started] at howners
  refine stageWarpLaunch_ok ?_ ?_ ?_ ?_
  · intro target htarget
    obtain ⟨cta, hcta, hin⟩ := List.mem_flatMap.mp htarget
    obtain ⟨member, hmember, rfl⟩ := List.mem_map.mp hin
    obtain ⟨warps, hmade⟩ := (hstage.candidates cta hcta).made
    have hstarted : member.warpID ∈ warpIDs.flatten := by
      rw [← hstage.started]
      exact List.mem_flatMap.mpr ⟨cta, hcta, List.mem_map_of_mem hmember⟩
    have hinactive := ((h.slots member.warpID).unused (hs.vacant _ hstarted)).2
    refine ⟨member.warpID.isLt, h.ids member.warpID, ?_, hmade.masks member hmember, hinactive, ?_⟩
    · rw [hmade.startup]
      exact not_not.mpr hv.startup
    · by_contra hne
      have hrunning := (h.wf member.warpID).running_iff.mpr hne
      rw [hinactive] at hrunning
      cases hrunning
  · rw [hwarps]
    exact hs.distinct.map Fin.val_injective
  · rw [howners]
    exact hs.distinct.map fun i j hij => h.owner_inj hij
  · rw [← List.length_map WarpLaunchTarget.warpID, hwarps, List.length_map]
    exact hcount

/-- What was free when it was staged is free at the commit. -/
theorem CTAManager.StageOk.recheck {m : CTAManager} (hstage : m.StageOk launch warpIDs stage)
    (hcount : warpIDs.length ≠ 0) (hattached : m.dynamic = true ∧ m.isSealed = true) :
    m.recheck stage = .ok () := by
  unfold CTAManager.recheck
  simp only [ok_iff]
  refine ⟨?_, ?_, each_eq_ok (fun _ candidate hin => ?_) 0⟩
  · rw [hstage.count]
    exact hcount
  · rw [hattached.1, hattached.2, hstage.epoch]
    simp
  · have hcandidate := hstage.candidates candidate hin
    simp only [ok_iff, each_rejectIf_eq_ok, ne_eq, not_not]
    exact ⟨hcandidate.slot, hcandidate.warps⟩

/-- A cluster of an accepted launch is refused only for lack of resources, and only by a core
with a resident CTA. -/
theorem LaunchState.Cluster.prepare (hv : launch.Valid) (hc : launch.Cluster configs) (h : w.Inv)
    (hctas : w.core.ctas = some manager) (hdynamic : (w.managers manager).dynamic = true) :
    Ends (prepareAdmission configs w) (fun _ => True)
      (Scarce (∃ slot, (w.managers manager).ctas slot ≠ none)) := by
  have hat := h.attached manager hctas
  have hvacant : ¬ (∃ slot, (w.managers manager).ctas slot ≠ none) →
      ∀ id, (w.core.slots id).Vacant := by
    intro hidle
    refine h.vacant hctas fun slot => ?_
    by_contra hresident
    exact hidle ⟨slot, hresident⟩
  refine .bind (.of_eq h.validate rfl) ?_
  rintro _ rfl
  rw [hctas]
  refine .check (by rw [hdynamic]; exact Bool.noConfusion) ?_
  refine .bind (hc.select hv hvacant) fun warpIDs ⟨hs, hlength⟩ => ?_
  refine .bind (hc.stage hv hs hlength (h.managers manager)
    ⟨hdynamic, hat.isSealed, hat.coordinator⟩ fun slot hslot => ⟨slot, hslot⟩)
    fun stage hstage => ?_
  have hsize : warpIDs.flatten.length =
      launch.clusterSize.toNat * requiredWarps launch.blockSize := by
    rw [hs.flatten_length, hlength, hc.complete]
  obtain ⟨launched, out, hlaunched, hout⟩ := h.launches hv hs hstage ⟨by
    rw [hsize]
    exact (Nat.mul_pos hv.size_pos (requiredWarps_pos hv.threads.1)).ne', by
    rw [hsize]
    exact hv.warps⟩
  refine .bind (.of_eq hlaunched rfl) ?_
  rintro _ rfl
  refine .bind (Q := fun _ => True) ?_ fun _ _ => .pure trivial
  have hcount : warpIDs.length ≠ 0 := by
    rw [hlength, hc.complete]
    exact hv.size_pos.ne'
  refine .bind (Q := fun _ => True)
    (.of_eq (hstage.recheck hcount ⟨hdynamic, hat.isSealed⟩) trivial) fun _ _ => ?_
  refine .bind (Q := fun _ => True) ?_ fun _ _ => .pure trivial
  refine .bind (Q := fun _ => True) (.each fun _ id hid => ?_) fun _ _ => ?_
  · rw [hstage.started] at hid
    exact .reject (fun hbad => absurd ((h.slots id).unused (hs.vacant id hid)).1 hbad)
      fun _ => trivial
  · exact .bind (Q := fun _ => True) (.of_eq hout trivial) fun _ _ => .pure trivial

end

end VortexSim
