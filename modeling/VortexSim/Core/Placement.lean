import VortexSim.Core.Residents

/-!
# Intervals of local memory

First fit places a CTA between the intervals that are occupied, whatever these are.  So the
candidates of an admission are clear of the residents and of each other, and the residents of a
manager keep apart from each other inside local memory through every admission and reclaim.
-/

namespace VortexSim

open Checked Spans

/-! ## First fit -/

theorem le_freeOffset (size : Nat) (spans : List Span) (offset : Nat) :
    offset ≤ freeOffset size spans offset := by
  induction spans generalizing offset with
  | nil => exact Nat.le_refl _
  | cons span spans ih =>
    unfold freeOffset
    split
    · exact Nat.le_refl _
    · exact Nat.le_trans (Nat.le_max_left _ _) (ih _)

/-- In the order of their starts, the first gap that is large enough is clear of every span. -/
theorem freeOffset_apart (hsorted : spans.Pairwise fun a b => a.1 ≤ b.1) (offset : Nat) :
    ∀ span ∈ spans,
      Apart (freeOffset size spans offset, freeOffset size spans offset + size) span := by
  induction spans generalizing offset with
  | nil => exact fun _ h => absurd h List.not_mem_nil
  | cons first spans ih =>
    obtain ⟨hfirst, hrest⟩ := List.pairwise_cons.mp hsorted
    unfold freeOffset
    split
    · rename_i hroom
      -- the gap ends before the first span starts, and the others start later
      intro span hspan
      refine apart_of_le (Nat.le_trans hroom ?_)
      rcases List.mem_cons.mp hspan with rfl | hspan
      · exact Nat.le_refl _
      · exact hfirst span hspan
    · intro span hspan
      rcases List.mem_cons.mp hspan with rfl | hspan
      · refine (apart_of_le ?_).symm
        exact Nat.le_trans (Nat.le_max_right _ _) (le_freeOffset size spans _)
      · exact ih hrest _ span hspan

theorem allocateFromIntervals_eq_ok (h : allocateFromIntervals size intervals = .ok place) :
    place.1 = { address := frozenLocalMemBase, size } ∧ place.2 + size ≤ frozenLocalMemSize ∧
      ∀ span ∈ intervals, Apart (place.2, place.2 + size) span := by
  unfold allocateFromIntervals at h
  simp only [ok_iff, Nat.not_lt] at h
  obtain ⟨hroom, rfl⟩ := h
  refine ⟨rfl, hroom, fun span hspan => ?_⟩
  have hsorted : (intervals.mergeSort fun a b => decide (a.1 ≤ b.1)).Pairwise
      fun a b => decide (a.1 ≤ b.1) = true := by
    refine List.pairwise_mergeSort (fun a b c hab hbc => ?_) (fun a b => ?_) intervals
    · rw [decide_eq_true_eq] at hab hbc ⊢
      exact Nat.le_trans hab hbc
    · rw [Bool.or_eq_true, decide_eq_true_eq, decide_eq_true_eq]
      exact Nat.le_total _ _
  refine freeOffset_apart (hsorted.imp fun hab => ?_) 0 span (List.mem_mergeSort.mpr hspan)
  exact decide_eq_true_eq.mp hab

theorem CTAState.place_apart (cta : CTAState) {place : LocalMemoryAllocation × Nat}
    (h : allocateFromIntervals size intervals = .ok place) :
    (cta.place place).interval.2 ≤ frozenLocalMemSize ∧
      ∀ span ∈ intervals, Apart (cta.place place).interval span := by
  obtain ⟨hallocation, hroom, hclear⟩ := allocateFromIntervals_eq_ok h
  have hinterval : (cta.place place).interval = (place.2, place.2 + size) := by
    unfold CTAState.interval CTAState.place
    rw [hallocation]
  rw [hinterval]
  exact ⟨hroom, hclear⟩

/-! ## Candidates -/

section

variable {m : CTAManager} {candidates : List CTAState}

theorem CTAManager.interval_mem (h : m.ctas slot = some cta) :
    cta.interval ∈ m.allocationIntervals :=
  List.mem_filterMap.mpr ⟨slot, List.mem_finRange slot, by rw [h]; rfl⟩

/-- Candidates that have room beside the residents. -/
structure CTAManager.Placeable (m : CTAManager) (candidates : List CTAState) : Prop where
  inside : ∀ cta ∈ candidates, cta.interval.2 ≤ frozenLocalMemSize
  clear : ∀ cta ∈ candidates, ∀ slot old, m.ctas slot = some old → Apart cta.interval old.interval
  among : candidates.Pairwise fun a b => Apart a.interval b.interval

theorem CTAManager.Enters.placeable (h : m.Enters config cta) : m.Placeable [cta] := by
  obtain ⟨candidate, place, -, hplace, rfl⟩ := h.placed
  obtain ⟨hroom, hclear⟩ := candidate.place_apart hplace
  refine ⟨fun cta hcta => ?_, fun cta hcta slot old hold => ?_, List.pairwise_singleton _ _⟩
  · rw [List.mem_singleton.mp hcta]
    exact hroom
  · rw [List.mem_singleton.mp hcta]
    exact hclear _ (CTAManager.interval_mem hold)

/-- What the loop over the cluster knows of the intervals. -/
structure CTAManager.AdmissionScan.Spread (m : CTAManager) (scan : CTAManager.AdmissionScan) :
    Prop where
  intervals : scan.intervals = m.allocationIntervals ++ scan.candidates.map CTAState.interval
  placeable : m.Placeable scan.candidates

theorem CTAManager.AdmissionScan.Spread.step (h : m.stageCandidate i scan entry = .ok scan')
    (hs : scan.Spread m) : scan'.Spread m := by
  unfold CTAManager.stageCandidate at h
  simp only [ok_iff, mapError_eq_ok] at h
  obtain ⟨candidate, -, staged, -, place, hplace, rfl⟩ := h
  obtain ⟨hroom, hclear⟩ := candidate.place_apart hplace
  rw [hs.intervals] at hclear
  refine ⟨?_, ?_, ?_, ?_⟩
  · rw [hs.intervals, List.map_append, List.append_assoc, List.map_singleton]
  · exact Lists.forall_mem_snoc hs.placeable.inside hroom
  · refine Lists.forall_mem_snoc hs.placeable.clear fun slot old hold => ?_
    exact hclear _ (List.mem_append_left _ (CTAManager.interval_mem hold))
  · refine List.pairwise_append.mpr ⟨hs.placeable.among, List.pairwise_singleton _ _, ?_⟩
    intro earlier hearlier new hnew
    rw [List.mem_singleton.mp hnew]
    exact (hclear _ (List.mem_append_right _ (List.mem_map_of_mem hearlier))).symm

theorem CTAManager.AdmissionScan.Spread.scan {scan : CTAManager.AdmissionScan}
    (h : foldEach m.stageCandidate 0 { intervals := m.allocationIntervals } entries = .ok scan) :
    scan.Spread m := by
  refine foldEach_invariant (CTAManager.AdmissionScan.Spread m)
    (fun i s x s' _ hstep hs => hs.step hstep) h ⟨?_, ?_, ?_, List.Pairwise.nil⟩
  · rw [List.map_nil, List.append_nil]
  · exact fun _ hmem => absurd hmem List.not_mem_nil
  · exact fun _ hmem => absurd hmem List.not_mem_nil

theorem stageDynamicAdmissions_placeable
    (h : m.stageDynamicAdmissions configs warpIDs = .ok stage) : m.Placeable stage.candidates := by
  unfold CTAManager.stageDynamicAdmissions at h
  simp only [ok_iff] at h
  obtain ⟨-, -, -, scan, hscan, rfl⟩ := h
  exact (CTAManager.AdmissionScan.Spread.scan hscan).placeable

/-! ## Residents -/

/-- The residents have intervals of their own inside local memory. -/
structure CTAManager.Placed (m : CTAManager) : Prop where
  inside : ∀ slot cta, m.ctas slot = some cta → cta.interval.2 ≤ frozenLocalMemSize
  apart : ∀ a b ca cb, a ≠ b → m.ctas a = some ca → m.ctas b = some cb →
    Apart ca.interval cb.interval

theorem CTAManager.placed_of_empty (h : ∀ slot, m.ctas slot = none) : m.Placed := by
  refine ⟨fun slot cta hcta => ?_, fun a b ca cb _ ha _ => ?_⟩
  · rw [h] at hcta
    cases hcta
  · rw [h] at ha
    cases ha

theorem CTAManager.Placed.install (hm : m.Placed) (h : m.Placeable [cta]) :
    (m.install cta).Placed := by
  have hctas : (m.install cta).ctas = Function.update m.ctas cta.slot (some cta) := rfl
  have hone := List.mem_singleton_self cta
  refine ⟨fun slot other hother => ?_, fun a b ca cb hne ha hb => ?_⟩
  · rw [hctas, Function.update_apply] at hother
    split at hother
    · cases hother
      exact h.inside cta hone
    · exact hm.inside slot other hother
  · rw [hctas, Function.update_apply] at ha hb
    split at ha
    · rename_i heq
      cases ha
      rw [if_neg fun hb' => hne (heq.trans hb'.symm)] at hb
      exact h.clear cta hone b cb hb
    · split at hb
      · cases hb
        exact (h.clear cta hone a ca ha).symm
      · exact hm.apart a b ca cb hne ha hb

theorem CTAManager.Placeable.head (h : m.Placeable (cta :: candidates)) : m.Placeable [cta] := by
  refine ⟨fun c hc => ?_, fun c hc => ?_, List.pairwise_singleton _ _⟩
  · exact h.inside c (List.mem_singleton.mp hc ▸ List.mem_cons_self)
  · exact h.clear c (List.mem_singleton.mp hc ▸ List.mem_cons_self)

/-- What is left to enter has room beside what has been entered. -/
theorem CTAManager.Placeable.install (h : m.Placeable (cta :: candidates)) :
    (m.install cta).Placeable candidates := by
  obtain ⟨hfirst, hrest⟩ := List.pairwise_cons.mp h.among
  refine ⟨fun c hc => h.inside c (List.mem_cons_of_mem _ hc), fun c hc slot old hold => ?_, hrest⟩
  have hctas : (m.install cta).ctas = Function.update m.ctas cta.slot (some cta) := rfl
  rw [hctas, Function.update_apply] at hold
  split at hold
  · cases hold
    exact (hfirst c hc).symm
  · exact h.clear c (List.mem_cons_of_mem _ hc) slot old hold

theorem CTAManager.Placed.installAll (hm : m.Placed) (h : m.Placeable candidates) :
    (candidates.foldl CTAManager.install m).Placed := by
  induction candidates generalizing m with
  | nil => exact hm
  | cons cta candidates ih => exact ih (hm.install h.head) h.install

theorem CTAManager.Placed.remove (hm : m.Placed) (slot : CTASlot) (cta : CTAState) :
    (m.remove slot cta).Placed := by
  have hrest : ∀ other c, (m.remove slot cta).ctas other = some c → m.ctas other = some c := by
    intro other c hc
    change Function.update m.ctas slot none other = some c at hc
    rw [Function.update_apply] at hc
    split at hc
    · cases hc
    · exact hc
  refine ⟨fun other c hc => hm.inside other c (hrest other c hc), fun a b ca cb hne ha hb => ?_⟩
  exact hm.apart a b ca cb hne (hrest a ca ha) (hrest b cb hb)

end

end VortexSim
