import VortexSim.Core.LocalRun
import VortexSim.Core.ManagerRun

/-!
# First fit is least

The sweep over the occupied intervals stops at the first gap that is large enough.  It would skip a
gap behind an empty interval, but along every history an empty interval starts at zero, where
there is nothing before it.  So the sweep finds the least offset that fits, in whatever order the
intervals are listed.
-/

namespace VortexSim

open Checked Spans

/-- The request has room at the offset. -/
structure Fits (size : Nat) (intervals : List Span) (offset : Nat) : Prop where
  inside : offset + size ≤ frozenLocalMemSize
  clear : ∀ span ∈ intervals, Apart (offset, offset + size) span

/-- An interval that holds a byte, or ends at zero. -/
def Grounded (span : Span) : Prop := span.1 < span.2 ∨ span.2 = 0

theorem freeOffset_zero (spans : List Span) : freeOffset 0 spans 0 = 0 := by
  cases spans with
  | nil => rfl
  | cons span spans => exact if_pos (Nat.zero_le span.1)

/-- The sweep passes no offset that is clear. -/
theorem freeOffset_le_clear {base : Nat} (hsize : 0 < size) (hspans : ∀ span ∈ spans, Grounded span)
    (hbase : base ≤ offset) (hclear : ∀ span ∈ spans, Apart (offset, offset + size) span) :
    freeOffset size spans base ≤ offset := by
  induction spans generalizing base with
  | nil => exact hbase
  | cons span spans ih =>
    obtain ⟨hspan, hrest⟩ := List.forall_mem_cons.mp hspans
    obtain ⟨hfirst, hothers⟩ := List.forall_mem_cons.mp hclear
    unfold freeOffset
    split
    · exact hbase
    · rename_i hfull
      refine ih hrest (Nat.max_le.mpr ⟨hbase, ?_⟩) hothers
      by_contra hinside
      -- a byte that the request at `offset` shares with the interval
      have hshared := hfirst (max offset span.1)
      unfold Holds at hshared
      rcases hspan with hspan | hspan <;> omega

section

variable {size : Nat} {intervals : List Span}

/-- First fit returns the least offset that fits, and fails only where none does. -/
theorem allocateFromIntervals_least (hground : ∀ span ∈ intervals, Grounded span) :
    Ends (allocateFromIntervals size intervals)
      (fun place => place.1 = { address := frozenLocalMemBase, size } ∧
        IsLeast { offset | Fits size intervals offset } place.2)
      fun err => err = .text s!"core: no LMEM allocation of {size} bytes remains" ∧
        ∀ offset, ¬ Fits size intervals offset := by
  have hleast : ∀ offset, Fits size intervals offset →
      freeOffset size (intervals.mergeSort fun a b => decide (a.1 ≤ b.1)) 0 ≤ offset := by
    intro offset hfits
    rcases Nat.eq_zero_or_pos size with rfl | hsize
    · rw [freeOffset_zero]
      exact Nat.zero_le offset
    · refine freeOffset_le_clear hsize (fun span hspan => ?_) (Nat.zero_le offset)
        fun span hspan => ?_
      · exact hground span (List.mem_mergeSort.mp hspan)
      · exact hfits.clear span (List.mem_mergeSort.mp hspan)
  cases h : allocateFromIntervals size intervals with
  | ok place =>
    obtain ⟨hallocation, hroom, hclear⟩ := allocateFromIntervals_eq_ok h
    refine ⟨hallocation, ⟨hroom, hclear⟩, fun offset hfits => ?_⟩
    unfold allocateFromIntervals at h
    simp only [ok_iff] at h
    obtain ⟨-, rfl⟩ := h
    exact hleast offset hfits
  | error err =>
    unfold allocateFromIntervals rejectIf at h
    dsimp only at h
    split at h
    · rename_i hfull
      cases h
      refine ⟨rfl, fun offset hfits => ?_⟩
      have hroom := (Nat.add_le_add_right (hleast offset hfits) size).trans hfits.inside
      exact absurd hroom (Nat.not_le.mpr hfull)
    · cases h

theorem Fits.perm (h : intervals'.Perm intervals) (offset : Nat) :
    Fits size intervals' offset ↔ Fits size intervals offset :=
  ⟨fun hf => ⟨hf.inside, fun span hspan => hf.clear span (h.mem_iff.mpr hspan)⟩,
    fun hf => ⟨hf.inside, fun span hspan => hf.clear span (h.mem_iff.mp hspan)⟩⟩

/-- The order of the intervals does not matter. -/
theorem allocateFromIntervals_perm (hground : ∀ span ∈ intervals, Grounded span)
    (hperm : intervals'.Perm intervals) :
    allocateFromIntervals size intervals' = allocateFromIntervals size intervals := by
  have hends : Ends (allocateFromIntervals size intervals) _ _ :=
    allocateFromIntervals_least hground
  have hends' : Ends (allocateFromIntervals size intervals') _ _ :=
    allocateFromIntervals_least fun span hspan => hground span (hperm.mem_iff.mp hspan)
  simp only [Fits.perm hperm] at hends'
  cases h : allocateFromIntervals size intervals <;>
    cases h' : allocateFromIntervals size intervals' <;> rw [h] at hends <;> rw [h'] at hends'
  · rw [hends.1, hends'.1]
  · exact absurd hends'.2.1 (hends.2 _)
  · exact absurd hends.2.1 (hends'.2 _)
  · refine congrArg Except.ok (Prod.ext (hends'.1.trans hends.1.symm) ?_)
    exact Nat.le_antisymm (hends'.2.2 hends.2.1) (hends.2.2 hends'.2.1)

/-- An empty request is placed at zero. -/
theorem CTAState.place_grounded (cta : CTAState) {place : LocalMemoryAllocation × Nat}
    (h : allocateFromIntervals size intervals = .ok place) :
    Grounded (cta.place place).interval := by
  unfold allocateFromIntervals at h
  simp only [ok_iff] at h
  obtain ⟨-, rfl⟩ := h
  rcases Nat.eq_zero_or_pos size with rfl | hsize
  · exact .inr (freeOffset_zero _)
  · exact .inl (Nat.lt_add_of_pos_right hsize)

end

/-! ## Histories -/

namespace CTAManager

variable {m : CTAManager}

/-- The intervals of the residents hold a byte or end at zero. -/
def Packed (m : CTAManager) : Prop := ∀ slot cta, m.ctas slot = some cta → Grounded cta.interval

theorem Packed.install (hm : m.Packed) (hcta : Grounded cta.interval) : (m.install cta).Packed := by
  intro slot other hother
  change Function.update m.ctas _ (some cta) slot = some other at hother
  rw [Function.update_apply] at hother
  split at hother
  · cases hother
    exact hcta
  · exact hm slot other hother

theorem Packed.installAll {candidates : List CTAState} (hm : m.Packed)
    (h : ∀ cta ∈ candidates, Grounded cta.interval) :
    (candidates.foldl CTAManager.install m).Packed := by
  induction candidates generalizing m with
  | nil => exact hm
  | cons cta candidates ih =>
    obtain ⟨hcta, hrest⟩ := List.forall_mem_cons.mp h
    exact ih (hm.install hcta) hrest

/-- The candidates of a cluster are placed one after the other. -/
theorem stageCandidate_grounded (h : m.stageCandidate i scan entry = .ok scan')
    (hs : ∀ cta ∈ scan.candidates, Grounded cta.interval) :
    ∀ cta ∈ scan'.candidates, Grounded cta.interval := by
  unfold stageCandidate at h
  simp only [ok_iff, mapError_eq_ok] at h
  obtain ⟨candidate, -, staged, -, place, hplace, rfl⟩ := h
  exact Lists.forall_mem_snoc hs (candidate.place_grounded hplace)

theorem scan_grounded (h : foldEach m.stageCandidate i scan entries = .ok scan')
    (hs : ∀ cta ∈ scan.candidates, Grounded cta.interval) :
    ∀ cta ∈ scan'.candidates, Grounded cta.interval :=
  foldEach_invariant (fun scan => ∀ cta ∈ scan.candidates, Grounded cta.interval)
    (fun _ _ _ _ _ hstep => stageCandidate_grounded hstep) h hs

theorem Changes.packed {op : ManagerOp} (h : m.Changes op m' result) (hm : m.Packed) :
    m'.Packed := by
  cases h with
  | enters admitted =>
    obtain ⟨henters, rfl⟩ := admitCTA_enters admitted
    obtain ⟨candidate, place, -, hplace, rfl⟩ := henters.placed
    exact hm.install (candidate.place_grounded hplace)
  | seals => exact hm
  | binds => exact hm
  | admits staged rechecked =>
    unfold stageDynamicAdmissions at staged
    simp only [ok_iff] at staged
    obtain ⟨-, -, -, scan, hscan, rfl⟩ := staged
    exact Packed.installAll hm (scan_grounded hscan fun _ hmem => absurd hmem List.not_mem_nil)
  | removes resident quiet =>
    intro slot cta hcta
    change Function.update m.ctas _ none slot = some cta at hcta
    rw [Function.update_apply] at hcta
    split at hcta
    · cases hcta
    · exact hm slot cta hcta
  | observes observed =>
    obtain ⟨slot, cta, rank, hcta, rfl⟩ := observeWarpFinished_eq_ok observed
    intro other found hfound
    change Function.update m.ctas slot (some (cta.finish rank)) other = some found at hfound
    rw [Function.update_apply] at hfound
    split at hfound
    · cases hfound
      exact hm slot cta hcta
    · exact hm other found hfound
  | requests staged => exact hm
  | completes staged => exact hm

theorem runOps_packed (hm : m.Packed) (ops : List ManagerOp) : (m.runOps ops).Packed := by
  induction ops generalizing m with
  | nil => exact hm
  | cons op ops ih =>
    refine ih ?_
    unfold next
    split
    · rename_i heq
      exact (performOp_changes heq).packed hm
    · exact hm

/-- After any history of admissions and reclaims, and at every candidate of a cluster that is being
staged then: the intervals in any order give the least offset that fits, always the same one, and
an error only where no offset fits. -/
theorem first_fit_least (hstart : m = .new ∨ m = .newDynamic) (ops : List ManagerOp)
    (entries : List (CTAConfig × CTASlot)) (scan : AdmissionScan)
    (hscan : foldEach (m.runOps ops).stageCandidate 0
      { intervals := (m.runOps ops).allocationIntervals } entries = .ok scan)
    (intervals : List Span) (hperm : intervals.Perm scan.intervals) (size : Nat) :
    allocateFromIntervals size intervals = allocateFromIntervals size scan.intervals ∧
      Ends (allocateFromIntervals size intervals)
        (fun place => place.1 = { address := frozenLocalMemBase, size } ∧
          IsLeast { offset | Fits size intervals offset } place.2)
        fun err => err = .text s!"core: no LMEM allocation of {size} bytes remains" ∧
          ∀ offset, ¬ Fits size intervals offset := by
  have hpacked : (m.runOps ops).Packed := by
    refine runOps_packed (fun slot cta hcta => ?_) ops
    rcases hstart with rfl | rfl <;> cases hcta
  have hspread : scan.intervals =
      (m.runOps ops).allocationIntervals ++ scan.candidates.map CTAState.interval :=
    (AdmissionScan.Spread.scan hscan).intervals
  have hground : ∀ span ∈ scan.intervals, Grounded span := by
    intro span hspan
    rw [hspread] at hspan
    rcases List.mem_append.mp hspan with hold | hnew
    · obtain ⟨slot, -, hslot⟩ := List.mem_filterMap.mp hold
      obtain ⟨cta, hcta, rfl⟩ := Option.map_eq_some_iff.mp hslot
      exact hpacked slot cta hcta
    · obtain ⟨cta, hcta, rfl⟩ := List.mem_map.mp hnew
      exact scan_grounded hscan (fun _ hmem => absurd hmem List.not_mem_nil) cta hcta
  exact ⟨allocateFromIntervals_perm hground hperm,
    allocateFromIntervals_least fun span hspan => hground span (hperm.mem_iff.mp hspan)⟩

/-- Beside a CTA with a block of local memory. -/
theorem first_fit_least_block :
    (CTAManager.new.runOps [.admitCTA LocalStore.blockConfig]).allocationIntervals = [(0, 64)] ∧
      IsLeast { offset | Fits 16 [(0, 64)] offset } 64 := by
  have hintervals : (CTAManager.new.runOps
      [.admitCTA LocalStore.blockConfig]).allocationIntervals = [(0, 64)] := by decide +kernel
  have hfits := (first_fit_least (.inl rfl) [.admitCTA LocalStore.blockConfig] [] _ rfl [(0, 64)]
    (hintervals ▸ .refl _) 16).2
  have hplace : allocateFromIntervals 16 [(0, 64)] =
      .ok ({ address := frozenLocalMemBase, size := 16 }, 64) := by decide +kernel
  rw [hplace] at hfits
  exact ⟨hintervals, hfits.2⟩

end CTAManager

end VortexSim
