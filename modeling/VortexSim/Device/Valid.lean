import VortexSim.Device.Launch

/-!
# Accepted launches

What is known of a launch once the validator has accepted it.  Every result about the walker and
the admission of its clusters rests on these facts and not on the validator.
-/

namespace VortexSim

open Checked

/-- The product over the axes. -/
def Axes.product (x : Axes) : Nat := (x 0).toNat * (x 1).toNat * (x 2).toNat

/-- A normalized launch. -/
structure LaunchState.Valid (launch : LaunchState) : Prop where
  startup : launch.startupPC &&& 3#32 = 0#32
  entry : launch.kernelEntryPC &&& 3#32 = 0#32
  block : ∀ axis, launch.blockDimensions axis ≠ 0#32 ∧
    ¬ frozenBlockFieldMax < launch.blockDimensions axis
  steps : ∀ axis, ¬ frozenWarpStepMax < launch.warpStep axis
  threads : launch.blockSize ≠ 0#32 ∧ launch.blockSize.toNat ≤ frozenWarpCount * frozenLaneCount
  localMemory : launch.alignedLocalMemorySize.toNat =
    alignUp launch.localMemorySize.toNat frozenMemoryBlockSize
  cluster : ∀ axis, launch.clusterDimensions axis ≠ 0#32 ∧
    ¬ frozenClusterDimMax < launch.clusterDimensions axis
  size : launch.clusterSize.toNat = launch.clusterDimensions.product
  slots : launch.clusterSize.toNat ≤ frozenWarpCount
  warps : launch.clusterSize.toNat * requiredWarps launch.blockSize ≤ frozenWarpCount
  memory : launch.clusterSize.toNat * launch.alignedLocalMemorySize.toNat ≤ frozenLocalMemSize
  empty : (∃ axis, launch.gridDimensions axis = 0#32) → launch.totalCTAs = 0#32
  grid : (∀ axis, launch.gridDimensions axis ≠ 0#32) →
    (∀ axis, launch.gridDimensions axis % launch.clusterDimensions axis = 0#32) ∧
      launch.totalCTAs.toNat = launch.gridDimensions.product

theorem checkedMultiply_eq_ok (h : checkedMultiply left right label = .ok n) :
    n = left * right := by
  unfold checkedMultiply at h
  simp only [ok_iff] at h
  exact h.2.symm

theorem forall_axes {p : Fin 3 → Prop} (h0 : p 0) (h1 : p 1) (h2 : p 2) : ∀ axis, p axis :=
  Fin.forall_fin_succ.mpr ⟨h0, Fin.forall_fin_succ.mpr ⟨h1, Fin.forall_fin_one.mpr h2⟩⟩

/-- A loop over the axes that multiplies and checks. -/
theorem foldAxes_eq_ok {step : Nat → Nat → Fin 3 → Except Error Nat} {good : Fin 3 → Prop}
    (top : Nat → Prop) {x : Axes}
    (hstep : ∀ i n axis n', step i n axis = .ok n' → good axis ∧ top n' ∧ n' = n * (x axis).toNat)
    (h : foldEach step 0 1 [0, 1, 2] = .ok n) : (∀ axis, good axis) ∧ top n ∧ n = x.product := by
  simp only [foldEach_cons, foldEach_nil, Except.ok.injEq] at h
  obtain ⟨n0, h0, n1, h1, n2, h2, rfl⟩ := h
  obtain ⟨g0, -, rfl⟩ := hstep _ _ _ _ h0
  obtain ⟨g1, -, rfl⟩ := hstep _ _ _ _ h1
  obtain ⟨g2, htop, rfl⟩ := hstep _ _ _ _ h2
  refine ⟨forall_axes g0 g1 g2, htop, ?_⟩
  rw [Nat.one_mul]
  rfl

section

variable {input launch : LaunchState}

theorem blockAxes_eq_ok (h : foldEach input.validateBlockAxis 0 1 [0, 1, 2] = .ok n) :
    ∀ axis, (input.blockDimensions axis ≠ 0#32 ∧
      ¬ frozenBlockFieldMax < input.blockDimensions axis) ∧
      ¬ frozenWarpStepMax < input.warpStep axis := by
  refine (foldAxes_eq_ok (x := input.blockDimensions) (fun _ => True) ?_ h).1
  intro i n axis n' hstep
  unfold LaunchState.validateBlockAxis at hstep
  simp only [ok_iff, not_or] at hstep
  obtain ⟨hdimension, m, hm, hwarp, rfl⟩ := hstep
  exact ⟨⟨hdimension, hwarp⟩, trivial, checkedMultiply_eq_ok hm⟩

theorem clusterAxes_eq_ok (h : foldEach input.validateClusterAxis 0 1 [0, 1, 2] = .ok n) :
    (∀ axis, input.clusterDimensions axis ≠ 0#32 ∧
      ¬ frozenClusterDimMax < input.clusterDimensions axis) ∧
      n ≤ frozenWarpCount ∧ n = input.clusterDimensions.product := by
  refine foldAxes_eq_ok (fun m => m ≤ frozenWarpCount) ?_ h
  intro i n axis n' hstep
  unfold LaunchState.validateClusterAxis at hstep
  simp only [ok_iff, not_or, Nat.not_lt] at hstep
  obtain ⟨hdimension, m, hm, htop, rfl⟩ := hstep
  exact ⟨hdimension, htop, checkedMultiply_eq_ok hm⟩

theorem gridAxes_eq_ok (h : foldEach input.validateGridAxis 0 1 [0, 1, 2] = .ok n) :
    (∀ axis, input.gridDimensions axis % input.clusterDimensions axis = 0#32) ∧
      n ≤ 2 ^ 32 - 1 ∧ n = input.gridDimensions.product := by
  refine foldAxes_eq_ok (fun m => m ≤ 2 ^ 32 - 1) ?_ h
  intro i n axis n' hstep
  unfold LaunchState.validateGridAxis at hstep
  simp only [ok_iff, ne_eq, not_not, Nat.not_lt] at hstep
  obtain ⟨hdivides, m, hm, htop, rfl⟩ := hstep
  exact ⟨hdivides, htop, checkedMultiply_eq_ok hm⟩

theorem countCTAs_eq_ok (h : input.countCTAs = .ok n) :
    n < 2 ^ 32 ∧ ((∃ axis, input.gridDimensions axis = 0#32) → n = 0) ∧
      ((∀ axis, input.gridDimensions axis ≠ 0#32) →
        (∀ axis, input.gridDimensions axis % input.clusterDimensions axis = 0#32) ∧
          n = input.gridDimensions.product) := by
  unfold LaunchState.countCTAs at h
  split at h
  · rename_i hempty
    rw [pure_eq_ok] at h
    subst h
    exact ⟨by decide, fun _ => rfl, fun hfull => absurd hempty (not_exists.mpr hfull)⟩
  · rename_i hfull
    obtain ⟨hdivides, htop, hn⟩ := gridAxes_eq_ok h
    exact ⟨by omega, fun hempty => absurd hempty hfull, fun _ => ⟨hdivides, hn⟩⟩

theorem toNat_ofNat_of_le (h : n ≤ bound) (hbound : bound < 2 ^ 32) :
    (BitVec.ofNat 32 n).toNat = n := by
  rw [BitVec.toNat_ofNat, Nat.mod_eq_of_lt (Nat.lt_of_le_of_lt h hbound)]

/-- Everything the validator has checked. -/
theorem validateLaunch_valid (h : validateLaunch input = .ok launch) : launch.Valid := by
  unfold validateLaunch at h
  simp only [ok_iff, not_or, Nat.not_lt, ne_eq, not_not] at h
  obtain ⟨hstartup, hentry, volume, hblock, -, hthreads, -, haligned, size, hcluster, demand,
    hdemand, hwarps, total, htotal, hmemory, -, count, hcount, -, rfl⟩ := h
  have haxes := blockAxes_eq_ok hblock
  obtain ⟨hdims, hslots, hsize⟩ := clusterAxes_eq_ok hcluster
  obtain ⟨hlt, hempty, hgrid⟩ := countCTAs_eq_ok hcount
  have hsizeNat := toNat_ofNat_of_le hslots (by decide)
  have halignedNat := toNat_ofNat_of_le haligned (by decide)
  rw [checkedMultiply_eq_ok hdemand] at hwarps
  rw [checkedMultiply_eq_ok htotal] at hmemory
  refine ⟨hstartup, hentry, fun axis => (haxes axis).1, fun axis => (haxes axis).2, hthreads,
    halignedNat, hdims, hsizeNat.trans hsize, ?_, ?_, ?_, ?_, ?_⟩
  · rw [hsizeNat]
    exact hslots
  · rw [hsizeNat]
    exact hwarps
  · rw [hsizeNat, halignedNat]
    exact hmemory
  · intro hzero
    exact congrArg (BitVec.ofNat 32) (hempty hzero)
  · intro hfull
    obtain ⟨hdivides, hn⟩ := hgrid hfull
    exact ⟨hdivides, by rw [BitVec.toNat_ofNat, Nat.mod_eq_of_lt hlt, hn]⟩

/-- A normalized launch is accepted as it is. -/
theorem validateLaunch_normalized (h : validateLaunch input = .ok launch) :
    validateLaunch launch = .ok launch := by
  unfold validateLaunch at h ⊢
  simp only [ok_iff, each_rejectIf_eq_ok] at h ⊢
  obtain ⟨hstartup, hentry, volume, hblock, hvolume, hthreads, hlocal, haligned, size, hcluster,
    demand, hdemand, hwarps, total, htotal, hmemory, hcapacity, count, hcount, -, rfl⟩ := h
  refine ⟨hstartup, hentry, volume, hblock, hvolume, hthreads, hlocal, haligned, size, hcluster,
    demand, hdemand, hwarps, total, htotal, hmemory, hcapacity, count, hcount, ?_, rfl⟩
  intro field hfield hne
  simp only [LaunchState.derivedFields, List.mem_cons, List.not_mem_nil, or_false] at hfield
  rcases hfield with rfl | rfl | rfl | rfl | rfl | rfl | rfl | rfl
  all_goals exact hne.2 rfl

end

end VortexSim
