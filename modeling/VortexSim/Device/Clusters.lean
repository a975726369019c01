import VortexSim.Core.Residents
import VortexSim.Device.Walk

/-!
# The clusters of a launch

A cluster the walker has produced is a list of configurations that differ only in their place in
the grid.  Each of them passes `validateCTAConfig` at every free slot and with every choice of
as many distinct warps as its block needs.
-/

namespace VortexSim

open Checked

namespace LaunchState

/-- What the CTAs of a launch have in common. -/
def config (launch : LaunchState) : CTAConfig where
  startupPC := launch.startupPC
  blockDimensions := launch.blockDimensions
  gridDimensions := launch.gridDimensions
  blockSize := launch.blockSize
  warpStep := launch.warpStep
  entry := launch.kernelEntryPC
  parameterAddress := launch.parameterAddress
  localMemorySize := launch.alignedLocalMemorySize
  clusterDimensions := launch.clusterDimensions
  clusterSize := launch.clusterSize

/-- A complete cluster of a launch, in rank order. -/
structure Cluster (launch : LaunchState) (configs : List CTAConfig) : Prop where
  complete : configs.length = launch.clusterSize.toNat
  shared : ∀ (k : Nat) config, configs[k]? = some config → config =
    { launch.config with blockID := config.blockID, isFirstOfCluster := decide (k = 0) }
  inside : ∀ (k : Nat) config, configs[k]? = some config →
    ∀ axis, config.blockID axis < launch.gridDimensions axis
  origin : ∃ origin : Fin 3 → Nat, ∀ (k : Nat) config, configs[k]? = some config → ∀ axis,
    (config.blockID axis).toNat = origin axis + World.clusterOffset launch.clusterDimensions k axis

end LaunchState

/-! ## Validation of one CTA -/

theorem foldAxes_ok {step : Nat → Nat → Fin 3 → Except Error Nat} {x : Axes}
    (hstep : ∀ i n axis, step i n axis = .ok (n * (x axis).toNat)) :
    foldEach step 0 1 [0, 1, 2] = .ok x.product := by
  simp only [foldEach, hstep, ok_bind, Axes.product, Nat.one_mul]

theorem alignUp_aligned (value : Nat) :
    alignUp (alignUp value frozenMemoryBlockSize) frozenMemoryBlockSize =
      alignUp value frozenMemoryBlockSize := by
  unfold alignUp frozenMemoryBlockSize
  split
  · rfl
  · split
    · omega
    · omega

theorem requiredWarps_pos (h : blockSize ≠ 0#32) : 0 < requiredWarps blockSize := by
  have hpos := LaunchState.toNat_pos h
  unfold requiredWarps frozenLaneCount
  omega

/-- The mask of a rank with threads. -/
theorem memberMask_ok (h : rank < requiredWarps blockSize) :
    (memberMask blockSize rank).Valid ∧ memberMask blockSize rank ≠ 0#8 := by
  unfold requiredWarps frozenLaneCount at h
  unfold memberMask frozenLaneCount
  dsimp only
  split
  · have hcases : blockSize.toNat - rank * 4 = 1 ∨ blockSize.toNat - rank * 4 = 2 ∨
        blockSize.toNat - rank * 4 = 3 := by omega
    rcases hcases with h | h | h
    all_goals
      rw [h]
      decide
  · decide

/-- A CTA of a launch after validation. -/
structure CTAState.Made (cta : CTAState) (launch : LaunchState) (warps : List WarpID) : Prop where
  startup : cta.config.startupPC = launch.startupPC
  memory : cta.config.localMemorySize = launch.alignedLocalMemorySize
  warps : cta.members.map WarpMembership.warpID = warps
  masks : ∀ member ∈ cta.members, member.activeMask.Valid ∧ member.activeMask ≠ 0#8

section

variable {launch : LaunchState} {warps : List WarpID}

theorem scanMembers_ok (config : CTAConfig) (legacy : Bool) (hnodup : warps.Nodup)
    (hlength : warps.length = requiredWarps config.blockSize) :
    ∃ members, foldEach (scanMember config legacy) 0 [] (warps.map Fin.val) = .ok members ∧
      members.map WarpMembership.warpID = warps ∧
      ∀ member ∈ members, member.activeMask.Valid ∧ member.activeMask ≠ 0#8 := by
  have hends : Ends (foldEach (scanMember config legacy) 0 [] (warps.map Fin.val))
      (fun members => members.map WarpMembership.warpID =
        warps.take (0 + (warps.map Fin.val).length) ∧
        ∀ member ∈ members, member.activeMask.Valid ∧ member.activeMask ≠ 0#8)
      fun _ => False := by
    refine .foldEach (fun k (members : List WarpMembership) =>
      members.map WarpMembership.warpID = warps.take k ∧
        ∀ member ∈ members, member.activeMask.Valid ∧ member.activeMask ≠ 0#8) ?_ ⟨rfl, by simp⟩
    rintro k warpID members hk ⟨hmembers, hmasks⟩
    rw [List.getElem?_map, Option.map_eq_some_iff] at hk
    obtain ⟨warp, hwarp, rfl⟩ := hk
    rw [Nat.zero_add] at hmembers ⊢
    have hlt : k < warps.length := (List.getElem?_eq_some_iff.mp hwarp).1
    have hsame : Fin.ofNat frozenWarpCount warp.val = warp := Fin.ofNat_val_eq_self warp
    refine .check (Nat.not_le.mpr warp.isLt) (.check ?_ (.pure ⟨?_, ?_⟩))
    · rintro ⟨member, hmember, heq⟩
      have hin : warp ∈ warps.take k := by
        rw [← hmembers, ← hsame, ← heq]
        exact List.mem_map_of_mem hmember
      have hsplit := List.take_append_drop k warps ▸ hnodup
      refine (List.nodup_append.mp hsplit).2.2 warp hin warp ?_ rfl
      refine List.mem_iff_getElem?.mpr ⟨0, ?_⟩
      rw [List.getElem?_drop, Nat.add_zero]
      exact hwarp
    · rw [List.map_append, List.map_singleton, hmembers, hsame, List.take_add_one, hwarp]
      rfl
    · refine Lists.forall_mem_snoc hmasks (memberMask_ok ?_)
      rw [← hlength]
      exact hlt
  obtain ⟨members, hok, hmembers, hmasks⟩ := hends.ok
  rw [List.length_map, Nat.zero_add, List.take_length] at hmembers
  exact ⟨members, hok, hmembers, hmasks⟩

theorem LaunchState.Valid.size_pos (hv : launch.Valid) : 0 < launch.clusterSize.toNat := by
  rw [hv.size]
  exact Nat.mul_pos (Nat.mul_pos (hv.cluster_pos 0) (hv.cluster_pos 1)) (hv.cluster_pos 2)

theorem LaunchState.Valid.required_le (hv : launch.Valid) :
    requiredWarps launch.blockSize ≤ frozenWarpCount :=
  Nat.le_trans (Nat.le_mul_of_pos_left _ hv.size_pos) hv.warps

theorem LaunchState.Valid.aligned_le (hv : launch.Valid) :
    launch.alignedLocalMemorySize.toNat ≤ frozenLocalMemSize :=
  Nat.le_trans (Nat.le_mul_of_pos_left _ hv.size_pos) hv.memory

theorem LaunchState.Valid.aligned (hv : launch.Valid) :
    alignUp launch.alignedLocalMemorySize.toNat frozenMemoryBlockSize =
      launch.alignedLocalMemorySize.toNat := by
  rw [hv.localMemory, alignUp_aligned]

theorem LaunchState.Valid.shape (hv : launch.Valid) {config : CTAConfig} {threads : Nat}
    (hsize : config.blockSize = launch.blockSize)
    (hdimensions : config.clusterDimensions = launch.clusterDimensions)
    (hcluster : config.clusterSize = launch.clusterSize) :
    validateShape config threads = .ok config := by
  obtain ⟨hthreads, hcapacity⟩ := hv.threads
  unfold validateShape
  rw [if_neg (hsize ▸ hthreads)]
  simp only [ok_iff, not_not, ne_eq, and_true]
  refine ⟨?_, launch.clusterSize.toNat, ?_, ?_⟩
  · rw [hsize]
    exact Nat.not_lt.mpr hcapacity
  · rw [hv.size, ← hdimensions]
    refine foldAxes_ok fun i n axis => ?_
    rw [rejectIf_of_not]
    · rfl
    · rw [not_or, hdimensions]
      exact hv.cluster axis
  · rw [hcluster]

/-- No CTA of the launch is refused. -/
theorem LaunchState.Valid.accepts (hv : launch.Valid) (id : Word) (blockID : Axes)
    (isFirst : Bool) (hid : id.toNat < frozenWarpCount)
    (hinside : ∀ axis, blockID axis < launch.gridDimensions axis) (hnodup : warps.Nodup)
    (hlength : warps.length = requiredWarps launch.blockSize) :
    ∃ cta, validateCTAConfig { launch.config with
        id, warpIDs := warps.map Fin.val, blockID, isFirstOfCluster := isFirst } = .ok cta ∧
      cta.Made launch warps := by
  set config : CTAConfig := { launch.config with
    id, warpIDs := warps.map Fin.val, blockID, isFirstOfCluster := isFirst } with hconfig
  have hthreads : config.blockSize ≠ 0#32 := hv.threads.1
  have hgrid : ∀ axis, launch.gridDimensions axis ≠ 0#32 := by
    intro axis hzero
    have hlt := hinside axis
    rw [hzero] at hlt
    exact absurd hlt BitVec.not_lt_zero
  have hcount : (warps.map Fin.val).length = requiredWarps launch.blockSize := by
    rw [List.length_map, hlength]
  obtain ⟨members, hmembers, hwarps, hmasks⟩ :=
    scanMembers_ok config (decide (config.blockSize = 0#32)) hnodup hlength
  refine ⟨{
    config := { config with
      localMemorySize := BitVec.ofNat 32
        (alignUp launch.alignedLocalMemorySize.toNat frozenMemoryBlockSize) }
    members }, ?_, rfl, ?_, hwarps, hmasks⟩
  · unfold validateCTAConfig
    simp only [ok_iff]
    refine ⟨Nat.not_le.mpr hid, ?_, not_not.mpr hv.entry, not_not.mpr hv.startup, ?_,
      config.blockDimensions.product, ?_, config, hv.shape rfl rfl rfl,
      not_not.mpr hcount.symm, Nat.not_lt.mpr hv.aligned_le, ?_, members, hmembers, rfl⟩
    · rw [hconfig, hcount, not_or, Nat.not_lt]
      exact ⟨(requiredWarps_pos hv.threads.1).ne', hv.required_le⟩
    · rw [not_or, Nat.not_lt]
      refine ⟨fun hzero => ?_, hv.slots⟩
      have hpos := hv.size_pos
      rw [show launch.clusterSize = 0#32 from hzero] at hpos
      exact absurd hpos (Nat.lt_irrefl 0)
    · refine foldAxes_ok fun i n axis => ?_
      unfold validateAxis
      simp only [ok_iff, not_or, not_and]
      exact ⟨⟨(hv.block axis).1, hgrid axis⟩, BitVec.not_le.mpr (hinside axis),
        fun _ => (hv.block axis).2, fun _ => hv.steps axis, fun hzero => absurd hzero hthreads,
        trivial⟩
    · rw [show config.localMemorySize = launch.alignedLocalMemorySize from rfl, hv.aligned]
      exact Nat.not_lt.mpr hv.aligned_le
  · rw [hv.aligned, BitVec.ofNat_toNat, BitVec.setWidth_eq]

end

/-! ## The clusters of the walker -/

namespace GridWalker

open LaunchState Odometer

variable {launch : LaunchState} {hfull : launch.Full} {k : Nat}

/-- Within a cluster the offsets are those the core computes from the rank. -/
theorem Stands.offset (h : Stands hv hfull w k) (axis : Fin 3) : (w.intra axis).toNat =
    World.clusterOffset launch.clusterDimensions (k % launch.clusterSize.toNat) axis := by
  set rank := k % launch.clusterSize.toNat with hrank
  have hlt : rank < launch.clusterDimensions.product := by
    rw [← hv.size]
    exact Nat.mod_lt k hv.size_pos
  have hrow := h.intra
  rw [← reading_mod, hv.volume_intra, ← hrank] at hrow
  simp only [row, axes, intraWheels, reading, intraWheel, List.map_cons, List.map_nil,
    List.cons.injEq, and_true, Nat.one_mul] at hrow
  obtain ⟨h0, h1, h2⟩ := hrow
  revert axis
  refine forall_axes h0 h1 (h2.trans ?_)
  change _ = rank / ((launch.clusterDimensions 0).toNat * (launch.clusterDimensions 1).toNat)
  rw [Nat.div_div_eq_div_mul, Nat.mod_eq_of_lt]
  exact Nat.div_lt_of_lt_mul hlt

/-- The next records of a walker that stands at the start of a cluster. -/
theorem Stands.cluster (h : Stands hv hfull w k) (hdvd : launch.clusterSize.toNat ∣ k)
    (hk : k + launch.clusterSize.toNat ≤ launch.totalCTAs.toNat) :
    launch.Cluster ((w.emit launch.clusterSize.toNat).map CTA.coreConfig) := by
  set size := launch.clusterSize.toNat with hsize
  have hat : ∀ (i : Nat) config, ((w.emit size).map CTA.coreConfig)[i]? = some config →
      i < size ∧ config = (w.after i).current.coreConfig := by
    intro i config hi
    rw [List.getElem?_map, Option.map_eq_some_iff] at hi
    obtain ⟨cta, hcta, rfl⟩ := hi
    rw [emit_getElem?] at hcta
    split at hcta
    · rename_i hlt
      obtain ⟨w', hnext, -⟩ := (h.after (n := i) (by omega)).next (by omega)
      rw [hnext] at hcta
      cases hcta
      exact ⟨hlt, rfl⟩
    · cases hcta
  have hstands : ∀ {i}, i < size → Stands hv hfull (w.after i) (k + i) := fun hi =>
    h.after (by omega)
  have hroom : ∀ {i}, i < size → k + i + 1 < 2 ^ 32 := by
    omega
  have hmod : ∀ {i}, i < size → (k + i) % size = i := by
    intro i hi
    obtain ⟨q, rfl⟩ := hdvd
    rw [Nat.mul_add_mod, Nat.mod_eq_of_lt hi]
  have hdiv : ∀ {i}, i < size → (k + i) / size = k / size := by
    intro i hi
    obtain ⟨q, rfl⟩ := hdvd
    rw [Nat.mul_add_div hv.size_pos, Nat.div_eq_of_lt hi, Nat.add_zero,
      Nat.mul_div_cancel_left _ hv.size_pos]
  refine ⟨?_, ?_, ?_, ?_⟩
  · rw [List.length_map, h.emit_length]
    omega
  · intro i config hi
    obtain ⟨hlt, rfl⟩ := hat i config hi
    have hrank := ((hstands hlt).current (hroom hlt)).2.1
    rw [← hsize, hmod hlt] at hrank
    have hfirst : decide ((w.after i).rank = 0#32) = decide (i = 0) := by
      rw [decide_eq_decide]
      refine ⟨fun hz => ?_, fun hz => BitVec.eq_of_toNat_eq (hrank.trans hz)⟩
      exact hrank.symm.trans (congrArg BitVec.toNat hz)
    unfold CTA.coreConfig GridWalker.current LaunchState.config
    rw [(hstands hlt).launched, hfirst]
  · intro i config hi axis
    obtain ⟨hlt, rfl⟩ := hat i config hi
    change ((w.after i).current.blockID axis).toNat < _
    rw [((hstands hlt).current (hroom hlt)).2.2 axis]
    exact (hstands hlt).block_lt axis
  · refine ⟨fun axis => (w.origin axis).toNat, fun i config hi axis => ?_⟩
    obtain ⟨hlt, rfl⟩ := hat i config hi
    have horigin : (w.after i).origin = w.origin := by
      refine row_inj ((hstands hlt).origin.trans ?_)
      rw [← hsize, hdiv hlt]
      exact h.origin.symm
    change ((w.after i).current.blockID axis).toNat = _
    rw [((hstands hlt).current (hroom hlt)).2.2 axis, horigin, (hstands hlt).offset axis, ← hsize,
      hmod hlt]

end GridWalker

end VortexSim
