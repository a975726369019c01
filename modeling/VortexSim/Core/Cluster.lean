import VortexSim.Core.Tenure

/-!
# Admission and reclaim of a cluster

An admission enters every CTA of its cluster or changes nothing.  What it has taken for a CTA,
its slot, its warps and its interval, the CTA keeps until it is reclaimed, and the reclaim gives
back this and nothing else.  None of it depends on how the core got into its state.
-/

namespace VortexSim

open Checked Stateful Spans

variable {σ : Type}

/-- `tmc x0`: a warp that ends at once. -/
def stopImage : Memory where
  data := [0x0B#8, 0x00#8, 0x00#8, 0x00#8]
  fits := by decide

/-! ## The CTA of a configuration -/

/-- The CTA runs the block of the configuration, with all its threads and its local memory. -/
structure CTAState.Serves (cta : CTAState) (config : CTAConfig) : Prop where
  block : cta.config = { config with
    id := cta.config.id
    warpIDs := cta.members.map fun member => member.warpID.val
    localMemorySize :=
      BitVec.ofNat 32 (alignUp config.localMemorySize.toNat frozenMemoryBlockSize) }
  threads : cta.members.length = requiredWarps config.blockSize ∧
    ∀ member ∈ cta.members, member.activeMask = memberMask config.blockSize member.rank
  allocation : cta.allocation = {
    address := frozenLocalMemBase
    size := alignUp config.localMemorySize.toNat frozenMemoryBlockSize }

theorem scanMember_members (h : foldEach (scanMember config legacy) 0 [] warpIDs = .ok members) :
    (members.map fun member => member.warpID.val) = warpIDs ∧
      ∀ member ∈ members, member.activeMask = memberMask config.blockSize member.rank := by
  obtain ⟨found, hmembers, hfound⟩ := foldEach_finds id (fun member warpID =>
    member.warpID.val = warpID ∧ member.activeMask = memberMask config.blockSize member.rank) (by
      intro i members warpID members' hstep
      unfold scanMember at hstep
      simp only [ok_iff, Nat.not_le] at hstep
      obtain ⟨hrange, -, rfl⟩ := hstep
      exact ⟨_, rfl, Nat.mod_eq_of_lt hrange, rfl⟩) h
  obtain rfl : members = found := hmembers
  clear h
  induction hfound with
  | nil => exact ⟨rfl, fun _ hmem => absurd hmem List.not_mem_nil⟩
  | cons hone _ ih =>
    refine ⟨?_, ?_⟩
    · rw [List.map_cons, hone.1, ih.1]
    · exact List.forall_mem_cons.mpr ⟨hone.2, ih.2⟩

theorem alignUp_toNat {config : CTAConfig}
    (h : alignUp config.localMemorySize.toNat frozenMemoryBlockSize ≤ frozenLocalMemSize) :
    (BitVec.ofNat 32 (alignUp config.localMemorySize.toNat frozenMemoryBlockSize)).toNat =
      alignUp config.localMemorySize.toNat frozenMemoryBlockSize := by
  have hsmall : alignUp config.localMemorySize.toNat frozenMemoryBlockSize ≤ 2 ^ 14 := h
  rw [BitVec.toNat_ofNat, Nat.mod_eq_of_lt (by omega)]

/-- A configuration with a block size is kept as it is, but for its local memory. -/
theorem validateCTAConfig_serves {config : CTAConfig} (hthreads : config.blockSize ≠ 0#32)
    (h : validateCTAConfig config = .ok cta)
    (hplace : allocateFromIntervals cta.config.localMemorySize.toNat intervals = .ok place) :
    (cta.place place).Serves config := by
  unfold validateCTAConfig at h
  simp only [ok_iff, Nat.not_lt, not_not, ne_eq] at h
  obtain ⟨-, -, -, -, -, threads, -, shaped, hshaped, hcount, -, haligned, members, hmembers,
    rfl⟩ := h
  obtain rfl : config = shaped := by
    unfold validateShape at hshaped
    rw [if_neg hthreads] at hshaped
    simp only [ok_iff] at hshaped
    exact hshaped.2.choose_spec.2.2
  obtain ⟨hwarps, hmasks⟩ := scanMember_members hmembers
  obtain ⟨hallocation, -, -⟩ := allocateFromIntervals_eq_ok hplace
  rw [alignUp_toNat haligned] at hallocation
  refine ⟨?_, ⟨?_, hmasks⟩, hallocation⟩
  · unfold CTAState.place
    rw [hwarps]
  · rw [hcount, ← hwarps, List.length_map]
    rfl

/-- Every configuration of a selected cluster has a block size. -/
theorem selectCluster_sized (h : World.selectCluster slots configs = .ok warpIDs) :
    ∀ config ∈ configs, config.blockSize ≠ 0#32 := by
  unfold World.selectCluster at h
  split at h
  · cases h
  · simp only [ok_iff] at h
    obtain ⟨-, -, product, -, -, scan, hscan, rfl⟩ := h
    obtain ⟨found, -, hfound⟩ := foldEach_finds World.ClusterScan.warpIDs
      (fun _ (config : CTAConfig) => config.blockSize ≠ 0#32) (by
        intro i scan config scan' hstep
        unfold World.scanCluster at hstep
        simp only [ok_iff, not_or] at hstep
        obtain ⟨-, -, -, origin, -, hsize, -, rfl⟩ := hstep
        exact ⟨_, rfl, hsize.1⟩) hscan
    exact Lists.forall_of_forall₂ hfound fun _ _ hone => hone

/-- The candidates of a stage, one for each configuration. -/
theorem stageDynamicAdmissions_serves {m : CTAManager}
    (hsized : ∀ config ∈ configs, config.blockSize ≠ 0#32)
    (h : m.stageDynamicAdmissions configs warpIDs = .ok stage) {i : Nat}
    (hconfig : configs[i]? = some config) (hcta : stage.candidates[i]? = some cta) :
    cta.Serves config := by
  unfold CTAManager.stageDynamicAdmissions at h
  simp only [ok_iff] at h
  obtain ⟨-, -, -, scan, hscan, rfl⟩ := h
  obtain ⟨found, hcandidates, hfound⟩ := foldEach_finds CTAManager.AdmissionScan.candidates
    (fun cta entry => entry.1.blockSize ≠ 0#32 → cta.Serves entry.1) (by
      intro i scan entry scan' hstep
      unfold CTAManager.stageCandidate at hstep
      simp only [ok_iff, mapError_eq_ok] at hstep
      obtain ⟨candidate, hcandidate, staged, -, place, hplace, rfl⟩ := hstep
      refine ⟨_, rfl, fun hsize => ?_⟩
      have hserves : (candidate.place place).Serves
          { entry.1 with id := BitVec.ofNat 32 entry.2.val } :=
        validateCTAConfig_serves hsize hcandidate hplace
      obtain ⟨hblock, hthreads, hallocation⟩ := hserves
      exact ⟨hblock, hthreads, hallocation⟩) hscan
  obtain rfl : scan.candidates = found := hcandidates
  -- the entry at this place is made from the configuration there
  obtain ⟨hlt, -⟩ := List.getElem?_eq_some_iff.mp hcta
  obtain ⟨entry, hentry⟩ : ∃ entry, _ = some entry :=
    ⟨_, List.getElem?_eq_getElem (hfound.length_eq ▸ hlt)⟩
  have hserves := Lists.forall₂_at hfound hcta hentry
  obtain ⟨hmade, -⟩ := List.getElem?_zip_eq_some.mp hentry
  rw [List.getElem?_map] at hmade
  obtain ⟨pair, hpair, hmade⟩ := Option.map_eq_some_iff.mp hmade
  obtain ⟨hfirst, -⟩ := List.getElem?_zip_eq_some.mp hpair
  rw [hconfig] at hfirst
  cases hfirst
  have hsize := hsized _ (List.mem_of_getElem? hconfig)
  rw [← hmade] at hserves
  obtain ⟨hblock, hthreads, hallocation⟩ := hserves hsize
  exact ⟨hblock, hthreads, hallocation⟩

/-! ## The tables after an admission -/

section

variable {candidates : List CTAState} {cta : CTAState} {member : WarpMembership}

theorem CTAManager.installAll_slot (h : Admissible candidates) (hcta : cta ∈ candidates) :
    (candidates.foldl CTAManager.install m).ctas cta.slot = some cta := by
  rw [CTAManager.installAll_ctas]
  obtain ⟨other, hother, hslot, heq⟩ := Lists.foldl_update_of_mem CTAState.slot some m.ctas
    ⟨cta, hcta, rfl⟩
  rw [heq, List.inj_on_of_nodup_map h.slots_nodup hother hcta hslot]

theorem CTAManager.installAll_slot_of_not_mem (h : slot ∉ candidates.map CTAState.slot) :
    (candidates.foldl CTAManager.install m).ctas slot = m.ctas slot := by
  rw [CTAManager.installAll_ctas]
  exact Lists.foldl_update_of_not_mem CTAState.slot some m.ctas fun other hother he =>
    h (List.mem_map.mpr ⟨other, hother, he⟩)

/-- The members of the candidates, each with its CTA. -/
def places (candidates : List CTAState) : List (CTAState × WarpMembership) :=
  candidates.flatMap fun cta => cta.members.map fun member => (cta, member)

theorem mem_places : (cta, member) ∈ places candidates ↔
    cta ∈ candidates ∧ member ∈ cta.members := by
  unfold places
  rw [List.mem_flatMap]
  constructor
  · rintro ⟨other, hother, hmem⟩
    obtain ⟨found, hfound, heq⟩ := List.mem_map.mp hmem
    cases heq
    exact ⟨hother, hfound⟩
  · rintro ⟨hcta, hmember⟩
    exact ⟨cta, hcta, List.mem_map_of_mem hmember⟩

theorem places_warps (candidates : List CTAState) :
    (places candidates).map (fun place => place.2.warpID) = World.startedWarps candidates := by
  unfold places World.startedWarps
  rw [List.map_flatMap]
  refine congrArg (fun f => candidates.flatMap f) ?_
  funext cta
  rw [List.map_map]
  rfl

/-- No two members have one warp. -/
theorem Admissible.place_unique (h : Admissible candidates) (hcta : cta ∈ candidates)
    (hmember : member ∈ cta.members) (hcta' : cta' ∈ candidates) (hmember' : member' ∈ cta'.members)
    (hwarp : member'.warpID = member.warpID) : cta' = cta ∧ member' = member := by
  have hnodup := h.warps
  rw [← places_warps] at hnodup
  have hsame := List.inj_on_of_nodup_map hnodup (mem_places.mpr ⟨hcta', hmember'⟩)
    (mem_places.mpr ⟨hcta, hmember⟩) hwarp
  exact Prod.mk.inj hsame

namespace CTAManager

theorem installAll_byWarp (candidates : List CTAState) (m : CTAManager) :
    (candidates.foldl install m).byWarp = (places candidates).foldl
      (fun table place => Function.update table place.2.warpID
        (memberKey place.1.slot place.2)) m.byWarp := by
  induction candidates generalizing m with
  | nil => rfl
  | cons cta candidates ih =>
    rw [List.foldl_cons, ih]
    unfold places
    rw [List.flatMap_cons, List.foldl_append, List.foldl_map]
    rfl

theorem installAll_warp (h : Admissible candidates) (hcta : cta ∈ candidates)
    (hmember : member ∈ cta.members) :
    (candidates.foldl install m).byWarp member.warpID =
      some { ctaID := cta.slot, rank := member.rank } := by
  rw [installAll_byWarp]
  obtain ⟨⟨cta', member'⟩, hplace, hwarp, heq⟩ := Lists.foldl_update_of_mem
    (fun place : CTAState × WarpMembership => place.2.warpID)
    (fun place => memberKey place.1.slot place.2) m.byWarp
    ⟨(cta, member), mem_places.mpr ⟨hcta, hmember⟩, rfl⟩
  obtain ⟨hcta', hmember'⟩ := mem_places.mp hplace
  obtain ⟨rfl, rfl⟩ := h.place_unique hcta hmember hcta' hmember' hwarp
  exact heq

theorem installAll_warp_of_not_mem (h : warp ∉ World.startedWarps candidates) :
    (candidates.foldl install m).byWarp warp = m.byWarp warp := by
  rw [installAll_byWarp]
  refine Lists.foldl_update_of_not_mem (fun place : CTAState × WarpMembership => place.2.warpID)
    (fun place => memberKey place.1.slot place.2) m.byWarp fun place hplace he => h ?_
  rw [← places_warps]
  exact List.mem_map.mpr ⟨place, hplace, he⟩

end CTAManager

end

/-! ## The warps after an admission -/

namespace World

variable {w : World σ}

theorem warp_id_of_validate (h : w.validate = .ok u) (id : WarpID) : (w.warp id).id = id.val := by
  have hslot := w.validateSlot_of_validate h id
  unfold World.validateSlot at hslot
  simp only [ok_iff, not_not, ne_eq] at hslot
  exact hslot.1

/-- The launch of one member. -/
def launchTarget (w : World σ) (cta : CTAState) (member : WarpMembership) : WarpLaunchTarget where
  warpID := member.warpID.val
  owner := (w.core.slots member.warpID).executor.owner
  startupPC := cta.config.startupPC
  activeMask := member.activeMask
  parameterAddress := cta.config.parameterAddress
  firstUse := !w.core.initialized member.warpID

theorem launchTargets_places (w : World σ) (candidates : List CTAState) :
    w.launchTargets candidates =
      (places candidates).map fun place => w.launchTarget place.1 place.2 := by
  unfold launchTargets places
  rw [List.map_flatMap]
  refine congrArg (fun f => candidates.flatMap f) ?_
  funext cta
  rw [List.map_map]
  rfl

section

variable {admitted : Admitted} {cta : CTAState} {member : WarpMembership}

/-- The owners after an admission: the members of the new CTAs are launched. -/
theorem Admits.owners (ha : w.Admits admitted) :
    admitted.owners = (places admitted.candidates).foldl (fun owners place =>
      Function.update owners (w.core.slots place.2.warpID).executor.owner
        (launchCandidate (w.launchTarget place.1 place.2) (w.warp place.2.warpID))) w.owners := by
  obtain ⟨stage, stage', hstage, hcommit⟩ := ha.launched
  have htargets := stageWarpLaunch_targets hstage
  unfold WarpLaunchStage.commit at hcommit
  simp only [ok_iff, Prod.mk.injEq] at hcommit
  obtain ⟨-, -, -, howners, -⟩ := hcommit
  rw [← howners]
  unfold installAll
  rw [htargets, launchTargets_places, List.map_map, List.foldl_map]
  rfl

/-- Two slots do not share an owner. -/
theorem owner_unique (h : w.validate = .ok u)
    (howner : (w.core.slots i).executor.owner = (w.core.slots j).executor.owner) : i = j := by
  refine Fin.ext ?_
  rw [← warp_id_of_validate h i, ← warp_id_of_validate h j]
  unfold World.warp
  rw [howner]

theorem Admits.warp_of_mem (hvalid : w.validate = .ok u) (ha : w.Admits admitted)
    (hcta : cta ∈ admitted.candidates) (hmember : member ∈ cta.members) :
    (w.installAdmission admitted).warp member.warpID =
      launchCandidate (w.launchTarget cta member) (w.warp member.warpID) := by
  rw [installAdmission_warp, ha.owners]
  obtain ⟨⟨cta', member'⟩, hplace, howner, heq⟩ := Lists.foldl_update_of_mem
    (fun place : CTAState × WarpMembership => (w.core.slots place.2.warpID).executor.owner)
    (fun place => launchCandidate (w.launchTarget place.1 place.2) (w.warp place.2.warpID))
    w.owners ⟨(cta, member), mem_places.mpr ⟨hcta, hmember⟩, rfl⟩
  obtain ⟨hcta', hmember'⟩ := mem_places.mp hplace
  obtain ⟨rfl, rfl⟩ := ha.candidates.place_unique hcta hmember hcta' hmember'
    (owner_unique hvalid howner)
  exact heq

theorem Admits.warp_of_not_mem (hvalid : w.validate = .ok u) (ha : w.Admits admitted) {id : WarpID}
    (hid : id ∉ startedWarps admitted.candidates) :
    (w.installAdmission admitted).warp id = w.warp id := by
  rw [installAdmission_warp, ha.owners]
  refine Lists.foldl_update_of_not_mem
    (fun place : CTAState × WarpMembership => (w.core.slots place.2.warpID).executor.owner)
    (fun place => launchCandidate (w.launchTarget place.1 place.2) (w.warp place.2.warpID))
    w.owners fun place hplace howner => hid ?_
  rw [← places_warps, ← owner_unique hvalid howner]
  exact List.mem_map.mpr ⟨place, hplace, rfl⟩

end

/-! ## Admission -/

/-- What an admission that succeeds does.  Every CTA of the cluster is entered at a slot of its
own with an interval of its own, its warps were free and are launched, and nothing else
changes. -/
structure AdmitsAll (w : World σ) (manager : ManagerID) (configs : List CTAConfig)
    (ctas : List CTAState) (w' : World σ) : Prop where
  count : ctas.length = configs.length
  serves : ∀ (i : Nat) config cta, configs[i]? = some config → ctas[i]? = some cta →
    cta.Serves config
  vacant : (ctas.map CTAState.slot).Nodup ∧ ∀ cta ∈ ctas, (w.managers manager).ctas cta.slot = none
  free : (startedWarps ctas).Nodup ∧ ∀ id ∈ startedWarps ctas,
    slotUnused (w.core.slots id) ∧ (w.managers manager).byWarp id = none
  placed : (w.managers manager).Placeable ctas
  entered : ∀ cta ∈ ctas, (w'.managers manager).ctas cta.slot = some cta
  bound : ∀ cta ∈ ctas, ∀ member ∈ cta.members, (w'.managers manager).byWarp member.warpID =
      some { ctaID := cta.slot, rank := member.rank }
  launched : ∀ cta ∈ ctas, ∀ member ∈ cta.members,
    w'.warp member.warpID = launchCandidate (w.launchTarget cta member) (w.warp member.warpID) ∧
      w'.core.slots member.warpID = startedSlot (w.core.slots member.warpID)
  residents : ∀ slot, slot ∉ ctas.map CTAState.slot →
    (w'.managers manager).ctas slot = (w.managers manager).ctas slot
  warps : ∀ id, id ∉ startedWarps ctas → w'.warp id = w.warp id ∧
    w'.core.slots id = w.core.slots id ∧
    (w'.managers manager).byWarp id = (w.managers manager).byWarp id
  barriers : (w'.managers manager).barriers = (w.managers manager).barriers
  managers : ∀ other, other ≠ manager → w'.managers other = w.managers other
  bytes : w'.localMemories = w.localMemories ∧ w'.memory = w.memory

theorem prepareAdmission_admitsAll {configs : List CTAConfig}
    (h : prepareAdmission configs w = .ok admitted) :
    w.AdmitsAll admitted.manager configs admitted.candidates (w.installAdmission admitted) := by
  have ha := prepareAdmission_admits h
  obtain ⟨initialized, heq⟩ := w.installAdmission_eq admitted
  have htables := (w.installAdmission_self admitted).trans ha.tables
  obtain ⟨hvalid, warpIDs, stage, hselected, hstage, hsame⟩ := prepareAdmission_stages h
  refine {
    count := prepareAdmission_length h
    serves := ?_
    vacant := ⟨ha.candidates.slots_nodup, fun cta hcta => (ha.free cta hcta).1⟩
    free := ⟨ha.candidates.warps, fun id hid => ⟨ha.unused id hid, ?_⟩⟩
    placed := prepareAdmission_placeable h
    entered := ?_
    bound := ?_
    launched := ?_
    residents := ?_
    warps := ?_
    barriers := ha.flags.2.2
    managers := ?_
    bytes := ?_ }
  · rw [hsame]
    exact fun i config cta hconfig hcta =>
      stageDynamicAdmissions_serves (selectCluster_sized hselected) hstage hconfig hcta
  · rw [← places_warps] at hid
    obtain ⟨⟨cta, member⟩, hplace, rfl⟩ := List.mem_map.mp hid
    obtain ⟨hcta, hmember⟩ := mem_places.mp hplace
    exact (ha.free cta hcta).2 member hmember
  · intro cta hcta
    rw [htables]
    exact CTAManager.installAll_slot ha.candidates hcta
  · intro cta hcta member hmember
    rw [htables]
    exact CTAManager.installAll_warp ha.candidates hcta hmember
  · intro cta hcta member hmember
    refine ⟨ha.warp_of_mem hvalid hcta hmember, ?_⟩
    rw [heq]
    refine if_pos ?_
    rw [← places_warps]
    exact List.mem_map.mpr ⟨(cta, member), mem_places.mpr ⟨hcta, hmember⟩, rfl⟩
  · intro slot hslot
    rw [htables]
    exact CTAManager.installAll_slot_of_not_mem hslot
  · intro id hid
    refine ⟨ha.warp_of_not_mem hvalid hid, ?_, ?_⟩
    · rw [heq]
      exact if_neg hid
    · rw [htables]
      exact CTAManager.installAll_warp_of_not_mem hid
  · intro other hother
    rw [heq]
    exact Function.update_of_ne hother _ _
  · rw [heq]
    exact ⟨rfl, rfl⟩

/-! ## From the admission to the reclaim -/

/-- The CTA is resident with what its admission has taken. -/
structure Hosts (w : World σ) (manager : ManagerID) (cta : CTAState) : Prop where
  attached : w.core.ctas = some manager
  isDynamic : (w.managers manager).dynamic = true
  isSealed : (w.managers manager).isSealed = true
  coordinated : (w.managers manager).barriers.isSome = true
  resident : ∃ now, (w.managers manager).ctas cta.slot = some now ∧ now.tenancy = cta.tenancy
  bound : ∀ member ∈ cta.members, (w.managers manager).byWarp member.warpID =
    some { ctaID := cta.slot, rank := member.rank }

section

variable {w' : World σ} {manager : ManagerID} {cta : CTAState}

theorem Hosts.stays (h : w.Hosts manager cta) (hs : Stays w w') : w'.Hosts manager cta := by
  obtain ⟨now, hnow, hsame⟩ := h.resident
  have hm := hs.managers manager
  obtain ⟨later, hlater, htenancy⟩ := hm.resident hnow
  exact {
    attached := hs.attached manager h.attached
    isDynamic := hm.isDynamic.trans h.isDynamic
    isSealed := hm.isSealed h.isSealed
    coordinated := hm.coordinated h.coordinated
    resident := ⟨later, hlater, htenancy.trans hsame⟩
    bound := fun member hmember => hm.byWarp ▸ h.bound member hmember }

/-- A CTA stays whatever the core does, until it is reclaimed itself. -/
theorem Hosts.moves (h : w.Hosts manager cta) (hmoves : Moves w op w')
    (hother : op ≠ .reclaimCTA cta.slot.val) : w'.Hosts manager cta := by
  obtain ⟨now, hnow, hsame⟩ := h.resident
  cases hmoves with
  | stays same => exact h.stays same
  | @enters other config new entered =>
    -- a static admission goes to a manager that is not dynamic
    have hne : manager ≠ other := by
      rintro rfl
      exact Bool.false_ne_true (entered.isOpen.1.symm.trans h.isDynamic)
    have hkept : ∀ m, (w.setManager other m).managers manager = w.managers manager :=
      fun m => Function.update_of_ne hne _ _
    refine ⟨h.attached, ?_, ?_, ?_, ⟨now, ?_, hsame⟩, fun member hmember => ?_⟩
    all_goals rw [hkept]
    · exact h.isDynamic
    · exact h.isSealed
    · exact h.coordinated
    · exact hnow
    · exact h.bound member hmember
  | @admits configs admitted prepared =>
    have ha := prepareAdmission_admits prepared
    have hall := prepareAdmission_admitsAll prepared
    obtain rfl : manager = admitted.manager :=
      Option.some_inj.mp (h.attached.symm.trans ha.attached)
    obtain ⟨initialized, heq⟩ := w.installAdmission_eq admitted
    refine ⟨?_, ha.flags.1.trans h.isDynamic, ha.flags.2.1.trans h.isSealed, ?_, ⟨now, ?_, hsame⟩,
      fun member hmember => ?_⟩
    · rw [heq]
      exact h.attached
    · rw [hall.barriers]
      exact h.coordinated
    · -- the new CTAs are at slots that were vacant
      rw [hall.residents]
      · exact hnow
      · intro hslot
        obtain ⟨new, hnew, hsl⟩ := List.mem_map.mp hslot
        have hvacant := hall.vacant.2 new hnew
        rw [hsl, hnow] at hvacant
        cases hvacant
    · rw [(hall.warps member.warpID fun hstarted => ?_).2.2]
      · exact h.bound member hmember
      · have hfree := (hall.free.2 _ hstarted).2
        rw [h.bound member hmember] at hfree
        cases hfree
  | @vacates other slot gone _ vacated =>
    obtain rfl : manager = other :=
      Option.some_inj.mp (h.attached.symm.trans vacated.reclaims.attached)
    have hne : cta.slot ≠ slot := fun heq => hother (by rw [heq])
    obtain ⟨memory, rfl⟩ := vacated.after
    obtain ⟨initialized, heq⟩ := ({ w with memory } : World σ).reclaimed_eq manager slot gone
    have htables := ({ w with memory } : World σ).reclaimed_self manager slot gone
    refine ⟨?_, ?_, ?_, ?_, ⟨now, ?_, hsame⟩, fun member hmember => ?_⟩
    · rw [heq]
      exact h.attached
    · rw [htables]
      exact h.isDynamic
    · rw [htables]
      exact h.isSealed
    · rw [htables]
      exact (Option.isSome_map (f := fun (records : BarrierRecords) (key : BarrierKey) =>
        if key.ctaID = slot then none else records key)).trans h.coordinated
    · rw [htables]
      exact (Function.update_of_ne hne _ _).trans hnow
    · -- the warps that are freed were bound to the other CTA
      rw [htables, CTAManager.remove_byWarp, if_neg]
      · exact h.bound member hmember
      · rintro ⟨left, hleft, hwarp⟩
        have howned := vacated.owned left hleft
        rw [hwarp, h.bound member hmember] at howned
        exact hne (congrArg WarpCTAKey.ctaID (Option.some_inj.mp howned))

end

/-- The CTA of a slot is not reclaimed by the operations. -/
def Unreclaimed (sf : SoftFloat) (w : World σ) (slot : CTASlot) (ops : List (CoreOp σ)) : Prop :=
  ∀ before after, ops = before ++ .reclaimCTA slot.val :: after →
    ∃ err w', reclaimCTA slot.val (w.run sf before) = (.error err, w')

theorem Hosts.run (sf : SoftFloat) (h : w.Hosts manager cta)
    (hops : w.Unreclaimed sf cta.slot ops) : (w.run sf ops).Hosts manager cta := by
  induction ops generalizing w with
  | nil => exact h
  | cons op ops ih =>
    have hnext : (op.perform sf w).2.Hosts manager cta := by
      by_cases hop : op = .reclaimCTA cta.slot.val
      · subst hop
        obtain ⟨err, w', hrefused⟩ := hops [] ops rfl
        obtain ⟨memory, rfl⟩ := (reclaimCTA_leads w cta.slot.val).of_error rfl hrefused
        change (ignore (reclaimCTA cta.slot.val) w).2.Hosts manager cta
        rw [ignore_snd, show reclaimCTA cta.slot.val w = _ from hrefused]
        exact h.stays ⟨fun _ hm => hm, fun _ => .refl _⟩
      · exact h.moves (perform_moves sf op w) hop
    refine ih hnext fun before after heq => ?_
    exact hops (op :: before) after (by rw [heq, List.cons_append])

theorem prepareAdmission_hosts (h : prepareAdmission configs w = .ok admitted)
    (hcta : cta ∈ admitted.candidates) :
    (w.installAdmission admitted).Hosts admitted.manager cta := by
  have ha := prepareAdmission_admits h
  have hall := prepareAdmission_admitsAll h
  obtain ⟨-, warpIDs, stage, -, hstage, -⟩ := prepareAdmission_stages h
  unfold CTAManager.stageDynamicAdmissions at hstage
  simp only [bind_eq_ok, rejectIf_eq_ok, exists_unit, not_or, Bool.not_eq_true,
    Bool.not_eq_false, Option.isNone_eq_false_iff] at hstage
  obtain ⟨-, ⟨-, hsealed, hcoordinated⟩, -⟩ := hstage
  obtain ⟨initialized, heq⟩ := w.installAdmission_eq admitted
  refine ⟨?_, ha.flags.1.trans ha.isDynamic, ha.flags.2.1.trans hsealed, ?_,
    ⟨cta, hall.entered cta hcta, rfl⟩, hall.bound cta hcta⟩
  · rw [heq]
    exact ha.attached
  · rw [hall.barriers]
    exact hcoordinated

/-! ## Reclaim -/

/-- The tenancy says which warps a CTA has, at which ranks. -/
theorem tenancy_member {a b : CTAState} (h : a.tenancy = b.tenancy) (hmember : member ∈ a.members) :
    ∃ same ∈ b.members, same.warpID = member.warpID ∧ same.rank = member.rank := by
  have hmap : a.tenancy.members = b.tenancy.members := congrArg CTAState.members h
  have hin : { member with finished := false } ∈ a.tenancy.members :=
    List.mem_map.mpr ⟨member, hmember, rfl⟩
  rw [hmap] at hin
  obtain ⟨same, hsame, heq⟩ := List.mem_map.mp hin
  rw [WarpMembership.mk.injEq] at heq
  exact ⟨same, hsame, heq.1, heq.2.1⟩

/-- What a reclaim gives back: slot, warps and records of the CTA, and nothing else. -/
structure Frees (w : World σ) (manager : ManagerID) (cta : CTAState) (w' : World σ) : Prop where
  residents : (w'.managers manager).ctas = Function.update (w.managers manager).ctas cta.slot none
  byWarp : ∀ warp, (w'.managers manager).byWarp warp =
    if warp ∈ cta.members.map WarpMembership.warpID then none else (w.managers manager).byWarp warp
  records : ∀ key, (w'.managers manager).records key =
    if key.ctaID = cta.slot then none else (w.managers manager).records key
  slots : ∀ id, w'.core.slots id = if id ∈ cta.members.map WarpMembership.warpID then
    freedSlot (w.core.slots id) else w.core.slots id
  managers : ∀ other, other ≠ manager → w'.managers other = w.managers other
  owners : w'.owners = w.owners
  bytes : w'.localMemories = w.localMemories

section

variable {w' : World σ} {manager : ManagerID} {cta : CTAState}

theorem Hosts.frees (h : w.Hosts manager cta) (hv : w.Vacates other cta.slot gone w') :
    gone.tenancy = cta.tenancy ∧ w.Frees manager cta w' := by
  obtain rfl : manager = other :=
    Option.some_inj.mp (h.attached.symm.trans hv.reclaims.attached)
  obtain ⟨now, hnow, hsame⟩ := h.resident
  obtain rfl : gone = now := Option.some_inj.mp (hv.reclaims.resident.symm.trans hnow)
  have hwarps : gone.members.map WarpMembership.warpID = cta.members.map WarpMembership.warpID := by
    rw [← gone.warps_tenancy, hsame, cta.warps_tenancy]
  obtain ⟨memory, rfl⟩ := hv.after
  obtain ⟨initialized, heq⟩ := ({ w with memory } : World σ).reclaimed_eq manager cta.slot gone
  have htables := ({ w with memory } : World σ).reclaimed_self manager cta.slot gone
  refine ⟨hsame, ?_, ?_, ?_, ?_, ?_, ?_, ?_⟩
  · rw [htables]
    rfl
  · intro warp
    rw [htables, CTAManager.remove_byWarp, ← hwarps]
    exact if_congr List.mem_map.symm rfl rfl
  · intro key
    rw [htables]
    obtain ⟨records, hrecords⟩ := Option.isSome_iff_exists.mp h.coordinated
    unfold CTAManager.records CTAManager.remove
    rw [hrecords]
    rfl
  · intro id
    rw [heq, ← hwarps]
  · intro id hid
    rw [heq]
    exact Function.update_of_ne hid _ _
  · rw [heq]
    rfl
  · rw [heq]
    rfl

/-- A complete CTA without pending work is reclaimed. -/
theorem Hosts.reclaims (h : w.Hosts manager cta) {completion : CTACompletionSnapshot}
    (hcompletion : w.ctaCompletion cta.slot.val = .ok completion)
    (hcomplete : completion.complete = true)
    (hsettled : ∀ id ∈ cta.members.map WarpMembership.warpID, w.Settled id) :
    ∃ gone w', reclaimCTA cta.slot.val w = (.ok gone, w') := by
  obtain ⟨now, hnow, hsame⟩ := h.resident
  have hsnapshot := CTAManager.snapshot_resident hnow
  obtain ⟨hvalid, -, hpending⟩ :=
    ctaCompletion_complete h.attached hsnapshot hcompletion hcomplete
  have hfound : reclaimable cta.slot.val w = .ok (manager, now) := by
    unfold reclaimable
    rw [hvalid, h.attached]
    change (do
      rejectIf ((w.managers manager).dynamic = false) _
      let snapshot ← (w.managers manager).snapshot cta.slot.val
      let completion ← w.ctaCompletion cta.slot.val
      rejectIf (completion.complete = false) _
      pure (manager, snapshot)) = _
    rw [hsnapshot, hcompletion, rejectIf_of_not (by rw [h.isDynamic]; decide)]
    change (do
      rejectIf (completion.complete = false) _
      pure (manager, now)) = _
    rw [rejectIf_of_not (by rw [hcomplete]; decide)]
    rfl
  obtain ⟨slot, hslot, hr⟩ := reclaimable_reclaims hfound
  obtain rfl := Fin.ext hslot
  rw [Fin.ofNat_val_eq_self] at hpending
  have hcommit := (commitDynamicReclaim_iff hnow).mpr
    ⟨⟨h.isDynamic, h.isSealed, Option.isNone_eq_false_iff.mpr h.coordinated⟩, hpending, ?_, rfl⟩
  · have hidle : ∀ id ∈ now.members.map WarpMembership.warpID, w.Settled id := by
      rw [← now.warps_tenancy, hsame, cta.warps_tenancy]
      exact hsettled
    exact ⟨now, _, (reclaimCTA_settled hfound hr hidle).2 _ hcommit⟩
  · intro member hmember
    obtain ⟨same, hmem, hwarp, hrank⟩ := tenancy_member hsame hmember
    rw [← hwarp, ← hrank]
    exact h.bound same hmem

end

/-- The admission of a cluster enters all of its CTAs, each with free warps, launched states, an
interval and a slot of its own, or it fails and leaves everything as it was.  After any further
operations, a CTA of the cluster that has not been reclaimed yet and is complete is reclaimed on
request, and the reclaim gives back what the admission has taken for it and nothing else. -/
theorem cluster_admitted_reclaimed (sf : SoftFloat) (w : World σ) (configs : List CTAConfig) :
    (∀ err w', admitCTACluster configs w = (.error err, w') → w' = w) ∧
    ∀ ctas w1, admitCTACluster configs w = (.ok ctas, w1) → ∃ manager,
      w.core.ctas = some manager ∧ w.AdmitsAll manager configs ctas w1 ∧
      ∀ cta ∈ ctas, ∀ ops, w1.Unreclaimed sf cta.slot ops →
        (∀ completion, (w1.run sf ops).ctaCompletion cta.slot.val = .ok completion →
          completion.complete = true →
          (∀ id ∈ cta.members.map WarpMembership.warpID, (w1.run sf ops).Settled id) →
          ∃ gone w2, reclaimCTA cta.slot.val (w1.run sf ops) = (.ok gone, w2)) ∧
        ∀ gone w2, reclaimCTA cta.slot.val (w1.run sf ops) = (.ok gone, w2) →
          gone.tenancy = cta.tenancy ∧ (w1.run sf ops).Frees manager cta w2 := by
  cases hprepared : prepareAdmission configs w with
  | error err =>
    rw [admitCTACluster_refused hprepared]
    refine ⟨fun err' w' heq => (congrArg Prod.snd heq).symm, fun ctas w1 heq => ?_⟩
    cases congrArg Prod.fst heq
  | ok admitted =>
    rw [admitCTACluster_done hprepared]
    refine ⟨fun err w' heq => ?_, fun ctas w1 heq => ?_⟩
    · cases congrArg Prod.fst heq
    cases heq
    refine ⟨admitted.manager, (prepareAdmission_admits hprepared).attached,
      prepareAdmission_admitsAll hprepared, fun cta hcta ops hops => ?_⟩
    have hhosts := (prepareAdmission_hosts hprepared hcta).run sf hops
    refine ⟨fun completion hcompletion hcomplete hsettled => ?_, fun gone w2 hrun => ?_⟩
    · exact hhosts.reclaims hcompletion hcomplete hsettled
    · obtain ⟨other, slot, hslot, hvacates⟩ :=
        (reclaimCTA_leads (w.installAdmission admitted |>.run sf ops) cta.slot.val).of_ok rfl hrun
      obtain rfl := Fin.ext hslot
      exact hhosts.frees hvacates

/-- Four idle warps, attached to an empty dynamic manager. -/
def stoppingWorld : World Memory := (imageWorld stopImage).run zeroFloat [.setCTAManager 0]

/-- A cluster of two CTAs of two warps each, with local memory. -/
def pairCluster : List CTAConfig :=
  let first := { pairConfig with
    gridDimensions := ![2#32, 1#32, 1#32], clusterDimensions := ![2#32, 1#32, 1#32]
    clusterSize := 2#32, localMemorySize := 64#32 }
  [first, { first with blockID := ![1#32, 0#32, 0#32], isFirstOfCluster := false }]

def fourSteps : List (CoreOp Memory) := List.replicate 4 (.step {})

/-- Both CTAs are admitted, run to their ends, and the second is reclaimed. -/
theorem cluster_admitted_reclaimed_pair : ∃ first second w1,
    admitCTACluster pairCluster stoppingWorld = (.ok [first, second], w1) ∧
    first.interval = (0, 64) ∧ second.interval = (64, 128) ∧ ∃ gone w2,
      reclaimCTA second.slot.val (w1.run zeroFloat fourSteps) = (.ok gone, w2) ∧
      (w1.run zeroFloat fourSteps).Frees 0 second w2 := by
  obtain ⟨-, hdone⟩ := cluster_admitted_reclaimed zeroFloat stoppingWorld pairCluster
  have hplaces : (admitCTACluster pairCluster stoppingWorld).1.toOption.map
      (List.map fun cta => (cta.slot, cta.interval)) = some [(0, 0, 64), (1, 64, 128)] := by
    decide +kernel
  have hreclaimed : (reclaimCTA (1 : CTASlot).val ((admitCTACluster pairCluster
      stoppingWorld).2.run zeroFloat fourSteps)).1.toOption.isSome = true := by decide +kernel
  rcases hadmitted : admitCTACluster pairCluster stoppingWorld with ⟨err | ctas, w1⟩
  · rw [hadmitted] at hplaces
    cases hplaces
  obtain ⟨manager, hmanager, hall, hctas⟩ := hdone ctas w1 hadmitted
  obtain rfl := Option.some_inj.mp hmanager
  rw [hadmitted] at hplaces hreclaimed
  obtain ⟨first, second, rfl⟩ := List.length_eq_two.mp hall.count
  simp only [Except.toOption, Option.map_some, List.map_cons, List.map_nil, Option.some.injEq,
    List.cons.injEq, Prod.mk.injEq, and_true] at hplaces
  obtain ⟨⟨-, hfirst⟩, hslot, hsecond⟩ := hplaces
  have hunreclaimed : w1.Unreclaimed zeroFloat second.slot fourSteps := by
    intro before after heq
    have hmem : CoreOp.reclaimCTA second.slot.val ∈ fourSteps := by
      rw [heq]
      exact List.mem_append_right _ List.mem_cons_self
    simp [fourSteps] at hmem
  obtain ⟨-, hfrees⟩ := hctas second (by simp) fourSteps hunreclaimed
  refine ⟨first, second, w1, rfl, hfirst, hsecond, ?_⟩
  rw [hslot] at hfrees ⊢
  rcases hrun : reclaimCTA (1 : CTASlot).val (w1.run zeroFloat fourSteps) with ⟨err | gone, w2⟩
  · rw [hrun] at hreclaimed
    cases hreclaimed
  · exact ⟨gone, w2, rfl, (hfrees gone w2 hrun).2⟩

end World

end VortexSim
