import VortexSim.Core.Operations
import VortexSim.Lib.Lists

/-!
# The tables of a manager agree

A CTA is entered under its own identity, its members stand in rank order, and the reverse
table has exactly their entries.  Admission, reclaim and the observations of a core keep
this, and with it every lookup that starts at a member succeeds.
-/

namespace VortexSim

open Checked
open Function (update update_apply update_of_ne update_self)

/-- The CTA table and the reverse table of a manager agree. -/
structure Residents (ctas : CTASlot → Option CTAState) (byWarp : WarpID → Option WarpCTAKey) :
    Prop where
  named : ∀ slot cta, ctas slot = some cta → cta.config.id = BitVec.ofNat 32 slot.val
  ranked : ∀ slot cta, ctas slot = some cta → ∀ (rank : Nat) (member : WarpMembership),
    cta.members[rank]? = some member →
    member.rank = rank ∧ byWarp member.warpID = some { ctaID := slot, rank }
  placed : ∀ warp key, byWarp warp = some key →
    ∃ cta, ctas key.ctaID = some cta ∧ ∃ member, cta.members[key.rank]? = some member ∧
      member.warpID = warp

/-- The invariant of a manager. -/
abbrev CTAManager.Consistent (m : CTAManager) : Prop := Residents m.ctas m.byWarp

theorem CTAManager.new_consistent : CTAManager.new.Consistent where
  named := fun _ _ h => absurd h.symm (Option.some_ne_none _)
  ranked := fun _ _ h => absurd h.symm (Option.some_ne_none _)
  placed := fun _ _ h => absurd h.symm (Option.some_ne_none _)

theorem CTAManager.newDynamic_consistent : CTAManager.newDynamic.Consistent :=
  CTAManager.new_consistent

/-! ## Slots and identities -/

theorem slot_toNat (slot : CTASlot) : (BitVec.ofNat 32 slot.val).toNat = slot.val := by
  have : slot.val < 4 := slot.isLt
  rw [BitVec.toNat_ofNat, Nat.mod_eq_of_lt]
  omega

@[simp] theorem ofNat_slot (slot : CTASlot) :
    Fin.ofNat frozenWarpCount (BitVec.ofNat 32 slot.val).toNat = slot := by
  rw [slot_toNat]
  exact Fin.ofNat_val_eq_self slot

theorem word_of_slot {id : Word} (h : id.toNat < frozenWarpCount) :
    id = BitVec.ofNat 32 (Fin.ofNat frozenWarpCount id.toNat).val := by
  rw [Fin.val_ofNat, Nat.mod_eq_of_lt h, BitVec.ofNat_toNat, BitVec.setWidth_eq]

/-- The resident slot of a CTA. -/
def CTAState.slot (cta : CTAState) : CTASlot := Fin.ofNat frozenWarpCount cta.config.id.toNat

/-! ## Candidates -/

/-- The members stand in rank order. -/
def InRankOrder (members : List WarpMembership) : Prop :=
  ∀ (rank : Nat) (member : WarpMembership), members[rank]? = some member → member.rank = rank

/-- A validated CTA: an identity in range and its members in rank order. -/
structure CTAState.Ranked (cta : CTAState) : Prop where
  named : cta.config.id.toNat < frozenWarpCount
  ranks : InRankOrder cta.members
  distinct : (cta.members.map WarpMembership.warpID).Nodup

theorem scanMember_ranked (h : foldEach (scanMember config legacy) 0 [] warpIDs = .ok members) :
    InRankOrder members ∧ (members.map WarpMembership.warpID).Nodup := by
  have hgood := foldEach_counts (fun i (members : List WarpMembership) => members.length = i ∧
      InRankOrder members ∧ (members.map WarpMembership.warpID).Nodup) ?_ h
    ⟨rfl, by simp [InRankOrder], List.nodup_nil⟩
  · exact hgood.2
  · rintro i members warpID members' hstep ⟨hlen, hranks, hdistinct⟩
    unfold scanMember at hstep
    simp only [ok_iff] at hstep
    obtain ⟨-, hfresh, rfl⟩ := hstep
    refine ⟨by simp [hlen], ?_, ?_⟩
    · intro rank member hmember
      rw [List.getElem?_append] at hmember
      split at hmember
      · exact hranks rank member hmember
      · have hzero : rank - members.length = 0 := by
          by_contra hne
          rw [List.getElem?_singleton, if_neg hne] at hmember
          cases hmember
        rw [hzero] at hmember
        cases hmember
        dsimp only
        omega
    · rw [List.map_append, List.map_singleton]
      refine List.nodup_append.mpr ⟨hdistinct, List.nodup_singleton _, ?_⟩
      rintro warp hwarp other hother rfl
      obtain ⟨member, hmember, rfl⟩ := List.mem_map.mp hwarp
      exact hfresh ⟨member, hmember, List.mem_singleton.mp hother⟩

theorem validateShape_id (h : validateShape config threads = .ok shaped) :
    shaped.id = config.id := by
  unfold validateShape at h
  split at h
  · cases h
    rfl
  · simp only [ok_iff] at h
    obtain ⟨-, -, -, -, rfl⟩ := h
    rfl

theorem validateCTAConfig_ranked (h : validateCTAConfig config = .ok cta) :
    cta.config.id = config.id ∧ cta.Ranked := by
  unfold validateCTAConfig at h
  simp only [ok_iff, Nat.not_le] at h
  obtain ⟨hid, -, -, -, -, threads, -, shaped, hshaped, -, -, -, members, hmembers, rfl⟩ := h
  obtain ⟨hranks, hdistinct⟩ := scanMember_ranked hmembers
  have hsame := validateShape_id hshaped
  refine ⟨hsame, ?_, hranks, hdistinct⟩
  rw [hsame]
  exact hid

theorem CTAState.Ranked.place {cta : CTAState} (h : cta.Ranked)
    (place : LocalMemoryAllocation × Nat) : (cta.place place).Ranked :=
  ⟨h.named, h.ranks, h.distinct⟩

/-! ## Admission -/

section

variable {m : CTAManager} {cta : CTAState}

/-- The reverse entry of a member. -/
def memberKey (slot : CTASlot) (member : WarpMembership) : Option WarpCTAKey :=
  some { ctaID := slot, rank := member.rank }

namespace CTAManager

theorem install_byWarp_of_mem (h : cta.Ranked) (hmember : member ∈ cta.members) :
    (m.install cta).byWarp member.warpID =
      memberKey (Fin.ofNat frozenWarpCount cta.config.id.toNat) member := by
  obtain ⟨other, hother, hwarp, he⟩ := Lists.foldl_update_of_mem WarpMembership.warpID
    (memberKey (Fin.ofNat frozenWarpCount cta.config.id.toNat)) m.byWarp ⟨member, hmember, rfl⟩
  obtain rfl := List.inj_on_of_nodup_map h.distinct hother hmember hwarp
  exact he

theorem install_byWarp_of_not_mem (h : ∀ member ∈ cta.members, member.warpID ≠ warp) :
    (m.install cta).byWarp warp = m.byWarp warp :=
  Lists.foldl_update_of_not_mem WarpMembership.warpID
    (memberKey (Fin.ofNat frozenWarpCount cta.config.id.toNat)) m.byWarp h

/-- Entering a validated CTA at a free slot with free warps keeps the tables in agreement. -/
theorem Consistent.install (hm : m.Consistent) (h : cta.Ranked)
    (hslot : m.ctas (Fin.ofNat frozenWarpCount cta.config.id.toNat) = none)
    (hwarps : ∀ member ∈ cta.members, m.byWarp member.warpID = none) :
    (m.install cta).Consistent := by
  set slot : CTASlot := Fin.ofNat frozenWarpCount cta.config.id.toNat with hslotdef
  have hctas : (m.install cta).ctas = update m.ctas slot (some cta) := rfl
  refine ⟨?_, ?_, ?_⟩
  · intro other c hc
    rw [hctas, update_apply] at hc
    split at hc
    · rename_i heq
      cases hc
      rw [heq]
      exact word_of_slot h.named
    · exact hm.named other c hc
  · intro other c hc rank member hmember
    rw [hctas, update_apply] at hc
    split at hc
    · rename_i heq
      cases hc
      have hrank := h.ranks rank member hmember
      refine ⟨hrank, ?_⟩
      rw [install_byWarp_of_mem h (List.mem_of_getElem? hmember), heq, ← hrank]
      rfl
    · obtain ⟨hrank, hkey⟩ := hm.ranked other c hc rank member hmember
      refine ⟨hrank, ?_⟩
      rw [install_byWarp_of_not_mem, hkey]
      -- the warps of the new CTA had no entry
      intro new hnew hsame
      rw [← hsame, hwarps new hnew] at hkey
      cases hkey
  · intro warp key hkey
    by_cases hnew : ∃ member ∈ cta.members, member.warpID = warp
    · obtain ⟨member, hmember, rfl⟩ := hnew
      rw [install_byWarp_of_mem h hmember] at hkey
      cases hkey
      obtain ⟨rank, hrank⟩ := List.mem_iff_getElem?.mp hmember
      refine ⟨cta, by rw [hctas, update_self], member, ?_, rfl⟩
      rw [h.ranks rank member hrank]
      exact hrank
    · rw [install_byWarp_of_not_mem fun member hmember he =>
        hnew ⟨member, hmember, he⟩] at hkey
      obtain ⟨c, hc, hplace⟩ := hm.placed warp key hkey
      refine ⟨c, ?_, hplace⟩
      rw [hctas, update_of_ne, hc]
      rintro heq
      rw [heq, hslot] at hc
      cases hc

/-- Everything a static admission that succeeds has checked. -/
structure Enters (m : CTAManager) (config : CTAConfig) (cta : CTAState) : Prop where
  isOpen : m.dynamic = false ∧ m.isSealed = false
  placed : ∃ candidate place, validateCTAConfig config = .ok candidate ∧
    allocateFromIntervals candidate.config.localMemorySize.toNat m.allocationIntervals = .ok place ∧
    cta = candidate.place place
  slot : m.ctas (Fin.ofNat frozenWarpCount cta.config.id.toNat) = none
  warps : ∀ member ∈ cta.members, m.byWarp member.warpID = none

theorem admitCTA_enters (h : m.admitCTA config = .ok (m', cta)) :
    m.Enters config cta ∧ m' = { m.install cta with epoch := m.epoch + 1 } := by
  unfold admitCTA at h
  simp only [ok_iff, Prod.mk.injEq, ne_eq, not_not, Bool.not_eq_true] at h
  obtain ⟨candidate, hcandidate, hstatic, hopen, hslot, hwarps, place, hplace, rfl, rfl⟩ := h
  obtain ⟨hid, -⟩ := validateCTAConfig_ranked hcandidate
  refine ⟨⟨⟨hstatic, hopen⟩, ⟨candidate, place, hcandidate, hplace, rfl⟩, ?_, ?_⟩, rfl⟩
  · rw [← hid] at hslot
    exact hslot
  · refine (each_eq_ok_iff ?_ 0 _).mp hwarps
    intro _ member
    cases m.byWarp member.warpID with
    | none => exact ⟨fun _ => rfl, fun _ => rfl⟩
    | some key =>
      refine ⟨fun h => ?_, fun h => ?_⟩
      · cases h
      · cases h

theorem Enters.ranked {config : CTAConfig} (h : m.Enters config cta) : cta.Ranked := by
  obtain ⟨candidate, place, hcandidate, -, rfl⟩ := h.placed
  exact (validateCTAConfig_ranked hcandidate).2.place place

theorem admitCTA_consistent (hm : m.Consistent)
    (h : m.admitCTA config = .ok (m', admitted)) : m'.Consistent := by
  obtain ⟨henters, rfl⟩ := admitCTA_enters h
  exact hm.install henters.ranked henters.slot henters.warps

end CTAManager

end

theorem startedWarps_cons (cta : CTAState) (candidates : List CTAState) :
    World.startedWarps (cta :: candidates) =
      cta.members.map WarpMembership.warpID ++ World.startedWarps candidates :=
  List.flatMap_cons

/-- Candidates that can be entered together. -/
structure Admissible (candidates : List CTAState) : Prop where
  ranked : ∀ cta ∈ candidates, cta.Ranked
  slots : (candidates.map fun cta => cta.config.id).Nodup
  warps : (World.startedWarps candidates).Nodup

theorem Admissible.tail (h : Admissible (cta :: candidates)) : Admissible candidates where
  ranked := fun c hc => h.ranked c (List.mem_cons_of_mem cta hc)
  slots := (List.nodup_cons.mp h.slots).2
  warps := (List.nodup_append.mp h.warps).2.1

section

variable {m : CTAManager} {candidates : List CTAState}

/-- Slots and warps of the candidates are free. -/
def CTAManager.Free (m : CTAManager) (candidates : List CTAState) : Prop :=
  ∀ cta ∈ candidates, m.ctas (Fin.ofNat frozenWarpCount cta.config.id.toNat) = none ∧
    ∀ member ∈ cta.members, m.byWarp member.warpID = none

/-- What is left to enter stays free. -/
theorem CTAManager.Free.install {cta : CTAState} (h : Admissible (cta :: candidates))
    (hfree : m.Free (cta :: candidates)) : (m.install cta).Free candidates := by
  intro other hother
  obtain ⟨hslot, hwarps⟩ := hfree other (List.mem_cons_of_mem cta hother)
  have hne : other.config.id ≠ cta.config.id := by
    intro he
    exact (List.nodup_cons.mp h.slots).1 (List.mem_map.mpr ⟨other, hother, he⟩)
  refine ⟨?_, ?_⟩
  · have hslots : Fin.ofNat frozenWarpCount other.config.id.toNat ≠
        Fin.ofNat frozenWarpCount cta.config.id.toNat := by
      intro he
      have hid := (h.ranked other (List.mem_cons_of_mem cta hother)).named
      have hid' := (h.ranked cta List.mem_cons_self).named
      refine hne ?_
      rw [word_of_slot hid, word_of_slot hid', he]
    rw [show (m.install cta).ctas = update m.ctas _ (some cta) from rfl, update_of_ne hslots]
    exact hslot
  · intro member hmember
    rw [CTAManager.install_byWarp_of_not_mem, hwarps member hmember]
    intro new hnew hsame
    -- no warp is started twice
    have hdisjoint := (List.nodup_append.mp h.warps).2.2
    refine hdisjoint new.warpID (List.mem_map_of_mem hnew) new.warpID ?_ rfl
    rw [hsame]
    exact List.mem_flatMap.mpr ⟨other, hother, List.mem_map_of_mem hmember⟩

theorem CTAManager.Consistent.installAll (hm : m.Consistent) (h : Admissible candidates)
    (hfree : m.Free candidates) : (candidates.foldl CTAManager.install m).Consistent := by
  induction candidates generalizing m with
  | nil => exact hm
  | cons cta candidates ih =>
    obtain ⟨hslot, hwarps⟩ := hfree cta List.mem_cons_self
    exact ih (hm.install (h.ranked cta List.mem_cons_self) hslot hwarps) h.tail (hfree.install h)

/-- A warp of the candidates has an entry, and the other entries stay. -/
theorem CTAManager.hasWarp_installAll (m : CTAManager) (warp : WarpID) :
    (candidates.foldl CTAManager.install m).hasWarp warp = true ↔
      warp ∈ World.startedWarps candidates ∨ m.hasWarp warp = true := by
  induction candidates generalizing m with
  | nil => simp [World.startedWarps]
  | cons cta candidates ih =>
    have hone : (m.install cta).hasWarp warp = true ↔
        warp ∈ cta.members.map WarpMembership.warpID ∨ m.hasWarp warp = true := by
      by_cases hmem : ∃ member ∈ cta.members, member.warpID = warp
      · obtain ⟨other, -, -, he⟩ := Lists.foldl_update_of_mem WarpMembership.warpID
          (memberKey (Fin.ofNat frozenWarpCount cta.config.id.toNat)) m.byWarp hmem
        refine ⟨fun _ => .inl (List.mem_map.mpr hmem), fun _ => ?_⟩
        exact congrArg Option.isSome he
      · have hsame := CTAManager.install_byWarp_of_not_mem (m := m)
          fun member hmember he => hmem ⟨member, hmember, he⟩
        unfold CTAManager.hasWarp
        rw [hsame, List.mem_map]
        exact ⟨.inr, fun h => h.resolve_left hmem⟩
    rw [List.foldl_cons, ih, hone, startedWarps_cons, List.mem_append, or_assoc]
    exact or_left_comm

end

/-! ### The stage of an admission -/

section

variable {m : CTAManager}

/-- The members of a candidate are marked, and none was marked before. -/
theorem stageMember_fresh (h : foldEach m.stageMember i staged members = .ok staged') :
    (∀ member ∈ members, member.warpID ∉ staged) ∧
      ∀ warp, warp ∈ staged ∨ warp ∈ members.map WarpMembership.warpID → warp ∈ staged' := by
  induction members generalizing staged i with
  | nil =>
    cases h
    simp
  | cons member members ih =>
    obtain ⟨middle, hstep, hrest⟩ := foldEach_cons.mp h
    unfold CTAManager.stageMember at hstep
    split at hstep
    · cases hstep
    · simp only [ok_iff] at hstep
      obtain ⟨hfresh, rfl⟩ := hstep
      obtain ⟨hothers, hmarked⟩ := ih hrest
      refine ⟨?_, ?_⟩
      · intro other hother
        rcases List.mem_cons.mp hother with rfl | hother
        · exact hfresh
        · exact fun hmem => hothers other hother (List.mem_cons_of_mem _ hmem)
      · intro warp hwarp
        refine hmarked warp ?_
        rw [List.map_cons, List.mem_cons, ← or_assoc] at hwarp
        rcases hwarp with (hwarp | rfl) | hwarp
        · exact .inl (List.mem_cons_of_mem _ hwarp)
        · exact .inl List.mem_cons_self
        · exact .inr hwarp

/-- What the loop over the cluster knows of its candidates. -/
structure CTAManager.AdmissionScan.Sound (scan : CTAManager.AdmissionScan) : Prop where
  ranked : ∀ cta ∈ scan.candidates, cta.Ranked
  warps : (World.startedWarps scan.candidates).Nodup
  marked : ∀ warp ∈ World.startedWarps scan.candidates, warp ∈ scan.stagedWarps

theorem startedWarps_snoc (candidates : List CTAState) (cta : CTAState) :
    World.startedWarps (candidates ++ [cta]) =
      World.startedWarps candidates ++ cta.members.map WarpMembership.warpID := by
  simp [World.startedWarps]

theorem stageCandidate_id (h : m.stageCandidate i scan entry = .ok scan') :
    (scan'.candidates.map fun cta => cta.config.id) =
      (scan.candidates.map fun cta => cta.config.id) ++ [BitVec.ofNat 32 entry.2.val] := by
  unfold CTAManager.stageCandidate at h
  simp only [ok_iff] at h
  obtain ⟨candidate, hcandidate, -, -, place, -, rfl⟩ := h
  rw [List.map_append, List.map_singleton]
  exact congrArg (_ ++ [·]) (validateCTAConfig_ranked hcandidate).1

theorem CTAManager.AdmissionScan.Sound.step {i : Nat}
    (h : m.stageCandidate i scan entry = .ok scan') (hs : scan.Sound) : scan'.Sound := by
  unfold CTAManager.stageCandidate at h
  simp only [ok_iff] at h
  obtain ⟨candidate, hcandidate, staged, hstaged, place, -, rfl⟩ := h
  have hranked := (validateCTAConfig_ranked hcandidate).2
  obtain ⟨hfresh, hmarked⟩ := stageMember_fresh hstaged
  refine ⟨?_, ?_, ?_⟩
  · exact Lists.forall_mem_snoc hs.ranked (hranked.place place)
  · rw [startedWarps_snoc]
    refine List.nodup_append.mpr ⟨hs.warps, hranked.distinct, ?_⟩
    rintro warp hwarp other hother rfl
    obtain ⟨member, hmember, rfl⟩ := List.mem_map.mp hother
    exact hfresh member hmember (hs.marked _ hwarp)
  · intro warp hwarp
    rw [startedWarps_snoc, List.mem_append] at hwarp
    exact hmarked warp (hwarp.imp_left (hs.marked warp))

theorem stageDynamicAdmissions_admissible
    (h : m.stageDynamicAdmissions configs warpIDs = .ok stage) : Admissible stage.candidates := by
  unfold CTAManager.stageDynamicAdmissions at h
  simp only [ok_iff] at h
  obtain ⟨-, -, -, scan, hscan, rfl⟩ := h
  have hsound : scan.Sound := by
    refine foldEach_invariant CTAManager.AdmissionScan.Sound ?_ hscan ⟨?_, List.nodup_nil, ?_⟩
    · exact fun i s x s' _ hstep hs => hs.step hstep
    · exact fun _ hmem => absurd hmem List.not_mem_nil
    · exact fun _ hmem => absurd hmem List.not_mem_nil
  have hids := foldEach_collects (fun scan : CTAManager.AdmissionScan =>
      scan.candidates.map fun cta => cta.config.id)
    (fun entry : CTAConfig × CTASlot => BitVec.ofNat 32 entry.2.val)
    (fun _ _ _ _ => stageCandidate_id) hscan
  refine ⟨hsound.ranked, ?_, hsound.warps⟩
  rw [hids, List.map_nil, List.nil_append]
  have hfree : m.freeCTAIDs.Nodup := (List.nodup_finRange _).filter _
  have hmap := (Lists.nodup_map_snd_zip
    ((configs.zip warpIDs).map fun entry => { entry.1 with warpIDs := entry.2.map Fin.val })
    hfree).map (f := fun slot : CTASlot => BitVec.ofNat 32 slot.val) ?_
  · rwa [List.map_map] at hmap
  · intro a b hab
    dsimp only at hab
    rw [← ofNat_slot a, hab, ofNat_slot]

theorem recheck_free (h : m.recheck stage = .ok u) : m.Free stage.candidates := by
  unfold CTAManager.recheck at h
  simp only [ok_iff] at h
  refine (each_eq_ok_iff ?_ 0 _).mp h.2.2
  intro _ candidate
  simp only [ok_iff, each_rejectIf_eq_ok, ne_eq, not_not]

end

/-! ## Observations -/

section

variable {m : CTAManager}

variable {warp : WarpID} {slot : CTASlot} {cta : CTAState}

theorem CTAManager.observeWarpFinished_eq_ok (h : m.observeWarpFinished warp = .ok m') :
    ∃ slot cta rank, m.ctas slot = some cta ∧
      m' = { m with ctas := update m.ctas slot (some (cta.finish rank)) } := by
  unfold CTAManager.observeWarpFinished at h
  split at h
  · cases h
  · rename_i key hkey
    split at h
    · cases h
    · rename_i cta hcta
      simp only [ok_iff] at h
      exact ⟨key.ctaID, cta, key.rank, hcta, h.2.symm⟩

/-- A finished member keeps its place. -/
theorem CTAState.finish_members (cta : CTAState) (rank r : Nat) :
    (cta.finish rank).members[r]?.map (fun member => (member.rank, member.warpID)) =
      cta.members[r]?.map fun member => (member.rank, member.warpID) := by
  unfold CTAState.finish
  rw [List.getElem?_modify]
  cases cta.members[r]? with
  | none => rfl
  | some member =>
    split <;> rfl

/-- The tables do not see the finished flag. -/
theorem Residents.finish (h : Residents ctas byWarp) (hcta : ctas slot = some cta) (rank : Nat) :
    Residents (update ctas slot (some (cta.finish rank))) byWarp := by
  refine ⟨?_, ?_, ?_⟩
  · intro other c hc
    rw [update_apply] at hc
    split at hc
    · rename_i heq
      cases hc
      rw [heq]
      exact h.named slot cta hcta
    · exact h.named other c hc
  · intro other c hc r member hmember
    rw [update_apply] at hc
    split at hc
    · rename_i heq
      cases hc
      have hview := cta.finish_members rank r
      rw [hmember] at hview
      obtain ⟨old, hold, he⟩ := Option.map_eq_some_iff.mp hview.symm
      obtain ⟨hrank, hwarp⟩ := Prod.mk.inj he
      rw [heq, ← hrank, ← hwarp]
      exact h.ranked slot cta hcta r old hold
    · exact h.ranked other c hc r member hmember
  · intro warp key hkey
    obtain ⟨c, hc, member, hmember, hwarp⟩ := h.placed warp key hkey
    by_cases heq : key.ctaID = slot
    · rw [heq, hcta] at hc
      cases hc
      have hview := cta.finish_members rank key.rank
      rw [hmember] at hview
      obtain ⟨new, hnew, he⟩ := Option.map_eq_some_iff.mp hview
      refine ⟨_, by rw [heq, update_self], new, hnew, ?_⟩
      rw [(Prod.mk.inj he).2]
      exact hwarp
    · exact ⟨c, by rw [update_of_ne heq, hc], member, hmember, hwarp⟩

namespace CTAManager

theorem Consistent.observeWarpFinished (hm : m.Consistent)
    (h : m.observeWarpFinished warp = .ok m') : m'.Consistent := by
  obtain ⟨slot, cta, rank, hcta, rfl⟩ := observeWarpFinished_eq_ok h
  exact hm.finish hcta rank

/-- A member can be told to have finished. -/
theorem Consistent.observes (hm : m.Consistent) (h : m.hasWarp warp = true) :
    ∃ m', m.observeWarpFinished warp = .ok m' := by
  obtain ⟨key, hkey⟩ := Option.isSome_iff_exists.mp h
  obtain ⟨cta, hcta, member, hmember, hwarp⟩ := hm.placed warp key hkey
  unfold CTAManager.observeWarpFinished
  simp only [hkey, hcta]
  rw [rejectIf_of_not]
  · exact ⟨_, rfl⟩
  · rw [hmember, not_not]
    exact congrArg some hwarp

/-! ## Lookups -/

/-- A member sees its own CTA. -/
theorem Consistent.viewForWarp (hm : m.Consistent) (h : m.byWarp warp = some key) :
    ∃ view, m.viewForWarp warp = .ok view ∧ view.id = BitVec.ofNat 32 key.ctaID.val := by
  obtain ⟨cta, hcta, member, hmember, hwarp⟩ := hm.placed warp key h
  have hrank := (hm.ranked key.ctaID cta hcta key.rank member hmember).1
  have hfound : (cta.members.find? fun candidate =>
      decide (candidate.rank = key.rank ∧ candidate.warpID = warp)).isSome = true := by
    rw [List.find?_isSome]
    exact ⟨member, List.mem_of_getElem? hmember, decide_eq_true ⟨hrank, hwarp⟩⟩
  obtain ⟨other, hother⟩ := Option.isSome_iff_exists.mp hfound
  unfold CTAManager.viewForWarp
  simp only [h, hcta, Option.bind_some, hother, Option.map_some]
  exact ⟨_, rfl, hm.named key.ctaID cta hcta⟩

/-- Only a member has a view, and it is the one of its CTA. -/
theorem Consistent.viewForWarp_eq_ok (hm : m.Consistent) (h : m.viewForWarp warp = .ok view) :
    ∃ key, m.byWarp warp = some key ∧ view.id = BitVec.ofNat 32 key.ctaID.val := by
  rcases hkey : m.byWarp warp with _ | key
  · unfold CTAManager.viewForWarp at h
    rw [hkey] at h
    cases h
  · obtain ⟨view', hview, hid⟩ := hm.viewForWarp hkey
    rw [h] at hview
    cases hview
    exact ⟨key, rfl, hid⟩

theorem snapshot_eq_ok :
    m.snapshot ctaID = .ok cta ↔ ∃ slot : CTASlot, slot.val = ctaID ∧ m.ctas slot = some cta := by
  unfold snapshot
  split
  · rename_i hlt
    constructor
    · intro h
      refine ⟨⟨ctaID, hlt⟩, rfl, ?_⟩
      cases hc : m.ctas ⟨ctaID, hlt⟩ with
      | none =>
        rw [hc] at h
        cases h
      | some c =>
        rw [hc] at h
        cases h
        rfl
    · rintro ⟨slot, rfl, hc⟩
      rw [hc]
      rfl
  · rename_i hge
    constructor
    · intro h
      cases h
    · rintro ⟨slot, rfl, -⟩
      exact absurd slot.isLt hge

theorem snapshot_resident (h : m.ctas slot = some cta) :
    m.snapshot slot.val = .ok cta := snapshot_eq_ok.mpr ⟨slot, rfl, h⟩

/-- A warp is a member of the CTA at a slot. -/
def Member (m : CTAManager) (slot : CTASlot) (warp : WarpID) : Prop :=
  ∃ rank, m.byWarp warp = some { ctaID := slot, rank }

theorem Member.unique (h : m.Member slot warp) (h' : m.Member slot' warp) : slot = slot' := by
  obtain ⟨rank, h⟩ := h
  obtain ⟨rank', h'⟩ := h'
  rw [h] at h'
  cases h'
  rfl

theorem Consistent.member_iff (hm : m.Consistent) : m.Member slot warp ↔
      ∃ cta, m.ctas slot = some cta ∧ ∃ member ∈ cta.members, member.warpID = warp := by
  constructor
  · rintro ⟨rank, h⟩
    obtain ⟨cta, hcta, member, hmember, hwarp⟩ := hm.placed warp _ h
    exact ⟨cta, hcta, member, List.mem_of_getElem? hmember, hwarp⟩
  · rintro ⟨cta, hcta, member, hmember, rfl⟩
    obtain ⟨rank, hrank⟩ := List.mem_iff_getElem?.mp hmember
    exact ⟨rank, (hm.ranked slot cta hcta rank member hrank).2⟩

theorem hasWarp_iff : m.hasWarp warp = true ↔ ∃ slot, m.Member slot warp := by
  unfold hasWarp CTAManager.Member
  rw [Option.isSome_iff_exists]
  constructor
  · rintro ⟨⟨slot, rank⟩, h⟩
    exact ⟨slot, rank, h⟩
  · rintro ⟨slot, rank, h⟩
    exact ⟨_, h⟩

/-! ## Reclaim -/

theorem remove_byWarp (m : CTAManager) (slot : CTASlot) (cta : CTAState) (warp : WarpID) :
    (m.remove slot cta).byWarp warp =
      if ∃ member ∈ cta.members, member.warpID = warp then none else m.byWarp warp := by
  split
  · rename_i hmem
    obtain ⟨-, -, -, he⟩ := Lists.foldl_update_of_mem WarpMembership.warpID
      (fun _ => (none : Option WarpCTAKey)) m.byWarp hmem
    exact he
  · rename_i hmem
    exact Lists.foldl_update_of_not_mem WarpMembership.warpID
      (fun _ => (none : Option WarpCTAKey)) m.byWarp fun member hmember he =>
        hmem ⟨member, hmember, he⟩

end CTAManager

/-- The records of a reclaimed CTA go with it. -/
theorem records_remove (m : CTAManager) (slot : CTASlot) (cta : CTAState) (key : BarrierKey) :
    (m.remove slot cta).records.at key = if key.ctaID = slot then {} else m.records.at key := by
  unfold CTAManager.records CTAManager.remove BarrierRecords.at
  cases m.barriers with
  | none => simp
  | some records =>
    dsimp only [Option.map_some, Option.getD_some]
    split <;> rfl

/-- After a reclaim the members of the other CTAs are the same. -/
theorem CTAManager.remove_member (hm : m.Consistent) (hcta : m.ctas slot = some cta) :
    (m.remove slot cta).Member other warp ↔ other ≠ slot ∧ m.Member other warp := by
  unfold CTAManager.Member
  rw [CTAManager.remove_byWarp]
  have hiff : m.Member slot warp ↔
      ∃ c, m.ctas slot = some c ∧ ∃ member ∈ c.members, member.warpID = warp := hm.member_iff
  by_cases hmem : ∃ member ∈ cta.members, member.warpID = warp
  · have hmine : m.Member slot warp := hiff.mpr ⟨cta, hcta, hmem⟩
    rw [if_pos hmem]
    constructor
    · rintro ⟨rank, h⟩
      cases h
    · rintro ⟨hne, hother⟩
      exact absurd (CTAManager.Member.unique hother hmine) hne
  · rw [if_neg hmem]
    refine ⟨fun h => ⟨?_, h⟩, And.right⟩
    rintro rfl
    obtain ⟨c, hc, hfound⟩ := hiff.mp h
    rw [hcta] at hc
    cases hc
    exact hmem hfound

theorem CTAManager.Consistent.remove (hm : m.Consistent) (hcta : m.ctas slot = some cta) :
    (m.remove slot cta).Consistent := by
  have hctas : (m.remove slot cta).ctas = update m.ctas slot none := rfl
  have hrest : ∀ other c, (m.remove slot cta).ctas other = some c →
      other ≠ slot ∧ m.ctas other = some c := by
    intro other c hc
    rw [hctas, update_apply] at hc
    split at hc
    · cases hc
    · exact ⟨‹_›, hc⟩
  refine ⟨?_, ?_, ?_⟩
  · intro other c hc
    exact hm.named other c (hrest other c hc).2
  · intro other c hc rank member hmember
    obtain ⟨hne, hold⟩ := hrest other c hc
    obtain ⟨hrank, hkey⟩ := hm.ranked other c hold rank member hmember
    obtain ⟨r, hr⟩ := (CTAManager.remove_member hm hcta).mpr ⟨hne, rank, hkey⟩
    refine ⟨hrank, ?_⟩
    -- the entry that is left is the one that was there
    have hsame := m.remove_byWarp slot cta member.warpID
    rw [hr] at hsame
    split at hsame
    · cases hsame
    · rw [hr, hsame, hkey]
  · intro warp key hkey
    have hkept := m.remove_byWarp slot cta warp
    rw [hkey] at hkept
    split at hkept
    · cases hkept
    · obtain ⟨c, hc, hplace⟩ := hm.placed warp key hkept.symm
      obtain ⟨hne, -⟩ := (CTAManager.remove_member hm hcta).mp ⟨key.rank, hkey⟩
      exact ⟨c, by rw [hctas, update_of_ne hne, hc], hplace⟩

end

end VortexSim
