import VortexSim.Core.Driven
import VortexSim.Device.Admission
import VortexSim.Device.Kernel
import VortexSim.Lib.Ledger

/-!
# The loop keeps its books

The generation records, the residents of the core and the position of the walker stay tied
together through every turn of the kernel loop, however it ends.  Items of the ledger are the
CTAs of the grid, under the numbers the walker gives them, and places are the resident slots.
-/

namespace VortexSim

open Checked Stateful Act Ledger

variable {σ : Type}

/-! ## Events as a log -/

/-- The stage of an event. -/
def CTAEventKind.stage : CTAEventKind → Stage
  | .generated => .created
  | .admitted => .entered
  | .completed => .left

/-- The entry of an event. -/
def CTAEvent.entry (event : CTAEvent) : Stage × Nat := (event.kind.stage, event.cta.id.toNat)

/-- The log of some events. -/
def logOf (events : List CTAEvent) : Log := events.map CTAEvent.entry

theorem logOf_snoc (events : List CTAEvent) (event : CTAEvent) :
    logOf (events ++ [event]) = logOf events ++ [event.entry] := List.map_append

/-- The counter of a boundary. -/
def KernelRunResult.count (result : KernelRunResult) : Stage → Nat
  | .created => result.generated
  | .entered => result.admitted
  | .left => result.completed

/-- The counters say how many events there are. -/
def KernelRunResult.Counts (result : KernelRunResult) : Prop :=
  ∀ stage, result.count stage = (passed stage (logOf result.ctaEvents)).length

theorem KernelRunResult.counts_zero : KernelRunResult.Counts {} := by
  intro stage
  cases stage with
  | created => rfl
  | entered => rfl
  | left => rfl

/-- A counter moves together with the event it counts. -/
theorem KernelRunResult.Counts.snoc {result result' : KernelRunResult} (h : result.Counts)
    (hevents : result'.ctaEvents = result.ctaEvents ++ [event])
    (hcount : ∀ stage, result'.count stage =
      result.count stage + if event.kind.stage = stage then 1 else 0) : result'.Counts := by
  intro stage
  rw [hcount, hevents, logOf_snoc, passed_snoc, List.length_append, h stage]
  change _ + _ = _ + (if event.kind.stage = stage then [event.cta.id.toNat] else []).length
  by_cases hs : event.kind.stage = stage
  · rw [if_pos hs, if_pos hs, List.length_singleton]
  · rw [if_neg hs, if_neg hs, List.length_nil]

/-! ## The position of the walker -/

section

variable {launch : LaunchState}

/-- The walker has handed out a number of records.  A grid without blocks has none. -/
structure GridWalker.At (hv : launch.Valid) (w : GridWalker) (k : Nat) : Prop where
  launched : w.launch = launch
  emitted : w.emitted.toNat = k
  bounded : k ≤ launch.totalCTAs.toNat
  stands : ∀ hfull : launch.Full, GridWalker.Stands hv hfull w k

variable {hv : launch.Valid} {w : GridWalker} {k : Nat}

theorem GridWalker.at_initial (hv : launch.Valid) : GridWalker.At hv { launch } 0 where
  launched := rfl
  emitted := rfl
  bounded := Nat.zero_le _
  stands := fun hfull => GridWalker.stands_initial hv hfull

/-- A grid with a block is full. -/
theorem LaunchState.Valid.full (hv : launch.Valid) (h : 0 < launch.totalCTAs.toNat) :
    launch.Full := by
  intro axis hzero
  rw [hv.empty ⟨axis, hzero⟩] at h
  exact Nat.lt_irrefl 0 h

theorem GridWalker.At.remaining (h : w.At hv k) :
    w.remaining.toNat = launch.totalCTAs.toNat - k := by
  unfold GridWalker.remaining
  rw [h.launched]
  split
  · rename_i hle
    rw [BitVec.le_def, h.emitted] at hle
    rw [Nat.sub_eq_zero_of_le hle]
    rfl
  · rw [BitVec.toNat_sub_of_le (BitVec.le_def.mpr (h.emitted ▸ h.bounded)), h.emitted]

theorem GridWalker.At.next (h : w.At hv k) (hk : k < launch.totalCTAs.toNat) :
    ∃ w', w.next = some (w.current, w') ∧ w'.At hv (k + 1) ∧ w.current.id.toNat = k := by
  have hfull := hv.full (Nat.zero_lt_of_lt hk)
  obtain ⟨w', hnext, hstands⟩ := (h.stands hfull).next hk
  exact ⟨w', hnext, ⟨hstands.launched, hstands.emitted, hk, fun _ => hstands⟩, h.emitted⟩

/-- Whole clusters are left. -/
theorem GridWalker.At.room (h : w.At hv k) (hdvd : launch.clusterSize.toNat ∣ k)
    (hk : w.remaining ≠ 0#32) : k + launch.clusterSize.toNat ≤ launch.totalCTAs.toNat := by
  have hpos := LaunchState.toNat_pos hk
  rw [h.remaining] at hpos
  have htotal := hv.volume_origin (hv.full (by omega))
  obtain ⟨turns, rfl⟩ := hdvd
  rw [← htotal] at hpos ⊢
  have hlt : turns < Odometer.volume (LaunchState.originWheels hv (hv.full (by omega))) :=
    Nat.lt_of_mul_lt_mul_left (Nat.lt_of_sub_pos hpos)
  calc launch.clusterSize.toNat * turns + launch.clusterSize.toNat
      = launch.clusterSize.toNat * (turns + 1) := (Nat.mul_succ _ _).symm
    _ ≤ _ := Nat.mul_le_mul_left _ hlt

end

/-! ## The invariant -/

namespace Kernel

variable {launch : LaunchState}

/-- The books of a call, with the log of the calls before it and the CTAs that wait. -/
structure Sound (hv : launch.Valid) (past : Log) (k : Nat) (waiting : List CTA) (s : Running σ) :
    Prop where
  launched : s.execution.launch = launch
  walker : s.runtime.walker.At hv k
  core : s.runtime.core.Driven 0
  books : Books k (waiting.map fun cta => cta.id.toNat)
    (fun slot => (s.runtime.resident slot).map fun cta => cta.id.toNat)
    (past ++ logOf s.result.ctaEvents)
  orderly : Orderly launch.totalCTAs.toNat (past ++ logOf s.result.ctaEvents)
  counts : s.result.Counts

/-- Every CTA of the core has its generation record, and no other slot has one. -/
def Recorded (r : KernelRuntime σ) : Prop :=
  ∀ slot, r.resident slot = none ↔ (r.core.managers 0).ctas slot = none

/-- The state between the phases of a turn: whole clusters are generated, and what is pending is
one of them. -/
structure Settled (hv : launch.Valid) (past : Log) (s : Running σ) : Prop where
  sound : ∃ k, Sound hv past k s.runtime.pending s ∧ launch.clusterSize.toNat ∣ k
  recorded : Recorded s.runtime
  pending : s.runtime.pending = [] ∨ launch.Cluster (s.runtime.pending.map CTA.coreConfig)

/-- Nothing is left: the grid is walked, no CTA waits or is resident, and no warp is in use. -/
structure Done (r : KernelRuntime σ) : Prop where
  walked : r.walker.remaining = 0#32
  pending : r.pending = []
  resident : ∀ slot, r.resident slot = none
  quiet : ∀ id, r.core.RetainsNothing id

/-- The invariant of the loop. -/
def Looping (hv : launch.Valid) (past : Log) (s : Running σ) : Prop :=
  Settled hv past s ∧ s.execution.complete = false

/-- How the loop stops: the books are in order, it is complete only where everything is done,
and no admission has been refused for another reason than a lack of resources. -/
structure Stopped (hv : launch.Valid) (past : Log) (stop : KernelStop) (s : Running σ) : Prop where
  settled : Settled hv past s
  complete : s.execution.complete = true ↔ stop.outcome = .complete
  done : stop.outcome = .complete → Done s.runtime
  admission : ∀ err, stop.err ≠ some (.admission err) ∧ stop.err ≠ some (.refusedByEmptyCore err)

variable {hv : launch.Valid} {past : Log} {s : Running σ}

/-- A stop that is neither the end nor about an admission. -/
theorem Looping.stopped (h : Looping hv past s) (houtcome : stop.outcome ≠ .complete)
    (herr : ∀ err, stop.err ≠ some (.admission err) ∧ stop.err ≠ some (.refusedByEmptyCore err)) :
    Stopped hv past stop s := by
  refine ⟨h.1, ?_, fun hdone => absurd hdone houtcome, herr⟩
  rw [h.2]
  exact ⟨fun hc => absurd hc Bool.false_ne_true, fun hc => absurd hc houtcome⟩

theorem Looping.fault (h : Looping hv past s) (err : Error) : Stopped hv past (.fault err) s := by
  refine h.stopped (by simp [KernelStop.fault]) fun err => ?_
  simp [KernelStop.fault]

/-- The loop stops before the admission: with a fault, or complete. -/
def Halted (hv : launch.Valid) (past : Log) (stop : KernelStop) (s : Running σ) : Prop :=
  Stopped hv past stop s ∧ (stop.outcome = .fault ∨ stop.outcome = .complete)

theorem Looping.halted (h : Looping hv past s) (err : Error) : Halted hv past (.fault err) s :=
  ⟨h.fault err, .inl rfl⟩

/-! ## Rules for the parts of a turn -/

theorem onCore_leads {Q : Except Error α → Running σ → Prop} (h : ∀ s, P s → Q (x s.runtime.core).1
      (s.setRuntime { s.runtime with core := (x s.runtime.core).2 })) : Leads P (onCore x) Q E := by
  intro s hs
  refine ⟨?_, ?_⟩
  · rintro r ⟨⟩
    exact h s hs
  · intro e he
    cases he

theorem check_leads {Q : α → Running σ → Prop} (hok : ∀ s a, P s → f s.runtime = .ok a → Q a s)
    (herr : ∀ s err, P s → E (.fault err) s) : Leads P (check f) Q E := by
  refine .examine (fun s a hs ha => ?_) fun s e hs he => ?_
  · rw [mapError_eq_ok] at ha
    exact hok s a hs ha
  · cases hf : f s.runtime with
    | ok a =>
      rw [hf] at he
      cases he
    | error err =>
      rw [hf] at he
      cases he
      exact herr s err hs

/-- An event that keeps the books. -/
theorem Sound.entry {k : Nat} {s' : Running σ} (h : Sound hv past k waiting s)
    (hlaunch : s'.execution.launch = s.execution.launch) (hwalker : s'.runtime.walker.At hv k')
    (hcore : s'.runtime.core.Driven 0)
    (hevents : s'.result.ctaEvents = s.result.ctaEvents ++ [event])
    (hcount : ∀ stage, s'.result.count stage =
      s.result.count stage + if event.kind.stage = stage then 1 else 0)
    (hbooks : Books k' (waiting'.map fun cta => cta.id.toNat)
      (fun slot => (s'.runtime.resident slot).map fun cta => cta.id.toNat)
      (past ++ logOf s.result.ctaEvents ++ [event.entry])) : Sound hv past k' waiting' s' := by
  have hlog : past ++ logOf s'.result.ctaEvents =
      past ++ logOf s.result.ctaEvents ++ [event.entry] := by
    rw [hevents, logOf_snoc, List.append_assoc]
  refine ⟨hlaunch.trans h.launched, hwalker, hcore, ?_, ?_, h.counts.snoc hevents hcount⟩
  · rw [hlog]
    exact hbooks
  · rw [hlog]
    exact h.orderly.snoc (hbooks.sound hwalker.bounded)

/-- The numbers in the slots after a slot has changed. -/
theorem numbers_update (resident : CTASlot → Option CTA) (slot : CTASlot) (cta : Option CTA) :
    (fun other => (Function.update resident slot cta other).map fun cta => cta.id.toNat) =
      Function.update (fun other => (resident other).map fun cta => cta.id.toNat) slot
        (cta.map fun cta => cta.id.toNat) := by
  funext other
  exact Function.apply_update (fun _ => Option.map fun cta : CTA => cta.id.toNat) resident _ _ _

/-! ## Reclaim -/

theorem Sound.completes {reclaimed : CTAState} (h : Sound hv past k waiting s)
    (hcta : s.runtime.resident slot = some cta) :
    Sound hv past k waiting (s.completes slot cta reclaimed) := by
  refine h.entry rfl h.walker h.core rfl ?_ ?_
  · intro stage
    cases stage <;> rfl
  · change Books k _ (fun other => (Function.update s.runtime.resident slot none other).map _) _
    rw [numbers_update]
    exact h.books.leave (by rw [hcta]; rfl)

theorem Sound.setCore (h : Sound hv past k waiting s) {core : World σ} (hcore : core.Driven 0) :
    Sound hv past k waiting (s.setRuntime { s.runtime with core }) :=
  ⟨h.launched, h.walker, hcore, h.books, h.orderly, h.counts⟩

/-- Another core with the same residents. -/
theorem Looping.setCore (h : Looping hv past s) (hcore : core.Driven 0)
    (hctas : ∀ slot, (core.managers 0).ctas slot = none ↔
      (s.runtime.core.managers 0).ctas slot = none) :
    Looping hv past (s.setRuntime { s.runtime with core }) := by
  obtain ⟨⟨⟨k, hsound, hdvd⟩, hrecorded, hpending⟩, hcomplete⟩ := h
  refine ⟨⟨⟨k, hsound.setCore hcore, hdvd⟩, fun slot => ?_, hpending⟩, hcomplete⟩
  exact (hrecorded slot).trans (hctas slot).symm

/-- One CTA has left the core and the records. -/
theorem Looping.completes (h : Looping hv past s) (hcta : s.runtime.resident slot = some cta)
    (hr : s.runtime.core.Reclaims 0 slot reclaimed) :
    Looping hv past ((s.setRuntime { s.runtime with
      core := s.runtime.core.reclaimed 0 slot reclaimed }).completes slot cta reclaimed) := by
  obtain ⟨⟨⟨k, hsound, hdvd⟩, hrecorded, hpending⟩, hcomplete⟩ := h
  obtain ⟨-, hdriven, htables⟩ := hsound.core.reclaimed hr
  refine ⟨⟨⟨k, (hsound.setCore hdriven).completes hcta, hdvd⟩, ?_, hpending⟩, hcomplete⟩
  intro other
  change Function.update s.runtime.resident slot none other = none ↔
    ((s.runtime.core.reclaimed 0 slot reclaimed).managers 0).ctas other = none
  rw [htables, CTAManager.remove_none, Function.update_apply]
  split
  · rename_i heq
    exact ⟨fun _ => .inl heq, fun _ => rfl⟩
  · rename_i hne
    rw [hrecorded other]
    exact ⟨.inr, fun hor => hor.resolve_left hne⟩

theorem reclaim_leads (completion : World.CTACompletionSnapshot) :
    Leads (Looping (σ := σ) hv past) (reclaim completion) (fun _ => Looping hv past)
      (Halted hv past) := by
  refine .ite (fun _ => .pure fun _ hs => hs) fun _ => ?_
  refine .bind (Q := fun cta s => Looping hv past s ∧
    s.runtime.resident (Fin.ofNat frozenWarpCount completion.ctaID) = some cta)
    (check_leads ?_ fun s err hs => hs.halted err) fun cta => ?_
  · intro s cta hs hfound
    split at hfound
    · rename_i hresident
      cases hfound
      exact ⟨hs, hresident⟩
    · cases hfound
  refine .bind (Q := fun r s => Ends r (fun reclaimed => Looping hv past
        (s.completes (Fin.ofNat frozenWarpCount completion.ctaID) cta reclaimed))
      fun _ => Looping hv past s)
    (onCore_leads ?_) fun r => ?_
  · rintro s ⟨hs, hcta⟩
    obtain ⟨⟨k, hsound, -⟩, -, -⟩ := hs.1
    rcases World.reclaimCTA_run hsound.core.alone completion.ctaID with
      ⟨err, hrun⟩ | ⟨other, slot, reclaimed, hslot, hr, hrun⟩
    · rw [hrun]
      exact hs
    · obtain ⟨rfl, -, -⟩ := hsound.core.reclaimed hr
      have hid : Fin.ofNat frozenWarpCount completion.ctaID = slot := by
        rw [← hslot]
        exact Fin.ofNat_val_eq_self slot
      rw [hrun]
      rw [hid] at hcta ⊢
      exact hs.completes hcta hr
  · cases r with
    | error err => exact .fail fun s hs => hs.halted _
    | ok reclaimed => exact .update fun _ hs => hs

theorem reclaimCompleted_leads :
    Leads (Looping (σ := σ) hv past) reclaimCompleted (fun _ => Looping hv past)
      (Halted hv past) := by
  refine .bind (Q := fun _ => Looping hv past)
    (check_leads (fun _ _ hs _ => hs) fun s err hs => hs.halted err) fun completions => ?_
  exact .forEach (I := fun _ => Looping hv past)
    (fun completion _ => reclaim_leads completion) completions

/-! ## The end -/

theorem residents_nil {r : KernelRuntime σ} (h : r.residents.length = 0) (slot : CTASlot) :
    r.resident slot = none := by
  by_contra hne
  have hmem : slot ∈ r.residents :=
    List.mem_filter.mpr ⟨List.mem_finRange slot, Option.isSome_iff_ne_none.mpr hne⟩
  rw [List.eq_nil_of_length_eq_zero h] at hmem
  cases hmem

theorem complete_done {r : KernelRuntime σ} (h : r.complete = .ok true) : Done r := by
  unfold KernelRuntime.complete at h
  split at h
  · cases h
  · rename_i hrest
    rw [not_or, not_or, not_not, not_not, not_not] at hrest
    obtain ⟨hwalked, hpending, hresident⟩ := hrest
    simp only [ok_iff, each_rejectIf_eq_ok, not_not] at h
    obtain ⟨_, -, -, -, hclear, -⟩ := h
    exact ⟨hwalked, List.eq_nil_of_length_eq_zero hpending, residents_nil hresident,
      fun id => hclear id (List.mem_finRange id)⟩

theorem finishComplete_leads :
    Leads (Looping (σ := σ) hv past) finishComplete (fun _ => Looping hv past)
      (Halted hv past) := by
  refine .bind (Q := fun complete s => Looping hv past s ∧ s.runtime.complete = .ok complete)
    (check_leads (fun _ _ hs ha => ⟨hs, ha⟩) fun s err hs => hs.halted err) fun complete => ?_
  refine .ite (fun hc => ?_) fun _ => .pure fun _ hs => hs.1
  refine .bind (Q := fun _ s => Settled hv past s ∧ s.execution.complete = true ∧
    Done s.runtime) (.update ?_) fun _ => .fail ?_
  · rintro s ⟨hs, hcomplete⟩
    rw [hc] at hcomplete
    obtain ⟨⟨k, hsound, hdvd⟩, hrecorded, hpending⟩ := hs.1
    have hsame : Sound hv past k s.runtime.pending
        { s with execution := { s.execution with complete := true } } :=
      ⟨hsound.launched, hsound.walker, hsound.core, hsound.books, hsound.orderly, hsound.counts⟩
    exact ⟨⟨⟨k, hsame, hdvd⟩, hrecorded, hpending⟩, rfl, complete_done hcomplete⟩
  · rintro s ⟨hs, hcomplete, hdone⟩
    refine ⟨⟨hs, ⟨fun _ => rfl, fun _ => hcomplete⟩, fun _ => hdone, fun err => ?_⟩, .inr rfl⟩
    exact ⟨(Option.some_ne_none _).symm, (Option.some_ne_none _).symm⟩

/-! ## Generation

Neither the generation nor the admission of a cluster fails. -/

theorem Sound.generates {walker : GridWalker} (h : Sound hv past k s.runtime.pending s)
    (hcta : cta.id.toNat = k) (hwalker : walker.At hv (k + 1)) :
    Sound hv past (k + 1) (s.runtime.pending ++ [cta]) (s.generates cta walker) := by
  refine h.entry rfl hwalker h.core rfl ?_ ?_
  · intro stage
    cases stage <;> rfl
  · rw [List.map_append, List.map_singleton]
    have hentry : CTAEvent.entry { kind := .generated, cta } = (.created, k) :=
      congrArg (Prod.mk Stage.created) hcta
    rw [hentry, hcta]
    exact h.books.create

/-- A cluster under way: what is pending and what the walker emits next are its CTAs. -/
structure Generating (hv : launch.Valid) (past : Log) (goal : Nat) (cluster : List CTA)
    (left : List Nat) (s : Running σ) : Prop where
  sound : ∃ k, k + left.length = goal ∧ Sound hv past k s.runtime.pending s
  recorded : Recorded s.runtime
  running : s.execution.complete = false
  cluster : s.runtime.pending ++ s.runtime.walker.emit left.length = cluster

theorem generateNext_leads (hgoal : goal ≤ launch.totalCTAs.toNat) (i : Nat) (left : List Nat) :
    Leads (Generating (σ := σ) hv past goal cluster (i :: left)) (generateNext i)
      (fun _ => Generating hv past goal cluster left) E := by
  -- the walker has a record, so the check does not fail
  refine .bind (Q := fun found s => Generating hv past goal cluster (i :: left) s ∧
    s.runtime.walker.next = some found) ?_ fun found => .update ?_
  · refine .examine ?_ ?_
    · intro s found hs hfound
      dsimp only at hfound
      split at hfound
      · rename_i hnext
        cases hfound
        exact ⟨hs, hnext⟩
      · cases hfound
    · intro s e hs hfound
      obtain ⟨k, hk, hsound⟩ := hs.sound
      rw [List.length_cons] at hk
      obtain ⟨w', hnext, -⟩ := hsound.walker.next (by omega)
      dsimp only at hfound
      rw [hnext] at hfound
      cases hfound
  · rintro s ⟨hs, hnext⟩
    obtain ⟨k, hk, hsound⟩ := hs.sound
    rw [List.length_cons] at hk
    obtain ⟨w', hw', hat, hid⟩ := hsound.walker.next (by omega)
    rw [hw'] at hnext
    cases hnext
    refine ⟨⟨k + 1, by omega, hsound.generates hid hat⟩, hs.recorded, hs.running, ?_⟩
    have hcluster := hs.cluster
    rw [List.length_cons, GridWalker.emit, hw'] at hcluster
    rw [← hcluster]
    exact List.append_assoc _ _ _

theorem generate_leads :
    Leads (Looping (σ := σ) hv past) generate (fun _ => Looping hv past) E := by
  refine .bind (Q := fun e s => Looping hv past s ∧ s.execution = e)
    (.gets fun _ hs => ⟨hs, rfl⟩) fun e => ?_
  refine .ite (fun hc => ?_) fun _ => .pure fun _ hs => hs.1
  intro s hs
  obtain ⟨⟨⟨⟨k, hsound, hdvd⟩, hrecorded, -⟩, hrunning⟩, rfl⟩ := hs
  have hempty : s.runtime.pending = [] := List.eq_nil_of_length_eq_zero hc.1
  have hroom := hsound.walker.room hdvd hc.2
  have hpos := LaunchState.toNat_pos hc.2
  rw [hsound.walker.remaining] at hpos
  have hstands := hsound.walker.stands (hv.full (by omega))
  have hcluster := hstands.cluster hdvd hroom
  rw [hsound.launched]
  have hloop := Leads.forEach (E := E)
    (I := Generating (σ := σ) hv past (k + launch.clusterSize.toNat)
      (s.runtime.walker.emit launch.clusterSize.toNat))
    (fun i left => generateNext_leads hroom i left) (List.range launch.clusterSize.toNat)
  refine hloop.consequence (fun s' (hs' : s' = s) => ?_) ?_ (fun _ _ hs => hs) s rfl
  · rw [hs']
    refine ⟨⟨k, by rw [List.length_range], hsound⟩, hrecorded, hrunning, ?_⟩
    rw [hempty, List.nil_append, List.length_range]
  · intro _ s' hs'
    obtain ⟨k', hk', hsound'⟩ := hs'.sound
    have hpending := hs'.cluster
    rw [List.length_nil, GridWalker.emit, List.append_nil] at hpending
    rw [List.length_nil, Nat.add_zero] at hk'
    refine ⟨⟨⟨k', hsound', ?_⟩, hs'.recorded, .inr ?_⟩, hs'.running⟩
    · rw [hk']
      exact Nat.dvd_add hdvd (Nat.dvd_refl _)
    · rw [hpending]
      exact hcluster

/-! ## Admission -/

/-- A cluster on its way into the records: the core has all of it, the records lack the rest. -/
structure Admitting (hv : launch.Valid) (past : Log) (k : Nat) (rest : List (CTA × CTAState))
    (s : Running σ) : Prop where
  sound : Sound hv past k (rest.map Prod.fst) s
  running : s.execution.complete = false
  distinct : (rest.map fun entry => entry.2.slot).Nodup
  free : ∀ entry ∈ rest, s.runtime.resident entry.2.slot = none
  recorded : ∀ slot, (s.runtime.core.managers 0).ctas slot = none ↔
    slot ∉ rest.map (fun entry => entry.2.slot) ∧ s.runtime.resident slot = none

theorem Sound.admits (h : Sound hv past k (cta :: waiting) s)
    (hfree : s.runtime.resident snapshot.slot = none) :
    Sound hv past k waiting (s.admits cta snapshot) := by
  refine h.entry rfl h.walker h.core rfl ?_ ?_
  · intro stage
    cases stage <;> rfl
  · change Books k _ (fun other =>
      (Function.update s.runtime.resident snapshot.slot (some cta) other).map _) _
    rw [numbers_update]
    exact h.books.enter (by rw [hfree]; rfl)

theorem Admitting.admits (h : Admitting hv past k (entry :: rest) s) :
    Admitting hv past k rest (s.admits entry.1 entry.2) := by
  have hfree := h.free entry List.mem_cons_self
  obtain ⟨hnew, hdistinct⟩ := List.nodup_cons.mp h.distinct
  have hresident : ∀ slot, (s.admits entry.1 entry.2).runtime.resident slot = none ↔
      slot ≠ entry.2.slot ∧ s.runtime.resident slot = none := by
    intro slot
    change Function.update s.runtime.resident entry.2.slot (some entry.1) slot = none ↔ _
    rw [Function.update_apply]
    split
    · rename_i heq
      exact ⟨fun hn => absurd hn (Option.some_ne_none _), fun hn => absurd heq hn.1⟩
    · rename_i hne
      exact ⟨fun hn => ⟨hne, hn⟩, fun hn => hn.2⟩
  refine ⟨h.sound.admits hfree, h.running, hdistinct, ?_, ?_⟩
  · intro other hother
    refine (hresident _).mpr ⟨fun heq => hnew ?_, h.free other (List.mem_cons_of_mem _ hother)⟩
    exact List.mem_map.mpr ⟨other, hother, heq⟩
  · intro slot
    rw [hresident]
    refine (h.recorded slot).trans ?_
    rw [List.map_cons, List.mem_cons, not_or, and_assoc, and_left_comm]

/-- The whole cluster is in the records. -/
theorem Admitting.installed (h : Admitting hv past k [] s) (hdvd : launch.clusterSize.toNat ∣ k) :
    Looping hv past (s.setRuntime { s.runtime with pending := [] }) := by
  have hsound : Sound hv past k [] (s.setRuntime { s.runtime with pending := [] }) :=
    ⟨h.sound.launched, h.sound.walker, h.sound.core, h.sound.books, h.sound.orderly, h.sound.counts⟩
  refine ⟨⟨⟨k, hsound, hdvd⟩, fun slot => ?_, .inl rfl⟩, h.running⟩
  refine Iff.symm ((h.recorded slot).trans ?_)
  exact ⟨fun hn => hn.2, fun hn => ⟨List.not_mem_nil, hn⟩⟩

theorem recordAdmitted_leads (hdvd : launch.clusterSize.toNat ∣ k) (pending : List CTA)
    (admitted : List CTAState) : Leads (Admitting (σ := σ) hv past k (pending.zip admitted))
      (recordAdmitted pending admitted) (fun _ => Looping hv past) E := by
  refine .bind (Q := fun _ => Admitting hv past k []) ?_ fun _ =>
    Leads.update fun s hs => hs.installed hdvd
  exact .forEach (I := Admitting hv past k) (fun _ _ => .update fun _ hs => hs.admits) _

/-- The answer of the core to the pending cluster: it takes all of it, or nothing for a lack of
resources, and then some CTA is resident. -/
theorem Looping.answer (h : Looping hv past s) (hpending : s.runtime.pending.length ≠ 0) :
    (∃ admitted k, World.admitCTACluster (s.runtime.pending.map CTA.coreConfig) s.runtime.core =
        (.ok admitted, (World.admitCTACluster (s.runtime.pending.map CTA.coreConfig)
          s.runtime.core).2) ∧ launch.clusterSize.toNat ∣ k ∧
        Admitting hv past k (s.runtime.pending.zip admitted) (s.setRuntime { s.runtime with
          core := (World.admitCTACluster (s.runtime.pending.map CTA.coreConfig)
            s.runtime.core).2 })) ∨
      ∃ detail, World.admitCTACluster (s.runtime.pending.map CTA.coreConfig) s.runtime.core =
        (.error (.resourcesUnavailable detail), s.runtime.core) ∧
        s.runtime.residents.length ≠ 0 := by
  obtain ⟨⟨⟨k, hsound, hdvd⟩, hrecorded, hor⟩, hrunning⟩ := h
  have hcluster : launch.Cluster (s.runtime.pending.map CTA.coreConfig) :=
    hor.resolve_left fun hnil => hpending (hnil ▸ rfl)
  have hends := hcluster.prepare hv hsound.core.inv hsound.core.attached hsound.core.isDynamic
  cases hprepare : World.prepareAdmission (s.runtime.pending.map CTA.coreConfig) s.runtime.core with
  | ok admitted =>
    refine .inl ⟨admitted.candidates, k, ?_⟩
    have hlength := World.prepareAdmission_length hprepare
    rw [List.length_map] at hlength
    obtain ⟨hdriven, hdistinct, hfree, hctas⟩ :=
      hsound.core.admitted (World.prepareAdmission_admits hprepare)
    have hslots : (s.runtime.pending.zip admitted.candidates).map (fun entry => entry.2.slot) =
        admitted.candidates.map CTAState.slot := by
      have hmap := List.map_map (l := s.runtime.pending.zip admitted.candidates)
        (f := Prod.snd) (g := CTAState.slot)
      rw [List.map_snd_zip (Nat.le_of_eq hlength)] at hmap
      exact hmap.symm
    rw [World.admitCTACluster_done hprepare]
    refine ⟨rfl, hdvd, ?_, hrunning, ?_, ?_, ?_⟩
    · rw [List.map_fst_zip (Nat.le_of_eq hlength.symm)]
      exact hsound.setCore hdriven
    · rw [hslots]
      exact hdistinct
    · intro entry hentry
      exact (hrecorded _).mpr (hfree entry.2 (List.of_mem_zip hentry).2)
    · intro slot
      rw [hslots]
      exact (hctas slot).trans (and_congr_right fun _ => (hrecorded slot).symm)
  | error err =>
    rw [hprepare] at hends
    obtain ⟨⟨slot, hslot⟩, detail, rfl⟩ := hends
    refine .inr ⟨detail, World.admitCTACluster_refused hprepare, fun hzero => ?_⟩
    exact hslot ((hrecorded slot).mp (residents_nil hzero slot))

theorem admitPending_leads :
    Leads (Looping (σ := σ) hv past) admitPending (fun _ => Looping hv past) E := by
  refine .bind (Q := fun pending s => Looping hv past s ∧ s.runtime.pending = pending)
    (.gets fun _ hs => ⟨hs, rfl⟩) fun pending => ?_
  refine .ite (fun _ => .pure fun _ hs => hs.1) fun hne => ?_
  refine .bind (Q := fun r s => Ends r (fun admitted => ∃ k, launch.clusterSize.toNat ∣ k ∧
        Admitting hv past k (pending.zip admitted) s)
      fun err => (∃ detail, err = .resourcesUnavailable detail) ∧
        s.runtime.residents.length ≠ 0 ∧ Looping hv past s)
    (onCore_leads ?_) fun r => ?_
  · rintro s ⟨hs, rfl⟩
    rcases hs.answer hne with ⟨admitted, k, hrun, hdvd, hadmitting⟩ | ⟨detail, hrun, hbusy⟩
    · rw [hrun]
      exact ⟨k, hdvd, hadmitting⟩
    · rw [hrun]
      exact ⟨⟨detail, rfl⟩, hbusy, hs⟩
  · cases r with
    | ok admitted =>
      rintro s ⟨k, hdvd, hadmitting⟩
      exact Leads.bind (T := fun (_ : Bool) => Looping hv past)
        (recordAdmitted_leads hdvd pending admitted)
        (fun _ => .pure fun _ hs => hs) s hadmitting
    | error err =>
      refine .ite (fun hother => ?_) fun _ => ?_
      · rintro s ⟨⟨detail, rfl⟩, -, -⟩
        cases hother
      · refine .bind (Q := fun r s => r.residents.length ≠ 0 ∧ Looping hv past s)
          (.gets fun _ hs => hs.2) fun r => ?_
        refine .ite (fun hzero => ?_) fun _ => .pure fun _ hs => hs.2
        exact .fail fun s hs => absurd hzero hs.1

/-! ## Attempts -/

theorem Looping.attempts (h : Looping hv past s) (step : CoreStep) :
    Looping hv past (s.attempts step) := by
  obtain ⟨⟨⟨k, hsound, hdvd⟩, hrecorded, hpending⟩, hrunning⟩ := h
  have hsame : Sound hv past k s.runtime.pending (s.attempts step) :=
    ⟨hsound.launched, hsound.walker, hsound.core, hsound.books, hsound.orderly, hsound.counts⟩
  exact ⟨⟨⟨k, hsame, hdvd⟩, hrecorded, hpending⟩, hrunning⟩

theorem Looping.retired (h : Looping hv past s) : Looping hv past
    { s with result := { s.result with retired := s.result.retired + 1 } } := by
  obtain ⟨⟨⟨k, hsound, hdvd⟩, hrecorded, hpending⟩, hrunning⟩ := h
  have hsame : Sound hv past k s.runtime.pending
      { s with result := { s.result with retired := s.result.retired + 1 } } :=
    ⟨hsound.launched, hsound.walker, hsound.core, hsound.books, hsound.orderly, hsound.counts⟩
  exact ⟨⟨⟨k, hsame, hdvd⟩, hrecorded, hpending⟩, hrunning⟩

theorem afterStep_leads (step : CoreStep) :
    Leads (Looping (σ := σ) hv past) (afterStep step) (fun _ => Looping hv past)
      (Stopped hv past) := by
  have hstep : ∀ {s : Running σ}, Looping hv past s → ∀ outcome, outcome ≠ .complete →
      Stopped hv past { outcome, err := step.warpResult.fault.map .step } s := by
    intro s hs outcome houtcome
    refine hs.stopped houtcome fun err => ?_
    cases step.warpResult.fault with
    | none => exact ⟨(Option.some_ne_none _).symm, (Option.some_ne_none _).symm⟩
    | some fault => simp
  unfold afterStep
  cases step.error with
  | some err => exact .fail fun _ hs => hs.fault err
  | none =>
    cases step.warpResult.outcome with
    | retired => exact .update fun _ hs => hs.retired
    | deferred => exact .fail fun _ hs => hs.stopped (by simp) fun err => by simp
    | trap => exact .fail fun _ hs => hstep hs .trap (by decide)
    | fault => exact .fail fun _ hs => hstep hs .fault (by decide)
    | finished => exact .fail fun _ hs => hs.fault _

theorem takeStep_leads (sf : SoftFloat) (context : ReadContext) :
    Leads (Looping (σ := σ) hv past) (takeStep sf context) (fun _ => Looping hv past)
      (Stopped hv past) := by
  refine .bind (Q := fun _ => Looping hv past) (onCore_leads ?_) fun r => ?_
  · intro s hs
    obtain ⟨k, hsound, -⟩ := hs.1.sound
    obtain ⟨hdriven, who, hsteady⟩ := hsound.core.step sf context
    exact hs.setCore hdriven (hsteady.managers 0).residents.none_iff
  · rcases r with err | _ | step
    · exact .fail fun _ hs => hs.fault err
    · refine .bind (Q := fun _ => Looping hv past) (.gets fun _ hs => hs) fun r => ?_
      exact .fail fun _ hs => hs.stopped (by simp) fun err => by simp
    · exact .bind (Q := fun _ => Looping hv past)
        (.update fun _ hs => hs.attempts step) fun _ => afterStep_leads step

theorem attemptStep_leads (sf : SoftFloat) (options : KernelRunOptions) :
    Leads (Looping (σ := σ) hv past) (attemptStep sf options) (fun _ => Looping hv past)
      (Stopped hv past) := by
  refine .bind (Q := fun _ => Looping hv past) (.gets fun _ hs => hs)
    fun attempt => .ite (fun _ => ?_) fun _ => takeStep_leads sf _
  exact .fail fun _ hs => hs.stopped (by simp) fun err => by simp

/-! ## The loop -/

theorem settle_leads :
    Leads (Looping (σ := σ) hv past) settle (fun _ => Looping hv past) (Halted hv past) :=
  Leads.bind reclaimCompleted_leads fun _ =>
    Leads.bind finishComplete_leads fun _ => generate_leads

theorem iterate_leads (sf : SoftFloat) (options : KernelRunOptions) :
    Leads (Looping (σ := σ) hv past) (iterate sf options) (fun _ => Looping hv past)
      (Stopped hv past) := by
  refine .bind (settle_leads.weaken fun _ _ hs => hs.1) fun _ =>
    Leads.bind admitPending_leads fun admitted => ?_
  exact .ite (fun _ => .pure fun _ hs => hs) fun _ => attemptStep_leads sf options

theorem runLoop_leads (sf : SoftFloat) (options : KernelRunOptions) (fuel : Nat) :
    Leads (Looping (σ := σ) hv past) (runLoop sf options fuel) (fun _ => Looping hv past)
      (Stopped hv past) := by
  induction fuel with
  | zero => exact .pure fun _ hs => hs
  | succ fuel ih => exact .bind (iterate_leads sf options) fun _ => ih

end Kernel

end VortexSim
