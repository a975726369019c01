import VortexSim.Device.Session

/-!
# Every call returns

A turn of the kernel loop admits CTAs that were pending or still to be generated, or it spends
an attempt.  Both are limited, so every call stops, within its budget of attempts.
-/

namespace VortexSim

open Checked Stateful Act

variable {σ : Type}

theorem GridWalker.advance_emitted (w : GridWalker) :
    w.advance.emitted = w.emitted ∧ w.advance.launch = w.launch := by
  unfold GridWalker.advance
  dsimp only
  split
  · exact ⟨rfl, rfl⟩
  · exact ⟨rfl, rfl⟩

theorem GridWalker.next_remaining {w : GridWalker} (h : w.next = some (cta, w')) :
    w'.remaining.toNat + 1 = w.remaining.toNat := by
  unfold GridWalker.next at h
  split at h
  · cases h
  · rename_i hlt
    cases h
    obtain ⟨hemitted, hlaunch⟩ :=
      GridWalker.advance_emitted { w with emitted := w.emitted + 1#32 }
    have hlt' : w.emitted.toNat < w.launch.totalCTAs.toNat := by
      exact Nat.not_le.mp hlt
    have htotal := w.launch.totalCTAs.isLt
    have hnext : (w.emitted + 1#32).toNat = w.emitted.toNat + 1 := by
      exact Nat.mod_eq_of_lt (Nat.lt_of_le_of_lt hlt' htotal)
    have hmany : ∀ v : GridWalker, v.launch = w.launch →
        v.emitted.toNat ≤ w.launch.totalCTAs.toNat →
        v.remaining.toNat = w.launch.totalCTAs.toNat - v.emitted.toNat := by
      intro v hv hle
      unfold GridWalker.remaining
      rw [hv]
      split
      · rename_i hge
        rw [Nat.sub_eq_zero_of_le hge]
        rfl
      · exact BitVec.toNat_sub_of_le (BitVec.le_def.mpr hle)
    have hafter : ({ w with emitted := w.emitted + 1#32 } : GridWalker).advance.emitted.toNat =
        w.emitted.toNat + 1 := by
      rw [hemitted]
      exact hnext
    rw [hmany w rfl (Nat.le_of_lt hlt'), hmany _ hlaunch (hafter.symm ▸ hlt'), hafter]
    omega

namespace Kernel

/-- The CTAs that are not admitted yet, and the attempts made. -/
def Tally (n a : Nat) (s : Running σ) : Prop :=
  s.runtime.walker.remaining.toNat + s.runtime.pending.length = n ∧ s.result.attempts = a

variable {n a : Nat}

theorem onCore_keeps {I : Running σ → Prop}
    (h : ∀ s core, I s → I (s.setRuntime { s.runtime with core })) : Keeps I (onCore x) :=
  fun s hs => ⟨fun _ _ => h s _ hs, fun _ _ => h s _ hs⟩

theorem onCore_tally (x : Act (World σ) Error α) : Keeps (Tally n a) (onCore x) :=
  onCore_keeps fun _ _ hs => hs

theorem reclaimCompleted_tally : Keeps (Tally (σ := σ) n a) reclaimCompleted := by
  refine .bind Keeps.examine fun completions => .forEach (fun c => ?_) _
  refine .ite (fun _ => .pure _) fun _ => .bind Keeps.examine fun cta => ?_
  refine .bind (onCore_tally _) fun r => ?_
  cases r with
  | error err => exact .fail fun _ hs => hs
  | ok reclaimed => exact .update fun _ hs => hs

theorem finishComplete_tally : Keeps (Tally (σ := σ) n a) finishComplete := by
  refine .bind Keeps.examine fun complete =>
    Keeps.ite (fun _ => ?_) fun _ => .pure _
  exact .bind (.update fun _ hs => hs) fun _ => .fail fun _ hs => hs

theorem generateNext_tally (i : Nat) : Keeps (Tally (σ := σ) n a) (generateNext i) := by
  refine Triple.bind (Q := fun found s => Tally n a s ∧ s.runtime.walker.next = some found)
    (.examine ?_ fun _ hs => hs) fun found => .update ?_
  · intro s found hs hfound
    dsimp only at hfound
    split at hfound
    · rename_i hnext
      cases hfound
      exact ⟨hs, hnext⟩
    · cases hfound
  · rintro s ⟨⟨hn, ha⟩, hnext⟩
    refine ⟨?_, ha⟩
    change found.2.remaining.toNat + (s.runtime.pending ++ [found.1]).length = n
    have hless := GridWalker.next_remaining hnext
    rw [List.length_append, List.length_singleton]
    omega

theorem generate_tally : Keeps (Tally (σ := σ) n a) generate := by
  refine .bind Keeps.gets fun e => .ite (fun _ => ?_) fun _ => .pure _
  exact .forEach generateNext_tally _

theorem settle_tally : Keeps (Tally (σ := σ) n a) settle :=
  Keeps.bind reclaimCompleted_tally fun _ =>
    Keeps.bind finishComplete_tally fun _ => generate_tally

theorem recordAdmitted_tally (hne : pending.length ≠ 0) (admitted : List CTAState) :
    Triple (fun s : Running σ => Tally n a s ∧ s.runtime.pending = pending)
      (recordAdmitted pending admitted) (fun _ s => ∃ m < n, Tally m a s) (Tally n a) := by
  have hrecords : Keeps (fun s : Running σ => Tally n a s ∧ s.runtime.pending = pending)
      (Act.forEach (fun entry => Act.update fun s => s.admits entry.1 entry.2)
        (pending.zip admitted) : KernelAct σ Unit) := by
    refine .forEach (fun entry => ?_) _
    exact .update fun _ hs => hs
  refine .bind (hrecords.weaken fun _ hs => hs.1) fun _ => .update ?_
  rintro s ⟨⟨hn, ha⟩, rfl⟩
  refine ⟨s.runtime.walker.remaining.toNat, ?_, rfl, ha⟩
  omega

/-- An admission takes all that was pending. -/
theorem admitPending_tally : Triple (Tally (σ := σ) n a) admitPending
      (fun admitted s => if admitted = true then ∃ m < n, Tally m a s else Tally n a s)
      (Tally n a) := by
  refine .bind (Q := fun pending s => Tally n a s ∧ s.runtime.pending = pending)
    (.gets fun _ hs => ⟨hs, rfl⟩) fun pending => ?_
  refine .ite (fun _ => .pure fun _ hs => hs.1) fun hne => ?_
  refine .bind (Q := fun _ s => Tally n a s ∧ s.runtime.pending = pending)
    ((onCore_keeps fun _ _ hs => hs).weaken fun _ hs => hs.1) fun r => ?_
  cases r with
  | error err =>
    refine .ite (fun _ => .fail fun _ hs => hs.1) fun _ => ?_
    refine .bind (Q := fun _ => Tally n a) (.gets fun _ hs => hs.1) fun r =>
      Triple.ite (fun _ => .fail fun _ hs => hs) fun _ =>
        Triple.pure fun _ hs => hs
  | ok admitted =>
    refine .bind (recordAdmitted_tally hne admitted) fun _ =>
      Triple.pure fun _ hs => hs

theorem takeStep_tally (sf : SoftFloat) (context : ReadContext) :
    Triple (Tally (σ := σ) n a) (takeStep sf context) (fun _ => Tally n (a + 1))
      (fun s => s.result.attempts ≤ a + 1) := by
  refine .bind ((onCore_tally _).weaken fun s hs => hs.2.symm ▸ Nat.le_succ _) fun r => ?_
  rcases r with err | _ | step
  · exact .fail fun s hs => hs.2.symm ▸ Nat.le_succ _
  · refine .bind (Q := fun _ => Tally n a) (.gets fun _ hs => hs) fun r => ?_
    exact .fail fun s hs => hs.2.symm ▸ Nat.le_succ _
  · refine .bind (Q := fun _ => Tally n (a + 1)) (.update ?_) fun _ => ?_
    · exact fun s hs => ⟨hs.1, congrArg (· + 1) hs.2⟩
    · unfold afterStep
      cases step.error with
      | some err => exact .fail fun _ hs => Nat.le_of_eq hs.2
      | none =>
        cases step.warpResult.outcome with
        | retired => exact .update fun _ hs => hs
        | _ => exact .fail fun _ hs => Nat.le_of_eq hs.2

/-! ## The loop -/

/-- A bound on the turns that are left. -/
def work (budget : Nat) (s : Running σ) : Nat :=
  s.runtime.walker.remaining.toNat + s.runtime.pending.length + (budget - s.result.attempts)

/-- A turn that does not stop leaves less to do, and no turn exceeds the budget. -/
theorem iterate_work (sf : SoftFloat) (options : KernelRunOptions) (w : Nat) :
    Triple (fun s : Running σ => work options.stepBudget s = w ∧
        s.result.attempts ≤ options.stepBudget) (iterate sf options)
      (fun _ s => work options.stepBudget s < w ∧ s.result.attempts ≤ options.stepBudget)
      (fun s => s.result.attempts ≤ options.stepBudget) := by
  refine .of_pre fun s hs => ?_
  obtain ⟨hw, hbudget⟩ := hs
  set n := s.runtime.walker.remaining.toNat + s.runtime.pending.length with hn
  set a := s.result.attempts with ha
  have hwork : w = n + (options.stepBudget - a) := hw.symm
  have hle : ∀ s' : Running σ, Tally n a s' → s'.result.attempts ≤ options.stepBudget :=
    fun s' hs' => hs'.2.symm ▸ hbudget
  refine .pre (P := Tally n a) ?_ fun s' hs' => hs' ▸ ⟨hn.symm, ha.symm⟩
  refine .bind (settle_tally.weaken hle) fun _ => ?_
  refine .bind (admitPending_tally.weaken hle) fun admitted => ?_
  cases admitted with
  | true =>
    refine .pure fun s' hs' => ?_
    obtain ⟨m, hm, htally⟩ := hs'
    refine ⟨?_, htally.2.symm ▸ hbudget⟩
    unfold work
    rw [htally.1, htally.2]
    omega
  | false =>
    refine .bind (Q := fun attempt s' => Tally n a s' ∧ attempt = a)
      (.gets fun s' hs' => ⟨hs', hs'.2⟩) fun attempt => ?_
    refine .ite (fun _ => .fail fun s' hs' => hle s' hs'.1) fun hroom => ?_
    refine .of_pre fun s' hs' => ?_
    obtain ⟨htally, hattempt⟩ := hs'
    refine (takeStep_tally (n := n) (a := a) sf _).consequence (fun _ h => h ▸ htally) ?_ ?_
    · intro _ s'' hs''
      refine ⟨?_, ?_⟩
      · unfold work
        rw [hs''.1, hs''.2]
        omega
      · rw [hs''.2]
        omega
    · omega

theorem runLoop_stops (sf : SoftFloat) (options : KernelRunOptions)
    (hbudget : s.result.attempts ≤ options.stepBudget) (hfuel : work options.stepBudget s < fuel) :
    ∃ stop s', runLoop sf options fuel s = (.error stop, s') ∧
      s'.result.attempts ≤ options.stepBudget := by
  induction fuel generalizing s with
  | zero => exact absurd hfuel (Nat.not_lt_zero _)
  | succ fuel ih =>
    obtain ⟨hok, herr⟩ := iterate_work sf options (work options.stepBudget s) s ⟨rfl, hbudget⟩
    rcases hturn : iterate sf options s with ⟨stop | _, s'⟩
    · rw [hturn] at herr
      exact ⟨stop, s', bind_of_error hturn, herr stop rfl⟩
    · rw [hturn] at hok
      obtain ⟨hless, hbudget'⟩ := hok () rfl
      rw [runLoop, bind_of_ok hturn]
      exact ih hbudget' (Nat.lt_of_lt_of_le hless (Nat.le_of_lt_succ hfuel))

end Kernel

/-- Every call stops, within its budget. -/
theorem KernelExecution.run_stops (sf : SoftFloat) (options : KernelRunOptions)
    (e : KernelExecution σ) :
    ∃ stop s, e.run sf options = (.error stop, s) ∧ s.result.attempts ≤ options.stepBudget := by
  unfold KernelExecution.run
  split
  · exact ⟨_, _, rfl, Nat.zero_le _⟩
  · exact Kernel.runLoop_stops sf options (Nat.zero_le _) (Nat.lt_succ_self _)

end VortexSim
