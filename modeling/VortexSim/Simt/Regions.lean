import VortexSim.Simt.Steps

/-!
# Nested regions restore the warp

A well-nested program never fails at a SPLIT or a JOIN, whatever its depth, and every
region leaves mask and stack as it found them.  The proof is by induction over the program,
from any state that is `Ready`: a divergent SPLIT takes one row and leaves at least one lane
behind, so the body starts in such a state again.
-/

namespace VortexSim

open Checked

/-! ## Sound regions -/

/-- The SPLIT had lanes on both sides. -/
def RegionRun.Divergent (r : RegionRun) : Prop :=
  ∃ d, decode r.split = .ok d ∧ r.before.thenMask d ≠ 0#8 ∧
    r.before.activeMask &&& ~~~r.before.thenMask d ≠ 0#8

/-- Mask and stack are restored, and a divergent region ran two disjoint sides that make up
the mask before it. -/
structure RegionRun.Sound (r : RegionRun) : Prop where
  mask : r.after.activeMask = r.before.activeMask
  stack : r.after.divergence = r.before.divergence
  divergent : r.Divergent → ∃ x y, r.sides = [x, y] ∧ x ≠ 0#8 ∧ y ≠ 0#8 ∧ x &&& y = 0#8 ∧
    x ||| y = r.before.activeMask
  uniform : ¬ r.Divergent → r.sides = [r.before.activeMask]

theorem divergent_iff (hdec : decode word = .ok d) (ctx : ReadContext)
    (bounds : Option AddressBounds) : (RegionRun.mk word w sides w').Divergent ↔
      splitDivergent d (w.customInput d ctx bounds (w.operands d)) = true := by
  unfold RegionRun.Divergent splitDivergent
  simp only [Bool.and_eq_true, decide_eq_true_eq]
  constructor
  · rintro ⟨d', hdec', h⟩
    obtain rfl : d = d' := Except.ok.inj (hdec.symm.trans hdec')
    exact h
  · intro h
    exact ⟨d, hdec, h⟩

/-- What a finished program leaves behind. -/
structure Program.Completed (p : Program) (w w' : WarpState) (log : List RegionRun) : Prop where
  wf : w'.WF
  region : SameRegion w w'
  pc : w'.pc = pcAfter w.pc p.size
  keeps : ∀ q : Register, q.Architectural → p.Avoids q → KeepsRegister q w w'
  log : ∀ r ∈ log, r.Sound

section

variable {σ : Type} {sf : SoftFloat} {env : Environment σ} {code : Code}

/-- Every instruction sees a valid context with no older work pending. -/
def Environment.Ready (env : Environment σ) : Prop :=
  ∀ s, (env.view s).context.Ready

/-- The program finishes, or an ordinary instruction in it fails. -/
def Program.Safe (sf : SoftFloat) (env : Environment σ) (code : Code) (p : Program)
    (w : WarpState) (s : σ) : Prop :=
  (∃ err, p.run sf env code w s = .error (.ordinary err)) ∨
    ∃ w' s' log, p.run sf env code w s = .ok (w', s', log) ∧ p.Completed w w' log

variable {w s' : WarpState} {s : σ} {split : Word} {d : Decoded} {r : Register} {body : Program}
  {log : List RegionRun} {x y : LaneMask}

theorem fetchExecute_ok {failure : Error → Failure} (hcode : code w.pc = word)
    (h : w.executeWord sf (env.view s) word = .ok w') :
    env.fetchExecute sf code w s word failure = .ok (w', env.next s w word) := by
  rw [Environment.fetchExecute, if_pos hcode, h]
  rfl

/-- An ordinary fetch fails as such or executes. -/
theorem fetchExecute_ends (sf : SoftFloat) (env : Environment σ) (s : σ)
    (hcode : code w.pc = word) :
    Ends (env.fetchExecute sf code w s word .ordinary)
      (fun out => w.executeWord sf (env.view s) word = .ok out.1) (∃ err, · = .ordinary err) := by
  rw [Environment.fetchExecute, if_pos hcode]
  cases h : w.executeWord sf (env.view s) word with
  | error err => exact ⟨err, rfl⟩
  | ok w' => exact rfl

theorem Program.safe_iff_ends {p : Program} : p.Safe sf env code w s ↔
    Ends (p.run sf env code w s) (fun out => p.Completed w out.1 out.2.2)
      (∃ err, · = .ordinary err) := by
  unfold Program.Safe
  rcases p.run sf env code w s with failure | ⟨w', s', log⟩ <;> simp [Ends]

/-! ## Sequences and branches -/

namespace Program

theorem safe_instr (henv : env.Ready) (h : Ready w) (hn : (instr word).WellNested)
    (hl : (instr word).LaidOut code w.pc) :
    (instr word).Safe sf env code w s := by
  obtain ⟨d, hdec, hord⟩ := hn
  refine safe_iff_ends.mpr (.bind (fetchExecute_ends sf env s hl) fun ⟨w', s'⟩ hx => ?_)
  obtain ⟨hcalm, hpc⟩ := ordinary_step h hdec hord (henv s) hx
  exact ⟨hcalm.wf, hcalm.region, hpc, fun q hq hav => hcalm.keeps q hq (hav d hdec), by simp⟩

theorem safe_seq (h₁ : ∀ w s, Ready w → first.LaidOut code w.pc → first.Safe sf env code w s)
    (h₂ : ∀ w s, Ready w → second.LaidOut code w.pc → second.Safe sf env code w s) (h : Ready w)
    (hl : (seq first second).LaidOut code w.pc) :
    (seq first second).Safe sf env code w s := by
  refine safe_iff_ends.mpr (.bind (safe_iff_ends.mp (h₁ w s h hl.1)) fun ⟨w₁, s₁, log₁⟩ hc₁ => ?_)
  have hl₂ := hl.2
  rw [← hc₁.pc] at hl₂
  have hsafe := h₂ w₁ s₁ (h.of_same hc₁.region hc₁.wf) hl₂
  refine .bind (safe_iff_ends.mp hsafe) fun ⟨w₂, s₂, log₂⟩ hc₂ => ?_
  refine ⟨hc₂.wf, hc₁.region.trans hc₂.region, ?_, ?_, ?_⟩
  · rw [hc₂.pc, hc₁.pc, pcAfter_add]
    rfl
  · intro q hq hav
    exact (hc₁.keeps q hq hav.1).trans (hc₂.keeps q hq hav.2)
  · exact List.forall_mem_append.mpr ⟨hc₁.log, hc₂.log⟩

end Program

theorem aligned_pcAfter (h : ¬ misaligned pc) (n : Nat) : ¬ misaligned (pcAfter pc n) := by
  induction n with
  | zero => rwa [pcAfter_zero]
  | succ n ih =>
    rw [← pcAfter_add, pcAfter_one]
    exact aligned_add_four ih

namespace Program

theorem safe_branch {jump : Word}
    (h₁ : ∀ w s, Ready w → fall.LaidOut code w.pc → fall.Safe sf env code w s)
    (h₂ : ∀ w s, Ready w → taken.LaidOut code w.pc → taken.Safe sf env code w s)
    (htest : ∃ d, decode test = .ok d ∧ d.control = .branch)
    (hjump : ∃ d, decode jump = .ok d ∧ d.name = .jal) (h : Ready w)
    (hl : (branch test jump fall taken).LaidOut code w.pc) :
    (branch test jump fall taken).Safe sf env code w s := by
  obtain ⟨hcode, hfall, hcodej, htaken, htarget, htargetj⟩ := hl
  obtain ⟨d, hdec, hc⟩ := htest
  obtain ⟨dj, hdecj, hnj⟩ := hjump
  have haligned := aligned_pcAfter h.wf.pc
  refine safe_iff_ends.mpr (.bind (fetchExecute_ends sf env s hcode) fun ⟨w₁, s₁⟩ hx => ?_)
  obtain ⟨hcalm, hpc⟩ := branch_step h.wf hdec hc (by rw [htarget d hdec]; exact haligned _) hx
  have hready := h.of_same hcalm.region hcalm.wf
  dsimp only at hpc ⊢
  split
  · -- the test falls through: run `fall`, then jump over `taken`
    rename_i hnext
    rw [← hnext] at hfall
    refine .bind (safe_iff_ends.mp (h₁ w₁ s₁ hready hfall)) fun ⟨w₂, s₂, log⟩ hd => ?_
    have hpc₂ : w₂.pc = pcAfter w.pc (fall.size + 1) := by
      rw [hd.pc, hnext, pcAfter_add, Nat.add_comm]
    rw [← hpc₂] at hcodej
    refine .bind (fetchExecute_ends sf env s₂ hcodej) fun ⟨w₃, s₃⟩ hx₃ => ?_
    have hmis : ¬ misaligned (w₂.pc + dj.immediate) := by
      rw [hpc₂, htargetj dj hdecj]
      exact haligned _
    obtain ⟨hcalm₃, hpc₃⟩ := jal_step hd.wf hdecj hnj hmis hx₃
    refine ⟨hcalm₃.wf, (hcalm.region.trans hd.region).trans hcalm₃.region, ?_, ?_, hd.log⟩
    · rw [hpc₃, hpc₂, htargetj dj hdecj]
      rfl
    · intro q hq hav
      exact ((hcalm.keeps q hq (by simp)).trans (hd.keeps q hq hav.2.1)).trans
        (hcalm₃.keeps q hq (hav.1 dj hdecj))
  · -- the test branches
    rename_i hnext
    have hpc₁ : w₁.pc = pcAfter w.pc (fall.size + 2) := by
      rw [hpc.resolve_right hnext, htarget d hdec]
    rw [← hpc₁] at htaken
    refine (safe_iff_ends.mp (h₂ w₁ s₁ hready htaken)).mono fun ⟨w₂, s₂, log⟩ _ hd => ?_
    refine ⟨hd.wf, hcalm.region.trans hd.region, ?_, ?_, hd.log⟩
    · rw [hd.pc, hpc₁, pcAfter_add]
      rfl
    · intro q hq hav
      exact (hcalm.keeps q hq (by simp)).trans (hd.keeps q hq hav.2.2)

end Program

/-! ## Regions -/

/-- What a SPLIT leaves for its body: room for more, and the stack pointer of the region in
register `r` of every lane that was active. -/
structure Opened (w w₁ : WarpState) (r : Register) : Prop where
  wf : w₁.WF
  pc : w₁.pc = pcAfter w.pc 1
  pointer : ∀ lane : Lane, w.activeMask.active lane = true →
    (w₁.lanes lane).get r = BitVec.ofNat 32 w.divergence.writePointer

theorem Ready.opened (sf : SoftFloat) (h : Ready w) (hctx : around.context.Ready)
    (hdec : decode word = .ok d)
    (hn : d.name = .split) (hd : d.destinations = [r]) (hz : ¬ r.isZero) :
    ∃ w₁, w.executeWord sf around word = .ok w₁ ∧ Opened w w₁ r ∧
      (∀ q : Register, q.Architectural → q ∉ d.destinations → KeepsRegister q w w₁) ∧
      SameControl w₁ (w.transfer (evaluateSplit d (w.customView around d))) := by
  have hx := h.split_executes sf hctx hdec hn
  obtain ⟨-, -, e, -, -, -, -, hok, happly⟩ := executeWord_eq_ok hx
  refine ⟨_, hx, ⟨?_, ?_, fun lane hl => split_register hd hz h.running hl⟩, ?_,
    w.apply_sameControl _⟩
  · rw [← happly]
    exact WarpState.apply_wf h.wf hok
  · refine (w.apply_sameControl _).pc.trans ?_
    cases hdiv : splitDivergent d (w.customView around d) with
    | false => rw [split_transfer_uniform hdiv]; rfl
    | true => rw [split_transfer_divergent hdiv]; rfl
  · intro q hq hnot
    exact split_keeps hdec hq hnot

/-- A warp at the start of the body of the region that `w` entered, on either side. -/
structure AtBody (w s : WarpState) (r : Register) : Prop where
  ready : Ready s
  pc : s.pc = pcAfter w.pc 1
  lanes : ∀ lane : Lane, s.activeMask.active lane = true → w.activeMask.active lane = true
  pointer : ∀ lane : Lane, w.activeMask.active lane = true →
    (s.lanes lane).get r = BitVec.ofNat 32 w.divergence.writePointer

/-- The word is a JOIN on a register that the body keeps. -/
structure Closes (word : Word) (d : Decoded) (r : Register) (body : Program) : Prop where
  decoded : decode word = .ok d
  name : d.name = .join
  sources : d.sources = [r]
  avoids : body.Avoids r
  architectural : r.Architectural
  nonzero : ¬ r.isZero

/-- The body ends at its JOIN, which finds the row of the region. -/
theorem AtBody.to_join {s : WarpState} (h : AtBody w s r) (hw : w.WF) (hj : Closes word d r body)
    (hc : body.Completed s s' log) :
    Ready s' ∧ s'.pc = pcAfter w.pc (body.size + 1) ∧ s'.joinRow d = w.divergence.writePointer ∧
      ∀ lane : Lane, w.activeMask.active lane = true →
        (s'.lanes lane).get r = BitVec.ofNat 32 w.divergence.writePointer := by
  have hready := h.ready.of_same hc.region hc.wf
  have hpointer : ∀ lane : Lane, w.activeMask.active lane = true →
      (s'.lanes lane).get r = BitVec.ofNat 32 w.divergence.writePointer := by
    intro lane hl
    rw [hc.keeps r hj.architectural hj.avoids lane]
    exact h.pointer lane hl
  refine ⟨hready, ?_, ?_, hpointer⟩
  · rw [hc.pc, h.pc, pcAfter_add, Nat.add_comm]
  · refine joinRow_eq hready hj.sources hj.nonzero (Nat.lt_succ_of_le hw.divergence.pointer) ?_
    intro lane hl
    rw [hc.region.activeMask] at hl
    exact hpointer lane (h.lanes lane hl)

theorem executeWord_wf (hw : w.WF) (h : w.executeWord sf around word = .ok w') : w'.WF := by
  obtain ⟨-, -, e, -, -, -, -, hok, rfl⟩ := executeWord_eq_ok h
  exact WarpState.apply_wf hw hok

/-- Closing the row that was pushed gives the stack back. -/
theorem DivergenceState.pop_visitElse_push {d : DivergenceState} (h : d.WF)
    (record : DivergenceRecord) :
    ((d.push d.writePointer record).visitElse d.writePointer).pop d.writePointer = d := by
  cases hd : d with
  | mk pointer records =>
    have hempty := h.empty
    rw [hd] at hempty
    simp only [DivergenceState.pop, DivergenceState.visitElse, DivergenceState.push,
      DivergenceState.setRow, Nat.add_sub_cancel]
    congr 1
    funext i
    by_cases hi : i.val = pointer
    · rw [if_pos hi]
      exact (hempty i hi.ge).symm
    · rw [if_neg hi, if_neg hi, if_neg hi]

theorem Program.safe_uniform (henv : env.Ready) (hj : Closes join d r body) (h : Ready w)
    (hbody : body.Safe sf env code w₁ s₁) (hat : AtBody w w₁ r)
    (hsplit : env.fetchExecute sf code w s split .split = .ok (w₁, s₁))
    (hjoin : code (pcAfter w.pc (body.size + 1)) = join) (hsame : SameRegion w w₁)
    (hkeeps : ∀ q : Register, q.Architectural →
      (∀ d, decode split = .ok d → q ∉ d.destinations) → KeepsRegister q w w₁)
    (hdiv : ∀ sides w', ¬ (RegionRun.mk split w sides w').Divergent) :
    (Program.region split join body).Safe sf env code w s := by
  refine safe_iff_ends.mpr (.bind (.of_eq hsplit rfl) fun _ hout => ?_)
  subst hout
  refine .bind (safe_iff_ends.mp hbody) fun ⟨w₂, s₂, log⟩ hc => ?_
  obtain ⟨hready, hpc, hrow, -⟩ := hat.to_join h.wf hj hc
  have hstack : w₂.divergence = w.divergence := hc.region.divergence.trans hsame.divergence
  obtain ⟨w₃, hx, hcontrol, hk⟩ :=
    join_executes_idle sf hready (henv s₂) hj.decoded hj.name (by rw [hrow, hstack])
  have hf : env.fetchExecute sf code w₂ s₂ join .join = .ok (w₃, env.next s₂ w₂ join) :=
    fetchExecute_ok (by rw [hpc]; exact hjoin) hx
  have hregion : SameRegion w w₃ :=
    ⟨hcontrol.activeMask.trans (hc.region.activeMask.trans hsame.activeMask),
      hcontrol.divergence.trans hstack⟩
  simp only [hf, ok_bind, hregion.divergence, if_true]
  refine ⟨executeWord_wf hc.wf hx, hregion, ?_, ?_, ?_⟩
  · rw [hcontrol.pc]
    rw [hpc, ← pcAfter_one, pcAfter_add]
    rfl
  · intro q hq' hav'
    exact ((hkeeps q hq' hav'.1).trans (hc.keeps q hq' hav'.2)).trans (hk q)
  · intro run hrun
    rcases List.mem_append.mp hrun with hrun | hrun
    · exact hc.log run hrun
    · obtain rfl := List.mem_singleton.mp hrun
      refine ⟨hregion.activeMask, hregion.divergence, fun hd => absurd hd (hdiv _ _), fun _ => ?_⟩
      exact congrArg (fun mask => [mask]) hsame.activeMask

/-- The row on top of the stack while a divergent region is open. -/
theorem push_row (hp : w.divergence.writePointer < frozenDivergenceDepth)
    (record : DivergenceRecord) :
    (w.divergence.push w.divergence.writePointer record).row w.divergence.writePointer =
      record := by
  rw [DivergenceState.row_of_lt _ hp]
  exact if_pos rfl

/-- Both sides of the region that `w` enters with a divergent SPLIT have lanes. -/
structure Parted (w : WarpState) (x y : LaneMask) : Prop where
  sides : Sides w.activeMask x y
  left : x ≠ 0#8
  right : y ≠ 0#8

/-- A side leaves a lane behind, which makes room for the row. -/
theorem Parted.room (hp : Parted w x y) (h : Ready w) :
    w.divergence.writePointer + 1 + popCount x ≤ 4 ∧
      w.divergence.writePointer + 1 + popCount y ≤ 4 := by
  have hx := popCount_pos hp.sides.left hp.left
  have hy := popCount_pos hp.sides.right hp.right
  have hroom := h.room
  rw [← hp.sides.popCount] at hroom
  omega

theorem Parted.capacity (hp : Parted w x y) (h : Ready w) :
    w.divergence.writePointer < frozenDivergenceDepth := by
  have hx := popCount_pos hp.sides.left hp.left
  have hroom := (hp.room h).1
  change _ < 3
  omega

/-- The first JOIN starts the body again on the other side. -/
theorem AtBody.switch (sf : SoftFloat) (hctx : around.context.Ready) {s : WarpState}
    (hat : AtBody w s r) (hc : body.Completed s s' log) (hparted : Parted w x y) (h : Ready w)
    (hj : Closes word d r body)
    (hmask : s.activeMask = x)
    (hstack : s.divergence = w.divergence.push w.divergence.writePointer (splitRow w)) :
    ∃ s'', s'.executeWord sf around word = .ok s'' ∧ AtBody w s'' r ∧
      (∀ q, KeepsRegister q s' s'') ∧ s''.activeMask = y ∧
      s''.divergence = (w.divergence.push w.divergence.writePointer (splitRow w)).visitElse
        w.divergence.writePointer := by
  obtain ⟨hready, -, hrow, hreg⟩ := hat.to_join h.wf hj hc
  have htop : s'.divergence.row (s'.joinRow d) = splitRow w := by
    rw [hrow, hc.region.divergence, hstack, push_row (hparted.capacity h)]
  have hrest : (splitRow w).originalMask &&& ~~~s'.activeMask = y := by
    rw [hc.region.activeMask, hmask]
    exact hparted.sides.rest
  have hlt : s'.joinRow d < s'.divergence.writePointer := by
    rw [hrow, hc.region.divergence, hstack]
    exact Nat.lt_succ_self _
  obtain ⟨s'', hx, hk, hpc, hmask', hstack'⟩ := join_switch sf hready hctx hj.decoded hj.name hlt
    (by rw [htop]; rfl) (by rw [htop, hrest]; exact hparted.right)
  rw [htop, hrest] at hmask'
  rw [htop] at hpc
  rw [hrow, hc.region.divergence, hstack] at hstack'
  refine ⟨s'', hx, ⟨⟨executeWord_wf hc.wf hx, ?_, ?_⟩, hpc, ?_, ?_⟩, hk, hmask', hstack'⟩
  · rw [hmask']
    exact hparted.right
  · rw [hstack', hmask']
    exact (hparted.room h).2
  · intro lane hl
    rw [hmask'] at hl
    exact hparted.sides.symm.active_left hl
  · intro lane hl
    rw [hk r lane]
    exact hreg lane hl

/-- The second JOIN closes the region. -/
theorem AtBody.close (sf : SoftFloat) (hctx : around.context.Ready) {s : WarpState}
    (hat : AtBody w s r) (hc : body.Completed s s' log) (hparted : Parted w x y) (h : Ready w)
    (hj : Closes word d r body)
    (hstack : s.divergence = (w.divergence.push w.divergence.writePointer (splitRow w)).visitElse
      w.divergence.writePointer) :
    ∃ s'', s'.executeWord sf around word = .ok s'' ∧ (∀ q, KeepsRegister q s' s'') ∧
      SameRegion w s'' ∧ s''.pc = pcAfter w.pc (body.size + 2) := by
  obtain ⟨hready, hpc, hrow, -⟩ := hat.to_join h.wf hj hc
  have hcap := hparted.capacity h
  have htop : s'.divergence.row (s'.joinRow d) = { splitRow w with elseVisited := true } := by
    rw [hrow, hc.region.divergence, hstack, DivergenceState.visitElse, push_row hcap,
      DivergenceState.row_of_lt _ hcap]
    exact if_pos rfl
  obtain ⟨s'', hx, hk, hpc', hmask, hstack'⟩ := join_pop sf hready hctx hj.decoded hj.name
    (by rw [hrow, hc.region.divergence, hstack]; rfl) (by rw [htop])
  rw [htop] at hmask
  rw [hrow, hc.region.divergence, hstack, DivergenceState.pop_visitElse_push h.wf.divergence]
    at hstack'
  refine ⟨s'', hx, hk, ⟨hmask, hstack'⟩, ?_⟩
  rw [hpc', hpc, ← pcAfter_one, pcAfter_add]

namespace Program

theorem safe_divergent (henv : env.Ready) (hj : Closes join d r body) (h : Ready w)
    (hbody : ∀ w' s', AtBody w w' r → body.Safe sf env code w' s') (hopen : Opened w w₁ r)
    (hsplit : env.fetchExecute sf code w s split .split = .ok (w₁, s₁))
    (hjoin : code (pcAfter w.pc (body.size + 1)) = join)
    (hstack : w₁.divergence = w.divergence.push w.divergence.writePointer (splitRow w))
    (hmask : w₁.activeMask = x) (hparted : Parted w x y)
    (hkeeps : ∀ q : Register, q.Architectural →
      (∀ d, decode split = .ok d → q ∉ d.destinations) → KeepsRegister q w w₁)
    (hdiv : ∀ sides w', (RegionRun.mk split w sides w').Divergent) :
    (region split join body).Safe sf env code w s := by
  have hat₁ : AtBody w w₁ r := by
    refine ⟨⟨hopen.wf, by rw [hmask]; exact hparted.left, ?_⟩, hopen.pc, ?_, hopen.pointer⟩
    · rw [hstack, hmask]
      exact (hparted.room h).1
    · rw [hmask]
      exact fun lane hl => hparted.sides.active_left hl
  refine safe_iff_ends.mpr (.bind (.of_eq hsplit rfl) fun _ hout => ?_)
  subst hout
  refine .bind (safe_iff_ends.mp (hbody w₁ s₁ hat₁)) fun ⟨w₂, s₂, log₁⟩ hc₂ => ?_
  obtain ⟨w₃, hx₃, hat₃, hk₃, hmask₃, hstack₃⟩ :=
    hat₁.switch sf (henv s₂) hc₂ hparted h hj hmask hstack
  have hf₃ : env.fetchExecute sf code w₂ s₂ join .join = .ok (w₃, env.next s₂ w₂ join) :=
    fetchExecute_ok (by rw [(hat₁.to_join h.wf hj hc₂).2.1]; exact hjoin) hx₃
  have hopen₃ : ¬ w₃.divergence.writePointer = w.divergence.writePointer := by
    rw [hstack₃]
    exact Nat.succ_ne_self _
  simp only [hf₃, ok_bind, if_neg hopen₃]
  refine .bind (safe_iff_ends.mp (hbody w₃ _ hat₃)) fun ⟨w₄, s₄, log₂⟩ hc₄ => ?_
  obtain ⟨w₅, hx₅, hk₅, hregion, hpc₅⟩ :=
    hat₃.close sf (henv s₄) hc₄ hparted h hj hstack₃
  have hf₅ : env.fetchExecute sf code w₄ s₄ join .join = .ok (w₅, env.next s₄ w₄ join) :=
    fetchExecute_ok (by rw [(hat₃.to_join h.wf hj hc₄).2.1]; exact hjoin) hx₅
  simp only [hf₅, ok_bind]
  refine ⟨executeWord_wf hc₄.wf hx₅, hregion, hpc₅, ?_, ?_⟩
  · intro q hq' hav'
    exact ((((hkeeps q hq' hav'.1).trans (hc₂.keeps q hq' hav'.2)).trans (hk₃ q)).trans
      (hc₄.keeps q hq' hav'.2)).trans (hk₅ q)
  · intro run hrun
    rcases List.mem_append.mp hrun with hrun | hrun
    · rcases List.mem_append.mp hrun with hrun | hrun
      exacts [hc₂.log run hrun, hc₄.log run hrun]
    · obtain rfl := List.mem_singleton.mp hrun
      refine ⟨hregion.activeMask, hregion.divergence, fun _ => ?_, fun hd => absurd (hdiv _ _) hd⟩
      refine ⟨x, y, ?_, hparted.left, hparted.right, hparted.sides.disjoint, hparted.sides.cover⟩
      rw [hmask, hmask₃]

theorem safe_region (henv : env.Ready)
    (hbody : ∀ w s, Ready w → body.LaidOut code w.pc → body.Safe sf env code w s)
    (hwords : RegionWords split join r) (hav : body.Avoids r)
    (h : Ready w) (hl : (region split join body).LaidOut code w.pc) :
    (region split join body).Safe sf env code w s := by
  obtain ⟨hcode, hlbody, hjoin⟩ := hl
  obtain ⟨d, hdec, hn, hd⟩ := hwords.split
  obtain ⟨dj, hdecj, hnj, hsj⟩ := hwords.join
  have hq : r.Architectural := decode_destinations hdec r
    (by rw [hd]; exact List.mem_singleton_self r)
  have hj : Closes join dj r body := ⟨hdecj, hnj, hsj, hav, hq, hwords.nonzero⟩
  obtain ⟨w₁, hx, hopen, hkeeps, hcontrol⟩ := h.opened sf (henv s) hdec hn hd hwords.nonzero
  have hsplit : env.fetchExecute sf code w s split .split = .ok (w₁, env.next s w split) :=
    fetchExecute_ok hcode hx
  replace hkeeps : ∀ q : Register, q.Architectural →
      (∀ d, decode split = .ok d → q ∉ d.destinations) → KeepsRegister q w w₁ :=
    fun q hq hav => hkeeps q hq (hav d hdec)
  replace hbody : ∀ w' s', AtBody w w' r → body.Safe sf env code w' s' := by
    intro w' s' hat
    refine hbody w' s' hat.ready ?_
    rw [hat.pc]
    exact hlbody
  obtain ⟨hsides, hboth⟩ := splitSides_spec d
    (show (w.customView (env.view s) d).activeMask.Valid from h.wf.active)
  cases hdiv : splitDivergent d (w.customView (env.view s) d) with
  | false =>
    rw [split_transfer_uniform hdiv] at hcontrol
    have hsame : SameRegion w w₁ := ⟨hcontrol.activeMask, hcontrol.divergence⟩
    have hat : AtBody w w₁ r :=
      ⟨h.of_same hsame hopen.wf, hopen.pc, fun lane hl => by rwa [hsame.activeMask] at hl,
        hopen.pointer⟩
    refine safe_uniform henv hj h (hbody w₁ _ hat) hat hsplit hjoin hsame hkeeps ?_
    intro sides w' hdivergent
    rw [divergent_iff hdec (env.view s).context (env.view s).context.bounds, hdiv] at hdivergent
    exact nomatch hdivergent
  | true =>
    rw [split_transfer_divergent hdiv] at hcontrol
    obtain ⟨hx, hy⟩ := hboth.mp hdiv
    refine safe_divergent henv hj h hbody hopen hsplit hjoin
      hcontrol.divergence hcontrol.activeMask ⟨hsides, hx, hy⟩ hkeeps ?_
    intro sides w'
    exact (divergent_iff hdec (env.view s).context (env.view s).context.bounds).mpr hdiv

/-! ## Whole programs -/

/-- From every ready state a well-nested program finishes, or an ordinary instruction in it
fails. -/
theorem safe (sf : SoftFloat) (henv : env.Ready) (p : Program) :
    ∀ (w : WarpState) (s : σ), Ready w →
    p.WellNested → p.LaidOut code w.pc → p.Safe sf env code w s := by
  induction p with
  | skip =>
    intro w s h _ _
    right
    exact ⟨w, s, [], rfl, h.wf, ⟨rfl, rfl⟩, (pcAfter_zero _).symm, fun q _ _ lane => rfl, by simp⟩
  | instr word =>
    intro w s h hn hl
    exact safe_instr henv h hn hl
  | seq first second ih₁ ih₂ =>
    intro w s h hn hl
    exact safe_seq (fun w s h => ih₁ w s h hn.1) (fun w s h => ih₂ w s h hn.2) h hl
  | branch test jump fall taken ih₁ ih₂ =>
    intro w s h hn hl
    obtain ⟨htest, hjump, hfall, htaken⟩ := hn
    exact safe_branch (fun w s h => ih₁ w s h hfall) (fun w s h => ih₂ w s h htaken)
      htest hjump h hl
  | region split join body ih =>
    intro w s h hn hl
    obtain ⟨⟨r, hwords, hav⟩, hbody⟩ := hn
    exact safe_region henv (fun w s h => ih w s h hbody) hwords hav h hl

end Program

/-- A warp with an empty stack is ready. -/
theorem ready_of_empty (hw : w.WF) (hempty : w.divergence.writePointer = 0)
    (hmask : w.activeMask ≠ 0#8) : Ready w := by
  refine ⟨hw, hmask, ?_⟩
  rw [hempty, Nat.zero_add]
  exact popCount_le w.activeMask

/-- A well-nested program that starts with an empty stack never fails at a SPLIT or a JOIN,
and never leaves its code.  Every region runs its two sides on disjoint masks that make up
the mask before its SPLIT, and restores mask and stack; so does the whole program. -/
theorem nested_regions_restore (sf : SoftFloat) (env : Environment σ) (code : Code)
    (henv : env.Ready) (p : Program) (hn : p.WellNested) (w : WarpState) (s : σ) (hw : w.WF)
    (hempty : w.divergence.writePointer = 0) (hmask : w.activeMask ≠ 0#8)
    (hl : p.LaidOut code w.pc) :
    (∀ failure, p.run sf env code w s = .error failure → ∃ err, failure = .ordinary err) ∧
      ∀ w' s' log, p.run sf env code w s = .ok (w', s', log) →
        SameRegion w w' ∧ w'.pc = pcAfter w.pc p.size ∧ ∀ r ∈ log, r.Sound := by
  rcases Program.safe sf henv p w s (ready_of_empty hw hempty hmask) hn hl with
    ⟨err, he⟩ | ⟨w₁, s₁, log₁, hr, hc⟩
  · rw [he]
    refine ⟨fun failure h => ⟨err, (Except.error.inj h).symm⟩, fun w' s' log h => ?_⟩
    exact nomatch h
  · rw [hr]
    refine ⟨fun failure h => (nomatch h), ?_⟩
    intro w' s' log h
    cases h
    exact ⟨hc.region, hc.pc, hc.log⟩

end

/-- Four lanes with every combination of two conditions in `x5` and `x6`. -/
def fourCases : WarpState :=
  { freshWarp 0 with
    lanes := fun lane =>
      { gpr := fun i =>
          if i = 5 then BitVec.ofNat 32 (lane.val / 2)
          else if i = 6 then BitVec.ofNat 32 (lane.val % 2)
          else 0#32 } }

theorem fourCases_wf : fourCases.WF :=
  let h := freshWarp_wf (by decide)
  ⟨h.id, h.pc, h.active, h.saved, h.lifecycle, fun _ => rfl, h.divergence⟩

/-- One region inside another: SPLIT `x1, x5`, SPLIT `x2, x6`, JOIN `x2`, JOIN `x1`. -/
def twoLevels : Program :=
  .region 0x0002a08b#32 0x0000b00b#32 (.region 0x0003210b#32 0x0001300b#32 .skip)

def twoLevelsCode : Code := fun pc =>
  if pc = 0#32 then 0x0002a08b#32
  else if pc = 4#32 then 0x0003210b#32
  else if pc = 8#32 then 0x0001300b#32
  else 0x0000b00b#32

/-- An environment that never changes and answers no request. -/
def quiet : Environment Unit where
  view _ := { context := {}, responses := fun _ => [], packedResponses := fun _ => [] }
  next _ _ _ := ()

theorem quiet_ready : quiet.Ready := by
  have hvalid : validateContext {} = .ok none := by decide +kernel
  exact fun _ => ⟨hvalid, rfl, rfl⟩

theorem twoLevels_wellNested : twoLevels.WellNested := by
  have region : ∀ {split join : Word} {r : Register} {d dj : Decoded}, decode split = .ok d →
      decode join = .ok dj → d.name = .split → dj.name = .join → d.destinations = [r] →
      dj.sources = [r] → ¬ (r.file = .integer ∧ r.index = 0) → RegionWords split join r :=
    fun h hj hn hnj hd hs hz => ⟨⟨_, h, hn, hd⟩, ⟨_, hj, hnj, hs⟩, hz⟩
  refine ⟨⟨⟨.integer, 1⟩, region rfl rfl rfl rfl rfl rfl (by decide), ?_, trivial⟩,
    ⟨⟨.integer, 2⟩, region rfl rfl rfl rfl rfl rfl (by decide), trivial⟩, trivial⟩
  intro d hd
  cases hd
  decide

theorem nested_regions_restore_twoLevels :
    (twoLevels.run zeroFloat quiet twoLevelsCode fourCases ()).toOption.isSome = true ∧
      ∀ w' s' log, twoLevels.run zeroFloat quiet twoLevelsCode fourCases () = .ok (w', s', log) →
        SameRegion fourCases w' ∧ w'.pc = pcAfter fourCases.pc twoLevels.size ∧
          ∀ r ∈ log, r.Sound :=
  ⟨by decide +kernel, (nested_regions_restore zeroFloat quiet twoLevelsCode quiet_ready twoLevels
      twoLevels_wellNested fourCases () fourCases_wf rfl (by decide)
      ⟨rfl, ⟨rfl, trivial, rfl⟩, rfl⟩).2⟩

end VortexSim
