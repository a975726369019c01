import VortexSim.State.Frames

/-!
# Refusals do not depend on registers

Staging checks a bundle against the warp and builds a candidate.  The checks look at every part
of the warp except its registers, and never at the candidate.  So two warps that differ in their
registers only refuse the same bundles, with the same errors, and what an accepted bundle does
to the rest of the warp is the same on both.
-/

namespace VortexSim

open Checked

/-- The warp with other registers. -/
def WarpState.setLanes (w : WarpState) (lanes : Lane → LaneState) : WarpState := { w with lanes }

section Verdicts

variable (w c c' : WarpState) (lanes : Lane → LaneState)

theorem stageRegisterWrites_verdict (writes : List RegisterWriteEffect) :
    verdict (stageRegisterWrites c writes) = verdict (stageRegisterWrites c' writes) := by
  refine verdict_bind (verdict_foldEach (fun acc acc' => acc.2 = acc'.2) ?_ ?_ writes 0 rfl)
    fun _ _ _ _ => rfl
  · rintro i ⟨c, seen⟩ ⟨c', seen'⟩ write hseen
    obtain rfl : seen = seen' := hseen
    exact verdict_bind_same fun _ => verdict_bind_same fun _ => verdict_bind_same fun _ =>
      verdict_bind_same fun _ => rfl
  · rintro i ⟨c, seen⟩ ⟨c', seen'⟩ write t t' hseen ht ht'
    obtain rfl : seen = seen' := hseen
    unfold stageRegisterWrite at ht ht'
    simp only [ok_iff] at ht ht'
    obtain ⟨-, -, -, -, rfl⟩ := ht
    obtain ⟨-, -, -, -, rfl⟩ := ht'
    rfl

theorem stageFFlags_verdict (effect : Option FFlagsEffect) :
    verdict (stageFFlags c effect) = verdict (stageFFlags c' effect) := by
  cases effect with
  | none => rfl
  | some effect => exact verdict_bind_same fun _ => rfl

theorem stageCSRWrite_verdict (i : Nat) (write : CSRWriteEffect) :
    verdict (stageCSRWrite w i c write) =
      verdict (stageCSRWrite (w.setLanes lanes) i c' write) := by
  have hvalue : (w.setLanes lanes).csrValue write.address = w.csrValue write.address := rfl
  unfold stageCSRWrite
  rw [hvalue]
  cases w.csrValue write.address with
  | none | some old => exact verdict_bind_same fun _ => rfl

theorem stageCSRWrites_verdict (writes : List CSRWriteEffect) :
    verdict (stageCSRWrites w c writes) = verdict (stageCSRWrites (w.setLanes lanes) c' writes) :=
  verdict_foldEach (fun _ _ => True)
    (fun i s s' write _ => stageCSRWrite_verdict w s s' lanes i write)
    (fun _ _ _ _ _ _ _ _ _ => trivial) writes 0 trivial

theorem stageSplit_verdict (effect : DivergenceEffect) (mask : Option WarpMaskEffect)
    (control : ControlEffect) :
    verdict (stageSplit w c effect mask control) =
      verdict (stageSplit (w.setLanes lanes) c' effect mask control) := by
  refine verdict_bind_same fun _ => verdict_bind_same fun _ => verdict_bind_same fun _ => ?_
  by_cases hd : effect.divergent = false
  · rw [if_pos hd, if_pos hd]
    exact verdict_bind_same fun _ => rfl
  · rw [if_neg hd, if_neg hd]
    refine verdict_bind_same fun _ => ?_
    cases mask with
    | none => rfl
    | some mask => exact verdict_bind_same fun _ => rfl

theorem stageJoin_verdict (effect : DivergenceEffect) (mask : Option WarpMaskEffect)
    (control : ControlEffect) :
    verdict (stageJoin w c effect mask control) =
      verdict (stageJoin (w.setLanes lanes) c' effect mask control) := by
  refine verdict_bind_same fun _ => ?_
  by_cases hd : effect.divergent = false
  · rw [if_pos hd, if_pos hd]
    exact verdict_bind_same fun _ => rfl
  · rw [if_neg hd, if_neg hd]
    refine verdict_bind_same fun _ => verdict_bind_same fun _ => ?_
    cases mask with
    | none => rfl
    | some mask =>
      refine verdict_bind_same fun _ => ?_
      cases effect.markElseVisited with
      | true | false => exact verdict_bind_same fun _ => rfl

theorem stageDivergence_verdict (effect : Option DivergenceEffect) (mask : Option WarpMaskEffect)
    (control : Option ControlEffect) :
    verdict (stageDivergence w c effect mask control) =
      verdict (stageDivergence (w.setLanes lanes) c' effect mask control) := by
  cases effect with
  | none => rfl
  | some effect =>
    refine verdict_bind_same fun _ => verdict_bind_same fun _ => verdict_bind_same fun _ => ?_
    cases control with
    | none => rfl
    | some control =>
      cases effect.action with
      | split => exact stageSplit_verdict w c c' lanes effect mask control
      | join => exact stageJoin_verdict w c c' lanes effect mask control
      | unknown raw => rfl

theorem stageWarpMask_verdict (divergence : Option DivergenceEffect) (mask : Option WarpMaskEffect)
    (control : Option ControlEffect) :
    verdict (stageWarpMask c divergence mask control) =
      verdict (stageWarpMask c' divergence mask control) := by
  cases divergence with
  | some divergence => rfl
  | none =>
    cases mask with
    | none => rfl
    | some mask => exact verdict_bind_same fun _ => verdict_bind_same fun _ => rfl

theorem stageTrap_verdict (trap : Option TrapEffect) (control : Option ControlEffect)
    (writes : List CSRWriteEffect) :
    verdict (stageTrap w c trap control writes) =
      verdict (stageTrap (w.setLanes lanes) c' trap control writes) := by
  cases trap with
  | none => exact verdict_bind_same fun _ => rfl
  | some trap =>
    refine verdict_bind_same fun _ => ?_
    cases control with
    | none => rfl
    | some control =>
      cases trap.kind with
      | enter =>
        exact verdict_bind_same fun _ => verdict_bind_same fun _ => rfl
      | «return» =>
        refine verdict_bind_same fun _ => ?_
        cases trap.restoresThreadMask with
        | true | false => exact verdict_bind_same fun _ => rfl
      | unknown raw => rfl

theorem stageControl_verdict (e : InstructionEffects) :
    verdict (stageControlMaskDivergenceTrap w c e) =
      verdict (stageControlMaskDivergenceTrap (w.setLanes lanes) c' e) := by
  refine verdict_bind_same fun mask => verdict_bind_same fun _ =>
    verdict_bind (stageDivergence_verdict w c c' lanes _ _ _) fun c₁ c₁' _ _ =>
    verdict_bind (stageWarpMask_verdict c₁ c₁' _ _ _) fun c₂ c₂' _ _ =>
    verdict_bind_same fun _ => verdict_bind (stageTrap_verdict w c₂ c₂' lanes _ _ _) fun _ _ _ _ =>
    verdict_bind_same fun _ => rfl

/-- A bundle is refused on the same grounds. -/
theorem stageEffects_verdict (e : InstructionEffects) :
    verdict (w.stageEffects e) = verdict ((w.setLanes lanes).stageEffects e) := by
  have hlocal : verdict (stageLocal w e) = verdict (stageLocal (w.setLanes lanes) e) := by
    exact verdict_bind (stageRegisterWrites_verdict _ _ _) fun c₁ c₁' _ _ =>
      verdict_bind (stageFFlags_verdict c₁ c₁' _) fun c₂ c₂' _ _ =>
      verdict_bind_same fun _ => verdict_bind_same fun _ =>
      verdict_bind (stageCSRWrites_verdict w c₂ c₂' lanes _) fun c₃ c₃' _ _ =>
      stageControl_verdict w c₃ c₃' lanes e
  exact verdict_bind_same fun _ => verdict_bind_same fun _ => verdict_bind hlocal fun _ _ _ _ => rfl

end Verdicts

/-! ## What an accepted bundle does -/

namespace WarpState

variable (c : WarpState) (lanes : Lane → LaneState)

theorem accrue_setLanes (effect : Option FFlagsEffect) :
    (c.setLanes lanes).accrue effect = (c.accrue effect).setLanes lanes := by
  cases effect <;> rfl

theorem setCSRValue_setLanes (address : Nat) (value : Word) :
    (c.setLanes lanes).setCSRValue address value =
      (c.setCSRValue address value).setLanes lanes := by
  unfold setCSRValue
  split <;> rfl

theorem writeCSRs_setLanes (writes : List CSRWriteEffect) :
    (c.setLanes lanes).writeCSRs writes = (c.writeCSRs writes).setLanes lanes := by
  unfold writeCSRs
  induction writes.filter CSRWriteEffect.isLocal generalizing c with
  | nil => rfl
  | cons write rest ih =>
    rw [List.foldl_cons, List.foldl_cons, writeCSR, setCSRValue_setLanes]
    exact ih _

theorem divergeAll_setLanes (effect : Option DivergenceEffect) :
    (c.setLanes lanes).divergeAll effect = (c.divergeAll effect).setLanes lanes := by
  cases effect with
  | none => rfl
  | some effect =>
    simp only [divergeAll, diverge]
    split
    · rfl
    · cases effect.action <;> rfl

theorem remask_setLanes (divergence : Option DivergenceEffect) (mask : Option WarpMaskEffect) :
    (c.setLanes lanes).remask divergence mask = (c.remask divergence mask).setLanes lanes := by
  cases divergence with
  | some divergence => rfl
  | none => cases mask <;> rfl

theorem takeTrap_setLanes (trap : Option TrapEffect) :
    (c.setLanes lanes).takeTrap trap = (c.takeTrap trap).setLanes lanes := by
  cases trap with
  | none => rfl
  | some trap =>
    simp only [takeTrap]
    split
    · rfl
    · split <;> rfl
    · rfl

theorem transfer_setLanes (e : InstructionEffects) :
    (c.setLanes lanes).transfer e = (c.transfer e).setLanes lanes := by
  have hredirect (c : WarpState) :
      (c.setLanes lanes).redirect e.control = (c.redirect e.control).setLanes lanes := by
    cases e.control <;> rfl
  unfold transfer
  rw [divergeAll_setLanes, remask_setLanes, takeTrap_setLanes, hredirect]

theorem writeBack_setLanes (write : RegisterWriteEffect) :
    c.writeBack write = c.setLanes (c.writeBack write).lanes := by
  unfold writeBack
  split <;> rfl

/-- Register writes change registers only. -/
theorem writeAll_setLanes (writes : List RegisterWriteEffect) :
    c.writeAll writes = c.setLanes (c.writeAll writes).lanes := by
  unfold writeAll
  induction writes generalizing c with
  | nil => rfl
  | cons write rest ih =>
    rw [List.foldl_cons, ih (c.writeBack write), c.writeBack_setLanes write]
    rfl

/-- A bundle does the same to the rest of the warp, whatever the registers are. -/
theorem apply_setLanes (e : InstructionEffects) : (c.setLanes lanes).apply e =
      (c.apply e).setLanes ((c.setLanes lanes).writeAll e.registerWrites).lanes := by
  unfold apply
  rw [(c.setLanes lanes).writeAll_setLanes, c.writeAll_setLanes]
  simp only [accrue_setLanes, writeCSRs_setLanes, transfer_setLanes]
  rfl

/-- A register write of a lane looks at that lane. -/
theorem writeAll_lanes_congr {c c' : WarpState} (h : c.lanes lane = c'.lanes lane)
    (writes : List RegisterWriteEffect) :
    (c.writeAll writes).lanes lane = (c'.writeAll writes).lanes lane := by
  induction writes generalizing c c' with
  | nil => exact h
  | cons write rest ih =>
    refine ih ?_
    unfold writeBack
    split
    · exact h
    · unfold mapLanes
      dsimp only
      rw [h]

/-- A lane outside the masks of all writes keeps its registers. -/
theorem writeAll_lanes_of_inactive (h : ∀ write ∈ writes, write.mask.active lane = false) :
    (c.writeAll writes).lanes lane = c.lanes lane := by
  induction writes generalizing c with
  | nil => rfl
  | cons write rest ih =>
    refine (ih (c.writeBack write) fun x hx => h x (List.mem_cons_of_mem write hx)).trans ?_
    unfold writeBack
    split
    · rfl
    · unfold mapLanes
      dsimp only
      rw [h write List.mem_cons_self, if_neg Bool.false_ne_true]

end WarpState

end VortexSim
