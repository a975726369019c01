import VortexSim.Timing.Recovery

/-!
# The ledger of pending instructions

Besides the scoreboard, the instruction accounting keeps a ledger of its own: a micro operation is
entered when the operand collector takes it and struck out by the commit stage, one edge after the
end of its writeback.  Both ledgers follow the same micro operations, so that a commit always finds
its entry.
-/

namespace VortexSim.Timing

open Checked Elastic

/-- The issue queue takes what is issued and hands it to the operand collector. -/
theorem Frontend.Edge.issueQueue_countP (e : Frontend.Edge f input r f') (p : Token → Bool) :
    f'.issue.out.out.queue.countP p + r.pendingIssue.toList.countP p =
      f.issue.out.out.queue.countP p + r.issued.toList.countP p := by
  have hqueue := congrArg (List.countP p) e.issueQueue_eq
  have hpending : r.pendingIssue.toList = crossing f.issue.output e.opcR.transfer.inputReady := by
    rw [e.pendingIssue, Collector.evaluate_accepted e.opc]
    exact toList_gated ..
  rw [List.countP_append, List.countP_append] at hqueue
  rw [hpending]
  omega

/-- The micro operations that wait for their commit. -/
def Accounting.waiting (a : Accounting) : List Token := a.pending ++ a.issued.toList

namespace Core

/-- Ledger and pipeline list the same micro operations: those behind the issue queue and the one
whose commit is registered. -/
structure Balanced (c : Core) : Prop where
  unique : ∀ m u, c.front.claims m u + c.commit.feedback.toList.countP (Token.isUop m u) ≤ 1
  ledger : ∀ p : Token → Bool, (∀ t : Token, p t.stem = p t) →
    c.account.waiting.countP p + c.front.issue.out.out.queue.countP p =
      c.live.countP p + c.commit.feedback.toList.countP p

variable {c : Core}

theorem mem_live_of_mem_queue (h : t ∈ c.front.issue.out.out.queue) : t ∈ c.live := by
  have hflight : t ∈ c.front.flight t.unit := List.mem_append_right _
    (List.mem_filter.mpr ⟨List.mem_append_right _ h, decide_eq_true rfl⟩)
  exact List.mem_append_left _ (List.mem_append_left _
    (List.mem_flatMap.mpr ⟨t.unit, List.mem_finRange _, hflight⟩))

/-- Lists with the same stems agree on what can be read off a stem. -/
theorem countP_of_stems {l l' : List Token}
    (h : ∀ k, l.countP (fun t => decide (t.stem = k)) = l'.countP fun t => decide (t.stem = k))
    (hp : ∀ t : Token, p t.stem = p t) : l.countP p = l'.countP p := by
  have hperm : (l.map Token.stem).Perm (l'.map Token.stem) := by
    refine List.perm_iff_count.mpr fun k => ?_
    rw [List.count_eq_countP, List.count_eq_countP, List.countP_map, List.countP_map]
    exact h k
  have hread : ∀ l : List Token, (l.map Token.stem).countP p = l.countP p := by
    intro l
    rw [List.countP_map]
    exact congrArg (l.countP ·) (funext hp)
  rw [← hread l, ← hread l']
  exact hperm.countP_eq p

/-- A registered commit is not in the pipeline any more. -/
theorem Balanced.feedback_gone (hb : c.Balanced) (h : c.Sound) {t : Token}
    (ht : t ∈ c.commit.feedback) :
    c.live.countP (fun x => decide (x.identity = t.identity)) = 0 := by
  have hone := hb.unique t.instruction t.uop
  have hself : Token.isUop t.instruction t.uop t = true := by
    unfold Token.isUop
    rw [decide_eq_true rfl, decide_eq_true rfl]
    rfl
  have hidentity : (fun x : Token => decide (x.identity = t.identity)) =
      Token.isUop t.instruction t.uop := by
    funext x
    simp only [Token.isUop, Token.identity, Token.instruction, Prod.mk.injEq, ← Bool.decide_and]
    exact decide_eq_decide.mpr (by tauto)
  rw [countP_of_stems h.ledger fun _ => rfl, hidentity]
  rw [ht, Option.toList_some, List.countP_singleton, hself, if_pos rfl] at hone
  unfold Frontend.claims at hone
  omega

/-- The entry that a registered commit strikes out. -/
theorem Balanced.entry (hb : c.Balanced) (h : c.Sound) (ht : t ∈ c.commit.feedback) :
    ∃ old, c.account.waiting.find? (fun x => decide (x.identity = t.identity)) = some old ∧
      old.stem = t.stem := by
  have hgone := hb.feedback_gone h ht
  have hqueue :
      c.front.issue.out.out.queue.countP (fun x => decide (x.identity = t.identity)) = 0 :=
    List.countP_eq_zero.mpr fun x hx => List.countP_eq_zero.mp hgone x (mem_live_of_mem_queue hx)
  have hone := hb.ledger (fun x => decide (x.identity = t.identity)) fun _ => rfl
  rw [hgone, hqueue, ht, Option.toList_some, List.countP_singleton, decide_eq_true rfl,
    if_pos rfl] at hone
  -- the entry has the stem of the commit
  have hstem := hb.ledger (fun x => decide (x.stem = t.stem)) fun _ => rfl
  have hsub : ∀ l : List Token, l.countP (fun x => decide (x.stem = t.stem)) ≤
      l.countP fun x => decide (x.identity = t.identity) := fun l =>
    List.countP_mono_left fun x _ hx =>
      decide_eq_true (Token.identity_of_stem (of_decide_eq_true hx))
  have hissue := hsub c.front.issue.out.out.queue
  rw [ht, Option.toList_some, List.countP_singleton, decide_eq_true rfl, if_pos rfl] at hstem
  have hpos : 0 < c.account.waiting.countP fun x => decide (x.stem = t.stem) := by omega
  obtain ⟨old, hold, hsame⟩ := List.countP_pos_iff.mp hpos
  have hsame : old.stem = t.stem := of_decide_eq_true hsame
  exact ⟨old, find?_of_countP_le_one (by omega) hold
    (decide_eq_true (Token.identity_of_stem hsame)), hsame⟩

/-- The ledger takes what the collector takes and strikes out what is committed. -/
theorem Balanced.waiting_countP (hb : c.Balanced) (h : c.Sound) {account : Accounting}
    (haccount : c.account.evaluate issue c.commit.feedback anyActive dispatchBusy = .ok account)
    (hp : ∀ t : Token, p t.stem = p t) :
    account.waiting.countP p + c.commit.feedback.toList.countP p =
      c.account.waiting.countP p + issue.toList.countP p := by
  unfold Accounting.evaluate at haccount
  simp only [ok_iff] at haccount
  obtain ⟨-, rfl⟩ := haccount
  unfold Accounting.waiting
  cases hfeedback : c.commit.feedback with
  | none => rw [Option.toList_none, List.countP_nil, Nat.add_zero, List.countP_append]
  | some t =>
    obtain ⟨old, hfind, hstem⟩ := hb.entry h hfeedback
    have herase := BitOwner.countP_eraseP (p := p) hfind
    have hsame : p old = p t := by rw [← hp old, hstem, hp]
    unfold Accounting.waiting at herase
    rw [Option.toList_some, List.countP_singleton, ← hsame]
    dsimp only
    rw [List.countP_append]
    omega

theorem Edge.balanced (e : Edge c input r c') (hb : c.Balanced) (h : c.Sound)
    (hfresh : c.Fresh input.instruction) : c'.Balanced := by
  obtain ⟨ef⟩ := Frontend.evaluate_edge e.front
  have hfeedback : c'.commit.feedback =
      (c.commit.evaluate c.results).1.writeback.filter Token.last := by
    rw [e.commit]
    rfl
  refine ⟨fun m u => ?_, fun p hp => ?_⟩
  · rw [hfeedback]
    exact e.claims_ended h hfresh m u
  · have hlive := e.live_countP h.ended h.loads h.routed p hp
    have hqueue := ef.issueQueue_countP p
    have hwaiting := hb.waiting_countP h e.account hp
    have hold := hb.ledger p hp
    rw [hfeedback]
    omega

theorem Balanced.cancel (hb : c.Balanced) (h : c.Sound) (hcancel : c.cancel x = .ok c') :
    c'.Balanced := by
  have hlive := live_cancel x hcancel
  unfold Core.cancel at hcancel
  simp only [ok_iff] at hcancel
  obtain ⟨-, -, rfl⟩ := hcancel
  refine ⟨fun m u => ?_, fun p hp => ?_⟩
  · have hclaims := claims_cancel x h.linked m u
    have hfeedback : ((c.commit.feedback.filter x.spares).toList).countP (Token.isUop m u) ≤
        c.commit.feedback.toList.countP (Token.isUop m u) := by
      rw [Option.toList_filter]
      exact List.filter_sublist.countP_le
    have hone := hb.unique m u
    dsimp only
    omega
  · -- what is spared can be read off a stem
    have hold := hb.ledger (fun t => p t && x.spares t) fun t => by rw [hp]; rfl
    have hwaiting : (c.account.cancel x).waiting = c.account.waiting.filter x.spares := by
      unfold Accounting.waiting Accounting.cancel
      rw [List.filter_append, Option.toList_filter]
    have hqueue : (c.front.cancel x).issue.out.out.queue =
        c.front.issue.out.out.queue.filter x.spares := rfl
    rw [hlive]
    rw [hwaiting, hqueue, Option.toList_filter]
    simp only [List.countP_filter]
    exact hold

theorem balanced_empty (account : Accounting) (haccount : account.waiting = [])
    (scheduler : Option Scheduler) : Balanced { account, front := { scheduler } } := by
  have hsound := sound_empty account scheduler
  refine ⟨fun m u => hsound.unique m u, fun p hp => ?_⟩
  rw [countP_of_stems hsound.ledger hp, haccount]
  rfl

/-- The scheduler is apart from the ledger. -/
theorem Balanced.setScheduler (hb : c.Balanced) (scheduler : Option Scheduler) :
    Balanced { c with front.scheduler := scheduler } := ⟨hb.unique, hb.ledger⟩

theorem Balanced.setAccount (hb : c.Balanced) {account : Accounting}
    (h : account.waiting = c.account.waiting) : Balanced { c with account } := by
  refine ⟨hb.unique, fun p hp => ?_⟩
  have hold := hb.ledger p hp
  rw [← h] at hold
  exact hold

end Core

end VortexSim.Timing
