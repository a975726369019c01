import VortexSim.Memsys.ExternalRun

/-!
# Progress of the external backend

A run is cut into rounds, in each of which every client is ready at least once.  The oldest
entry, once complete, leaves within three rounds: the first frees its port, the second frees
bandwidth for it, and in the third its client takes it.  Counting the entries up to a number
gives a bound for every one of them.
-/

namespace VortexSim.Memsys

open Checked Session

variable {σ : Type} {n : Nat} {service : AtomicService σ} {b b' : AsyncBackend σ n}
  {input : EdgeInput n} {edge : Edge n} {e : Entry n}

/-- The oldest entry is complete. -/
structure Waiting (e : Entry n) (b : AsyncBackend σ n) : Prop where
  coherent : b.Coherent
  mem : e ∈ b.queue
  oldest : ∀ x ∈ b.queue, e.sequence ≤ x.sequence
  serviced : e.serviced = true
  returns : 0 < b.config.returnsPerCycle

/-- No other response waits on its port. -/
structure Unblocked (e : Entry n) (b : AsyncBackend σ n) : Prop extends Waiting e b where
  port : ∀ r, b.returnHeld e.client = some r → r = e.response

/-- Its response is on its port. -/
structure Shown (e : Entry n) (b : AsyncBackend σ n) : Prop extends Waiting e b where
  shown : b.preview e.client = some e.response

/-- The entry has left the queue. -/
structure Gone (e : Entry n) (b : AsyncBackend σ n) : Prop where
  coherent : b.Coherent
  number : e.sequence ≤ b.sequence
  absent : ∀ x ∈ b.queue, x.sequence ≠ e.sequence

/-! ## What the next preview shows -/

theorem Waiting.queue_eq (hw : Waiting e b) : ∃ rest, b.queue = e :: rest := by
  have hmem := hw.mem
  have holdest := hw.oldest
  have hordered := hw.coherent.ordered
  cases hq : b.queue with
  | nil =>
    rw [hq] at hmem
    cases hmem
  | cons x rest =>
    rw [hq] at hmem holdest hordered
    rcases List.mem_cons.mp hmem with rfl | hin
    · exact ⟨rest, rfl⟩
    · have hlt := (List.pairwise_cons.mp hordered).1 e hin
      exact absurd hlt (Nat.not_lt.mpr (holdest x List.mem_cons_self))

/-- An entry with bandwidth and a free port is shown. -/
theorem Waiting.shown_of_room (hw : Waiting e b) (hport : b.returnHeld e.client = none)
    (hroom : validCount b.returnHeld < b.config.returnsPerCycle) : Shown e b := by
  obtain ⟨rest, hq⟩ := hw.queue_eq
  refine ⟨hw, ?_⟩
  unfold AsyncBackend.preview
  rw [hq]
  exact previewBanks_head hw.serviced hport hroom

theorem Waiting.shown_of_held (hw : Waiting e b)
    (hport : b.returnHeld e.client = some e.response) : Shown e b :=
  ⟨hw, previewBanks_keeps hport⟩

theorem Shown.toUnblocked (hs : Shown e b) : Unblocked e b := by
  refine ⟨hs.toWaiting, fun r hr => ?_⟩
  have hkept : b.preview e.client = some r := previewBanks_keeps hr
  exact Option.some.inj (hkept.symm.trans hs.shown)

/-- Otherwise the held responses fill the bandwidth and nothing is added to them. -/
theorem Unblocked.cases (hu : Unblocked e b) :
    Shown e b ∨ (b.returnHeld e.client = none ∧ b.preview = b.returnHeld ∧
      b.config.returnsPerCycle ≤ validCount b.returnHeld) := by
  cases hport : b.returnHeld e.client with
  | some r =>
    obtain rfl := hu.port r hport
    exact .inl (hu.toWaiting.shown_of_held hport)
  | none =>
    by_cases hroom : validCount b.returnHeld < b.config.returnsPerCycle
    · exact .inl (hu.toWaiting.shown_of_room hport hroom)
    · have hfull := Nat.le_of_not_lt hroom
      exact .inr ⟨rfl, previewBanks_full hfull, hfull⟩

/-! ## The stages of the oldest entry -/

variable [NeZero n]

theorem Gone.advance (hg : Gone e b) (h : Advanced service b input done b' edge) : Gone e b' := by
  refine ⟨hg.coherent.advance h, ?_, ?_⟩
  · rw [h.sequence]
    exact hg.number.trans (Nat.le_add_right _ _)
  · intro x hx
    rcases h.origin hx with ⟨y, hy, hcore⟩ | hnew
    · rw [← sequence_of_core hcore]
      exact hg.absent y (mem_kept.mp hy).1
    · exact (hg.number.trans_lt (mem_ledger_sequence hnew).1).ne'

namespace Waiting

variable (hw : Waiting e b) (h : Advanced service b input done b' edge)
include hw h

theorem gone_of_taken (htaken : Taken b.preview input.ready e) : Gone e b' := by
  refine ⟨hw.coherent.advance h, ?_, ?_⟩
  · rw [h.sequence]
    exact (hw.coherent.numbered e hw.mem).trans (Nat.le_add_right _ _)
  · intro x hx hsequence
    rcases h.origin hx with ⟨y, hy, hcore⟩ | hnew
    · obtain ⟨hymem, hyleft⟩ := mem_kept.mp hy
      have hsame : y.sequence = e.sequence := (sequence_of_core hcore).trans hsequence
      obtain rfl : y = e := hw.coherent.ordered.eq_of_sequence hymem hw.mem hsame
      exact hyleft htaken
    · have hlt : b.sequence < x.sequence := (mem_ledger_sequence hnew).1
      have hle := hw.coherent.numbered e hw.mem
      omega

theorem stays (hleft : ¬ Taken b.preview input.ready e) : Waiting e b' := by
  refine ⟨hw.coherent.advance h, hw.coherent.complete_stays h hw.mem hw.serviced hleft, ?_,
    hw.serviced, ?_⟩
  · intro x hx
    rcases h.origin hx with ⟨y, hy, hcore⟩ | hnew
    · exact (hw.oldest y (mem_kept.mp hy).1).trans_eq (sequence_of_core hcore)
    · have hlt : b.sequence < x.sequence := (mem_ledger_sequence hnew).1
      exact ((hw.coherent.numbered e hw.mem).trans_lt hlt).le
  · rw [h.config]
    exact hw.returns

theorem advance : Waiting e b' ∨ Gone e b' := by
  by_cases htaken : Taken b.preview input.ready e
  · exact .inr (hw.gone_of_taken h htaken)
  · exact .inl (hw.stays h htaken)

/-- When its client is ready the port of the entry is free afterwards. -/
theorem unblocked (hready : input.ready e.client = true) : Unblocked e b' ∨ Gone e b' := by
  refine (hw.advance h).imp_left fun hw' => ⟨hw', fun r hr => ?_⟩
  rw [h.held] at hr
  dsimp only at hr
  rw [if_pos hready] at hr
  cases hr

end Waiting

namespace Shown

variable (hs : Shown e b) (h : Advanced service b input done b' edge)
include hs h

theorem gone (hready : input.ready e.client = true) : Gone e b' :=
  hs.toWaiting.gone_of_taken h ⟨(hs.coherent.matched_iff hs.mem).mpr hs.shown, hready⟩

theorem advance : Shown e b' ∨ Gone e b' := by
  cases hready : input.ready e.client with
  | true => exact .inr (hs.gone h hready)
  | false =>
    have hleft : ¬ Taken b.preview input.ready e := fun htaken =>
      Bool.false_ne_true (hready.symm.trans htaken.2)
    refine .inl ((hs.toWaiting.stays h hleft).shown_of_held ?_)
    rw [h.held]
    dsimp only
    rw [if_neg (hready ▸ Bool.false_ne_true)]
    exact hs.shown

end Shown

/-- While the bandwidth is full, a response that is taken makes room for the entry. -/
theorem Unblocked.advance (hu : Unblocked e b) (h : Advanced service b input done b' edge)
    (hj : (b.returnHeld j).isSome) :
    (Unblocked e b' ∧ (b'.returnHeld j).isSome ∧ input.ready j = false) ∨
      (Shown e b' ∨ Gone e b') := by
  rcases hu.cases with hs | ⟨hport, hpreview, hfull⟩
  · exact .inr (hs.advance h)
  · rcases hu.toWaiting.advance h with hw' | hgone
    · have hheld : b'.returnHeld = fun i => if input.ready i then none else b.returnHeld i := by
        rw [h.held, hpreview]
      have hport' : b'.returnHeld e.client = none := by
        rw [hheld]
        dsimp only
        rw [hport, ite_self]
      cases hready : input.ready j with
      | false =>
        refine .inl ⟨⟨hw', fun r hr => ?_⟩, ?_, rfl⟩
        · rw [hport'] at hr
          cases hr
        · rw [hheld]
          dsimp only
          rw [hready]
          exact hj
      | true =>
        refine .inr (.inl (hw'.shown_of_room hport' ?_))
        have hless : validCount b'.returnHeld < validCount b.returnHeld := by
          refine validCount_lt (fun i hi => ?_) (i := j) ?_ hj
          · rw [hheld] at hi
            dsimp only at hi
            split at hi
            · cases hi
            · exact hi
          · rw [hheld]
            dsimp only
            rw [if_pos hready]
        rw [h.config]
        exact hless.trans_le hu.coherent.bandwidth
    · exact .inr (.inr hgone)

theorem Unblocked.keeps (hu : Unblocked e b) (h : Advanced service b input done b' edge) :
    Unblocked e b' ∨ Gone e b' := by
  rcases hu.cases with hs | ⟨hport, hpreview, -⟩
  · exact (hs.advance h).imp_left Shown.toUnblocked
  · refine (hu.toWaiting.advance h).imp_left fun hw' => ⟨hw', fun r hr => ?_⟩
    rw [h.held, hpreview] at hr
    dsimp only at hr
    rw [hport, ite_self] at hr
    cases hr

/-! ## Rounds -/

variable {h h' : History n}

/-- Every client is ready at some edge. -/
def Round (signals : List (EdgeInput n × DRAMAnswer)) : Prop :=
  ∀ i, ∃ x ∈ signals, x.1.ready i = true

/-- A step rule for predicates of coherent backends, given for advanced edges. -/
theorem ensures_of_advanced (p : EdgeInput n → Prop) (X Y : AsyncBackend σ n → Prop)
    (hX : ∀ {b}, X b → b.Coherent) (hY : ∀ {b}, Y b → b.Coherent)
    (hstays : ∀ {b input done b' edge}, X b → Advanced service b input done b' edge →
      (X b' ∧ ¬ p input) ∨ Y b')
    (hkeeps : ∀ {b input done b' edge}, Y b → Advanced service b input done b' edge → Y b') :
    Ensures (AsyncBackend.edge service) (fun signals => p signals.1) (fun s => X s.1)
      (fun s => Y s.1) := by
  refine ⟨?_, ?_, ?_⟩
  · rintro ⟨b, h⟩ i ⟨b', h'⟩ hb hedge
    obtain ⟨done, edge, -, hadv, -⟩ := edge_eq_ok (hX hb) hedge
    exact (hstays hb hadv).imp_left And.left
  · rintro ⟨b, h⟩ i ⟨b', h'⟩ hb hp hedge
    obtain ⟨done, edge, -, hadv, -⟩ := edge_eq_ok (hX hb) hedge
    exact (hstays hb hadv).resolve_left fun hx => hx.2 hp
  · rintro ⟨b, h⟩ i ⟨b', h'⟩ hb hedge
    obtain ⟨done, edge, -, hadv, -⟩ := edge_eq_ok (hY hb) hedge
    exact hkeeps hb hadv

section

variable {signals : List (EdgeInput n × DRAMAnswer)} (hround : Round signals)
  (hrun : b.run service h signals = .ok (b', h'))
include hround hrun

theorem round_unblocked (hb : Waiting e b ∨ Gone e b) : Unblocked e b' ∨ Gone e b' := by
  have hensures : Ensures (AsyncBackend.edge service)
      (fun signals => signals.1.ready e.client = true) (fun s => Waiting e s.1)
      (fun s => Unblocked e s.1 ∨ Gone e s.1) := by
    refine ensures_of_advanced (fun input => input.ready e.client = true) (Waiting e)
      (fun b => Unblocked e b ∨ Gone e b) Waiting.coherent
      (fun hy => hy.elim (fun hu => hu.coherent) Gone.coherent) ?_ ?_
    · intro b input done b' edge hw hadv
      by_cases hready : input.ready e.client = true
      · exact .inr (hw.unblocked hadv hready)
      · exact (hw.advance hadv).imp (⟨·, hready⟩) .inr
    · intro b input done b' edge hy hadv
      exact hy.elim (fun hu => hu.keeps hadv) fun hg => .inr (hg.advance hadv)
  exact hensures.run (hb.imp_right .inr) (hround e.client) hrun

theorem round_shown (hb : Unblocked e b ∨ Gone e b) : Shown e b' ∨ Gone e b' := by
  have hkeeps : ∀ {b : AsyncBackend σ n} {input done b' edge}, Shown e b ∨ Gone e b →
      Advanced service b input done b' edge → Shown e b' ∨ Gone e b' := by
    intro b input done b' edge hy hadv
    exact hy.elim (fun hs => hs.advance hadv) fun hg => .inr (hg.advance hadv)
  have hcoherent : ∀ {b : AsyncBackend σ n}, Shown e b ∨ Gone e b → b.Coherent :=
    fun hy => hy.elim (fun hs => hs.coherent) Gone.coherent
  -- a response that is held when the round begins, unless the entry is shown already
  have hensures : ∀ j, Ensures (AsyncBackend.edge service) (fun signals => signals.1.ready j = true)
      (fun s => Unblocked e s.1 ∧ (s.1.returnHeld j).isSome)
      (fun s => Shown e s.1 ∨ Gone e s.1) := by
    intro j
    refine ensures_of_advanced (fun input => input.ready j = true)
      (fun b => Unblocked e b ∧ (b.returnHeld j).isSome) (fun b => Shown e b ∨ Gone e b)
      (fun hx => hx.1.coherent) hcoherent ?_ hkeeps
    intro b input done b' edge hx hadv
    refine (hx.1.advance hadv hx.2).imp_left ?_
    rintro ⟨hu, hheld, hready⟩
    exact ⟨⟨hu, hheld⟩, hready ▸ Bool.false_ne_true⟩
  rcases hb with hu | hg
  · rcases hu.cases with hs | ⟨-, -, hfull⟩
    · exact (hensures e.client).run (.inr (.inl hs)) (hround e.client) hrun
    · obtain ⟨j, r, hj⟩ := exists_of_validCount_pos (hu.returns.trans_le hfull)
      refine (hensures j).run (.inl ⟨hu, ?_⟩) (hround j) hrun
      exact Option.isSome_iff_exists.mpr ⟨r, hj⟩
  · exact (hensures e.client).run (.inr (.inr hg)) (hround e.client) hrun

theorem round_gone (hb : Shown e b ∨ Gone e b) : Gone e b' := by
  have hensures : Ensures (AsyncBackend.edge service)
      (fun signals => signals.1.ready e.client = true) (fun s => Shown e s.1)
      (fun s => Gone e s.1) := by
    refine ensures_of_advanced (fun input => input.ready e.client = true) (Shown e) (Gone e)
      (fun hs => hs.coherent) Gone.coherent ?_ Gone.advance
    intro b input done b' edge hs hadv
    by_cases hready : input.ready e.client = true
    · exact .inr (hs.gone hadv hready)
    · exact (hs.advance hadv).imp_left (⟨·, hready⟩)
  exact hensures.run hb (hround e.client) hrun

end

/-! ## Counting the older entries -/

/-- The numbers up to `k` in the queue. -/
def AsyncBackend.older (b : AsyncBackend σ n) (k : Nat) : List Nat :=
  (b.queue.map Entry.sequence).filter (· ≤ k)

/-- The accesses up to number `k` are complete. -/
structure Served (k : Nat) (b : AsyncBackend σ n) : Prop where
  coherent : b.Coherent
  number : k ≤ b.sequence
  returns : 0 < b.config.returnsPerCycle
  complete : ∀ e ∈ b.queue, e.sequence ≤ k → e.request.operation ≠ .visibility → e.serviced = true

namespace Served

variable {k : Nat}

theorem advance (hk : Served k b) (hadv : Advanced service b input done b' edge) : Served k b' := by
  have hb := hk.coherent
  refine ⟨hb.advance hadv, ?_, ?_, ?_⟩
  · rw [hadv.sequence]
    exact hk.number.trans (Nat.le_add_right _ _)
  · rw [hadv.config]
    exact hk.returns
  · intro x hx hle hoperation
    rcases hadv.origin hx with ⟨y, hy, hcore⟩ | hnew
    · obtain ⟨hymem, hyleft⟩ := mem_kept.mp hy
      have hsequence := sequence_of_core hcore
      have hserviced : y.serviced = true := by
        refine hk.complete y hymem (hsequence.le.trans hle) ?_
        rw [request_of_core hcore]
        exact hoperation
      have hstays := hb.complete_stays hadv hymem hserviced hyleft
      obtain rfl : y = x := (hb.advance hadv).ordered.eq_of_sequence hstays hx hsequence
      exact hserviced
    · have hlt : b.sequence < x.sequence := (mem_ledger_sequence hnew).1
      have hnumber := hk.number
      omega

theorem older_sublist (hk : Served k b) (hadv : Advanced service b input done b' edge) :
    (b'.older k).Sublist (b.older k) := by
  have hsequences : b'.queue.map Entry.sequence = (b.kept input).map Entry.sequence ++
      (ledger service b.line b.sequence (b.arrivals input)).map Entry.sequence := by
    have h' := congrArg (List.map Entry.sequence) hadv.queue_core
    rw [List.map_append, List.map_map, List.map_map] at h'
    exact h'
  have hnone : ((ledger service b.line b.sequence (b.arrivals input)).map
      Entry.sequence).filter (· ≤ k) = [] := by
    refine List.filter_eq_nil_iff.mpr fun m hm => ?_
    obtain ⟨e, he, rfl⟩ := List.mem_map.mp hm
    have hlt := (mem_ledger_sequence he).1
    have hnumber := hk.number
    simp only [decide_eq_true_eq]
    omega
  unfold AsyncBackend.older
  rw [hsequences, List.filter_append, hnone, List.append_nil]
  exact (List.filter_sublist.map _).filter _

theorem run_older (hk : Served k b) (hrun : b.run service h signals = .ok (b', h')) :
    Served k b' ∧ (b'.older k).Sublist (b.older k) := by
  refine run_invariant (fun s => Served k s.1 ∧ (s.1.older k).Sublist (b.older k)) ?_
    ⟨hk, List.Sublist.refl _⟩ hrun
  rintro ⟨b, h⟩ i ⟨b', h'⟩ ⟨hk, hsublist⟩ hedge
  obtain ⟨done, edge, -, hadv, -⟩ := edge_eq_ok hk.coherent hedge
  exact ⟨hk.advance hadv, (hk.older_sublist hadv).trans hsublist⟩

omit [NeZero n] in
/-- The oldest entry up to `k` is waiting to be returned. -/
theorem waiting (hk : Served k b) (hm : m ∈ b.older k) :
    ∃ e, Waiting e b ∧ e.sequence ∈ b.older k := by
  obtain ⟨hin, hle⟩ := List.mem_filter.mp hm
  obtain ⟨x, hx, rfl⟩ := List.mem_map.mp hin
  have hordered := hk.coherent.ordered
  cases hq : b.queue with
  | nil =>
    rw [hq] at hx
    cases hx
  | cons e rest =>
    have he : e ∈ b.queue := hq ▸ List.mem_cons_self
    have hfirst : ∀ y ∈ b.queue, e.sequence ≤ y.sequence := by
      rw [hq] at hordered ⊢
      refine List.forall_mem_cons.mpr ⟨Nat.le_refl _, fun y hy => ?_⟩
      exact ((List.pairwise_cons.mp hordered).1 y hy).le
    have hek : e.sequence ≤ k := (hfirst x hx).trans (of_decide_eq_true hle)
    have hserviced : e.serviced = true := by
      by_cases hticket : e.request.operation = .visibility
      · exact hk.coherent.ticket e rest hq hticket
      · exact hk.complete e he hek hticket
    refine ⟨e, ⟨hk.coherent, he, hfirst, hserviced, hk.returns⟩, ?_⟩
    exact List.mem_filter.mpr ⟨List.mem_map_of_mem he, decide_eq_true hek⟩

/-- Three rounds return the oldest entry, so enough rounds return all of them. -/
theorem drain {rounds : List (List (EdgeInput n × DRAMAnswer))} (hk : Served k b)
    (hcount : (b.older k).length ≤ m) (hlong : 3 * m ≤ rounds.length)
    (hrounds : ∀ r ∈ rounds, Round r) (hrun : b.run service h rounds.flatten = .ok (b', h')) :
    b'.older k = [] := by
  induction m generalizing b h rounds with
  | zero =>
    have hnone : b.older k = [] := List.length_eq_zero_iff.mp (Nat.le_zero.mp hcount)
    have hsublist := (hk.run_older hrun).2
    rw [hnone] at hsublist
    exact List.sublist_nil.mp hsublist
  | succ m ih =>
    match rounds, hlong with
    | r1 :: r2 :: r3 :: rest, hlong =>
      simp only [List.forall_mem_cons] at hrounds
      obtain ⟨hr1, hr2, hr3, hrest⟩ := hrounds
      have hsplit : (r1 :: r2 :: r3 :: rest).flatten = (r1 ++ (r2 ++ r3)) ++ rest.flatten := by
        simp only [List.flatten_cons, List.append_assoc]
      rw [hsplit] at hrun
      obtain ⟨⟨b3, h3⟩, hthree, hrun⟩ := run_append_eq_ok.mp hrun
      obtain ⟨hk3, hsublist⟩ := hk.run_older hthree
      refine ih hk3 ?_ (by simp only [List.length_cons] at hlong; omega) hrest hrun
      cases hold : b.older k with
      | nil =>
        rw [hold] at hsublist
        rw [List.sublist_nil.mp hsublist]
        exact Nat.zero_le _
      | cons first others =>
        obtain ⟨e, hw, he⟩ := hk.waiting (hold ▸ List.mem_cons_self)
        obtain ⟨⟨b1, h1⟩, hrun1, hthree⟩ := run_append_eq_ok.mp hthree
        obtain ⟨⟨b2, h2⟩, hrun2, hrun3⟩ := run_append_eq_ok.mp hthree
        have hgone := round_gone hr3 hrun3
          (round_shown hr2 hrun2 (round_unblocked hr1 hrun1 (.inl hw)))
        have hless : (b3.older k).length ≠ (b.older k).length := by
          intro hlength
          rw [← hsublist.eq_of_length hlength] at he
          obtain ⟨x, hx, hsequence⟩ := List.mem_map.mp (List.mem_filter.mp he).1
          exact hgone.absent x hx hsequence
        have hle := hsublist.length_le
        omega

end Served

end VortexSim.Memsys
