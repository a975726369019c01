import Mathlib.Data.List.Perm.Subperm
import VortexSim.Memsys.External

/-!
# The return path of the external backend

The preview picks at most one response for a port: the one that is held there, or the head of
a bus bank.  Every previewed response belongs to an entry of the queue, so the return takes
out of the queue exactly the entries whose response is taken, and shows on every port what the
preview showed.
-/

namespace VortexSim.Memsys

open Function (update update_of_ne update_self)

variable {n : Nat} {banks : Nat} {queue : List (Entry n)}

/-! ## Counting responses -/

variable {P replies : Fin n → Option Response} {i : Fin n}

theorem validCount_le_of_imp (h : ∀ i, (P i).isSome → (Q i).isSome) : validCount P ≤ validCount Q :=
  List.countP_mono_left fun i _ hi => h i hi

theorem validCount_update (h : P i = none) (r : Response) :
    validCount (update P i (some r)) = validCount P + 1 := by
  have hsplit : ∀ l : List (Fin n), l.Nodup → i ∈ l →
      l.countP (fun j => (update P i (some r) j).isSome) =
        l.countP (fun j => (P j).isSome) + 1 := by
    intro l hl hmem
    obtain ⟨before, rest, rfl⟩ := List.append_of_mem hmem
    have hnot : ∀ j ∈ before ++ rest, j ≠ i := by
      rintro j hj rfl
      exact (List.nodup_middle.mp hl).notMem hj
    have hsame : ∀ part : List (Fin n), (∀ j ∈ part, j ≠ i) →
        part.countP (fun j => (update P i (some r) j).isSome) =
          part.countP fun j => (P j).isSome := by
      intro part hpart
      refine List.countP_congr fun j hj => ?_
      rw [update_of_ne (hpart j hj)]
    simp only [List.countP_append, List.countP_cons, update_self, h, Option.isSome_some,
      Option.isSome_none, if_true, Bool.false_eq_true, if_false]
    rw [hsame before fun j hj => hnot j (List.mem_append_left _ hj),
      hsame rest fun j hj => hnot j (List.mem_append_right _ hj)]
    omega
  exact hsplit _ (List.nodup_finRange n) (List.mem_finRange i)

theorem exists_of_validCount_pos (h : 0 < validCount P) : ∃ i r, P i = some r := by
  obtain ⟨i, -, hi⟩ := List.countP_pos_iff.mp h
  obtain ⟨r, hr⟩ := Option.isSome_iff_exists.mp hi
  exact ⟨i, r, hr⟩

/-- Dropping a response that is there lowers the count. -/
theorem validCount_lt (h : ∀ i, (P i).isSome → (Q i).isSome) (hP : P i = none) (hQ : (Q i).isSome) :
    validCount P < validCount Q := by
  obtain ⟨r, hr⟩ := Option.isSome_iff_exists.mp hQ
  have hle : validCount (update P i (some r)) ≤ validCount Q := by
    refine validCount_le_of_imp fun j hj => ?_
    by_cases hij : j = i
    · rw [hij]
      exact hQ
    · rw [update_of_ne hij] at hj
      exact h j hj
  rw [validCount_update hP] at hle
  exact hle

/-! ## The preview -/

/-- An entry at the head of its bank: nothing before it in the queue is on the same bank. -/
structure HeadOf (banks : Nat) (queue : List (Entry n)) (e : Entry n) : Prop where
  mem : e ∈ queue
  serviced : e.serviced = true
  first : ∀ bank ∈ e.request.busBank banks, ∀ x ∈ queue, x.request.busBank banks = some bank →
    e.response.sequence ≤ x.response.sequence

/-- The entries of the queue are in the order of acceptance. -/
def Ordered (queue : List (Entry n)) : Prop :=
  queue.Pairwise fun a b => a.response.sequence < b.response.sequence

/-- A previewed response was there before or is the head of a bank not passed yet. -/
theorem previewBanks_cases (h : previewBanks banks returns replies count seen queue i = some r) :
    replies i = some r ∨ ∃ before e after, queue = before ++ e :: after ∧ e.client = i ∧
      e.serviced = true ∧ e.response = r ∧ ∀ bank ∈ e.request.busBank banks,
        bank ∉ seen ∧ ∀ x ∈ before, x.request.busBank banks ≠ some bank := by
  induction queue generalizing replies count seen with
  | nil => exact .inl h
  | cons e queue ih =>
    unfold previewBanks at h
    split at h
    · rename_i hseen
      obtain ⟨passed, hpassed, hin⟩ := hseen
      rcases ih h with hold | ⟨before, x, after, rfl, hclient, hserviced, hresponse, hbank⟩
      · exact .inl hold
      · refine .inr ⟨e :: before, x, after, rfl, hclient, hserviced, hresponse, ?_⟩
        intro bank hx
        obtain ⟨hunseen, hbefore⟩ := hbank bank hx
        refine ⟨hunseen, List.forall_mem_cons.mpr ⟨?_, hbefore⟩⟩
        intro he
        obtain rfl : passed = bank := Option.some.inj (hpassed.symm.trans he)
        exact hunseen hin
    · rename_i hseen
      -- the tail is previewed with the bank of this entry passed
      have htail : ∀ {replies' count'}, previewBanks banks returns replies' count'
          ((e.request.busBank banks).toList ++ seen) queue i = some r →
          replies' i = some r ∨ ∃ before x after, e :: queue = before ++ x :: after ∧
            x.client = i ∧ x.serviced = true ∧ x.response = r ∧
            ∀ bank ∈ x.request.busBank banks,
              bank ∉ seen ∧ ∀ y ∈ before, y.request.busBank banks ≠ some bank := by
        intro replies' count' h'
        rcases ih h' with hold | ⟨before, x, after, rfl, hclient, hserviced, hresponse, hbank⟩
        · exact .inl hold
        · refine .inr ⟨e :: before, x, after, rfl, hclient, hserviced, hresponse, ?_⟩
          intro bank hx
          obtain ⟨hunseen, hbefore⟩ := hbank bank hx
          refine ⟨fun hin => hunseen (List.mem_append_right _ hin),
            List.forall_mem_cons.mpr ⟨fun he => ?_, hbefore⟩⟩
          exact hunseen (List.mem_append_left _ (Option.mem_toList.mpr he))
      split at h
      · rename_i hsel
        rcases htail h with hold | hfound
        · by_cases hi : i = e.client
          · subst hi
            rw [update_self] at hold
            refine .inr ⟨[], e, queue, rfl, rfl, hsel.1, Option.some.inj hold, ?_⟩
            intro bank hbank
            exact ⟨fun hin => hseen ⟨bank, hbank, hin⟩, fun x hx => absurd hx List.not_mem_nil⟩
          · rw [update_of_ne hi] at hold
            exact .inl hold
        · exact .inr hfound
      · exact htail h

/-- Responses that are there stay. -/
theorem previewBanks_keeps (h : replies i = some r) :
    previewBanks banks returns replies count seen queue i = some r := by
  induction queue generalizing replies count seen with
  | nil => exact h
  | cons e queue ih =>
    unfold previewBanks
    split
    · exact ih h
    · split
      · rename_i hsel
        refine ih ?_
        have hi : i ≠ e.client := by
          rintro rfl
          rw [hsel.2.1] at h
          cases h
        rw [update_of_ne hi]
        exact h
      · exact ih h

theorem validCount_previewBanks (hcount : validCount replies = count) (hle : count ≤ returns) :
    validCount (previewBanks banks returns replies count seen queue) ≤ returns := by
  induction queue generalizing replies count seen with
  | nil => exact hcount.le.trans hle
  | cons e queue ih =>
    unfold previewBanks
    split
    · exact ih hcount hle
    · split
      · rename_i hsel
        refine ih ?_ hsel.2.2
        rw [validCount_update hsel.2.1, hcount]
      · exact ih hcount hle

/-- Without free bandwidth the preview adds nothing. -/
theorem previewBanks_full (h : returns ≤ count) :
    previewBanks banks returns replies count seen queue = replies := by
  induction queue generalizing seen with
  | nil => rfl
  | cons e queue ih =>
    unfold previewBanks
    split
    · exact ih
    · rw [if_neg fun hsel => Nat.not_lt.mpr h hsel.2.2]
      exact ih

/-- The oldest entry is shown as soon as it is complete, its port is free and there is
bandwidth. -/
theorem previewBanks_head (hserviced : e.serviced = true) (hport : replies e.client = none)
    (hcount : count < returns) :
    previewBanks banks returns replies count [] (e :: queue) e.client = some e.response := by
  unfold previewBanks
  have hunseen : ¬ ∃ bank ∈ e.request.busBank banks, bank ∈ ([] : List Nat) := by
    rintro ⟨bank, -, hin⟩
    exact List.not_mem_nil hin
  rw [if_neg hunseen, if_pos ⟨hserviced, hport, hcount⟩]
  exact previewBanks_keeps (update_self _ _ _)

/-! ## Handing responses out -/

/-- The previewed response of a port is the one of this entry. -/
def Matched (P : Fin n → Option Response) (e : Entry n) : Prop :=
  ∃ p ∈ P e.client, p.sequence = e.response.sequence

instance (P : Fin n → Option Response) (e : Entry n) : Decidable (Matched P e) :=
  inferInstanceAs (Decidable (∃ p ∈ P e.client, _))

/-- The client takes the response of this entry. -/
def Taken (P : Fin n → Option Response) (ready : Fin n → Bool) (e : Entry n) : Prop :=
  Matched P e ∧ ready e.client = true

instance (P : Fin n → Option Response) (ready : Fin n → Bool) (e : Entry n) :
    Decidable (Taken P ready e) := inferInstanceAs (Decidable (_ ∧ _))

section

variable {P : Fin n → Option Response} {ready : Fin n → Bool} {replies : Fin n → Option Reply}
  {e : Entry n}

theorem retirePreviewed_unmatched (h : ¬ Matched P e) :
    retirePreviewed P ready returns count replies (e :: queue) =
      ((retirePreviewed P ready returns count replies queue).1,
        e :: (retirePreviewed P ready returns count replies queue).2) := by
  rw [retirePreviewed]
  split
  · rfl
  · rename_i p hp
    exact if_pos (.inl fun hsequence => h ⟨p, hp, hsequence⟩)

theorem retirePreviewed_matched (hp : P e.client = some p)
    (hsequence : p.sequence = e.response.sequence) (hcount : count < returns) :
    retirePreviewed P ready returns count replies (e :: queue) = if ready e.client then
        retirePreviewed P ready returns (count + 1)
          (update replies e.client (some { delivered := true, response := p })) queue
      else
        ((retirePreviewed P ready returns count (update replies e.client
            (some { delivered := false, response := p })) queue).1,
          e :: (retirePreviewed P ready returns count (update replies e.client
            (some { delivered := false, response := p })) queue).2) := by
  rw [retirePreviewed, hp]
  dsimp only
  have hroom : ¬ (p.sequence ≠ e.response.sequence ∨ returns ≤ count) := by
    rintro (h | h)
    · exact h hsequence
    · exact Nat.not_le.mpr hcount h
  rw [if_neg hroom]
  cases ready e.client <;> rfl

/-- What the ports show once all entries of the queue are passed. -/
def returned (P : Fin n → Option Response) (ready : Fin n → Bool)
    (replies : Fin n → Option Reply) (queue : List (Entry n)) (i : Fin n) : Option Reply :=
  if ∃ e ∈ queue, e.client = i ∧ Matched P e then
    (P i).map fun p => { delivered := ready i, response := p }
  else replies i

theorem returned_unmatched (h : ¬ Matched P e) :
    returned P ready replies (e :: queue) = returned P ready replies queue := by
  funext i
  refine if_congr ?_ rfl rfl
  simp only [List.mem_cons, exists_eq_or_imp, h, and_false, false_or]

theorem returned_matched (hp : P e.client = some p) (hsequence : p.sequence = e.response.sequence) :
    returned P ready replies (e :: queue) = returned P ready (update replies e.client
      (some { delivered := ready e.client, response := p })) queue := by
  funext i
  unfold returned
  by_cases hi : e.client = i
  · subst hi
    have hthere : ∃ x ∈ e :: queue, x.client = e.client ∧ Matched P x :=
      ⟨e, List.mem_cons_self, rfl, p, hp, hsequence⟩
    rw [if_pos hthere, hp, update_self]
    split <;> rfl
  · rw [update_of_ne (Ne.symm hi)]
    refine if_congr ?_ rfl rfl
    simp only [List.mem_cons, exists_eq_or_imp, hi, false_and, false_or]

/-- With bandwidth for all matched entries the return handles each of them. -/
theorem retirePreviewed_spec
    (hroom : count + queue.countP (fun e => decide (Matched P e)) ≤ returns) :
    retirePreviewed P ready returns count replies queue =
      (returned P ready replies queue, queue.filter fun e => decide (¬ Taken P ready e)) := by
  induction queue generalizing count replies with
  | nil =>
    rfl
  | cons e queue ih =>
    rw [List.countP_cons] at hroom
    by_cases hmatch : Matched P e
    · rw [decide_eq_true hmatch, if_pos rfl] at hroom
      obtain ⟨p, hp, hsequence⟩ := hmatch
      have hp' : P e.client = some p := hp
      rw [retirePreviewed_matched hp' hsequence (by omega), returned_matched hp' hsequence,
        List.filter_cons]
      cases hready : ready e.client with
      | true =>
        have htaken : Taken P ready e := ⟨⟨p, hp, hsequence⟩, hready⟩
        rw [if_pos rfl, ih (by omega), decide_eq_false (not_not.mpr htaken)]
        rfl
      | false =>
        have hleft : ¬ Taken P ready e := fun h => Bool.false_ne_true (hready.symm.trans h.2)
        rw [if_neg Bool.false_ne_true, ih (by omega), decide_eq_true hleft]
        rfl
    · rw [decide_eq_false hmatch, if_neg Bool.false_ne_true] at hroom
      have hleft : ¬ Taken P ready e := fun h => hmatch h.1
      rw [retirePreviewed_unmatched hmatch, returned_unmatched hmatch, ih hroom,
        List.filter_cons, decide_eq_true hleft]
      rfl

/-- A port shows one response, so there is at most one matched entry for it. -/
theorem countP_matched_le (hqueue : Ordered queue) :
    queue.countP (fun e => decide (Matched P e)) ≤ validCount P := by
  rw [List.countP_eq_length_filter, validCount, List.countP_eq_length_filter,
    ← List.length_map Entry.client]
  have hordered : Ordered (queue.filter fun e => decide (Matched P e)) :=
    hqueue.sublist List.filter_sublist
  have hnodup : ((queue.filter fun e => decide (Matched P e)).map Entry.client).Nodup := by
    refine List.pairwise_map.mpr (hordered.imp_of_mem ?_)
    intro a b ha hb hlt hclient
    obtain ⟨p, hp, hsa⟩ := of_decide_eq_true (List.mem_filter.mp ha).2
    obtain ⟨q, hq, hsb⟩ := of_decide_eq_true (List.mem_filter.mp hb).2
    rw [hclient] at hp
    obtain rfl : p = q := Option.some.inj (hp.symm.trans hq)
    omega
  refine (hnodup.subperm ?_).length_le
  intro i hi
  obtain ⟨e, he, rfl⟩ := List.mem_map.mp hi
  obtain ⟨p, hp, -⟩ := of_decide_eq_true (List.mem_filter.mp he).2
  exact List.mem_filter.mpr ⟨List.mem_finRange _, Option.isSome_iff_exists.mpr ⟨p, hp⟩⟩

end

end VortexSim.Memsys
