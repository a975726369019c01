import Mathlib.Data.List.Nodup
import Mathlib.Data.List.Range
import Mathlib.Data.List.Perm.Subperm
import Mathlib.Logic.Function.Basic

/-!
# Items that are created, enter and leave

Items are numbered in the order of their creation, wait in that order, enter one of several
places and leave it again.  A log has an entry for each boundary an item passes.  `Orderly` is
what a log is meant to show at each of its points; `Books` ties a log to the items that wait
and to those that hold a place, and each of the three moves keeps it.
-/

namespace Ledger

/-- The boundaries of an item. -/
inductive Stage where
  | created
  | entered
  | left
  deriving Repr, DecidableEq

/-- Boundaries in the order they were passed. -/
abbrev Log := List (Stage × Nat)

/-- The items that have passed a boundary, in the order of the log. -/
def passed (stage : Stage) (log : Log) : List Nat :=
  (log.filter fun entry => decide (entry.1 = stage)).map Prod.snd

theorem passed_snoc (stage : Stage) (log : Log) (entry : Stage × Nat) :
    passed stage (log ++ [entry]) =
      passed stage log ++ if entry.1 = stage then [entry.2] else [] := by
  unfold passed
  by_cases h : entry.1 = stage
  · simp [h]
  · simp [h]

theorem passed_snoc_self (stage : Stage) (log : Log) (n : Nat) :
    passed stage (log ++ [(stage, n)]) = passed stage log ++ [n] := by
  rw [passed_snoc, if_pos rfl]

theorem passed_snoc_ne (h : other ≠ stage) (log : Log) (n : Nat) :
    passed stage (log ++ [(other, n)]) = passed stage log := by
  rw [passed_snoc, if_neg h, List.append_nil]

/-! ## What a log shows -/

/-- No item passes a boundary twice, and none out of turn. -/
structure Sound (total : Nat) (log : Log) : Prop where
  once : ∀ stage, (passed stage log).Nodup
  left : passed .left log ⊆ passed .entered log
  entered : passed .entered log ⊆ passed .created log
  created : ∀ n ∈ passed .created log, n < total

/-- The log is sound at each of its points. -/
def Orderly (total : Nat) (log : Log) : Prop := ∀ before, before <+: log → Sound total before

variable {total : Nat} {log : Log}

theorem Sound.counts (h : Sound total log) :
    (passed .left log).length ≤ (passed .entered log).length ∧
      (passed .entered log).length ≤ (passed .created log).length ∧
        (passed .created log).length ≤ total := by
  refine ⟨((h.once _).subperm h.left).length_le, ((h.once _).subperm h.entered).length_le, ?_⟩
  have hsub : passed .created log ⊆ List.range total :=
    fun n hn => List.mem_range.mpr (h.created n hn)
  simpa only [List.length_range] using ((h.once _).subperm hsub).length_le

theorem orderly_nil (total : Nat) : Orderly total [] := by
  intro before hbefore
  rw [List.prefix_nil.mp hbefore]
  exact ⟨fun _ => List.nodup_nil, List.Subset.refl _, List.Subset.refl _,
    fun n hn => absurd hn List.not_mem_nil⟩

theorem Orderly.snoc (h : Orderly total log) (hsound : Sound total (log ++ [entry])) :
    Orderly total (log ++ [entry]) := by
  intro before hbefore
  rcases List.prefix_concat_iff.mp hbefore with rfl | hold
  · exact hsound
  · exact h before hold

/-! ## The books -/

/-- The log accounts for the items created so far: those that wait, those that hold a place and
those that have left. -/
structure Books {κ : Type} (count : Nat) (waiting : List Nat) (held : κ → Option Nat)
    (log : Log) : Prop where
  created : passed .created log = List.range count
  entered : passed .entered log ++ waiting = List.range count
  left : (passed .left log).Nodup
  settled : ∀ n, n ∈ passed .entered log ↔ n ∈ passed .left log ∨ ∃ place, held place = some n
  away : ∀ place n, held place = some n → n ∉ passed .left log
  distinct : ∀ place other n, held place = some n → held other = some n → place = other

section

variable {κ : Type} {count : Nat} {waiting : List Nat} {held : κ → Option Nat}

theorem Books.sound (h : Books count waiting held log) (hle : count ≤ total) : Sound total log := by
  have hnodup : (passed .entered log ++ waiting).Nodup := h.entered ▸ List.nodup_range
  refine ⟨?_, ?_, ?_, ?_⟩
  · intro stage
    cases stage with
    | created =>
      rw [h.created]
      exact List.nodup_range
    | entered => exact (List.nodup_append.mp hnodup).1
    | left => exact h.left
  · exact fun n hn => (h.settled n).mpr (.inl hn)
  · intro n hn
    rw [h.created, ← h.entered]
    exact List.mem_append_left _ hn
  · intro n hn
    rw [h.created] at hn
    exact Nat.lt_of_lt_of_le (List.mem_range.mp hn) hle

theorem books_nil : Books (κ := κ) 0 [] (fun _ => none) [] where
  created := rfl
  entered := rfl
  left := List.nodup_nil
  settled := by simp [passed]
  away := fun _ _ h => absurd h.symm (Option.some_ne_none _)
  distinct := fun _ _ _ h => absurd h.symm (Option.some_ne_none _)

theorem Books.create (h : Books count waiting held log) :
    Books (count + 1) (waiting ++ [count]) held (log ++ [(.created, count)]) := by
  have hentered : passed .entered (log ++ [(.created, count)]) = passed .entered log :=
    passed_snoc_ne (by decide) log count
  have hleft : passed .left (log ++ [(.created, count)]) = passed .left log :=
    passed_snoc_ne (by decide) log count
  refine ⟨?_, ?_, ?_, ?_, ?_, h.distinct⟩
  · rw [passed_snoc_self, h.created, List.range_succ]
  · rw [hentered, ← List.append_assoc, h.entered, List.range_succ]
  · rw [hleft]
    exact h.left
  · rw [hentered, hleft]
    exact h.settled
  · rw [hleft]
    exact h.away

variable [DecidableEq κ]

/-- The first of the waiting items takes a free place. -/
theorem Books.enter (h : Books count (n :: waiting) held log) (hfree : held place = none) :
    Books count waiting (Function.update held place (some n)) (log ++ [(.entered, n)]) := by
  have hcreated : passed .created (log ++ [(.entered, n)]) = passed .created log :=
    passed_snoc_ne (by decide) log n
  have hleft : passed .left (log ++ [(.entered, n)]) = passed .left log :=
    passed_snoc_ne (by decide) log n
  -- an item that waits has not entered before
  have hfresh : n ∉ passed .entered log := by
    have hnodup : (passed .entered log ++ n :: waiting).Nodup := h.entered ▸ List.nodup_range
    exact fun hn => (List.nodup_append.mp hnodup).2.2 n hn n List.mem_cons_self rfl
  have hnew : ∀ other, held other ≠ some n := fun other hother =>
    hfresh ((h.settled n).mpr (.inr ⟨other, hother⟩))
  have hupdate : ∀ other m, Function.update held place (some n) other = some m ↔
      (other = place ∧ m = n) ∨ held other = some m := by
    intro other m
    rw [Function.update_apply]
    split
    · rename_i heq
      rw [heq, hfree]
      simp [eq_comm]
    · rename_i hne
      simp [hne]
  refine ⟨?_, ?_, ?_, ?_, ?_, ?_⟩
  · rw [hcreated]
    exact h.created
  · rw [passed_snoc_self, List.append_assoc, List.singleton_append]
    exact h.entered
  · rw [hleft]
    exact h.left
  · intro m
    rw [passed_snoc_self, hleft, List.mem_append, List.mem_singleton, h.settled]
    refine ⟨?_, ?_⟩
    · rintro ((hm | ⟨other, hother⟩) | rfl)
      · exact .inl hm
      · exact .inr ⟨other, (hupdate other m).mpr (.inr hother)⟩
      · exact .inr ⟨place, (hupdate place m).mpr (.inl ⟨rfl, rfl⟩)⟩
    · rintro (hm | ⟨other, hother⟩)
      · exact .inl (.inl hm)
      · rcases (hupdate other m).mp hother with ⟨-, hm⟩ | hold
        · exact .inr hm
        · exact .inl (.inr ⟨other, hold⟩)
  · intro other m hother
    rw [hleft]
    rcases (hupdate other m).mp hother with ⟨-, rfl⟩ | hold
    · exact fun hm => hfresh ((h.settled m).mpr (.inl hm))
    · exact h.away other m hold
  · intro p q m hp hq
    rcases (hupdate p m).mp hp with ⟨rfl, rfl⟩ | hp'
    · rcases (hupdate q m).mp hq with ⟨rfl, -⟩ | hq'
      · rfl
      · exact absurd hq' (hnew q)
    · rcases (hupdate q m).mp hq with ⟨rfl, rfl⟩ | hq'
      · exact absurd hp' (hnew p)
      · exact h.distinct p q m hp' hq'

/-- An item leaves its place. -/
theorem Books.leave (h : Books count waiting held log) (hheld : held place = some n) :
    Books count waiting (Function.update held place none) (log ++ [(.left, n)]) := by
  have hcreated : passed .created (log ++ [(.left, n)]) = passed .created log :=
    passed_snoc_ne (by decide) log n
  have hentered : passed .entered (log ++ [(.left, n)]) = passed .entered log :=
    passed_snoc_ne (by decide) log n
  have hupdate : ∀ other m, Function.update held place none other = some m ↔
      other ≠ place ∧ held other = some m := by
    intro other m
    rw [Function.update_apply]
    split
    · rename_i heq
      simp [heq]
    · rename_i hne
      simp [hne]
  refine ⟨?_, ?_, ?_, ?_, ?_, ?_⟩
  · rw [hcreated]
    exact h.created
  · rw [hentered]
    exact h.entered
  · rw [passed_snoc_self, List.nodup_append]
    refine ⟨h.left, List.nodup_singleton n, ?_⟩
    rintro m hm k hk rfl
    rw [List.mem_singleton] at hk
    exact h.away place n hheld (hk ▸ hm)
  · intro m
    rw [passed_snoc_self, hentered, List.mem_append, List.mem_singleton, h.settled]
    refine ⟨?_, ?_⟩
    · rintro (hm | ⟨other, hother⟩)
      · exact .inl (.inl hm)
      · by_cases heq : other = place
        · rw [heq, hheld] at hother
          exact .inl (.inr (Option.some_inj.mp hother).symm)
        · exact .inr ⟨other, (hupdate other m).mpr ⟨heq, hother⟩⟩
    · rintro ((hm | rfl) | ⟨other, hother⟩)
      · exact .inl hm
      · exact .inr ⟨place, hheld⟩
      · exact .inr ⟨other, ((hupdate other m).mp hother).2⟩
  · intro other m hother
    obtain ⟨hne, hold⟩ := (hupdate other m).mp hother
    rw [passed_snoc_self, List.mem_append, List.mem_singleton, not_or]
    refine ⟨h.away other m hold, ?_⟩
    rintro rfl
    exact hne (h.distinct other place m hold hheld)
  · intro p q m hp hq
    exact h.distinct p q m ((hupdate p m).mp hp).2 ((hupdate q m).mp hq).2

omit [DecidableEq κ] in
/-- With nothing waiting and every place free, all items have left. -/
theorem Books.closed (h : Books count [] held log) (hfree : ∀ place, held place = none)
    (stage : Stage) : (passed stage log).length = count := by
  have hentered : passed .entered log = List.range count := by
    have := h.entered
    rwa [List.append_nil] at this
  cases stage with
  | created => rw [h.created, List.length_range]
  | entered => rw [hentered, List.length_range]
  | left =>
    have hmem : ∀ n, n ∈ passed .left log ↔ n ∈ List.range count := by
      intro n
      rw [← hentered, h.settled]
      refine ⟨.inl, ?_⟩
      rintro (hn | ⟨place, hplace⟩)
      · exact hn
      · rw [hfree] at hplace
        cases hplace
    rw [((List.perm_ext_iff_of_nodup h.left List.nodup_range).mpr hmem).length_eq,
      List.length_range]

end

end Ledger
