import Mathlib.Data.List.Basic
import Mathlib.Data.List.Forall2
import Mathlib.Data.List.Nodup
import Mathlib.Logic.Function.Basic

/-!
# Tables kept as lists

Facts about the lists that hold handles, queue entries and table rows: a property of all
entries survives a change of one entry and the addition of one at the end.  A table that is
a function is read back after a list of updates.
-/

namespace Lists

variable {α : Type*} {good : α → Prop} {xs : List α}

theorem forall_mem_modify (h : ∀ x ∈ xs, good x) (hf : ∀ x, xs[i]? = some x → good (f x)) :
    ∀ x ∈ xs.modify i f, good x := by
  intro x hx
  obtain ⟨k, hk⟩ := List.mem_iff_getElem?.mp hx
  rw [List.getElem?_modify] at hk
  split at hk
  · rename_i hik
    subst hik
    obtain ⟨y, hy, rfl⟩ := Option.map_eq_some_iff.mp hk
    exact hf y hy
  · rw [id_map'] at hk
    exact h x (List.mem_of_getElem? hk)

theorem forall_mem_snoc (h : ∀ x ∈ xs, good x) (hy : good y) : ∀ x ∈ xs ++ [y], good x := by
  intro x hx
  rcases List.mem_append.mp hx with hx | hx
  · exact h x hx
  · exact List.mem_singleton.mp hx ▸ hy

theorem forall_mem_set (h : ∀ x ∈ xs, good x) (hy : good y) : ∀ x ∈ xs.set i y, good x := by
  intro x hx
  rcases List.mem_or_eq_of_mem_set hx with hx | rfl
  · exact h x hx
  · exact hy

theorem forall_of_forall₂ (h : List.Forall₂ R ys xs) (hR : ∀ y x, R y x → good x) :
    ∀ x ∈ xs, good x := by
  induction h with
  | nil => exact fun _ hmem => absurd hmem List.not_mem_nil
  | cons hone _ ih => exact List.forall_mem_cons.mpr ⟨hR _ _ hone, ih⟩

theorem forall₂_at {ys : List β} (h : List.Forall₂ R ys xs) {i : Nat} (hy : ys[i]? = some y)
    (hx : xs[i]? = some x) : R y x := by
  obtain ⟨hiy, rfl⟩ := List.getElem?_eq_some_iff.mp hy
  obtain ⟨hix, rfl⟩ := List.getElem?_eq_some_iff.mp hx
  exact h.get hiy hix

theorem nodup_map_snd_zip (xs : List α) (h : ys.Nodup) : ((xs.zip ys).map Prod.snd).Nodup := by
  induction ys generalizing xs with
  | nil =>
    rw [List.zip_nil_right]
    exact List.nodup_nil
  | cons y ys ih =>
    cases xs with
    | nil => exact List.nodup_nil
    | cons x xs =>
      obtain ⟨hy, hys⟩ := List.nodup_cons.mp h
      refine List.nodup_cons.mpr ⟨?_, ih xs hys⟩
      intro hmem
      obtain ⟨pair, hpair, rfl⟩ := List.mem_map.mp hmem
      exact hy (List.of_mem_zip hpair).2

/-! ## Tables kept as functions -/

section

variable {κ β : Type*} [DecidableEq κ] (key : α → κ) (value : α → β) (table : κ → β) {k : κ}

theorem foldl_update_of_not_mem (h : ∀ x ∈ xs, key x ≠ k) :
    xs.foldl (fun t x => Function.update t (key x) (value x)) table k = table k := by
  induction xs generalizing table with
  | nil => rfl
  | cons x xs ih =>
    rw [List.foldl_cons, ih _ fun y hy => h y (List.mem_cons_of_mem x hy)]
    exact Function.update_of_ne (h x List.mem_cons_self).symm _ _

/-- An entry that is written holds the value of one of the entries written there. -/
theorem foldl_update_of_mem (h : ∃ x ∈ xs, key x = k) : ∃ x ∈ xs, key x = k ∧
      xs.foldl (fun t x => Function.update t (key x) (value x)) table k = value x := by
  induction xs generalizing table with
  | nil =>
    obtain ⟨x, hx, -⟩ := h
    cases hx
  | cons x xs ih =>
    rw [List.foldl_cons]
    by_cases hrest : ∃ y ∈ xs, key y = k
    · obtain ⟨y, hy, hk, he⟩ := ih _ hrest
      exact ⟨y, List.mem_cons_of_mem x hy, hk, he⟩
    · have hx : key x = k := by
        obtain ⟨y, hy, hk⟩ := h
        rcases List.mem_cons.mp hy with rfl | hy
        · exact hk
        · exact absurd ⟨y, hy, hk⟩ hrest
      refine ⟨x, List.mem_cons_self, hx, ?_⟩
      rw [foldl_update_of_not_mem key value _ fun y hy hk => hrest ⟨y, hy, hk⟩, ← hx,
        Function.update_self]

end

end Lists
