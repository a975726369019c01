import Mathlib.Logic.Basic
import Mathlib.Data.List.Basic

/-!
# Checked computations

A validator is a chain of refusals over `Except`: every check either stops with its
error or passes control on.  `rejectIf` is one refusal, `each` runs a refusal over the
entries of a list with their indices, and `foldEach` threads an accumulator through the
same loop.

The lemmas turn "the chain ended in `.ok`" into the conjunction of the facts the chain
checked.  No proof about a validator has to split its body again.
-/

namespace Checked

variable {ε α β σ : Type}

/-! ## Refusals -/

/-- Stop with `err` when `bad` holds. -/
def rejectIf (bad : Prop) [Decidable bad] (err : ε) : Except ε Unit :=
  if bad then .error err else .ok ()

variable {bad : Prop} {err : ε} {u : Unit} {step : Nat → σ → α → Except ε σ} {i : Nat} {s s' : σ}
  {xs : List α}

@[simp] theorem rejectIf_eq_ok [Decidable bad] : rejectIf bad err = .ok u ↔ ¬ bad := by
  unfold rejectIf
  split <;> simp_all

@[simp] theorem rejectIf_of_not [Decidable bad] (h : ¬ bad) : rejectIf bad err = .ok () := if_neg h

theorem rejectIf_of [Decidable bad] (h : bad) : rejectIf bad err = .error err := if_pos h

/-- A sequence succeeds exactly when its first part does and the rest does after it. -/
@[simp] theorem bind_eq_ok {f : α → Except ε β} :
    (x >>= f) = .ok b ↔ ∃ a, x = .ok a ∧ f a = .ok b := by
  cases x with
  | error e => simp [bind, Except.bind]
  | ok a => simp [bind, Except.bind]

@[simp] theorem exists_unit {p : Unit → Prop} : (∃ u, p u) ↔ p () :=
  ⟨fun ⟨(), h⟩ => h, fun h => ⟨(), h⟩⟩

@[simp] theorem pure_eq_ok : (pure a : Except ε α) = .ok b ↔ a = b := by
  simp [pure, Except.pure]

/-- What a chain that ended in `.ok` says, as one rule for rewriting. -/
theorem ok_iff : (∀ {ε α β : Type} {x : Except ε α} {f : α → Except ε β} {b : β},
      (x >>= f) = .ok b ↔ ∃ a, x = .ok a ∧ f a = .ok b) ∧
    (∀ {ε : Type} {bad : Prop} {err : ε} {u : Unit} [Decidable bad],
      rejectIf bad err = .ok u ↔ ¬ bad) ∧
    (∀ {p : Unit → Prop}, (∃ u, p u) ↔ p ()) ∧
    ∀ {ε α : Type} {a b : α}, (pure a : Except ε α) = .ok b ↔ a = b :=
  ⟨bind_eq_ok, rejectIf_eq_ok, exists_unit, pure_eq_ok⟩

@[simp] theorem ok_bind (a : α) (f : α → Except ε β) : (Except.ok a >>= f) = f a := rfl

theorem toOption_eq_some {x : Except ε α} : x.toOption = some a ↔ x = .ok a := by
  cases x <;> simp [Except.toOption]

theorem mapError_eq_ok (f : ε → ε') (x : Except ε α) (a : α) :
    x.mapError f = .ok a ↔ x = .ok a := by
  cases x with
  | error e => simp [Except.mapError]
  | ok b => simp [Except.mapError]

/-! ## Loops -/

/-- Run `check` on the entries of a list, counting indices from `i`. -/
def each (check : Nat → α → Except ε Unit) : Nat → List α → Except ε Unit
  | _, [] => .ok ()
  | i, x :: xs => do
      check i x
      each check (i + 1) xs

/-- Thread an accumulator through the entries of a list, counting indices from `i`. -/
def foldEach (step : Nat → σ → α → Except ε σ) : Nat → σ → List α → Except ε σ
  | _, s, [] => .ok s
  | i, s, x :: xs => do
      let s' ← step i s x
      foldEach step (i + 1) s' xs

@[simp] theorem foldEach_nil (step : Nat → σ → α → Except ε σ) (i : Nat) (s : σ) :
    foldEach step i s [] = .ok s := rfl

@[simp] theorem foldEach_cons : foldEach step i s (x :: xs) = .ok s' ↔
      ∃ m, step i s x = .ok m ∧ foldEach step (i + 1) m xs = .ok s' := by
  simp [foldEach]

/-- Run a computation for every index. -/
def collect : {n : Nat} → (Fin n → Except ε α) → Except ε (Fin n → α)
  | 0, _ => .ok fun i => i.elim0
  | _ + 1, f => do
      let first ← f 0
      let others ← collect fun i => f i.succ
      pure (Fin.cases first others)

theorem collect_eq_ok {g : Fin n → α} : collect f = .ok g ↔ ∀ i, f i = .ok (g i) := by
  induction n with
  | zero =>
    refine iff_of_true (congrArg Except.ok (funext fun i => i.elim0)) fun i => i.elim0
  | succ n ih =>
    simp only [ok_iff, collect]
    constructor
    · rintro ⟨first, hfirst, others, hothers, rfl⟩ i
      cases i using Fin.cases with
      | zero => exact hfirst
      | succ i => exact ih.mp hothers i
    · intro h
      refine ⟨g 0, h 0, fun i => g i.succ, ih.mpr fun i => h i.succ, ?_⟩
      funext i
      cases i using Fin.cases <;> rfl

/-- A loop of refusals whose verdict does not depend on the index passes exactly when
every entry passes. -/
theorem each_eq_ok_iff {check : Nat → α → Except ε Unit} {good : α → Prop}
    (h : ∀ i x, check i x = .ok () ↔ good x) (i : Nat) (xs : List α) :
    each check i xs = .ok u ↔ ∀ x ∈ xs, good x := by
  induction xs generalizing i with
  | nil => simp [each]
  | cons x xs ih =>
    simp only [each, bind_eq_ok, List.mem_cons, forall_eq_or_imp, ih]
    constructor
    · rintro ⟨⟨⟩, hx, hxs⟩
      exact ⟨(h i x).mp hx, hxs⟩
    · rintro ⟨hx, hxs⟩
      exact ⟨(), (h i x).mpr hx, hxs⟩

/-- Every entry of a loop that passed has passed. -/
theorem each_apply {check : α → Except ε Unit} (h : each (fun _ x => check x) i xs = .ok u)
    (hx : x ∈ xs) : check x = .ok () := by
  have hcheck : ∀ (_ : Nat) x, check x = .ok () ↔ check x = .ok () := fun _ _ => Iff.rfl
  exact (each_eq_ok_iff hcheck i xs).mp h x hx

theorem each_eq_ok {check : Nat → α → Except ε Unit} (h : ∀ i, ∀ x ∈ xs, check i x = .ok ())
    (i : Nat) : each check i xs = .ok () := by
  induction xs generalizing i with
  | nil => rfl
  | cons x xs ih =>
    rw [each, h i x List.mem_cons_self]
    exact ih (fun k y hy => h k y (List.mem_cons_of_mem x hy)) (i + 1)

/-- A loop that refuses the bad entries passes exactly when there is none. -/
@[simp] theorem each_rejectIf_eq_ok {bad : α → Prop} [DecidablePred bad] {err : Nat → α → ε} :
    each (fun k x => rejectIf (bad x) (err k x)) i xs = .ok u ↔ ∀ x ∈ xs, ¬ bad x := by
  refine each_eq_ok_iff ?_ i xs
  intro k x
  exact rejectIf_eq_ok

/-- Loops whose steps agree on the entries agree. -/
theorem foldEach_congr (h : ∀ i s x, x ∈ xs → step i s x = step' i s x) (i : Nat) (s : σ) :
    foldEach step i s xs = foldEach step' i s xs := by
  induction xs generalizing i s with
  | nil => rfl
  | cons x xs ih =>
    rw [foldEach, foldEach, h i s x List.mem_cons_self]
    exact congrArg _ (funext fun s' =>
      ih (fun i s y hy => h i s y (List.mem_cons_of_mem x hy)) _ s')

/-- What every successful step preserves, the whole loop preserves. -/
theorem foldEach_invariant (good : σ → Prop)
    (hstep : ∀ i s x s', x ∈ xs → step i s x = .ok s' → good s → good s')
    (h : foldEach step i s xs = .ok s') (hs : good s) : good s' := by
  induction xs generalizing i s with
  | nil =>
    simp only [foldEach_nil, Except.ok.injEq] at h
    exact h ▸ hs
  | cons x xs ih =>
    obtain ⟨m, hm, hrest⟩ := foldEach_cons.mp h
    refine ih (fun i s y s' hy => hstep i s y s' (List.mem_cons_of_mem x hy)) hrest ?_
    exact hstep i s x m List.mem_cons_self hm hs

/-- What one entry brings about and every successful step preserves holds in the end. -/
theorem foldEach_reaches (good : σ → Prop) (bad : α → Prop)
    (hstep : ∀ i s x s', step i s x = .ok s' → good s ∨ bad x → good s')
    (h : foldEach step i s xs = .ok s') (hs : good s ∨ ∃ x ∈ xs, bad x) : good s' := by
  induction xs generalizing i s with
  | nil =>
    cases h
    refine hs.resolve_right ?_
    rintro ⟨x, hx, -⟩
    cases hx
  | cons x xs ih =>
    obtain ⟨m, hm, hrest⟩ := foldEach_cons.mp h
    refine ih hrest ?_
    rcases hs with hs | ⟨y, hy, hbad⟩
    · exact .inl (hstep i s x m hm (.inl hs))
    · rcases List.mem_cons.mp hy with rfl | hy
      · exact .inl (hstep i s y m hm (.inr hbad))
      · exact .inr ⟨y, hy, hbad⟩

/-- An invariant that counts the entries: it holds of the end of the loop with the index there. -/
theorem foldEach_counts (good : Nat → σ → Prop)
    (hstep : ∀ i s x s', step i s x = .ok s' → good i s → good (i + 1) s')
    (h : foldEach step i s xs = .ok s') (hs : good i s) : good (i + xs.length) s' := by
  induction xs generalizing i s with
  | nil =>
    cases h
    exact hs
  | cons x xs ih =>
    obtain ⟨m, hm, hrest⟩ := foldEach_cons.mp h
    have hend := ih hrest (hstep i s x m hm hs)
    rwa [Nat.add_assoc, Nat.add_comm 1, ← List.length_cons] at hend

/-- A loop that adds one value for each entry collects the values in order. -/
theorem foldEach_collects (collected : σ → List γ) (value : α → γ)
    (hstep : ∀ i s x s', step i s x = .ok s' → collected s' = collected s ++ [value x])
    (h : foldEach step i s xs = .ok s') : collected s' = collected s ++ xs.map value := by
  induction xs generalizing i s with
  | nil =>
    cases h
    rw [List.map_nil, List.append_nil]
  | cons x xs ih =>
    obtain ⟨m, hm, hrest⟩ := foldEach_cons.mp h
    rw [ih hrest, hstep i s x m hm, List.map_cons, List.append_assoc, List.singleton_append]

/-- What a successful step says about its entry holds of every entry. -/
theorem foldEach_entries {good : α → Prop} (hstep : ∀ i s x s', step i s x = .ok s' → good x)
    (h : foldEach step i s xs = .ok s') : ∀ x ∈ xs, good x := by
  induction xs generalizing i s with
  | nil => exact fun x hx => absurd hx List.not_mem_nil
  | cons x xs ih =>
    obtain ⟨m, hm, hrest⟩ := foldEach_cons.mp h
    exact List.forall_mem_cons.mpr ⟨hstep i s x m hm, ih hrest⟩

/-- A loop that finds one value for each element. -/
theorem foldEach_finds (collected : σ → List γ) (good : γ → α → Prop)
    (hstep : ∀ i s x s', step i s x = .ok s' → ∃ y, collected s' = collected s ++ [y] ∧ good y x)
    (h : foldEach step i s xs = .ok s') :
    ∃ ys, collected s' = collected s ++ ys ∧ List.Forall₂ good ys xs := by
  induction xs generalizing i s with
  | nil =>
    cases h
    exact ⟨[], (List.append_nil _).symm, .nil⟩
  | cons x xs ih =>
    obtain ⟨next, hx, h⟩ := foldEach_cons.mp h
    obtain ⟨y, hnext, hy⟩ := hstep i s x next hx
    obtain ⟨ys, hys, hgood⟩ := ih h
    refine ⟨y :: ys, ?_, .cons hy hgood⟩
    rw [hys, hnext, List.append_assoc, List.singleton_append]

/-- A loop of checks is one that keeps no state. -/
theorem each_eq_foldEach (check : Nat → α → Except ε Unit) (i : Nat) (xs : List α) :
    each check i xs = foldEach (fun i _ x => check i x) i () xs := by
  induction xs generalizing i with
  | nil => rfl
  | cons x xs ih => exact congrArg _ (funext fun _ => ih (i + 1))

/-- A loop that compares every entry with those before it. -/
theorem foldEach_pairwise {R : α → α → Prop} (before : List α)
    (hstep : ∀ i s x s', step i s x = .ok s' → ∀ y ∈ (before ++ xs).take i, R x y)
    (h : foldEach step before.length s xs = .ok s') (hbefore : before.Pairwise fun a b => R b a) :
    (before ++ xs).Pairwise fun a b => R b a := by
  induction xs generalizing before s with
  | nil => rwa [List.append_nil]
  | cons x xs ih =>
    obtain ⟨m, hm, hrest⟩ := foldEach_cons.mp h
    have hx := hstep _ s x m hm
    rw [List.take_left] at hx
    rw [List.append_cons] at hstep ⊢
    refine ih _ hstep (by rwa [List.length_append]) (List.pairwise_append.mpr ⟨hbefore, ?_, ?_⟩)
    · exact List.pairwise_singleton _ _
    · exact fun y hy z hz => List.mem_singleton.mp hz ▸ hx y hy

/-! ## How a computation ends -/

/-- A computation ends in a value with `Q` or in an error with `E`. -/
def Ends (x : Except ε α) (Q : α → Prop) (E : ε → Prop) : Prop :=
  match x with
  | .ok a => Q a
  | .error e => E e

section

variable {E : ε → Prop}

variable {Q : α → Prop} {x : Except ε α} {R : β → Prop} {bad : Prop} {err : ε}

namespace Ends

theorem pure (h : Q a) : Ends (Pure.pure a) Q E := h

theorem of_eq (hx : x = .ok a) (h : Q a) : Ends x Q E := by
  subst hx
  exact h

theorem bind (hx : Ends x Q E) (hf : ∀ a, Q a → Ends (f a) R E) : Ends (x >>= f) R E := by
  cases x with
  | ok a => exact hf a hx
  | error e => exact hx

theorem reject [Decidable bad] {Q : Unit → Prop} (hbad : bad → E err) (hgood : ¬ bad → Q ()) :
    Ends (rejectIf bad err) Q E := by
  unfold rejectIf
  split
  · exact hbad ‹_›
  · exact hgood ‹_›

/-- A check that passes. -/
theorem check [Decidable bad] (hgood : ¬ bad) (hf : Ends (f ()) R E) :
    Ends (rejectIf bad err >>= f) R E :=
  bind (Q := fun _ => True) (.reject (fun hbad => absurd hbad hgood) fun _ => trivial) fun _ _ => hf

/-- A check that is a reason to fail. -/
theorem refuse [Decidable bad] (hbad : bad → E err) (hf : ¬ bad → Ends (f ()) R E) :
    Ends (rejectIf bad err >>= f) R E :=
  bind (.reject hbad fun hgood => hgood) fun _ hgood => hf hgood

theorem mono (h : Ends x Q E) (hq : ∀ a, x = .ok a → Q a → Q' a) : Ends x Q' E := by
  cases x with
  | ok a => exact hq a rfl h
  | error e => exact h

/-- A loop with an invariant that counts the entries. -/
theorem foldEach (good : Nat → σ → Prop) (hstep : ∀ k x s, xs[k]? = some x → good (i + k) s →
      Ends (step (i + k) s x) (good (i + k + 1)) E) (hs : good i s) :
    Ends (Checked.foldEach step i s xs) (good (i + xs.length)) E := by
  induction xs generalizing i s with
  | nil => exact hs
  | cons x xs ih =>
    refine .bind (hstep 0 x s rfl hs) fun m hm => ?_
    rw [List.length_cons, Nat.add_comm xs.length 1, ← Nat.add_assoc]
    refine ih (fun k y s hy hgood => ?_) hm
    rw [Nat.add_assoc i 1 k, Nat.add_comm 1 k] at hgood ⊢
    exact hstep (k + 1) y s hy hgood

theorem each {check : Nat → α → Except ε Unit}
    (hcheck : ∀ k x, x ∈ xs → Ends (check k x) (fun _ => True) E) :
    Ends (Checked.each check i xs) (fun _ => True) E := by
  induction xs generalizing i with
  | nil => exact trivial
  | cons x xs ih =>
    exact .bind (hcheck i x List.mem_cons_self) fun _ _ =>
      ih fun k y hy => hcheck k y (List.mem_cons_of_mem x hy)

theorem collect {f : Fin n → Except ε α} (h : ∀ i, Ends (f i) (fun _ => True) E) :
    Ends (Checked.collect f) (fun _ => True) E := by
  induction n with
  | zero => exact trivial
  | succ n ih =>
    refine .bind (h 0) fun a _ => ?_
    exact .bind (ih fun i => h i.succ) fun g _ => trivial

/-- The value of a computation is its result. -/
theorem result (h : Ends x Q E) :
    Ends x (fun a => x = .ok a ∧ Q a) E := h.mono fun _ hx hq => ⟨hx, hq⟩

/-- With no error left, the computation has a value. -/
theorem ok (h : Ends x Q fun _ => False) : ∃ a, x = .ok a ∧ Q a := by
  cases x with
  | ok a => exact ⟨a, rfl, h⟩
  | error e => exact h.elim

end Ends

end

/-! ## Two computations with the same verdict -/

section

variable {α' β' σ' : Type}

/-- How a computation ends, without its value. -/
def verdict (x : Except ε α) : Except ε Unit := x.map fun _ => ()

theorem verdict_bind (hx : verdict x = verdict x')
    (hf : ∀ a a', x = .ok a → x' = .ok a' → verdict (f a) = verdict (f' a')) :
    verdict (x >>= f) = verdict (x' >>= f') := by
  cases x with
  | error e =>
    cases x' with
    | error e' => exact congrArg Except.error (Except.error.inj hx)
    | ok a' => cases hx
  | ok a =>
    cases x' with
    | error e' => cases hx
    | ok a' => exact hf a a' rfl rfl

/-- After a common first part. -/
theorem verdict_bind_same (hf : ∀ a, verdict (f a) = verdict (f' a)) :
    verdict (x >>= f) = verdict (x >>= f') :=
  verdict_bind rfl fun a a' ha ha' => by
    obtain rfl := Except.ok.inj (ha.symm.trans ha')
    exact hf a

/-- Loops in step with each other. -/
theorem verdict_foldEach (R : σ → σ' → Prop)
    (hverdict : ∀ i s s' x, R s s' → verdict (step i s x) = verdict (step' i s' x))
    (hkeep : ∀ i s s' x t t', R s s' → step i s x = .ok t → step' i s' x = .ok t' → R t t')
    (xs : List α) (i : Nat) {s' : σ'} (h : R s s') :
    verdict (foldEach step i s xs) = verdict (foldEach step' i s' xs) := by
  induction xs generalizing i s s' with
  | nil => rfl
  | cons x xs ih =>
    exact verdict_bind (hverdict i s s' x h) fun t t' ht ht' =>
      ih (i + 1) (hkeep i s s' x t t' h ht ht')

theorem error_of_verdict (h : verdict x = verdict x') (hx : x = .error e) : x' = .error e := by
  subst hx
  cases x' with
  | error e' => exact congrArg Except.error (Except.error.inj h).symm
  | ok a' => cases h

end

end Checked
