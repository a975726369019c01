import Mathlib.Logic.Basic
import Mathlib.Data.List.Basic

/-!
# Computations over a state that failures do not undo

`Act S ε α` changes a state `S` and ends with a value or an error.  A failure keeps the changes
made before it, so a statement about such a computation has two postconditions, one for each
way to end.  `Triple` is that statement, and there is one rule for each way to build a
computation.
-/

namespace Stateful

/-- A computation over a state that may fail. -/
def Act (S ε α : Type) : Type := S → Except ε α × S

namespace Act

variable {S ε α β : Type}

instance : Monad (Act S ε) where
  pure a := fun s => (.ok a, s)
  bind x f := fun s =>
    match x s with
    | (.ok a, s') => f a s'
    | (.error e, s') => (.error e, s')

/-- Look at the state, or fail because of what is there. -/
def examine (f : S → Except ε α) : Act S ε α := fun s => (f s, s)

/-- Look at the state. -/
def gets (f : S → α) : Act S ε α := fun s => (.ok (f s), s)

/-- Change the state. -/
def update (f : S → S) : Act S ε Unit := fun s => (.ok (), f s)

/-- Stop with an error. -/
def fail (e : ε) : Act S ε α := fun s => (.error e, s)

/-- Run a computation and go on with the way it ended. -/
def attempt (x : Act S ε α) : Act S ε (Except ε α) := fun s => (.ok (x s).1, (x s).2)

/-- Run a computation on each entry of a list. -/
def forEach (f : α → Act S ε Unit) : List α → Act S ε Unit
  | [] => pure ()
  | x :: xs => do
      f x
      forEach f xs

/-! ## Running a sequence -/

variable {x : Act S ε α} {f : α → Act S ε β} {s s' : S} {I : S → Prop}

theorem bind_of_ok (h : x s = (.ok a, s')) : (x >>= f) s = f a s' := by
  change (match x s with
    | (.ok a, s') => f a s'
    | (.error e, s') => (.error e, s')) = _
  rw [h]

theorem bind_of_error (h : x s = (.error e, s')) : (x >>= f) s = (.error e, s') := by
  change (match x s with
    | (.ok a, s') => f a s'
    | (.error e, s') => (.error e, s')) = _
  rw [h]

theorem bind_cases (h : (x >>= f) s = (r, s')) : (∃ a t, x s = (.ok a, t) ∧ f a t = (r, s')) ∨
      ∃ e, x s = (.error e, s') ∧ r = .error e := by
  rcases hx : x s with ⟨e | a, t⟩
  · rw [bind_of_error hx] at h
    cases h
    exact .inr ⟨e, rfl, rfl⟩
  · rw [bind_of_ok hx] at h
    exact .inl ⟨a, t, rfl, h⟩

theorem bind_ok (h : (x >>= f) s = (.ok b, s')) :
    ∃ a t, x s = (.ok a, t) ∧ f a t = (.ok b, s') := by
  rcases bind_cases h with hok | ⟨e, -, he⟩
  · exact hok
  · cases he

theorem gets_bind (f : S → α) (k : α → Act S ε β) (s : S) : (gets f >>= k) s = k (f s) s := rfl

theorem examine_of {f : S → Except ε α} (h : f s = r) : examine f s = (r, s) := congrArg (·, s) h

theorem forEach_of_idle {f : α → Act S ε Unit} (h : ∀ x ∈ xs, f x s = (.ok (), s)) :
    forEach f xs s = (.ok (), s) := by
  induction xs with
  | nil => rfl
  | cons x xs ih =>
    rw [forEach, bind_of_ok (h x List.mem_cons_self)]
    exact ih fun y hy => h y (List.mem_cons_of_mem x hy)

/-! ## Triples -/

/-- From a state in `P` the computation ends with a value in `Q` or with an error in `E`, where
`E` speaks of the error too. -/
def Leads (P : S → Prop) (x : Act S ε α) (Q : α → S → Prop) (E : ε → S → Prop) : Prop :=
  ∀ s, P s → (∀ a, (x s).1 = .ok a → Q a (x s).2) ∧ (∀ e, (x s).1 = .error e → E e (x s).2)

/-- From a state in `P` the computation ends with a value in `Q` or with an error in `E`. -/
def Triple (P : S → Prop) (x : Act S ε α) (Q : α → S → Prop) (E : S → Prop) : Prop :=
  ∀ s, P s → (∀ a, (x s).1 = .ok a → Q a (x s).2) ∧ (∀ e, (x s).1 = .error e → E (x s).2)

/-- The computation keeps an invariant, however it ends. -/
def Keeps (I : S → Prop) (x : Act S ε α) : Prop := Triple I x (fun _ => I) I

section

variable {P : S → Prop} {Q : α → S → Prop} {T : β → S → Prop} {E : ε → S → Prop}

namespace Leads

theorem pure (h : ∀ s, P s → Q a s) : Leads P (Pure.pure a : Act S ε α) Q E := by
  intro s hs
  refine ⟨?_, ?_⟩
  · rintro b ⟨⟩
    exact h s hs
  · intro e he
    cases he

theorem examine {f : S → Except ε α} (hok : ∀ s a, P s → f s = .ok a → Q a s)
    (herr : ∀ s e, P s → f s = .error e → E e s) : Leads P (Act.examine f) Q E :=
  fun s hs => ⟨fun a ha => hok s a hs ha, fun e he => herr s e hs he⟩

theorem gets {f : S → α} (h : ∀ s, P s → Q (f s) s) : Leads P (Act.gets f : Act S ε α) Q E := by
  intro s hs
  refine ⟨?_, ?_⟩
  · rintro b ⟨⟩
    exact h s hs
  · intro e he
    cases he

theorem update {f : S → S} {Q : Unit → S → Prop} (h : ∀ s, P s → Q () (f s)) :
    Leads P (Act.update f : Act S ε Unit) Q E := by
  intro s hs
  refine ⟨?_, ?_⟩
  · rintro ⟨⟩ -
    exact h s hs
  · intro e he
    cases he

theorem fail (h : ∀ s, P s → E e s) : Leads P (Act.fail e : Act S ε α) Q E := by
  intro s hs
  refine ⟨?_, ?_⟩
  · intro a ha
    cases ha
  · rintro _ ⟨⟩
    exact h s hs

theorem bind (hx : Leads P x Q E) (hf : ∀ a, Leads (Q a) (f a) T E) : Leads P (x >>= f) T E := by
  intro s hs
  obtain ⟨hok, herr⟩ := hx s hs
  rcases hxs : x s with ⟨e | a, s'⟩
  · rw [hxs] at herr
    rw [bind_of_error hxs]
    refine ⟨?_, ?_⟩
    · intro b hb
      cases hb
    · rintro _ ⟨⟩
      exact herr e rfl
  · rw [hxs] at hok
    rw [bind_of_ok hxs]
    exact hf a s' (hok a rfl)

theorem consequence (hx : Leads P x Q E) (hP : ∀ s, P' s → P s) (hQ : ∀ a s, Q a s → Q' a s)
    (hE : ∀ e s, E e s → E' e s) : Leads P' x Q' E' := by
  intro s hs
  obtain ⟨hok, herr⟩ := hx s (hP s hs)
  exact ⟨fun a ha => hQ a _ (hok a ha), fun e he => hE e _ (herr e he)⟩

/-- A weaker postcondition where the computation fails. -/
theorem weaken (hx : Leads P x Q E) (hE : ∀ e s, E e s → E' e s) : Leads P x Q E' :=
  hx.consequence (fun _ hs => hs) (fun _ _ hs => hs) hE

theorem ite [Decidable c] (hx : c → Leads P x Q E) (hy : ¬ c → Leads P y Q E) :
    Leads P (if c then x else y) Q E := by
  split
  · exact hx ‹c›
  · exact hy ‹¬ c›

/-- A loop over a list, with an invariant that knows what is left of it. -/
theorem forEach {I : List α → S → Prop} {f : α → Act S ε Unit}
    (h : ∀ x xs, Leads (I (x :: xs)) (f x) (fun _ => I xs) E) (xs : List α) :
    Leads (I xs) (Act.forEach f xs) (fun _ => I []) E := by
  induction xs with
  | nil => exact .pure fun _ hs => hs
  | cons x xs ih => exact .bind (h x xs) fun _ => ih

/-- The value a computation ends with. -/
theorem of_ok (h : Leads P x Q E) (hs : P s) (hrun : x s = (.ok a, s')) : Q a s' := by
  have := (h s hs).1 a (by rw [hrun])
  rwa [hrun] at this

theorem of_error (h : Leads P x Q E) (hs : P s) (hrun : x s = (.error e, s')) : E e s' := by
  have := (h s hs).2 e (by rw [hrun])
  rwa [hrun] at this

end Leads

end

variable {P R : S → Prop} {Q : α → S → Prop} {T : β → S → Prop} {E : S → Prop}

namespace Triple

theorem pure (h : ∀ s, P s → Q a s) : Triple P (Pure.pure a : Act S ε α) Q E :=
  Leads.pure h

theorem examine {f : S → Except ε α} (hok : ∀ s a, P s → f s = .ok a → Q a s)
    (herr : ∀ s, P s → E s) : Triple P (Act.examine f) Q E :=
  Leads.examine hok fun s _ hs _ => herr s hs

theorem gets {f : S → α} (h : ∀ s, P s → Q (f s) s) : Triple P (Act.gets f : Act S ε α) Q E :=
  Leads.gets h

theorem update {f : S → S} {Q : Unit → S → Prop} (h : ∀ s, P s → Q () (f s)) :
    Triple P (Act.update f : Act S ε Unit) Q E :=
  Leads.update h

theorem fail (h : ∀ s, P s → E s) : Triple P (Act.fail e : Act S ε α) Q E :=
  Leads.fail (E := fun _ => E) h

theorem bind (hx : Triple P x Q E) (hf : ∀ a, Triple (Q a) (f a) T E) : Triple P (x >>= f) T E :=
  Leads.bind (E := fun _ => E) hx hf

theorem attempt (hx : Triple P x Q E) : Triple P x.attempt
      (fun r s => (∀ a, r = .ok a → Q a s) ∧ (∀ e, r = .error e → E s)) (fun _ => False) := by
  intro s hs
  obtain ⟨hok, herr⟩ := hx s hs
  refine ⟨?_, ?_⟩
  · rintro r ⟨⟩
    exact ⟨fun a ha => hok a ha, fun e he => herr e he⟩
  · intro e he
    cases he

theorem consequence (hx : Triple P x Q E) (hP : ∀ s, P' s → P s) (hQ : ∀ a s, Q a s → Q' a s)
    (hE : ∀ s, E s → E' s) : Triple P' x Q' E' :=
  Leads.consequence (E := fun _ => E) hx hP hQ fun _ => hE

/-- A stronger precondition. -/
theorem pre (hx : Triple P x Q E) (hP : ∀ s, P' s → P s) : Triple P' x Q E :=
  hx.consequence hP (fun _ _ hs => hs) fun _ hs => hs

/-- A weaker postcondition where the action fails. -/
theorem weaken (hx : Triple P x Q E) (hE : ∀ s, E s → E' s) : Triple P x Q E' :=
  hx.consequence (fun _ hs => hs) (fun _ _ hs => hs) hE

theorem ite [Decidable c] (hx : c → Triple P x Q E) (hy : ¬ c → Triple P y Q E) :
    Triple P (if c then x else y) Q E :=
  Leads.ite (E := fun _ => E) hx hy

/-- A fact about the state that does not depend on the computation can be used in its proof. -/
theorem of_pre (h : ∀ s, P s → Triple (fun s' => s' = s) x Q E) : Triple P x Q E :=
  fun s hs => h s hs s rfl

end Triple

theorem Keeps.bind (hx : Keeps I x) (hf : ∀ a, Keeps I (f a)) : Keeps I (x >>= f) :=
  Triple.bind hx hf

theorem Keeps.forEach {f : α → Act S ε Unit} (h : ∀ x, Keeps I (f x)) (xs : List α) :
    Keeps I (Act.forEach f xs) := by
  induction xs with
  | nil => exact .pure fun _ hs => hs
  | cons x xs ih => exact .bind (h x) fun _ => ih

theorem Keeps.pure (a : α) : Keeps I (Pure.pure a : Act S ε α) :=
  Triple.pure fun _ hs => hs

theorem Keeps.examine {f : S → Except ε α} : Keeps I (Act.examine f) :=
  Triple.examine (fun _ _ hs _ => hs) fun _ hs => hs

theorem Keeps.gets {f : S → α} : Keeps I (Act.gets f : Act S ε α) :=
  Triple.gets fun _ hs => hs

theorem Keeps.update {f : S → S} (h : ∀ s, I s → I (f s)) : Keeps I (Act.update f : Act S ε Unit) :=
  Triple.update h

theorem Keeps.ite [Decidable c] (hx : c → Keeps I x) (hy : ¬ c → Keeps I y) :
    Keeps I (if c then x else y) :=
  Triple.ite hx hy

theorem Keeps.attempt (h : Keeps I x) : Keeps I x.attempt := by
  refine (Triple.attempt h).consequence (fun _ hs => hs) (fun r s hr => ?_) fun _ hs => hs.elim
  cases r with
  | ok a => exact hr.1 a rfl
  | error e => exact hr.2 e rfl

/-- A state condition that holds for both ways to end. -/
theorem Triple.after (h : Triple P x (fun _ => R) R) (hs : P s) : R (x s).2 := by
  obtain ⟨hok, herr⟩ := h s hs
  rcases hr : (x s).1 with e | a
  · exact herr e hr
  · exact hok a hr

/-- However the computation ended, the invariant holds. -/
theorem Keeps.after (h : Keeps I x) (hs : I s) : I (x s).2 := Triple.after h hs

theorem Keeps.leads (h : Keeps I x) : Leads I x (fun _ => I) fun _ => I := h

theorem Keeps.of_after (h : ∀ s, I s → I (x s).2) : Keeps I x :=
  fun s hs => ⟨fun _ _ => h s hs, fun _ _ => h s hs⟩

/-! ## Computations under a change of the state -/

section

variable {U δ : Type} {φ : S → U} {g : ε → δ}

/-- Run on the image of a state, `y` does what `x` does on the state. -/
def Commutes (φ : S → U) (g : ε → δ) (x : Act S ε α) (y : Act U δ α) : Prop :=
  ∀ s, y (φ s) = ((x s).1.mapError g, φ (x s).2)

namespace Commutes

theorem pure (a : α) :
    Commutes φ g (Pure.pure a : Act S ε α) (Pure.pure a : Act U δ α) := fun _ => rfl

theorem gets {f : S → α} (h : ∀ s, f' (φ s) = f s) :
    Commutes φ g (Act.gets f : Act S ε α) (Act.gets f' : Act U δ α) := by
  intro s
  change (Except.ok (f' (φ s)), φ s) = (Except.ok (f s), φ s)
  rw [h]

theorem examine {f : S → Except ε α} (h : ∀ s, f' (φ s) = (f s).mapError g) :
    Commutes φ g (Act.examine f) (Act.examine f') := by
  intro s
  change (f' (φ s), φ s) = ((f s).mapError g, φ s)
  rw [h]

theorem update {f : S → S} (h : ∀ s, f' (φ s) = φ (f s)) :
    Commutes φ g (Act.update f : Act S ε Unit) (Act.update f' : Act U δ Unit) := by
  intro s
  change (Except.ok (), f' (φ s)) = (Except.ok (), φ (f s))
  rw [h]

theorem fail (h : e' = g e) : Commutes φ g (Act.fail e : Act S ε α) (Act.fail e' : Act U δ α) := by
  rw [h]
  exact fun _ => rfl

theorem bind (hx : Commutes φ g x y) (hf : ∀ a, Commutes φ g (f a) (f' a)) :
    Commutes φ g (x >>= f) (y >>= f') := by
  intro s
  have hy := hx s
  rcases hxs : x s with ⟨e | a, s'⟩
  · rw [hxs] at hy
    rw [bind_of_error hxs, bind_of_error hy]
    rfl
  · rw [hxs] at hy
    rw [bind_of_ok hxs, bind_of_ok hy]
    exact hf a s'

theorem forEach {f : α → Act S ε Unit} (h : ∀ x, Commutes φ g (f x) (f' x)) (xs : List α) :
    Commutes φ g (Act.forEach f xs) (Act.forEach f' xs) := by
  induction xs with
  | nil => exact .pure ()
  | cons x xs ih => exact .bind (h x) fun _ => ih

theorem ite [Decidable c] (hx : Commutes φ g x x') (hy : Commutes φ g y y') :
    Commutes φ g (if c then x else y) (if c then x' else y') := by
  split
  · exact hx
  · exact hy

end Commutes

end

end Act

end Stateful
