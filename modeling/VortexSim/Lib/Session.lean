import VortexSim.Lib.Checked

/-!
# Sessions of a fallible step

`run` feeds a list of inputs to a step and stops at the first error.  A property that every
step keeps holds at the end of a run; a property that one kind of input brings about holds
after every run in which such an input occurs (`Ensures`).
-/

namespace Session

open Checked

variable {S I ε : Type}

/-- The state after a list of inputs. -/
def run (step : S → I → Except ε S) : S → List I → Except ε S
  | s, [] => .ok s
  | s, i :: rest => do
      let s' ← step s i
      run step s' rest

variable {step : S → I → Except ε S} {s t : S}

theorem run_cons_eq_ok :
    run step s (i :: rest) = .ok t ↔ ∃ s', step s i = .ok s' ∧ run step s' rest = .ok t := by
  rw [run, bind_eq_ok]

theorem run_append_eq_ok :
    run step s (xs ++ ys) = .ok t ↔ ∃ m, run step s xs = .ok m ∧ run step m ys = .ok t := by
  induction xs generalizing s with
  | nil =>
    constructor
    · intro h
      exact ⟨s, rfl, h⟩
    · rintro ⟨m, hm, h⟩
      cases hm
      exact h
  | cons i xs ih =>
    rw [List.cons_append, run_cons_eq_ok]
    simp only [ih, run_cons_eq_ok]
    constructor
    · rintro ⟨s', hs', m, hm, h⟩
      exact ⟨m, ⟨s', hs', hm⟩, h⟩
    · rintro ⟨m, ⟨s', hs', hm⟩, h⟩
      exact ⟨s', hs', m, hm, h⟩

/-- What every step keeps holds after the run. -/
theorem run_invariant (good : S → Prop) (hstep : ∀ {s i s'}, good s → step s i = .ok s' → good s')
    (hs : good s) (h : run step s inputs = .ok t) : good t := by
  induction inputs generalizing s with
  | nil =>
    cases h
    exact hs
  | cons i rest ih =>
    obtain ⟨s', hs', h⟩ := run_cons_eq_ok.mp h
    exact ih (hstep hs hs') h

/-- From `X` an input of kind `p` leads to `Y`, and every other one leaves `X` or leads to
`Y` as well. -/
structure Ensures (step : S → I → Except ε S) (p : I → Prop) (X Y : S → Prop) : Prop where
  stays : ∀ {s i s'}, X s → step s i = .ok s' → X s' ∨ Y s'
  acts : ∀ {s i s'}, X s → p i → step s i = .ok s' → Y s'
  keeps : ∀ {s i s'}, Y s → step s i = .ok s' → Y s'

theorem Ensures.run (he : Ensures step p X Y) (hs : X s ∨ Y s) (hp : ∃ i ∈ inputs, p i)
    (h : Session.run step s inputs = .ok t) : Y t := by
  induction inputs generalizing s with
  | nil =>
    obtain ⟨i, hi, -⟩ := hp
    cases hi
  | cons i rest ih =>
    obtain ⟨s', hs', hrest⟩ := run_cons_eq_ok.mp h
    rcases hs with hX | hY
    · by_cases hpi : p i
      · exact run_invariant Y he.keeps (he.acts hX hpi hs') hrest
      · obtain ⟨j, hj, hpj⟩ := hp
        rcases List.mem_cons.mp hj with rfl | hj
        · exact absurd hpj hpi
        · exact ih (he.stays hX hs') ⟨j, hj, hpj⟩ hrest
    · exact run_invariant Y he.keeps (he.keeps hY hs') hrest

end Session
