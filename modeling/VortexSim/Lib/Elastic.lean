import Mathlib.Algebra.BigOperators.Fin
import Mathlib.Data.List.ReduceOption

/-!
# Elastic components

The components of a clocked pipeline exchange items over ports with a valid and a ready
signal.  An item crosses a port at an edge when both are set.  All components of a pipeline are
evaluated against their old states and take their new states together.

Each component comes with its conservation law: what it held and what it accepted is what left
it and what it holds now.  For a single path the law is an equation between lists, oldest item
first; where paths join it is an equation between counts.
-/

namespace Elastic

variable {α : Type}

/-- What one edge shows on the ports of a component. -/
structure Transfer (α : Type) where
  inputReady : Bool
  output : Option α
  accepted : Bool
  completed : Bool

/-- The ports of an edge. -/
def transfer (input output : Option α) (ready downstream : Bool) : Transfer α where
  inputReady := ready
  output := output
  accepted := input.isSome && ready
  completed := output.isSome && downstream

/-- The item that crosses a port. -/
def crossing (item : Option α) (ready : Bool) : List α := if ready then item.toList else []

@[simp] theorem crossing_none (ready : Bool) : crossing (none : Option α) ready = [] := by
  cases ready <;> rfl

@[simp] theorem crossing_false (item : Option α) : crossing item false = [] := rfl

@[simp] theorem crossing_true (item : Option α) : crossing item true = item.toList := rfl

theorem mem_crossing (h : a ∈ crossing item ready) : a ∈ item := by
  cases ready with
  | false => cases h
  | true => exact Option.mem_toList.mp h

/-- A gate before a port. -/
def gated (gate : Bool) (item : Option α) : Option α := if gate then item else none

@[simp] theorem gated_true (item : Option α) : gated true item = item := rfl

@[simp] theorem gated_false (item : Option α) : gated false item = none := rfl

@[simp] theorem gated_none (gate : Bool) : gated gate (none : Option α) = none := by
  cases gate <;> rfl

theorem gated_eq_some (h : gated gate item = some a) : gate = true ∧ item = some a := by
  cases gate with
  | false => cases h
  | true => exact ⟨rfl, h⟩

/-- A gate is a condition on the ready signal. -/
theorem crossing_gated (item : Option α) (gate ready : Bool) :
    crossing (gated gate item) ready = crossing item (ready && gate) := by
  cases gate with
  | false => rw [Bool.and_false, gated_false, crossing_none, crossing_false]
  | true => rw [Bool.and_true, gated_true]

/-- The item that is accepted is the item that crosses. -/
theorem toList_gated (item : Option α) (ready : Bool) :
    (gated (item.isSome && ready) item).toList = crossing item ready := by
  cases item <;> cases ready <;> rfl

/-- Of several offers, exactly the selected one crosses. -/
theorem crossing_selected (selected : Option (Fin n)) (offers : Fin n → Option α) (ready : Bool)
    (p : α → Bool) : ∑ i, (crossing (offers i) (decide (selected = some i) && ready)).countP p =
      (crossing (selected.bind offers) ready).countP p := by
  cases selected with
  | none =>
    rw [Option.bind_none, crossing_none]
    exact Finset.sum_eq_zero fun i _ => congrArg (List.countP p) (crossing_false _)
  | some i =>
    rw [Finset.sum_eq_single i]
    · rw [decide_eq_true rfl, Bool.true_and, Option.bind_some]
    · intro j _ hne
      have hother : ¬ (some i = some j) := fun h => hne (Option.some.inj h).symm
      rw [decide_eq_false hother, Bool.false_and, crossing_false, List.countP_nil]
    · exact fun h => absurd (Finset.mem_univ i) h

/-! ## Buffers -/

/-- A queue of fixed size.  Size zero is a wire and size one a pipeline register. -/
structure Buffer (α : Type) (size : Nat) where
  queue : List α
  fits : queue.length ≤ size

namespace Buffer

variable {size : Nat}

def empty : Buffer α size := ⟨[], Nat.zero_le size⟩

/-- Ready looks at the old contents; only a register passes the ready signal on. -/
def ready (b : Buffer α size) (downstream : Bool) : Bool :=
  if size = 0 then downstream
  else if size = 1 then b.queue.isEmpty || downstream
  else decide (b.queue.length < size)

def output (b : Buffer α size) (input : Option α) : Option α :=
  if size = 0 then input else b.queue.head?

/-- What is left of a queue when its head may go. -/
def rest (queue : List α) (downstream : Bool) : List α := if downstream then queue.tail else queue

/-- The contents after an edge. -/
def next (b : Buffer α size) (input : Option α) (downstream : Bool) : List α :=
  if size = 0 then []
  else rest b.queue downstream ++ crossing input (b.ready downstream)

theorem crossing_append_rest (queue : List α) (downstream : Bool) :
    crossing queue.head? downstream ++ rest queue downstream = queue := by
  cases downstream with
  | false => rfl
  | true => cases queue <;> rfl

theorem length_crossing_le (item : Option α) (ready : Bool) : (crossing item ready).length ≤ 1 := by
  cases ready <;> cases item <;> simp

theorem length_rest_le (queue : List α) (downstream : Bool) :
    (rest queue downstream).length ≤ queue.length := by
  cases downstream with
  | false => exact Nat.le_refl _
  | true =>
    rw [rest, if_pos rfl, List.length_tail]
    exact Nat.sub_le _ _

/-- What stays in a register is its only item. -/
theorem head_of_mem_rest {b : Buffer α 1} (h : a ∈ rest b.queue downstream) :
    b.queue.head? = some a := by
  cases downstream with
  | true =>
    have hnone : b.queue.tail = [] := List.eq_nil_of_length_eq_zero (by
      rw [List.length_tail]
      have := b.fits
      omega)
    rw [rest, if_pos rfl, hnone] at h
    cases h
  | false =>
    have hfits := b.fits
    match hq : b.queue, hfits, h with
    | [x], _, h => rw [List.mem_singleton.mp h]; rfl
    | _ :: _ :: _, hfits, _ => simp at hfits

theorem next_fits (b : Buffer α size) (input : Option α) (downstream : Bool) :
    (b.next input downstream).length ≤ size := by
  have hrest := length_rest_le b.queue downstream
  have hone := length_crossing_le input (b.ready downstream)
  have hfits := b.fits
  unfold next
  split
  · exact Nat.zero_le _
  · rename_i hsize
    rw [List.length_append]
    cases hready : b.ready downstream with
    | false =>
      rw [crossing_false, List.length_nil]
      omega
    | true =>
      rw [hready] at hone
      unfold ready at hready
      rw [if_neg hsize] at hready
      split at hready
      · -- a register that is ready is empty or hands its item on
        have hgone : (rest b.queue downstream).length = 0 := by
          rcases Bool.or_eq_true_iff.mp hready with hempty | rfl
          · have hlength : b.queue.length = 0 := by rw [List.isEmpty_iff.mp hempty, List.length_nil]
            omega
          · rw [rest, if_pos rfl, List.length_tail]
            omega
        omega
      · have hroom := of_decide_eq_true hready
        omega

/-- `Evaluate`. -/
def evaluate (b : Buffer α size) (input : Option α) (downstream : Bool) :
    Transfer α × Buffer α size :=
  (transfer input (b.output input) (b.ready downstream) downstream,
    ⟨b.next input downstream, b.next_fits input downstream⟩)

@[simp] theorem evaluate_inputReady (b : Buffer α size) (input : Option α) (downstream : Bool) :
    (b.evaluate input downstream).1.inputReady = b.ready downstream := rfl

/-- A register holds after an edge what it accepted, or what it held. -/
theorem register_eq {b : Buffer α 1} (h : a ∈ (b.evaluate input downstream).2.queue) :
    (if (b.evaluate input downstream).1.accepted then input else b.queue.head?) = some a := by
  have hlength := (b.evaluate input downstream).2.fits
  have hnext : (b.evaluate input downstream).2.queue =
      rest b.queue downstream ++ crossing input (b.ready downstream) := rfl
  have haccepted : (b.evaluate input downstream).1.accepted =
      (input.isSome && b.ready downstream) := rfl
  rw [hnext] at h hlength
  rw [haccepted]
  cases input with
  | some i =>
    cases hready : b.ready downstream with
    | true =>
      rw [hready, crossing_true, Option.toList_some, List.length_append,
        List.length_singleton] at hlength
      have hgone : rest b.queue downstream = [] := List.eq_nil_of_length_eq_zero (by omega)
      rw [hready, crossing_true, hgone] at h
      rw [List.mem_singleton.mp h]
      rfl
    | false =>
      rw [hready, crossing_false, List.append_nil] at h
      exact head_of_mem_rest h
  | none =>
    rw [crossing_none, List.append_nil] at h
    exact head_of_mem_rest h

/-- The items for which `p` holds, in order. -/
def filter (p : α → Bool) (b : Buffer α size) : Buffer α size :=
  ⟨b.queue.filter p, (List.length_filter_le p b.queue).trans b.fits⟩

section

variable [NeZero size] (b : Buffer α size) (input : Option α) (downstream : Bool)

@[simp] theorem output_eq : b.output input = b.queue.head? := if_neg (NeZero.ne size)

/-- What a buffer held and accepted is what left and what it holds. -/
theorem evaluate_queue : b.queue ++ crossing input (b.ready downstream) =
    crossing b.queue.head? downstream ++ (b.evaluate input downstream).2.queue := by
  have hnext : (b.evaluate input downstream).2.queue =
      rest b.queue downstream ++ crossing input (b.ready downstream) := if_neg (NeZero.ne size)
  rw [hnext, ← List.append_assoc, crossing_append_rest]

/-- Only what was offered comes in. -/
theorem mem_of_mem_evaluate {b : Buffer α size} {input : Option α} {downstream : Bool}
    (h : a ∈ (b.evaluate input downstream).2.queue) : a ∈ b.queue ∨ a ∈ input := by
  have hin : a ∈ b.queue ++ crossing input (b.ready downstream) := by
    rw [evaluate_queue]
    exact List.mem_append_right _ h
  exact (List.mem_append.mp hin).imp_right mem_crossing

@[simp] theorem evaluate_output : (b.evaluate input downstream).1.output = b.queue.head? :=
  b.output_eq input

theorem evaluate_countP (p : α → Bool) :
    b.queue.countP p + (crossing input (b.ready downstream)).countP p =
      (crossing b.queue.head? downstream).countP p +
        (b.evaluate input downstream).2.queue.countP p := by
  rw [← List.countP_append, evaluate_queue, List.countP_append]

end

end Buffer

/-! ## Merges -/

/-- The offers of two inputs. -/
def pair (a b : α) : Fin 2 → α
  | 0 => a
  | 1 => b

@[simp] theorem pair_zero (a b : α) : pair a b 0 = a := rfl

@[simp] theorem pair_one (a b : α) : pair a b 1 = b := rfl

/-- How a merge chooses. -/
inductive Policy where
  | priority
  /-- Round robin; a sticky arbiter keeps its winner as long as it requests. -/
  | rotating (sticky : Bool)
  deriving Repr, DecidableEq

/-- Several inputs into one buffer, with the cursor of the arbitration. -/
structure Merge (α : Type) (inputs size : Nat) where
  policy : Policy
  out : Buffer α size
  next : Nat := 0
  previous : Option (Fin inputs) := none

namespace Merge

variable {inputs size : Nat} [NeZero inputs] (m : Merge α inputs size)
  (offers : Fin inputs → Option α) (downstream : Bool)

/-- The inputs in the order of the arbitration. -/
def order : List (Fin inputs) :=
  match m.policy with
  | .priority => List.finRange inputs
  | .rotating _ => (List.range inputs).map fun offset => Fin.ofNat inputs (m.next + offset)

/-- The winner of the last arbitration, if it is kept. -/
def retained : Option (Fin inputs) :=
  match m.policy with
  | .rotating true => m.previous.filter fun i => (offers i).isSome
  | _ => none

/-- The input that wins. -/
def selected : Option (Fin inputs) :=
  (m.retained offers).or (m.order.find? fun i => (offers i).isSome)

/-- The ports of a merge. -/
structure Result (α : Type) (inputs : Nat) where
  transfer : Transfer α
  ready : Fin inputs → Bool
  selected : Option (Fin inputs)

/-- The cursor moves with an accepted input, except when the winner is kept. -/
def cursor (accepted : Bool) : Nat × Option (Fin inputs) :=
  match m.policy, m.selected offers with
  | .rotating _, some i =>
    if accepted then
      (if (m.retained offers).isSome then m.next else (i.val + 1) % inputs, some i)
    else (m.next, m.previous)
  | _, _ => (m.next, m.previous)

/-- `Evaluate`. -/
def evaluate : Result α inputs × Merge α inputs size :=
  let selected := m.selected offers
  let (t, out) := m.out.evaluate (selected.bind offers) downstream
  let (next, previous) := m.cursor offers t.accepted
  ({ transfer := t, ready := fun i => decide (selected = some i) && t.inputReady, selected },
    { m with out, next, previous })

/-- What a merge held and accepted, over all inputs, is what left and what it holds. -/
theorem evaluate_countP [NeZero size] (p : α → Bool) : m.out.queue.countP p +
        ∑ i, (crossing (offers i) ((m.evaluate offers downstream).1.ready i)).countP p =
      (crossing m.out.queue.head? downstream).countP p +
        (m.evaluate offers downstream).2.out.queue.countP p := by
  have hready : ∀ i, (m.evaluate offers downstream).1.ready i =
      (decide (m.selected offers = some i) && m.out.ready downstream) := fun _ => rfl
  simp only [hready]
  rw [crossing_selected]
  exact m.out.evaluate_countP ((m.selected offers).bind offers) downstream p

end Merge

/-! ## Pipelines -/

/-- A shift pipeline that advances as a whole; the last stage is its output. -/
structure Pipeline (α : Type) (depth : Nat) where
  stages : List (Option α)
  deep : stages.length = depth

namespace Pipeline

variable {depth : Nat}

def empty : Pipeline α depth := ⟨List.replicate depth none, List.length_replicate⟩

def output (p : Pipeline α depth) : Option α := p.stages.getLast?.join

def ready (p : Pipeline α depth) (downstream : Bool) : Bool := downstream || p.output.isNone

def next [NeZero depth] (p : Pipeline α depth) (input : Option α) (downstream : Bool) :
    List (Option α) :=
  if p.ready downstream then input :: p.stages.dropLast else p.stages

theorem next_deep [NeZero depth] (p : Pipeline α depth) (input : Option α) (downstream : Bool) :
    (p.next input downstream).length = depth := by
  have hdeep := p.deep
  have hpos := Nat.pos_of_ne_zero (NeZero.ne depth)
  unfold next
  split
  · rw [List.length_cons, List.length_dropLast]
    omega
  · exact hdeep

/-- `Evaluate`. -/
def evaluate [NeZero depth] (p : Pipeline α depth) (input : Option α) (downstream : Bool) :
    Transfer α × Pipeline α depth :=
  (transfer input p.output (p.ready downstream) downstream,
    ⟨p.next input downstream, p.next_deep input downstream⟩)

/-- The items in the pipeline, oldest first. -/
def contents (p : Pipeline α depth) : List α := p.stages.reverse.reduceOption

/-- The stages with the items for which `keep` holds. -/
def filter (keep : α → Bool) (p : Pipeline α depth) : Pipeline α depth :=
  ⟨p.stages.map fun stage => stage.filter keep, by rw [List.length_map, p.deep]⟩

theorem contents_filter (keep : α → Bool) (p : Pipeline α depth) :
    (p.filter keep).contents = p.contents.filter keep := by
  unfold contents filter
  rw [← List.map_reverse]
  induction p.stages.reverse with
  | nil => rfl
  | cons stage rest ih =>
    cases stage with
    | none => exact ih
    | some a =>
      rw [List.map_cons, List.reduceOption_cons_of_some, List.filter_cons]
      cases hkeep : keep a with
      | true =>
        rw [Option.filter_some, hkeep, if_pos rfl, List.reduceOption_cons_of_some, ih]
        rfl
      | false =>
        rw [Option.filter_some, hkeep, if_neg Bool.false_ne_true,
          List.reduceOption_cons_of_none, ih]
        rfl

variable [NeZero depth] (p : Pipeline α depth) (input : Option α) (downstream : Bool)

@[simp] theorem evaluate_inputReady :
    (p.evaluate input downstream).1.inputReady = p.ready downstream := rfl

@[simp] theorem evaluate_output : (p.evaluate input downstream).1.output = p.output := rfl

theorem evaluate_contents : p.contents ++ crossing input (p.ready downstream) =
      crossing p.output downstream ++ (p.evaluate input downstream).2.contents := by
  have hdepth : p.stages ≠ [] := by
    intro hnil
    have hdeep := p.deep
    rw [hnil, List.length_nil] at hdeep
    exact NeZero.ne depth hdeep.symm
  obtain ⟨body, last, hsplit⟩ : ∃ body last, p.stages = body ++ [last] :=
    ⟨_, _, (List.dropLast_append_getLast hdepth).symm⟩
  have hout : p.output = last := by
    unfold output
    rw [hsplit, List.getLast?_concat, Option.join_some]
  have hcontents : p.contents = last.toList ++ body.reverse.reduceOption := by
    unfold contents
    rw [hsplit, List.reverse_concat]
    cases last <;> rfl
  have hevaluate : (p.evaluate input downstream).2.contents =
      if p.ready downstream then body.reverse.reduceOption ++ input.toList else p.contents := by
    unfold contents evaluate next
    dsimp only
    split
    · rw [hsplit, List.dropLast_concat, List.reverse_cons, List.reduceOption_append]
      cases input <;> rfl
    · rfl
  have hready : p.ready downstream = (downstream || last.isNone) := by rw [ready, hout]
  rw [hevaluate, hready, hout]
  cases downstream with
  | true =>
    rw [Bool.true_or, if_pos rfl, crossing_true, crossing_true, hcontents, List.append_assoc]
  | false =>
    cases last with
    | none =>
      rw [hcontents]
      rfl
    | some a => exact List.append_nil _

theorem evaluate_countP (q : α → Bool) :
    p.contents.countP q + (crossing input (p.ready downstream)).countP q =
      (crossing p.output downstream).countP q +
        (p.evaluate input downstream).2.contents.countP q := by
  rw [← List.countP_append, evaluate_contents, List.countP_append]

end Pipeline

/-! ## Serial units -/

/-- A unit that holds one item for a number of edges and until it is taken. -/
structure Divider (α : Type) where
  latency : Nat
  loaded : Option α := none
  remaining : Nat := 0

namespace Divider

def output (d : Divider α) : Option α := if d.remaining ≠ 0 then none else d.loaded

def ready (d : Divider α) : Bool := d.loaded.isNone

/-- `Evaluate`. -/
def evaluate (d : Divider α) (input : Option α) (downstream : Bool) : Transfer α × Divider α :=
  let t := transfer input d.output d.ready downstream
  (t, { d with
    loaded := if t.accepted then input else if t.completed then none else d.loaded
    remaining := if t.accepted then d.latency - 1 else d.remaining - 1 })

def filter (keep : α → Bool) (d : Divider α) : Divider α :=
  if d.loaded.all keep then d else { d with loaded := none, remaining := 0 }

theorem loaded_filter (keep : α → Bool) (d : Divider α) :
    (d.filter keep).loaded.toList = d.loaded.toList.filter keep := by
  unfold filter
  cases hloaded : d.loaded with
  | none => simp [hloaded]
  | some a => cases hkeep : keep a <;> simp [hkeep, hloaded]

variable (d : Divider α) (input : Option α) (downstream : Bool)

@[simp] theorem evaluate_inputReady : (d.evaluate input downstream).1.inputReady = d.ready := rfl

theorem evaluate_loaded : d.loaded.toList ++ crossing input d.ready =
      crossing d.output downstream ++ (d.evaluate input downstream).2.loaded.toList := by
  unfold evaluate transfer ready output
  cases hloaded : d.loaded with
  | none => cases input <;> simp
  | some a => by_cases hwait : d.remaining = 0 <;> cases downstream <;> cases input <;> simp [hwait]

theorem evaluate_countP (p : α → Bool) :
    d.loaded.toList.countP p + (crossing input d.ready).countP p =
      (crossing d.output downstream).countP p +
        (d.evaluate input downstream).2.loaded.toList.countP p := by
  rw [← List.countP_append, evaluate_loaded, List.countP_append]

end Divider

end Elastic
