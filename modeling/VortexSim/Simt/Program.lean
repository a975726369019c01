import VortexSim.State.View
import VortexSim.State.Apply

/-!
# Programs of nested divergence regions

A region is a SPLIT, a body and a JOIN.  When the SPLIT diverges the body runs once for
each side: the first JOIN goes back to the start of the body with the other lanes, the
second one closes the region.  Inside the body a branch tells the two sides apart.

`Program.run` executes a program from instruction memory.  Every instruction is fetched at
the PC of the warp, decoded, evaluated and staged by the functions of the packages `isa`
and `state`, with any environment that answers its requests.  The structure of the program
decides only which word is expected there, so a warp whose PC leaves the program is reported
as `lost`.
-/

namespace VortexSim

open Checked

/-- The word at each address of instruction memory. -/
abbrev Code := Word → Word

/-- The address `n` words after `pc`. -/
def pcAfter (pc : Word) (n : Nat) : Word := pc + BitVec.ofNat 32 (4 * n)

/-- A structured program.  `branch` tests, runs `fall` and jumps over `taken`, or goes to
`taken` at once. -/
inductive Program where
  | skip
  | instr (word : Word)
  | seq (first second : Program)
  | branch (test jump : Word) (fall taken : Program)
  | region (split join : Word) (body : Program)

/-- Words of instruction memory that a program takes. -/
def Program.size : Program → Nat
  | skip => 0
  | instr _ => 1
  | seq first second => first.size + second.size
  | branch _ _ fall taken => fall.size + 2 + taken.size
  | region _ _ body => body.size + 2

/-- The program stands in instruction memory from `pc` on, with its branch and jump targets
resolved. -/
def Program.LaidOut (code : Code) : Program → Word → Prop
  | skip, _ => True
  | instr word, pc => code pc = word
  | seq first second, pc => first.LaidOut code pc ∧ second.LaidOut code (pcAfter pc first.size)
  | branch test jump fall taken, pc =>
    code pc = test ∧ fall.LaidOut code (pcAfter pc 1) ∧ code (pcAfter pc (fall.size + 1)) = jump ∧
      taken.LaidOut code (pcAfter pc (fall.size + 2)) ∧
      (∀ d, decode test = .ok d → pc + d.immediate = pcAfter pc (fall.size + 2)) ∧
      ∀ d, decode jump = .ok d →
        pcAfter pc (fall.size + 1) + d.immediate = pcAfter pc (fall.size + 2 + taken.size)
  | region split join body, pc =>
    code pc = split ∧ body.LaidOut code (pcAfter pc 1) ∧ code (pcAfter pc (body.size + 1)) = join

/-! ## Well-nested programs -/

/-- An instruction that leaves the thread mask and the stack alone and goes on to the next
word: no TMC, PRED, SPLIT or JOIN, and no branch, jump, trap or trap return. -/
def Decoded.Ordinary (d : Decoded) : Prop :=
  d.control = .none ∨ d.control = .warpSpawn ∨ d.control = .warpSync

/-- No instruction of the program writes register `r`. -/
def Program.Avoids (r : Register) : Program → Prop
  | skip => True
  | instr word => ∀ d, decode word = .ok d → r ∉ d.destinations
  | seq first second => first.Avoids r ∧ second.Avoids r
  | branch _ jump fall taken =>
    (∀ d, decode jump = .ok d → r ∉ d.destinations) ∧ fall.Avoids r ∧ taken.Avoids r
  | region split _ body => (∀ d, decode split = .ok d → r ∉ d.destinations) ∧ body.Avoids r

/-- The JOIN of a region reads the register that its SPLIT writes. -/
structure RegionWords (split join : Word) (r : Register) : Prop where
  split : ∃ d, decode split = .ok d ∧ d.name = .split ∧ d.destinations = [r]
  join : ∃ d, decode join = .ok d ∧ d.name = .join ∧ d.sources = [r]
  nonzero : ¬ (r.file = .integer ∧ r.index = 0)

/-- Every region keeps its stack pointer in a register that its body does not write. -/
def Program.WellNested : Program → Prop
  | skip => True
  | instr word => ∃ d, decode word = .ok d ∧ d.Ordinary
  | seq first second => first.WellNested ∧ second.WellNested
  | branch test jump fall taken =>
    (∃ d, decode test = .ok d ∧ d.control = .branch) ∧
      (∃ d, decode jump = .ok d ∧ d.name = .jal) ∧ fall.WellNested ∧ taken.WellNested
  | region split join body => (∃ r, RegionWords split join r ∧ body.Avoids r) ∧ body.WellNested

/-! ## Execution -/

/-- Why a run stops: an ordinary instruction fails, a SPLIT or a JOIN fails, or the PC is
not where the program expects it. -/
inductive Failure where
  | ordinary (err : Error)
  | split (err : Error)
  | join (err : Error)
  | lost (pc : Word)
  deriving DecidableEq

/-- One execution of a region: the warp at its SPLIT, the mask each side started with and
the warp behind its last JOIN. -/
structure RegionRun where
  split : Word
  before : WarpState
  sides : List LaneMask
  after : WarpState

/-- What the core and its memory tell one instruction. -/
structure Surroundings where
  context : ReadContext
  responses : List MemoryRequest → List MemoryResponse
  packedResponses : List PackedLoadRequest → List PackedLoadResponse

/-- The rest of the system, with states in `σ`.  It moves with every instruction. -/
structure Environment (σ : Type) where
  view : σ → Surroundings
  next : σ → WarpState → Word → σ

/-- The effects of an instruction once the memory has answered its requests. -/
def WarpState.complete (w : WarpState) (around : Surroundings) (d : Decoded)
    (e : InstructionEffects) : Except Error InstructionEffects :=
  if e.memoryRequests ≠ [] then
    w.completeMemory d w.activeMask (around.responses e.memoryRequests)
  else if e.packedLoads ≠ [] then
    w.completePackedLoad d w.activeMask (around.packedResponses e.packedLoads)
  else .ok e

variable (sf : SoftFloat)

/-- Decode, evaluate, complete, stage and commit one word. -/
def WarpState.executeWord (around : Surroundings) (w : WarpState) (word : Word) :
    Except Error WarpState := do
  let d ← decode word
  let issued ← w.evaluate sf d around.context
  let e ← w.complete around d issued
  rejectIf (e.faults ≠ []) (.text "warp: architectural fault")
  let s ← w.stageEffects e
  pure s.after

variable {σ : Type} (env : Environment σ) (code : Code)

/-- Execute the word at the PC, which the program expects to be `word`. -/
def Environment.fetchExecute (w : WarpState) (s : σ) (word : Word) (failure : Error → Failure) :
    Except Failure (WarpState × σ) :=
  if code w.pc = word then do
    let w' ← (w.executeWord sf (env.view s) word).mapError failure
    pure (w', env.next s w word)
  else .error (.lost w.pc)

/-- Execute a program, with a record of every region executed.  A region whose row is still
on the stack after the JOIN has its second side to run. -/
def Program.run : Program → WarpState → σ → Except Failure (WarpState × σ × List RegionRun)
  | skip, w, s => .ok (w, s, [])
  | instr word, w, s => do
      let (w', s') ← env.fetchExecute sf code w s word .ordinary
      pure (w', s', [])
  | seq first second, w, s => do
      let (w₁, s₁, log₁) ← first.run w s
      let (w₂, s₂, log₂) ← second.run w₁ s₁
      pure (w₂, s₂, log₁ ++ log₂)
  | branch test jump fall taken, w, s => do
      let (w₁, s₁) ← env.fetchExecute sf code w s test .ordinary
      if w₁.pc = pcAfter w.pc 1 then do
        let (w₂, s₂, log) ← fall.run w₁ s₁
        let (w₃, s₃) ← env.fetchExecute sf code w₂ s₂ jump .ordinary
        pure (w₃, s₃, log)
      else taken.run w₁ s₁
  | region split join body, w, s => do
      let (w₁, s₁) ← env.fetchExecute sf code w s split .split
      let (w₂, s₂, log₁) ← body.run w₁ s₁
      let (w₃, s₃) ← env.fetchExecute sf code w₂ s₂ join .join
      if w₃.divergence.writePointer = w.divergence.writePointer then
        pure (w₃, s₃, log₁ ++ [⟨split, w, [w₁.activeMask], w₃⟩])
      else do
        let (w₄, s₄, log₂) ← body.run w₃ s₃
        let (w₅, s₅) ← env.fetchExecute sf code w₄ s₄ join .join
        pure (w₅, s₅, log₁ ++ log₂ ++ [⟨split, w, [w₁.activeMask, w₃.activeMask], w₅⟩])

end VortexSim
