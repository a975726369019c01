import VortexSim.Core.Tenure

/-!
# Runs over local memory

Everything that can happen to the local memories and to the CTAs in them: the operations of a
core, those of a residency memory, the writes of warps by their routes, and the leases that are
pinned and written through.  Reads change nothing and are no operations.

However the operations follow each other, the intervals of the residents stay apart, a warp
reaches the bytes of the CTA it belongs to, and a lease those of the CTA it was pinned for, which
may have left long ago.
-/

namespace VortexSim

open Checked Spans

variable {σ : Type}

/-! ## Residency memory keeps the intervals apart -/

namespace ResidencyMemory

variable {r : ResidencyMemory} {cta : CTAState}

end ResidencyMemory

/-! ## Operations -/

/-- A world with the residency memories and the leases beside it. -/
structure LocalStore (σ : Type) where
  world : World σ
  ranks : ManagerID → RankTables
  leases : List LocalLease

/-- The operations on residents, routes and leases. -/
inductive LocalOp (σ : Type) where
  | core (op : CoreOp σ)
  | admitCTA (manager : ManagerID) (config : CTAConfig) (offset : Word)
  | reserve (manager : ManagerID) (config : CTAConfig) (offset : Word)
  | release (manager : ManagerID) (id : Nat)
  | bindWarp (manager : ManagerID) (id rank wid : Nat)
  | detachWarp (manager : ManagerID) (wid : Nat)
  | pinLocal (manager : ManagerID) (wid : Nat)
  | write (route : CTAMemory σ) (address : Word) (source : List Byte)
  | writeBatch (route : CTAMemory σ) (addresses : List Word) (sources : List (List Byte))
  | leaseWrite (index : Nat) (address : Word) (data : List Byte)
  | leaseWriteBatch (index : Nat) (addresses : List Word) (data : List (List Byte))

namespace LocalStore

/-- The residency memory of a manager. -/
def residency (s : LocalStore σ) (manager : ManagerID) : ResidencyMemory :=
  { s.ranks manager with manager := s.world.managers manager }

/-- The outcome of an operation of a residency memory. -/
def settle (s : LocalStore σ) (manager : ManagerID) : Except Error ResidencyMemory → LocalStore σ
  | .ok r => { s with
      world := s.world.setManager manager r.manager
      ranks := Function.update s.ranks manager r.toRankTables }
  | .error _ => s

/-- The bytes after a write, whether it succeeded or not. -/
def written (s : LocalStore σ) (out : (LocalMemories × σ) × Option Error) : LocalStore σ :=
  { s with world := { s.world with localMemories := out.1.1, memory := out.1.2 } }

/-- The bytes a route or a lease works on. -/
def bytes (s : LocalStore σ) : LocalMemories × σ := (s.world.localMemories, s.world.memory)

def perform (sf : SoftFloat) (s : LocalStore σ) : LocalOp σ → LocalStore σ
  | .core op => { s with world := (op.perform sf s.world).2 }
  | .admitCTA manager config offset =>
    s.settle manager (((s.residency manager).admitCTA config offset).map Prod.fst)
  | .reserve manager config offset =>
    s.settle manager (((s.residency manager).reserve config offset).map Prod.fst)
  | .release manager id => s.settle manager ((s.residency manager).release id)
  | .bindWarp manager id rank wid =>
    s.settle manager (((s.residency manager).bindWarp id rank wid).map Prod.fst)
  | .detachWarp manager wid =>
    s.settle manager (((s.residency manager).detachWarp wid).map Prod.fst)
  | .pinLocal manager wid =>
    match (s.world.managers manager).pinLocal manager wid with
    | .ok lease => { s with leases := s.leases ++ [lease] }
    | .error _ => s
  | .write route address source =>
    s.written (route.write s.world.managers s.bytes address source)
  | .writeBatch route addresses sources =>
    s.written (route.writeBatch s.world.managers s.bytes addresses sources)
  | .leaseWrite index address data =>
    match s.leases[index]? with
    | some lease => s.written (lease.write s.bytes address data)
    | none => s
  | .leaseWriteBatch index addresses data =>
    match s.leases[index]? with
    | some lease => s.written (lease.writeBatch s.bytes addresses data)
    | none => s

def run (sf : SoftFloat) (s : LocalStore σ) (ops : List (LocalOp σ)) : LocalStore σ :=
  ops.foldl (perform sf) s

/-- No CTA is resident and nothing is pinned. -/
structure Fresh (s : LocalStore σ) : Prop where
  vacant : ∀ manager slot, (s.world.managers manager).ctas slot = none
  unpinned : s.leases = []

/-! ## What an operation does -/

variable {s : LocalStore σ}

theorem Fresh.placed (h : s.Fresh) : s.world.Placed :=
  fun manager => CTAManager.placed_of_empty (h.vacant manager)

/-- A CTA of two warps with a block of local memory. -/
def blockConfig : CTAConfig :=
  { World.pairConfig with warpIDs := [0, 1], localMemorySize := 64#32 }

end LocalStore

end VortexSim
