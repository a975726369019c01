import VortexSim.Isa.Types

/-!
# Line requests

The caches talk to the backing memory in sectors of 64 bytes.  A read returns the sector, a
write applies the bytes its mask enables, and a visibility ticket reports the first write that
failed.  `serveLine` is the access itself; when it happens and when its response is returned is
up to the backend.

The owner of the backing bytes is outside the package.  Its states form a type `σ`, and
`AtomicService` has the two calls a backend makes on it.
-/

namespace VortexSim.Memsys

def sectorBytes : Nat := 64

/-- The bytes of one sector. -/
abbrev Line := Fin sectorBytes → Byte

/-- One bit for every byte of a sector. -/
abbrev LineMask := BitVec sectorBytes

/-- What a request asks for. -/
inductive Operation where
  | read
  | write
  | visibility
  /-- A value above the declared constants. -/
  | unknown (raw : Nat)
  deriving Repr, DecidableEq

/-- The origin of a request. -/
structure Identity where
  kernel : Nat := 0
  cta : Nat := 0
  warpGeneration : Nat := 0
  token : Nat := 0
  epoch : Nat := 0
  subrequest : Nat := 0
  transaction : Nat := 0
  warp : Nat := 0
  deriving Repr, DecidableEq

/-- `Request`: one sector access of a client. -/
structure LineRequest where
  identity : Identity
  tag : Nat
  operation : Operation
  address : Word
  byteEnable : LineMask
  data : Line
  deriving DecidableEq

/-- The answer to a request. -/
structure Response where
  identity : Identity
  tag : Nat
  operation : Operation
  data : Line
  byteEnable : LineMask
  acceptedCycle : Nat
  completedCycle : Nat
  sequence : Nat
  err : Option Error
  deriving DecidableEq

/-- A valid reply on one port, with the answer of its ready signal. -/
structure Reply where
  delivered : Bool
  response : Response
  deriving DecidableEq

/-- What one edge shows on the ports of `n` clients. -/
structure Edge (n : Nat) where
  accepted : Fin n → Bool
  replies : Fin n → Option Reply

/-- `AtomicMemoryService`, as far as a backend uses it. -/
structure AtomicService (σ : Type) where
  read : σ → Word → Nat → Except Error (List Byte)
  writeBatch : σ → List Word → List (List Byte) → σ × Option Error

/-- The bytes of a sector with their enable bits. -/
def enabledBytes (mask : LineMask) (data : Line) : List (Bool × Byte) :=
  (List.finRange sectorBytes).map fun j => (mask.getLsbD j.val, data j)

/-- The maximal runs of enabled bytes, each with its offset, counted from `j` on. -/
def byteRuns (j : Nat) : List (Bool × Byte) → List (Nat × List Byte)
  | [] => []
  | (false, _) :: rest => byteRuns (j + 1) rest
  | (true, b) :: rest =>
    match byteRuns (j + 1) rest with
    | [] => [(j, [b])]
    | (start, bytes) :: more =>
      if start = j + 1 then (j, b :: bytes) :: more
      else (j, [b]) :: (start, bytes) :: more

/-- The backing owner with the first error of a write. -/
structure LineState (σ : Type) where
  owner : σ
  writeError : Option Error := none

/-- Data and error of a response. -/
structure LineAnswer where
  data : Line := fun _ => 0#8
  err : Option Error := none
  deriving DecidableEq

/-- The runs of a write handed to the owner in one batch.  Without an enabled byte the owner
is not called. -/
def writeLine {σ : Type} (service : AtomicService σ) (s : LineState σ) (r : LineRequest) :
    LineState σ × LineAnswer :=
  let runs := byteRuns 0 (enabledBytes r.byteEnable r.data)
  if runs.length = 0 then (s, {})
  else
    let (owner, err) := service.writeBatch s.owner
      (runs.map fun run => r.address + BitVec.ofNat 32 run.1) (runs.map Prod.snd)
    ({ owner, writeError := s.writeError.or err }, { err })

/-- One access to the backing owner. -/
def serveLine {σ : Type} (service : AtomicService σ) (s : LineState σ) (r : LineRequest) :
    LineState σ × LineAnswer :=
  match r.operation with
  | .read =>
    match service.read s.owner r.address sectorBytes with
    | .ok bytes => (s, { data := fun j => bytes.getD j 0#8 })
    | .error err => (s, { err := some err })
  | .write => writeLine service s r
  | .visibility => (s, { err := s.writeError })
  | .unknown _ => (s, {})

/-- The byte mask a response has: a read returns the whole sector. -/
def LineRequest.responseMask (r : LineRequest) : LineMask :=
  match r.operation with
  | .read => BitVec.allOnes sectorBytes
  | .visibility => BitVec.ofNat sectorBytes 0
  | .write | .unknown _ => r.byteEnable

end VortexSim.Memsys
