import VortexSim.Isa.Effects

/-!
# The CSR catalog

`csrCatalog` is the single authority for CSR addresses: every address with its scope, the
value it reads as and whether a write reaches storage.  `readCSR` computes the value of a
catalog row from the per-instruction view `CSRView`.
-/

namespace VortexSim

/-- `FrozenLocalMemBase`. -/
def frozenLocalMemBase : Word := 0xffff0000#32

/-- `FrozenMISA`: RV32 with the F, I, M, U and X bits. -/
def frozenMISA : Word := 0x40901120#32

/-- `FrozenCounterBits`: implemented width of the counters. -/
def frozenCounterBits : Nat := 44

/-- What a read of a CSR returns. -/
inductive CSRValueKind where
  | zero
  | fflags
  | frm
  | fcsr
  | mstatus
  | mtvec
  | mscratch
  | mepc
  | mcause
  | mtval
  | misa
  | threadID
  | hartID
  | warpID
  | coreID
  | activeWarps
  | activeThreads
  | numThreads
  | numWarps
  | numCores
  | localMemBase
  | numBarriers
  | ctaID
  | ctaRank
  | ctaSize
  | ctaThreadX
  | ctaThreadY
  | ctaThreadZ
  | ctaBlockX
  | ctaBlockY
  | ctaBlockZ
  | ctaBlockDimX
  | ctaBlockDimY
  | ctaBlockDimZ
  | ctaGridDimX
  | ctaGridDimY
  | ctaGridDimZ
  | ctaLMemAddress
  | ctaClusterSize
  | ctaEntry
  | cycleLow
  | cycleHigh
  | instretLow
  | instretHigh
  deriving Repr, DecidableEq

/-- One CSR address.  `writable` means that a write reaches storage, `writeIgnored` that a
write is accepted and dropped. -/
structure CSREntry where
  address : Nat
  scope : CSRScope
  value : CSRValueKind
  writable : Bool := false
  writeIgnored : Bool := false
  writeMask : Word := 0#32
  deriving Repr, DecidableEq

/-! ## Rows -/

/-- A read-only row. -/
def csrRow (address : Nat) (scope : CSRScope) (value : CSRValueKind) : CSREntry :=
  { address, scope, value }

/-- A row with storage in the warp. -/
def csrRW (address : Nat) (value : CSRValueKind) (mask : Word) : CSREntry :=
  { csrRow address .warp value with writable := true, writeMask := mask }

/-- A row that reads as zero and drops writes. -/
def csrZero (address : Nat) : CSREntry :=
  { csrRow address .constant .zero with writeIgnored := true }

/-- The two zero rows of one user counter slot. -/
def csrCounterSlot (slot : Nat) : List CSREntry :=
  [csrRow (0xb03 + slot) .counter .zero, csrRow (0xb83 + slot) .counter .zero]

/-- `buildCSRCatalog`. -/
def csrCatalog : List CSREntry :=
  [ csrRW 0x001 .fflags 0x1f#32, csrRW 0x002 .frm 0x07#32,
    csrRW 0x003 .fcsr 0xff#32,
    -- satp is disabled
    csrZero 0x180,
    csrRW 0x300 .mstatus 0xffffffff#32,
    csrRow 0x301 .constant .misa,
    -- medeleg, mideleg, mie
    csrZero 0x302,
    csrZero 0x303,
    csrZero 0x304,
    csrRW 0x305 .mtvec 0xffffffff#32,
    csrRW 0x340 .mscratch 0xffffffff#32,
    csrRW 0x341 .mepc 0xffffffff#32,
    csrRW 0x342 .mcause 0xffffffff#32,
    csrRW 0x343 .mtval 0xffffffff#32,
    -- pmpcfg0, pmpaddr0, mnstatus
    csrZero 0x3a0,
    csrZero 0x3b0,
    csrZero 0x744,
    csrRow 0xcc0 .lane .threadID,
    csrRow 0xcc1 .warp .warpID,
    csrRow 0xcc2 .core .coreID,
    csrRow 0xcc3 .core .activeWarps,
    csrRow 0xcc4 .warp .activeThreads,
    csrRow 0xcd0 .cta .ctaID,
    csrRow 0xcd1 .cta .ctaRank,
    csrRow 0xcd2 .cta .ctaSize,
    csrRow 0xcd3 .lane .ctaThreadX,
    csrRow 0xcd4 .lane .ctaThreadY,
    csrRow 0xcd5 .lane .ctaThreadZ,
    csrRow 0xcd6 .cta .ctaBlockX,
    csrRow 0xcd7 .cta .ctaBlockY,
    csrRow 0xcd8 .cta .ctaBlockZ,
    csrRow 0xcd9 .cta .ctaBlockDimX,
    csrRow 0xcda .cta .ctaBlockDimY,
    csrRow 0xcdb .cta .ctaBlockDimZ,
    csrRow 0xcdc .cta .ctaGridDimX,
    csrRow 0xcdd .cta .ctaGridDimY,
    csrRow 0xcde .cta .ctaGridDimZ,
    csrRow 0xcdf .cta .ctaLMemAddress,
    csrRow 0xce0 .cta .ctaClusterSize,
    csrRow 0xce1 .cta .ctaEntry,
    csrRow 0xfc0 .constant .numThreads,
    csrRow 0xfc1 .constant .numWarps,
    csrRow 0xfc2 .constant .numCores,
    csrRow 0xfc3 .constant .localMemBase,
    csrRow 0xfc4 .constant .numBarriers,
    -- mvendorid, marchid, mimpid
    csrRow 0xf11 .constant .zero,
    csrRow 0xf12 .constant .zero,
    csrRow 0xf13 .constant .zero,
    csrRow 0xf14 .lane .hartID,
    csrRow 0xb00 .counter .cycleLow,
    csrRow 0xb80 .counter .cycleHigh,
    csrRow 0xb02 .counter .instretLow,
    csrRow 0xb82 .counter .instretHigh ] ++
  (List.range 32).flatMap csrCounterSlot

/-- `findCSR`, and `csrEntry` of package `state`: the first row with the address. -/
def findCSR (address : Nat) : Option CSREntry :=
  csrCatalog.find? fun entry => entry.address == address

/-! ## Views -/

/-- Context supplied by the CTA owner. -/
structure CTAView where
  id : Word := 0#32
  rank : Word := 0#32
  size : Word := 0#32
  threadCoordinates : Fin 3 → LaneValues := fun _ _ => 0#32
  blockID : Fin 3 → Word := fun _ => 0#32
  blockDimensions : Fin 3 → Word := fun _ => 0#32
  gridDimensions : Fin 3 → Word := fun _ => 0#32
  blockSize : Word := 0#32
  warpStep : Fin 3 → Word := fun _ => 0#32
  parameterAddress : Word := 0#32
  localMemoryAddress : Word := 0#32
  clusterDimensions : Fin 3 → Word := fun _ => 0#32
  clusterSize : Word := 0#32
  entry : Word := 0#32
  deriving DecidableEq

/-- The counters of the core. -/
structure CounterView where
  cycle : BitVec 64 := 0#64
  instret : BitVec 64 := 0#64
  deriving Repr, DecidableEq

/-- What one CSR instruction sees. -/
structure CSRView where
  warpID : Nat
  coreID : Nat
  activeWarps : BitVec 8
  threadMask : LaneMask
  savedThreadMask : LaneMask
  fcsr : Word
  mstatus : Word
  mtvec : Word
  mscratch : Word
  mepc : Word
  mcause : Word
  mtval : Word
  cta : CTAView
  counters : CounterView

/-- The same value in every lane. -/
def filledValues (value : Word) : LaneValues := fun _ => value

/-- The high part of a counter, cut to the implemented bits. -/
def counterHigh (counter : BitVec 64) : Word :=
  (counter >>> 32).setWidth 32 &&& (BitVec.ofNat 32 (2 ^ (frozenCounterBits - 32) - 1))

/-- The value of a CSR in every lane. -/
def readCSR (kind : CSRValueKind) (view : CSRView) : LaneValues :=
  match kind with
  | .fflags => filledValues (view.fcsr &&& 0x1f#32)
  | .frm => filledValues ((view.fcsr >>> 5) &&& 0x07#32)
  | .fcsr => filledValues (view.fcsr &&& 0xff#32)
  | .mstatus => filledValues view.mstatus
  | .mtvec => filledValues view.mtvec
  | .mscratch => filledValues view.mscratch
  | .mepc => filledValues view.mepc
  | .mcause => filledValues view.mcause
  | .mtval => filledValues view.mtval
  | .misa => filledValues frozenMISA
  | .threadID => fun lane => BitVec.ofNat 32 lane.val
  | .hartID => fun lane =>
    BitVec.ofNat 32 (view.coreID * frozenWarpCount * frozenLaneCount +
      view.warpID * frozenLaneCount + lane.val)
  | .warpID => filledValues (BitVec.ofNat 32 view.warpID)
  | .coreID => filledValues (BitVec.ofNat 32 view.coreID)
  | .activeWarps => filledValues (view.activeWarps.setWidth 32)
  | .activeThreads => filledValues (view.threadMask.setWidth 32)
  | .numThreads => filledValues (BitVec.ofNat 32 frozenLaneCount)
  | .numWarps => filledValues (BitVec.ofNat 32 frozenWarpCount)
  | .numCores => filledValues 1#32
  | .localMemBase => filledValues frozenLocalMemBase
  | .numBarriers => filledValues (BitVec.ofNat 32 frozenBarrierCount)
  | .ctaID => filledValues view.cta.id
  | .ctaRank => filledValues view.cta.rank
  | .ctaSize => filledValues view.cta.size
  | .ctaThreadX => view.cta.threadCoordinates 0
  | .ctaThreadY => view.cta.threadCoordinates 1
  | .ctaThreadZ => view.cta.threadCoordinates 2
  | .ctaBlockX => filledValues (view.cta.blockID 0)
  | .ctaBlockY => filledValues (view.cta.blockID 1)
  | .ctaBlockZ => filledValues (view.cta.blockID 2)
  | .ctaBlockDimX => filledValues (view.cta.blockDimensions 0)
  | .ctaBlockDimY => filledValues (view.cta.blockDimensions 1)
  | .ctaBlockDimZ => filledValues (view.cta.blockDimensions 2)
  | .ctaGridDimX => filledValues (view.cta.gridDimensions 0)
  | .ctaGridDimY => filledValues (view.cta.gridDimensions 1)
  | .ctaGridDimZ => filledValues (view.cta.gridDimensions 2)
  | .ctaLMemAddress => filledValues view.cta.localMemoryAddress
  | .ctaClusterSize => filledValues view.cta.clusterSize
  | .ctaEntry => filledValues view.cta.entry
  | .cycleLow => filledValues (view.counters.cycle.setWidth 32)
  | .cycleHigh => filledValues (counterHigh view.counters.cycle)
  | .instretLow => filledValues (view.counters.instret.setWidth 32)
  | .instretHigh => filledValues (counterHigh view.counters.instret)
  | .zero => filledValues 0#32

end VortexSim
