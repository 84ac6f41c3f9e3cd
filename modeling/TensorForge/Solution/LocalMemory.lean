import TensorForge.Value.Operations

/-!
# Layout of local memory

The tiles of both inputs lie side by side. With prefetching there is a second copy of both behind a power of two, so
that the copies are exchanged by flipping one address bit.
-/

namespace TensorForge.Tile

open Decimal

variable (a b : Int) (n : Int)

def quot : Result Int := if b == 0 then .error .divisionByZero else .ok (a.fdiv b)
def rem : Result Int := if b == 0 then .error .divisionByZero else .ok (a.fmod b)
def isExact : Bool := n.natAbs < .pow 2 53

def ratioUp : Result Int :=
  if b == 0 then .error .divisionByZero else if isExact a && isExact b then .ok (-(.fdiv (-a) b))
  else .ok (ceil (ofInt a / ofInt b))

def ceilLog2 (n : Nat) : Nat := if n <= 1 then 0 else .log2 (n - 1) + 1

/-- The smallest power of two that is not smaller; none for numbers below one. -/
def powerUp : Result Int := if n <= 0 then .error .badValue else .ok (Nat.pow 2 (ceilLog2 n.toNat))

def isPowerOfTwo : Result Bool :=
  if n <= 0 then .error .badValue else .ok (.pow 2 (.log2 n.toNat) == n.toNat)

/-- For a non-negative number and a positive `b`. -/
def nextMultiple : Int := .fdiv (a + b - 1) b * b

end TensorForge.Tile

/-!
## Packed indices

Several free or batch indices may be packed into one grid dimension.
-/

namespace TensorForge.Packing

def masked (n mask : Int) : Int := (n.fmod 4).toNat &&& mask.toNat

structure Scheme where
  (free batch : Ints)
  packFree : Value
  packBatch : Int
  deriving Inhabited

def Scheme.packed (s : Scheme) (index mask : Int) : Value :=
  if s.free.contains index && s.packFree.truthy then s.packFree
  else if s.batch.contains index then masked s.packBatch mask
  else false

def extractable (packed : Ints) (index : Int) : Bool := packed.dropLast.contains index

end TensorForge.Packing

namespace TensorForge.Tile

/-- Sizes are in elements. -/
structure RegionShape where
  (depth macroTile pad : Int)
  /-- Elements between paddings, when the summation side comes first; zero pads every row. -/
  padInterval : Int
  sumFirst : Bool
  deriving DecidableEq

/-- In doubles, cut off: exact when the numbers are small and the divisor is a power of two or divides the dividend. -/
def scaled (count interval step : Int) : Int :=
  let even := count.fmod interval == 0 || .pow 2 (.log2 interval.toNat) == interval.toNat
  if even && 0 < interval && isExact count && isExact step && isExact (count * step) then
    .tdiv (count * step) interval
  else Decimal.truncate (Decimal.ofInt count / Decimal.ofInt interval * Decimal.ofInt step)

def RegionShape.elems (r : RegionShape) : Int :=
  if r.sumFirst then
    if r.padInterval == 0 then (r.depth + r.pad) * r.macroTile
    else scaled (r.depth * r.macroTile) r.padInterval (r.padInterval + r.pad)
  else r.depth * (r.macroTile + r.pad)

structure LocalLayout where
  (sizeB alignedA alignedB : Int)
  second : Option Int
  total : Int
  deriving DecidableEq

/-- `prefetch` asks for a second copy. -/
def layOut (a b : RegionShape) (align : Int) (prefetch : Bool) : Result LocalLayout := do
  let sizeB := b.elems
  let alignedA := nextMultiple a.elems align
  let alignedB := nextMultiple sizeB align
  let second <- if prefetch then some <$> powerUp (alignedA + alignedB) else pure none
  return { sizeB, alignedA, alignedB, second, total := second.getD 0 + alignedA + sizeB }

/-!
## Matrix instructions

An instruction multiplies `b` blocks of `m` by `k` and `k` by `n` elements in one wave. The blocks lie in `bm` rows
and `bn` columns; waves and wave tiles repeat them.
-/

structure MatrixBlock where
  (m n k b bm bn : Int)
  deriving DecidableEq

def MatrixBlock.toList (x : MatrixBlock) : Ints := [x.m, x.n, x.k, x.b, x.bm, x.bn]

structure MatrixWaves where
  block : MatrixBlock
  (group0 group1 tile0 tile1 inputs : Int)
  deriving DecidableEq

structure LongForm where
  (tile0 tile1 group0 group1 : Int)
  deriving DecidableEq

/-- Reads the long form `[m, n, k, b, bm, wt0, wt1, w0, w1]`. -/
def longForm (wavefront : Int) (ns : Ints) : Option (Result LongForm) :=
  match ns with
  | [m, n, _, _, bm, t0, t1, w0, w1] => some do
    let group0 := bm * m * w0
    return { tile0 := t0, tile1 := t1 * n, group0, group1 := <- quot (w0 * w1 * wavefront) group0 }
  | _ => none

def arrange (m n k b group0 group1 tile0 tile1 wavefront : Int) : Result MatrixWaves := do
  let rows <- quot (if group0 < m then m else group0) m
  let bm := min rows b
  let bn <- quot b bm
  let waves <- quot (group0 * group1) wavefront
  let w0 := min (<- quot rows bm) waves
  return { block := ⟨m, n, k, b, bm, bn⟩, group0 := w0, group1 := <- quot waves w0, tile0,
           tile1 := <- quot tile1 n, inputs := <- quot (m * k * b) 64 }

structure ThreadLayout where
  (tile0 tile1 group0 group1 : Int)
  deriving DecidableEq

/-- The elements that one thread gets side by side. -/
def outputsOf (m : Int) (double : Bool) : Int := if m == 4 && double then 1 else 4

def threadLayout (x : MatrixBlock) (group0 group1 tile0 tile1 wavefront outs : Int) : Result ThreadLayout := do
  if x.m == 4 then
    return { tile0 := tile0 * outs, tile1, group0 := <- quot (group0 * x.m * x.bm) outs,
             group1 := group1 * x.n * x.bn }
  else
    return { tile0 := x.bm * tile0 * (<- quot (x.m * x.n) wavefront), tile1 := x.bn * tile1,
             group0 := group0 * (<- quot wavefront x.n), group1 := group1 * x.n }

end TensorForge.Tile
