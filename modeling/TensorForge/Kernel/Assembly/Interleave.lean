import TensorForge.Kernel.Assembly.Spread

/-!
# The order of an iteration

An iteration reads from local memory for a later one, takes its share of loads and writes, waits for what it needs and
multiplies. These come one after the other, with the loads between the reads, or between single matrix instructions.
Then the wait is corrected to the number of operations that were started behind those it waits for.
-/

namespace TensorForge.Assembly

open Asm Emit Item

structure Iter where
  u : Int
  (reads pointerWrites pointerReads : Items := [])
  wait : WaitCode := .fixed []
  (mac waitWrites sync : Items := [])
  packs : List Packing := []

namespace Interleave

def total (count : Item -> Nat) (items : Items) : Nat := items.foldl (fun n i => n + count i) 0

variable (k : KernelSpec)

def perPack : Nat := if k.dataType.isInt8 then 3 else if k.dataType.isBFloat16 then 1 else 2

/-- Items for row `j` when they are dealt in groups of `per` to `rows` rows; only the first round, or all but it. -/
def dealt (rows per : Nat) (first : Bool) (j : Nat) (items : Items) : Items :=
  let round := rows * per
  (items.zipIdx.filter fun (_, e) => (e < round) == first && e % round / per == j).map (·.1)

def packLeaves (packs : List Packing) (name : Text) : Items :=
  match packs.find? (·.name == name) with
  | some p => leavesOf p.items
  | none => []

/-- In the order in which the matrix instructions need it. -/
def packOrder (joinedA joinedB : Nat) (packs : List Packing) : Emit Items := do
  let per := perPack k
  let rounds <- (upTo k.innerUnroll).mapM fun i => do
    let a := packLeaves packs s!"packA_I{i}"
    let b := packLeaves packs s!"packB_I{i}"
    if a.length % (joinedA * per) != 0 || b.length % (joinedB * per) != 0 then throw .outOfRange
    return (List.range (max joinedA joinedB)).flatMap fun j =>
      dealt joinedA per true j a ++ dealt joinedB per true j b ++
        dealt joinedA per false j a ++ dealt joinedB per false j b
  return rounds.flatten

/-- Packing code still to be placed, and how much is placed and needed. -/
structure Packer where
  items : Items
  (placed needA needB : Int := 0)

def Packer.one (per : Nat) (s : Packer) : Emit (Items × Packer) :=
  if s.items.length < per then throw .outOfRange
  else pure (s.items.take per, { s with items := s.items.drop per, placed := s.placed + per })

/-- Places packing code until `need` instructions are placed, idling when none is left. -/
def Packer.fill (per : Nat) (need : Int) : Nat -> Packer -> Array Item -> Emit (Array Item × Packer)
  | 0, s, acc => pure (acc, s)
  | fuel + 1, s, acc => do
    if s.placed >= need then return (acc, s)
    if s.items.isEmpty then
      fill per need fuel { s with placed := s.placed + 1 }
        (acc.push (plain ["s_nop ", "0"] "VALU packing writes to be consumed by matrix instruction"))
    else
      let (items, s) <- s.one per
      fill per need fuel s (acc ++ items)

variable (m : MatrixSpec)

def Packer.step (a b : Side) (i : Int) (s : Packer) : Emit (Array Item × Packer) := do
  if s.items.isEmpty then return (#[], s)
  let per := perPack k
  let tile := m.waveTileA * m.waveTileB
  let row <- quotient i (m.waveTileA + tile * (<- quotient i tile))
  let needA := if a.localRead.blockBytes < 4 then s.needA + if row == 0 then per else 0 else 0
  let needB := if b.localRead.blockBytes < 4 then s.needB + if i.fmod m.waveTileA == 0 then per else 0 else 0
  let title := comment0 s!"pack scheduling: packAIdx:{needA}, packBIdx:{needB}"
  let (out, s) <- [0, 1].foldlM (fun (out, s) _ =>
    if s.items.isEmpty then pure (out, s)
    else do
      let (items, s) <- s.one per
      pure (out ++ items, s)) (#[title], { s with needA, needB })
  let need := needA + needB + 2
  fill per need (need - s.placed).toNat s out

structure Ordered where
  (before after : Array Item := #[])
  /-- Started in front of the wait in the same iteration. -/
  (reads writes skippable : Int := 0)

variable (x : Iter) (loads writes : Items)

def inTurn : Ordered :=
  { before := (loads ++ x.waitWrites ++ x.sync ++ x.reads ++ writes ++ x.pointerWrites ++ x.pointerReads).toArray
    after := (x.packs.map Packing.item ++ x.mac).toArray }

def splitReads : Nat -> Items -> Items × Items
  | 0, items => ([], items)
  | _, [] => ([], [])
  | n + 1, i :: is =>
    let (a, b) := splitReads (if i.localReads > 0 then n else n + 1) is
    (i :: a, b)

def betweenReads : Ordered :=
  let items := leavesOf x.reads
  let count := total Item.localReads items
  let (a, b) := if count % 2 == 0 && count > 0 then splitReads (count / 2) items else (items, [])
  { before := (x.waitWrites ++ x.sync ++ a ++ loads ++ b ++ writes ++ x.pointerWrites ++ x.pointerReads).toArray
    after := (x.packs.map Packing.item ++ x.mac).toArray }

def priority (n : Nat) : Item := plain ["s_setprio ", toString n] "Raise priority while processing macs"

def raised : Emit Ordered := do
  let a <- side true
  let b <- side false
  let mut packer : Packer := { items := <- packOrder k a.joined.toNat b.joined.toNat x.packs }
  let mac := leavesOf x.mac
  if mac.isEmpty then throw .outOfRange
  let some m := k.matrix | throw .noField
  let mut mac := mac.drop 1
  let mut out := #[]
  for i in upTo (matricesPerIter k m) do
    let (items, packer') <- packer.step k m a b i
    packer := packer'
    out := out ++ items
    if i == 0 then
      if packer.items.isEmpty then
        let tmp <- takeVec 1
        out := out.push (plain ["v_mov_b32 ", s!"v{tmp}", "0x0"] "valu operation to have different priority")
        giveVec tmp
      out := out.push (priority 3)
    match mac with
    | [] => throw .outOfRange
    | item :: rest =>
      out := out.push item
      mac := rest
  return {
    before := (loads ++ x.waitWrites ++ x.sync ++ x.reads).toArray
    after := (out.push (priority 1) ++ writes ++ x.pointerWrites ++ x.pointerReads).push (priority 2) }

def itemsNamed (name : Text) (items : Items) : Items :=
  let found := items.findSome? fun
    | .module _ n is => if n == name then some is else none
    | _ => none
  found.getD []

def readOrder (items : Items) : Items :=
  leavesOf <| (upTo k.innerUnroll).flatMap fun i =>
    let a := itemsNamed s!"LocalReadDoA_I{i}" items
    let b := itemsNamed s!"LocalReadDoB_I{i}" items
    a.take 1 ++ b.take 1 ++ a.drop 1 ++ b.drop 1

def readLatency : Item -> Emit Int
  | .inst (.localRead l) _ => pure l
  | .inst (.localWrite l) _ => pure l
  | _ => throw .noField

/-- Takes items until `left` reads are taken, all when it is `last`; also the items left and the reads taken. -/
def takeReads (last : Bool) : Int -> Items -> Items × Items × Int
  | _, [] => ([], [], 0)
  | left, i :: is =>
    if left == 0 && !last then ([], i :: is, 0)
    else
      let isRead := i.localReads > 0
      let (a, b, n) := takeReads last (if isRead then left - 1 else left) is
      (i :: a, b, if isRead then n + 1 else n)

def takeLoads : Items -> Items × Items
  | [] => ([], [])
  | i :: is =>
    if (i :: is).any (·.globalReads > 0) then
      let (a, b) := takeLoads is
      (i :: a, b)
    else ([], i :: is)

variable (s : Slots)

/-- Reads before matrix instruction `i` when they are started an iteration ahead: spread evenly, or as many as it
hides. -/
def readsBefore (n i u count latency : Int) (reads : Items) (writes : Nat) (writeCost : Int) : Emit Int := do
  let mut left := latency - writes * writeCost
  let mut hidden := 0
  for r in reads do
    left := left - (<- readLatency r) * 2
    if left >= 0 then hidden := hidden + 1
  let exchange := k.loopIters - k.prefetchedReads
  if u == 0 || u == exchange then
    if i < n - (if u == exchange then s.forNextReads else n - 1) || n == 1 then return 0
    return max (count.fdiv (n - 1) + if count.fmod (n - 1) >= i then 1 else 0) hidden
  return max (count.fdiv n + if count.fmod n > i then 1 else 0) hidden

structure Spot where
  index : Int
  (first last : Bool)
  /-- Whether the iteration reads for the next tile. -/
  forNext : Bool

def spotOf (u i : Int) : Spot :=
  let n := matricesPerIter k m
  { index := u * n + i, first := i == 0, last := i == n - 1
    forNext := u >= k.loopIters - k.prefetchedReads }

/-- Still to be placed between matrix instructions. -/
structure Rest where
  out : Ordered := {}
  waited : Bool := false
  (reads loads writes mac : Items)
  packer : Packer

variable (r : Rest)

def Rest.put (items : Items) : Rest :=
  { r with out := { r.out with
    before := if r.waited then r.out.before else r.out.before ++ items
    after := if r.waited then r.out.after ++ items else r.out.after } }

/-- Places `n` writes; `first` is before the first matrix instruction, `clear` that no reads of this iteration are
left. -/
def Rest.putWrites (n : Nat) (first clear : Bool) : Rest :=
  let items := r.writes.take n
  let count : Int := total Item.localWrites items
  let r := { r with writes := r.writes.drop n }.put items
  { r with out := { r.out with
    writes := if first then r.out.writes + count else r.out.writes
    skippable := if clear then r.out.skippable + count else r.out.skippable } }

variable (c : Spot)

/-- Places at most `left` reads unless the instruction is the last. -/
def Rest.putReads (left : Int) : Rest :=
  let (items, reads, n) := takeReads c.last left r.reads
  let r := { r with reads }.put items
  { r with out := { r.out with reads := if c.first then r.out.reads + n else r.out.reads } }

def Rest.loadsLeft : Bool := r.loads.any (·.globalReads > 0)

/-- Places the first part of the loads left, as `split` divides them. -/
def Rest.moveLoads (split : Items -> Items × Items) (r : Rest) : Rest :=
  { r with loads := (split r.loads).2 }.put (split r.loads).1

def Rest.endLoads (r : Rest) : Rest :=
  if c.index == s.loadEnd then r.moveLoads (if k.prefetchGlobalRead == 2 then (·, []) else takeLoads)
  else r

def Rest.putLoads (r : Rest) : Rest :=
  let r := (r.moveLoads (List.splitAt s.loadsPerStep.toNat)).endLoads k s c
  if c.last then r.moveLoads (·, []) else r

/-- Places the writes of one matrix instruction, when their time has come and no load is left. -/
def Rest.putGroup (clear : Bool) (r : Rest) : Rest :=
  if c.index >= s.writeStart && !r.loadsLeft then r.putWrites s.writesPerStep.toNat c.first clear else r

/-- The writes due before a matrix instruction: all at the place of the last. -/
def Rest.putDue (clear : Bool) (r : Rest) : Rest :=
  let r := r.putGroup s c clear
  if c.index == s.writeEnd then r.putWrites r.writes.length c.first clear else r

variable (x : Iter) (c : Spot)

def Rest.putOthers (clear : Bool) (r : Rest) : Rest :=
  let r := (r.putLoads k s c).putDue s c clear
  let r := if c.index == s.writeEnd then r.put x.pointerWrites else r
  let r := if c.last then r.put x.pointerReads else r
  if c.index == s.barrier && k.prefetchedReads != 0 then r.put (x.waitWrites ++ x.sync) else r

/-- Places what goes before a matrix instruction, with at most `left` reads. Reads for the next tile come behind the
writes, all others before them, and the wait before the first instruction. -/
def Rest.place (left : Int) (r : Rest) : Rest :=
  let r :=
    if c.forNext then (r.putOthers k s x c true).putReads c left
    else
      let r := r.putReads c left
      r.putOthers k s x c r.reads.isEmpty
  if c.first then { r with waited := true } else r

/-- Places the packing of a matrix instruction, and it; with the last one all packing code is placed. -/
def Rest.finish (last : Bool) (items : Items) (packer : Packer) : Rest :=
  let more := opt last packer.items
  { r with packer := { packer with items := packer.items.drop more.length }, mac := r.mac.drop 1 }.put
    (items ++ more ++ r.mac.take 1)

/-- Reads that may go before matrix instruction `i`: all when none is started ahead. -/
def Rest.allowance (s : Slots) (c : Spot) (u count latency writeCost i : Int) (r : Rest) : Emit Int :=
  if k.prefetchedReads != 0 then
    readsBefore k s (matricesPerIter k m) i u count latency r.reads
      (if c.index >= s.writeStart && !r.loadsLeft then r.writes.length else 0) writeCost
  else pure count

/-- Gives up when, with one buffer, writes of the next tile come before the last read of this one. -/
def Rest.checkBuffer (r : Rest) : Code :=
  if c.index >= s.writeStart && c.index <= max s.writeEnd s.barrier && !c.forNext && !r.reads.isEmpty &&
      k.oneLdsBuffer then
    modify fun st => { st with overflowed := 5 }
  else pure ()

def Rest.step (k : KernelSpec) (m : MatrixSpec) (s : Slots) (a b : Side) (latency : Int) (x : Iter)
    (count : Int) (r : Rest) (i : Int) : Emit Rest := do
  let c := spotOf k m x.u i
  let r := r.put [comment0 s!" mfmaIndex:{c.index} "]
  let left <- r.allowance k m s c x.u count latency (a.localWrite.latency * 2 + 1) i
  r.checkBuffer k s c
  let r := r.place k s x c left
  let (items, packer) <- r.packer.step k m a b i
  return r.finish c.last items.toList packer

variable (p : Pending)

def betweenMatrices (x : Iter) (loads writes : Items) : Emit Ordered := do
  let some s := p.slots | throw .noField
  let some m := k.matrix | throw .noField
  let a <- side true
  let b <- side false
  let latency := (<- layout).matrixLatency
  let head := [comment0 s!" grEndMfmaIndex:{s.loadEnd}, lwStartMfmaIndex:{s.writeStart}, lwEndMfmaIndex:{s.writeEnd} ",
    comment0 s!" numMfmaForLR:{s.forNextReads}, barrierMfmaIndex:{s.barrier} "]
  let count : Int := total Item.localReads x.reads
  let r := {
    out := { before := head.toArray }
    reads := readOrder k x.reads, loads, writes
    mac := (leavesOf x.mac).drop 1
    packer := { items := <- packOrder k a.joined.toNat b.joined.toNat x.packs } }
  return (<- (upTo (matricesPerIter k m)).foldlM (Rest.step k m s a b latency x count) r).out

def writesIn (start stop : Int) : Emit Int := do
  (span start stop).foldlM (fun n i => do
    return n + total Item.localWrites (p.writes.getD (<- wrapped p.writes.size i) [])) 0

variable (u : Int)

/-- The iteration that started the reads which iteration `u` uses; negative in the tile before. -/
def dataAt (t : Input) : Int := u.fdiv (k.itersPerRead t) - k.prefetchedReads
def readIters (t : Input) : Int := min (u + 1) (k.loopIters.fdiv (k.itersPerRead t) - k.prefetchedReads)

def nextIters (hasReads : Bool) : Int :=
  let exchange := k.loopIters - k.prefetchedReads
  if k.prefetchGlobalRead != 0 && !(u >= exchange && !hasReads) then u.fdiv exchange * (u + 1 - exchange) else 0

def latestData (a b : Input) : Int := max (dataAt k u a) (dataAt k u b)

variable (u latest next : Int)

/-- Iterations with reads that are started behind the last that iteration `u` uses. -/
def skippedReads (t : Input) : Int := (if dataAt k u t < latest then 0 else readIters k u t - dataAt k u t - 1) + next

/-- Counted as started in iteration `u` itself. -/
def ownReads (t : Side) : Int :=
  if u < readIters k u t && !(dataAt k u t < latest) || next != 0 then t.readsPerIter else 0

/-- Reads started behind those that iteration `u` uses and before its wait, `own` of them in the iteration itself. -/
def readsBehind (a b : Side) (next own : Int) : Int :=
  let latest := latestData k u a b
  let reads := a.readsPerIter * skippedReads k u latest next a + b.readsPerIter * skippedReads k u latest next b
  if k.scheduleIterAlg == 3 && (u < readIters k u a || u < readIters k u b || next != 0) && k.emits .localRead then
    reads - ownReads k u latest next a - ownReads k u latest next b + own
  else reads

/-- Writes that reads of an earlier iteration need not wait for. -/
def ownWrites (o : Ordered) (latest : Int) : Emit Int :=
  if k.scheduleLocalWrite > 0 then
    if k.prefetchedReads != 0 then do
      pure (o.writes + p.skippable.getD (<- wrapped p.skippable.size latest) 0)
    else pure o.writes
  else pure 0

/-- Writes started behind the reads that iteration `u` uses and before its wait. -/
def writesBehind (o : Ordered) (u latest : Int) : Emit Int :=
  if k.scheduleIterAlg == 0 || k.scheduleIterAlg == 1 then writesIn p latest (u + 1)
  else if k.scheduleIterAlg == 3 then do
    return (<- writesIn p (latest + 1) u) + (<- ownWrites k p o latest)
  else pure 0

variable (x : Iter)

/-- Operations behind those that an iteration waits for and before the wait: reads, writes, and remarks. -/
def startedBehind (o : Ordered) (hasReads : Bool) : Emit (Int × Int × Items) := do
  let a <- side true
  let b <- side false
  let next := nextIters k x.u hasReads
  let latest := latestData k x.u a b
  let describe := fun tc (t : Side) =>
    let data := dataAt k x.u t
    let iters := readIters k x.u t
    let skip := skippedReads k x.u latest next t
    comment0 s!"dataAtIter{tc}={data} numReadsIter{tc}={iters} skipReadsIter{tc}={skip} readsPerIter{tc}={t.readsPerIter}"
  let remarks := [comment0 s!"numPrefetchIter={next}", describe "A" a, describe "B" b]
  return (readsBehind k x.u a b next o.reads, <- writesBehind k p o x.u latest, remarks)

/-- What a wait may count, the writes and reads among it, and remarks. Without matrix instructions only the
multiplication stands behind the wait, and a loop without read ahead waits for everything. -/
def allowed (o : Ordered) (hasReads : Bool) (old : Int) : Emit (Int × Int × Int × Items) :=
  if k.matrix.isSome then do
    let (reads, writes, remarks) <- startedBehind k p x o hasReads
    return (reads + writes, writes, reads, remarks)
  else if k.prefetchLocalRead != 0 then
    let all := o.before.toList ++ o.after.toList
    let reads : Int := if k.loopIters > 1 then total Item.localReads all else 0
    return (reads + total Item.localWrites all, 0, 0, [])
  else do
    if <- flag ULEE then return (old, 0, 0, [])
    return (0, 0, 0, [])

def correct (o : Ordered) (hasReads : Bool) : Emit (WaitCode × Items) := do
  match x.wait with
  | .fixed items => return (.fixed items, [])
  | .counts w =>
    let limit <- currentLimit "MaxLgkmcnt"
    let (count, writes, reads, remarks) <- allowed k p x o hasReads w.lgkmcnt
    let count := min count limit
    let comment := w.comment ++ s!" old={w.lgkmcnt}, new={count} newLW={writes} newLR={reads}"
    return (.counts { w with lgkmcnt := count, comment }, remarks)

structure Arranged where
  u : Int
  before : Items
  wait : WaitCode
  after : Items
  remarks : Items := []

def arrange : Emit (Arranged × Pending) := do
  let k <- spec
  let i <- wrapped p.loads.size x.u
  let loads := p.loads.getD i []
  let writes := p.writes.getD i []
  let o <- match k.scheduleIterAlg with
    | 0 => pure (inTurn x loads writes)
    | 1 => pure (betweenReads x loads writes)
    | 2 => raised k x loads writes
    | 3 => betweenMatrices k p x loads writes
    | n => throw (.violated s!"Unsupported scheduleIterAlg={n}")
  let p := { p with skippable := p.skippable.modify i (· + o.skippable) }
  let (wait, remarks) <- correct k p x o (total Item.localReads x.reads > 0)
  return ({ u := x.u, before := o.before.toList, wait, after := o.after.toList, remarks }, p)

def order : Emit (Text × Pending) := do
  let (a, p) <- arrange p x
  return (renderAllOnto false "" (a.before ++ a.wait.items (<- get).isa.major ++ a.after ++ a.remarks), p)

end Interleave

end TensorForge.Assembly
