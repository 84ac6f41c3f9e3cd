import TensorForge.Kernel.Assembly.GlobalRead
import TensorForge.Kernel.Assembly.LocalRead
import TensorForge.Kernel.Assembly.LocalWrite

/-!
# Spreading memory operations over iterations

While a tile is multiplied, the next one is loaded and written to local memory. Loads are spread from the first
iteration on, writes so that the last comes in the iteration before the buffers are exchanged. With matrix
instructions the places are counted in these.
-/

namespace TensorForge.Assembly

open Asm Emit Gen Item LocalWrite

/-- Counted in matrix instructions from the start of the loop. -/
structure Slots where
  (loadsPerStep writesPerStep : Int)
  /-- The instruction of the last load, and of the first and last group of writes. -/
  (loadEnd writeStart : Int := 0)
  writeEnd : Int
  barrier : Int
  /-- Instructions that hide the first reads of the next tile. -/
  forNextReads : Int

structure Pending where
  /-- Where direct loads go, the loads, and the steps of their addresses. -/
  (directA directB : Items := [])
  (loadsA loadsB : Loads := {})
  (stepsA stepsB : Items := [])
  /-- None when they are left out. -/
  (writesA writesB : Option Items := some [])
  header : Items := []
  (loads writes : Array Items := #[])
  /-- For each iteration when nothing is loaded. -/
  lateWrites : Array Items := #[]
  skippable : Array Int := #[]
  slots : Option Slots := none

def matricesPerIter (k : KernelSpec) (m : MatrixSpec) : Int :=
  m.waveTile0 * m.waveTile1 * k.innerUnroll * if k.dataType.isComplex then 4 else 1

def countsMatrices (k : KernelSpec) : Bool := k.matrix.isSome && k.scheduleIterAlg == 3

/-- Iterations before the first are counted from the end. -/
def wrapped (size : Nat) (i : Int) : Emit Nat :=
  let j := if i < 0 then i + size else i
  if 0 <= j && j < size then pure j.toNat else throw .outOfRange

def quotientUp (a b : Int) : Int := -.fdiv (-a) b
def currentLimit (name : Text) : Gen Int := do int (<- fetch (<- capsOf (<- setting CISA)) name)

namespace Spread

/-- Reads of `cost` cycles: an instruction starts when the cycles of the last are used up. The state is the number of
instructions and the cycles left. -/
def hideReads (latency cost : Int) : Nat -> Int × Int -> Int × Int
  | 0, s => s
  | n + 1, (count, left) =>
    hideReads latency cost n (if left - cost < 0 then (count + 1, latency - cost) else (count, left - cost))

variable (k : KernelSpec)

def placeWrites (m : MatrixSpec) (a b : Side) (latency : Int) : Emit Slots := do
  let n := matricesPerIter k m
  let all := n * k.loopIters
  let ahead := k.prefetchedReads
  let loadsPerStep := if m.m == 32 && !k.a.tlu && !k.b.tlu && k.transposeLds != 0 && !k.oneLdsBuffer then 2 else 1
  let share := fun t => if t.joined == 1 then Float.ofInt t.readsPerIter / .ofInt n else 0
  let readsLatency := (share a + share b).ceil.toInt64.toInt * 2
  let writesPerStep := max (.fdiv (latency - readsLatency) (a.localWrite.latency * 2 + 1)) 1
  let costA := a.localRead.latency * 2
  let costB := b.localRead.latency * 2
  let s := hideReads latency costA a.readsPerVector.toNat (1, latency)
  let s := hideReads latency costB b.readsPerVector.toNat s
  let s := hideReads latency costA (a.readsPerIter - a.readsPerVector).toNat s
  let (count, left) := hideReads latency costB (b.readsPerIter - b.readsPerVector).toNat s
  let step := latency + 3
  let behind := b.localRead.latency * 18 - left - step
  let forNextReads := min (if behind > 0 then count + quotientUp behind step else count) (n - 1)
  let barrier := if ahead != 0 then n * (k.loopIters - ahead + 1) - forNextReads - 1 else 0
  let writeEnd := if ahead != 0 then max (barrier - if m.m == 32 then 2 else 3) 0 else all - 1
  let writeEnd := if k.depthULdsDivisor > 1 then min (writeEnd + 2) (all - 1) else writeEnd
  check (min (k.loopIters - 1) (writeEnd.fdiv n) < k.loopIters)
  check (writeEnd < all)
  return { loadsPerStep, writesPerStep, writeEnd, barrier, forNextReads }

def putFirst (code : Items) : Items -> Emit Items
  | [] => pure []
  | .module kind name items :: rest => pure (.module kind name (modul "" code :: items) :: rest)
  | _ :: _ => throw .noField

/-- Hands `first` items to iteration 0, then `each` to every iteration before `stop`; also what is left over and the
last iteration that got an item. -/
def handOut (first each : Nat) (stop : Int) (items : Items) (slots : Array Items) : Array Items × Items × Int :=
  let start := (slots.modify 0 (· ++ items.take first), items.drop first, (0 : Int))
  (span 1 (min stop slots.size)).foldl (fun (slots, items, last) u =>
    (slots.modify u.toNat (· ++ items.take each), items.drop each, if items.isEmpty || each == 0 then last else u)) start

/-- How many loads go to the first iteration and to each other, the iteration before which they end, and the places. -/
structure Handing where
  (first each stop : Int)
  slots : Option Slots

def handing (slots : Option Slots) (writeEnd : Int) (now : Items) : Handing :=
  let count : Int := now.length
  match slots, k.matrix with
  | some s, some m =>
    let n := matricesPerIter k m
    let counts := fun (i : Item) =>
      if k.prefetchGlobalRead == 2 then i.countLeaves (fun _ => true) > 0 else i.globalReads > 0
    let loadEnd := max 0 (quotientUp (now.countP counts) s.loadsPerStep - 1)
    { first := (n + max 0 (loadEnd - s.writeEnd)) * s.loadsPerStep
      each := n * s.loadsPerStep
      stop := min (quotientUp (count + 2 + 2 * (s.loadsPerStep - 1)) n) k.loopIters
      slots := some { s with loadEnd := min loadEnd s.writeEnd } }
  | _, _ =>
    let stop := count + 2
    if stop > writeEnd then { first := stop - writeEnd + 1, each := 1, stop := writeEnd, slots }
    else { first := 1, each := 1, stop, slots }

variable (p : Pending)

/-- With placeholders when several loads go between two matrix instructions. -/
def increments (slots : Option Slots) : Items :=
  let perStep := slots.elim 1 (·.loadsPerStep)
  let place := fun tc =>
    .replicate (perStep - 1).toNat (modul "" [plain ["//"] s!"globalReadInc{tc} scheduler placeholder"])
  modul "globalReadIncrementA" p.stepsA :: place "A" ++ modul "globalReadIncrementB" p.stepsB :: place "B"

/-- What is handed out, and what goes with the writes: loads when two tiles are loaded ahead, everything when a tile
is kept in parts. -/
def portions (loads steps : Items) : Items × Items :=
  if k.depthULdsDivisor > 1 then ([], loads ++ steps) else if k.prefetchGlobalRead == 2 then (steps, loads)
  else (loads ++ steps, [])

/-- The places, the iterations, what goes with the writes, and the last iteration with a load. -/
structure SpreadLoads where
  header : Items
  loads : Array Items
  later : Option Items
  slots : Option Slots
  last : Int := 0

def spreadLoads (slots : Option Slots) (writeEnd : Int) : Emit SpreadLoads := do
  let none := .replicate k.loopIters.toNat []
  let flat := fun l => l.header ++ l.middle ++ l.footer
  if k.scheduleGlobalRead == 0 || k.prefetchGlobalRead == 0 || !k.bufferLoad then
    return { header := p.directA ++ flat p.loadsA ++ p.directB ++ flat p.loadsB ++
               [modul "globalReadIncrementA" p.stepsA, modul "globalReadIncrementB" p.stepsB]
             loads := none, later := .none, slots := slots.map ({ · with loadEnd := 0 }) }
  let loadsA <- putFirst p.directA p.loadsA.middle
  let (now, later) := portions k (loadsA ++ (<- putFirst p.directB p.loadsB.middle)) (increments p slots)
  let h := handing k slots writeEnd now
  let (loads, rest, last) := handOut h.first.toNat h.each.toNat h.stop now none
  check (h.slots.isSome || rest.isEmpty)
  let loads := loads.modify (<- wrapped loads.size (h.stop - 1)) (· ++ rest ++ p.loadsA.footer ++ p.loadsB.footer)
  return { header := p.loadsA.header ++ p.loadsB.header, loads, later := some later, slots := h.slots, last }

structure Written where
  write : Item
  load : Option Item

def moves (i : Item) : Bool := i.localWrites > 0 || i.globalReads > 0

def writesInOrder (items : Items) (later : Option Items) : Emit (List Written) := do
  if !(k.prefetchGlobalRead == 2 || k.depthULdsDivisor > 1) then return items.map fun i => { write := i, load := none }
  let some later := later | throw .unbound
  let filler := modul "Placeholder" []
  return (List.range (max items.length later.length)).map fun i =>
    { write := items.getD i filler, load := some (later.getD i filler) }

variable (major maxCount : Int) (waits : Bool) (u : Int)

/-- A write with a wait for its load, and without the load behind it. The numbers are of loads that may be
outstanding, with and without loads behind writes. -/
def place (w : Written) (left : Int × Int) : Item × Item × Int × Int :=
  let count := w.write.localWrites
  let title := comment0 s!"sched write - iter {u} writesPerItem={count}"
  let (now, late) := if count > 0 then (left.1 - 1, left.2 - 1) else left
  let wait := fun n => waitCount major (-1) (min maxCount n) "wait for global read before writing to local"
  let before := if count == 0 then []
    else if waits then [wait now] else [comment0 "no wait vmcnt except for in the last subLdsLoop"]
  let beforeLate := if count == 0 || !waits then [] else [wait late]
  let name := s!"LocalWriteMod{u}"
  (modul name (title :: before ++ w.write :: w.load.toList), modul name (title :: beforeLate ++ [w.write]),
   now + (w.load.map fun l => (l.globalReads : Int)).getD 0, late)

/-- A barrier before the first write when there is one buffer. -/
def guardBuffer (w : Option Items) : Emit (Option Items) := do
  if !k.oneLdsBuffer then return w
  let some items := w | throw .noField
  some <$> putFirst [comment0 "1 LDS buffer: read-sync-write",
    plain ["s_waitcnt lgkmcnt(0)"] "", plain ["s_barrier"] ""] items

/-- The writes left, the counts of outstanding loads, and what goes with each iteration. -/
structure Dealing where
  left : List Written
  counts : Int × Int
  (writes late : Array Items)

def Dealing.put (d : Dealing) (w : Written) : Dealing :=
  let (i, l, counts) := place major maxCount waits u w d.counts
  { d with
    counts
    writes := d.writes.modify u.toNat (· ++ [i])
    late := d.late.modify u.toNat (· ++ [l]) }

def Dealing.deal (n : Nat) (d : Dealing) : Dealing :=
  { (d.left.take n).foldl (.put major maxCount waits u) d with left := d.left.drop n }

/-- As many writes as an iteration has places for, and all that are left to the last. -/
def share (slots : Option Slots) (perIter start writeEnd u : Int) (left : Nat) : Emit Int :=
  if u == writeEnd then pure left
  else match slots with
    | some s =>
      if u == start then pure ((perIter - s.writeStart.fmod perIter) * s.writesPerStep)
      else pure (perIter * s.writesPerStep)
    | none => if u == start && k.scheduleIterAlg == 3 then throw .unbound else pure 1

def spreadWrites (maxCount writeEnd lastLoad part : Int) (later : Option Items) : Emit Pending := do
  let some itemsA := p.writesA | throw .noField
  let some itemsB := p.writesB | throw .noField
  let major := (<- get).isa.major
  let left <- writesInOrder k (itemsA ++ itemsB) later
  let count : Int := left.countP fun w =>
    match w.load with
    | some l => moves w.write || moves l
    | none => w.write.localWrites > 0
  let slots := p.slots.map fun s =>
    { s with writeStart := max s.loadEnd (s.writeEnd - max 1 (quotientUp count s.writesPerStep) + 1) }
  let perIter := (k.matrix.map (matricesPerIter k)).getD 1
  let start <- match slots with
    | some s => do
      let start := s.writeStart.fdiv perIter
      check (start < writeEnd + 1)
      pure start
    | none => pure (max (writeEnd - count + 1) lastLoad)
  let outstanding : Int := (itemsA.length + itemsB.length : Nat)
  let d <- (span start (writeEnd + 1)).foldlM (fun (d : Dealing) u => do
    let now <- share k slots perIter start writeEnd u d.left.length
    return d.deal major maxCount (part >= k.depthULdsDivisor - 1) u now.toNat)
    { left, counts := (outstanding, outstanding), writes := p.writes, late := p.lateWrites }
  check d.left.isEmpty
  return { p with writes := d.writes, lateWrites := d.late, slots }

def awaitLoads : Emit Items := do
  if k.emits .wait then return (<- waitFor 0 (-1) (-1) "1wait for global read").items (<- get).isa.major
  return []

def writeAtOnce (writeEnd : Int) : Emit Pending := do
  let p := { p with slots := p.slots.map fun s => { s with writeStart := s.writeEnd } }
  if k.prefetchGlobalRead == 0 then return p
  let code := modul "" <| (<- awaitLoads k) ++ .comment1 "local write A" :: itemsOf p.writesA ++
    .comment1 "local write B" :: itemsOf p.writesB
  return { p with writes := p.writes.modify (<- wrapped p.writes.size writeEnd) (· ++ [code]) }

/-- Spreads loads and writes over the unrolled loop. Writes are due in iteration `writeEnd`, unless places are counted
in matrix instructions; `part` of the loaded elements is multiplied. -/
def spread (writeEnd part : Int) : Emit Pending := do
  let k <- spec
  let maxCount <- currentLimit "MaxVmcnt"
  let a <- side true
  let b <- side false
  let slots <- match k.matrix with
    | some m => if countsMatrices k then some <$> placeWrites k m a b (<- layout).matrixLatency else pure none
    | none => pure none
  let writeEnd := match slots, k.matrix with
    | some s, some m => min (k.loopIters - 1) (s.writeEnd.fdiv (matricesPerIter k m))
    | _, _ => writeEnd
  let l <- spreadLoads k p slots writeEnd
  let n := k.loopIters.toNat
  let writesA <- guardBuffer k p.writesA
  let p := { p with
    writesA, header := l.header, loads := l.loads, slots := l.slots.or p.slots
    writes := .replicate n [], lateWrites := .replicate n [], skippable := .replicate n 0 }
  if k.scheduleLocalWrite != 0 && k.prefetchGlobalRead != 0 && k.bufferLoad then
    spreadWrites k p maxCount writeEnd l.last part l.later
  else writeAtOnce k p writeEnd

end Spread

end TensorForge.Assembly
