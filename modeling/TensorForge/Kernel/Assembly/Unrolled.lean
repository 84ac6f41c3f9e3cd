import TensorForge.Kernel.Assembly.Flow
import TensorForge.Kernel.Assembly.Store

/-!
# The unrolled loop

A tile in local memory is multiplied while the next one is on its way.
-/

namespace TensorForge.Assembly.Unrolled

open Asm Body Emit Float Iteration List LocalPtrs Loop NewTile Store

structure Place where
  (u part : Int)
  /-- Whether local reads or writes start from the beginning behind it. -/
  (resetsReads resetsWrites : Bool)

/-- By its end the next tile is in local memory. -/
def writeEnd (k : KernelSpec) : Int := k.loopIters - k.prefetchedReads - 1

def placeOf (i : Int) : Body Place := do
  let k <- spec
  let u := i.fmod k.loopIters
  let resetsReads := u == writeEnd k
  let resetsWrites <- if k.scheduleIterAlg == 3 then
      match (<- get).pending.slots, k.matrix with
      | some s, some m => pure (u == s.writeEnd.fdiv (matricesPerIter k m))
      | _, _ => throw .noField
    else pure resetsReads
  return { u, part := i.fdiv k.loopIters, resetsReads, resetsWrites }

variable (x : Place)

def titleOf (last : Bool) : Text :=
  let extra := if last then " (last unrolled loop)"
    else opt x.resetsReads " (reset local read pointers iteration) " ++
      opt x.resetsWrites " (swap and reset local write pointers iteration) " ++
      opt x.resetsReads " (swap local read pointers iteration) "
  comment s!"iter {x.u}{extra}"

structure Reads where
  (all a b : Items := [])

/-- For a later iteration; `live` says that local memory holds a tile behind the current one. -/
def reads (x : Place) (live : Bool) : Body Reads := do
  let k <- spec
  if !k.emits .localRead then return {}
  let ahead := k.prefetchedReads
  let wanted := fun t i =>
    ((x.u + ahead) * k.itersPerRead t.toInput < k.loopIters || live && x.u > writeEnd k) &&
      i * t.joined < k.innerUnroll
  let mut r := {}
  for i in upTo k.innerUnroll do
    for t in <- sides do
      if wanted t i then
        let at' := .fmod (.fmod (x.u + ahead) (k.prefetchLocalRead + 1)) k.loopIters * k.itersPerRead t.toInput
        let (item, pack) <- LocalRead.reads t.isA at' (i * t.joined)
        keepPack at' pack
        let all := r.all ++ [.text (comment ("local read " ++ t.lower)), item]
        r := if t.isA then { r with all, a := r.a ++ [item] } else { r with all, b := r.b ++ [item] }
    if !x.resetsReads || i != k.innerUnroll - 1 then
      for t in <- sides do
        if wanted t i then
          let step <- captured (advanceRead t.isA)
          r := { r with all := r.all ++ [.text (comment ("local read increment " ++ t.lower)), .text step] }
  return r

def both (title : Text) (x : Bool -> Code) : Emit Items := do
  let a <- captured (x true)
  let b <- captured (x false)
  return [.text (comment (title ++ " a")), .text a, .text (comment (title ++ " b")), .text b]

/-- Whether an iteration waits for the writes of the next tile. -/
def meets (k : KernelSpec) (u : Int) : Bool :=
  u == writeEnd k + 1 || u == .fmod (writeEnd k + 1) k.loopIters && k.scheduleIterAlg == 2

/-- Waits for the writes of the next tile, and moves writes and reads to the other buffer. -/
def exchange (awaitsLoads : Bool) : Body Iter := do
  let k <- spec
  let major := (<- (get : Emit State)).isa.major
  let mut i := { u := x.u }
  if k.prefetches then
    if meets k x.u then
      if k.emits .wait then
        if awaitsLoads && k.loadsDirectly then await 0 (-1) (-1) "12wait for global read"
        i := { i with waitWrites := (<- waitFor (-1) 0 (-1) "3wait for local write").items major }
      if k.emits .sync then i := { i with sync := [.text (<- captured (barrier ""))] }
    if x.resetsWrites && k.emits .localWrite then
      i := { i with pointerWrites := <- both "local write swap offsets" swapWrite }
    if x.resetsReads && k.emits .localRead then
      i := { i with pointerReads := <- both "local read swap offsets" (swapRead k.expandPtrSwap) }
  if x.resetsReads && k.emits .localRead then
    i := { i with pointerReads := i.pointerReads ++ (<- both "local read init pointers" initRead) }
  return i

def multiply (u : Int) : Emit Items := do
  let k <- spec
  if !k.emits .mac then return []
  let buf := u.fmod (k.prefetchLocalRead + 1)
  return [(<- k.matrix.elim (call buf k.innerUnroll) (matrix · buf k.innerUnroll))]

def putIter (i : Iter) : Stage := do
  let buf := i.u.fmod ((<- spec).prefetchLocalRead + 1)
  let packs <- packsOf buf
  let (text, pending) <- Interleave.order (<- get).pending { i with packs }
  onPending fun _ => pending
  put text
  releasePack packs
  clearPack buf

def dropLoads : Stage := do
  let k <- spec
  if k.emits .globalRead then onPending ({ · with loadsA := {}, loadsB := {} })
  if k.emits .readInc then onPending ({ · with stepsA := [], stepsB := [] })

def noWrites : Stage := onPending ({ · with writesA := some [], writesB := some [] })

def meetEarly (part : Int) : Stage := do
  let k <- spec
  if k.prefetches && (k.loopIters == 1 || k.loopIters == 2) && part > 0 then
    meet 1 0 (-1) "wait for local write" "sync for local read after write"

def spread (part : Int) : Stage := do
  let k <- spec
  let pending <- Spread.spread (<- get).pending (writeEnd k) part
  onPending fun _ => pending
  code pending.header

/-- Two groups: the rows and columns that each reads, and its number of multiplications. -/
def groupsOf (tiles : Int × Int) : Option (List (Nat × Nat) × Nats) :=
  [((6, 4), [(4, 2), (2, 2)], [8, 16]), ((4, 6), [(2, 4), (2, 2)], [8, 16]), ((4, 4), [(4, 2), (0, 2)], [8, 8]),
   ((6, 6), [(4, 4), (2, 2)], [16, 20]), ((8, 4), [(4, 4), (4, 0)], [16, 16]),
   ((4, 8), [(4, 4), (0, 4)], [16, 16])].lookup tiles

def regrouped (tileA : Nat) (groups : List (Nat × Nat)) (mac : Array Item) : Emit Items := do
  let pick := fun a b => mac[a + tileA * b]?.elim (throw .outOfRange) fun i => pure i
  let first := groups.getD 0 (0, 0)
  let mut out := []
  for (g, n) in groups.zipIdx do
    let rows := if n == 0 then g.1 else tileA
    let start := if n == 0 then 0 else first.2
    for b in range g.2 do
      for a in range rows do out := out ++ [<- pick a (start + b)]
      if n != 0 then
        for b' in range first.2 do for a in range (tileA - first.1) do out := out ++ [<- pick (first.1 + a) b']
  return out

def readsByGroup (width : Int) (groups : List (Nat × Nat)) (r : Reads) : Emit Items := do
  let take := fun title (n : Nat) (left : Items) =>
    if left.isEmpty then (pure ([], []) : Emit (Items × Items))
    else
      let count := (quotientUp n width).toNat
      if left.length < count then throw .outOfRange
      else pure (.text (comment title) :: left.take count, left.drop count)
  let mut a := Item.leavesOf r.a
  let mut b := Item.leavesOf r.b
  let mut out := []
  for g in groups do
    let (itemsA, restA) <- take "local read a" g.1 a
    let (itemsB, restB) <- take "local read b" g.2 b
    out := out ++ itemsA ++ itemsB
    a := restA
    b := restB
  return out

def priorityInst (n : Nat) (comment : Text) : Item := .plain ["s_setprio ", toString n] comment

def groupCode (aggressive : Bool) (items : Items) : Items :=
  if aggressive then
    (match items with
      | [] => []
      | i :: is => i :: priorityInst 1 "Raise priority while processing macs" :: is) ++
      [priorityInst 0 "Reset priority after macs"]
  else items

def putGroups (i : Iter) (r : Reads) : Stage := do
  let k <- spec
  let major := (<- (get : Emit State)).isa.major
  let buf := i.u.fmod (k.prefetchLocalRead + 1)
  let singles <- if k.emits .mac then single buf k.innerUnroll else pure {}
  let mac := Item.leavesOf singles.items
  let aggressive := k.perfMode != 0
  let mac <- if aggressive then if mac.dropLast.length < 2 then throw .outOfRange else pure (mac.dropLast.eraseIdx 1)
    else pure mac
  let a <- side true
  let width := ofInt k.vecWidth
  let tile := fun n => ofInt (if n == 0 then k.threadTile0 else k.threadTile1)
  let perVec := ofInt (k.vecWidth * (<- layout).bytesAB) / ofNat a.localRead.blockBytes
  let fetches := tile k.a.tile01 / width * perVec + tile k.b.tile01 / width * perVec
  let i := { i with waitWrites := [], sync := [], packs := [] }
  if !(fetches > 3) then
    let (_, pending) <- Interleave.order (<- get).pending { i with mac }
    onPending fun _ => pending
    return
  let some (groups, counts) := groupsOf (k.threadTile0, k.threadTile1) | throw .unbound
  let mut left <- regrouped (if k.a.tile01 == 0 then k.threadTile0 else k.threadTile1).toNat groups mac.toArray
  modifyThe State fun st => { st with unwritable := st.unwritable <|> singles.unwritable }
  let byGroup := k.emits .localRead && fetches > 4
  let order <- if byGroup then readsByGroup k.vecWidth groups r else pure i.reads
  let first := groups.getD 0 (0, 0)
  let writes := (Item.leavesOf ((<- get).pending.writes.getD i.u.toNat [])).length
  let extra := if writes > 0 then 1 else 0
  let (outstanding, shown) := if byGroup then
      let f := fetches - (ofNat first.1 / width + ofNat first.2 / width) + ofNat extra
      (f.toInt64.toInt, (Value.float f).shown)
    else (extra, toString extra)
  for (n, g) in counts.zipIdx do
    if k.emits .mac && left.length < n then throw .outOfRange
    let items := opt (k.emits .mac) (groupCode aggressive (left.take n))
    if k.emits .mac then left := left.drop n
    if g == 0 then
      let wait := if k.emits .wait then
          WaitCode.counts { lgkmcnt := outstanding
                            comment := s!"lgkmcnt={shown} vmcnt=-1wait for prior local read" }
        else .fixed []
      let (text, pending) <- Interleave.order (<- get).pending { i with reads := order, wait, mac := items }
      onPending fun _ => pending
      put text
    else code (opt (k.emits .wait) [Item.waitCount major 0 (-1) "wait for prior local read & local writes"] ++ items)

def writePart : Stage := do
  let k <- spec
  if k.prefetches then return
  let next := x.part < k.depthULdsDivisor - 1 && x.u == k.loopIters - k.prefetchedReads
  let same := x.part > 0 && k.prefetchedReads == 0 && x.u == 0
  if same then check !next
  if next || same then
    meet (-1) (-1) 0 "5wait for local read" "PGR=0, prior iter done reading lds"
    if k.emits .localWrite then putWrites (some (.fmod (x.part + if same then 0 else 1) k.depthULdsDivisor))
    meet (-1) 0 (-1) "2prefetch wait for local write"

def loopWait : Emit WaitCode := do
  let k <- spec
  if !k.emits .wait then return .fixed []
  let ahead := k.prefetchedReads
  let whole := k.loopIters - ahead
  let loads := if !x.resetsReads && x.u == 0 && k.prefetches && k.prefetchLocalRead != 0 then 1 else -1
  let writes := if x.resetsReads && k.prefetches && x.resetsWrites then 1 else -1
  let next := if k.prefetches then x.u.fdiv whole * (x.u + 1 - whole) else 0
  waitFor loads writes (min (x.u + 1) whole + next - (x.u - ahead) - 1) "wait for prior local read local write"

def loopIter (i : Int) : Stage := do
  let k <- spec
  let part := i.fdiv k.loopIters
  if i.fmod k.loopIters == 0 then
    if part > 0 then dropLoads
    if k.emits .localWrite then keepWrites (some (.fmod (part + 1) k.depthULdsDivisor))
    else noWrites
    meetEarly part
    if k.prefetches then spread part
  let x := { u := i.fmod k.loopIters, part, resetsReads := false, resetsWrites := false }
  writePart x
  let x <- placeOf i
  put (titleOf x false)
  let r <- reads x (k.prefetches || x.part < k.depthULdsDivisor - 1)
  let iter <- exchange x true
  let wait <- loopWait x
  let mac <- multiply x.u
  let iter := { iter with reads := r.all, wait, mac }
  if k.prefetchedReads != 0 || !(<- Gen.flag ULEE) then putIter iter else putGroups iter r

def loadInLoop : Stage := do
  let k <- spec
  spread 0
  meet 0 (-1) (-1) "5wait for global read" "PGR=0, prior iter done reading lds"
  if k.emits .localWrite then putWrites
  meet (-1) 0 (-1) "2prefetch wait for local write"
  if k.emits .localRead then putFirstReads "prefetch local" fun c => comment1 ("local read increment " ++ c)

def loopCopy (n copies : Int) : Stage := do
  let k <- spec
  let final := n == copies - 1
  banner s!"Unrolled Loop {n + 1}/{copies} - Begin"
  piece (startCopy n)
  if k.prefetches && k.prefetchedReads == 0 && k.scheduleIterAlg != 2 then
    if k.emits .wait then
      if k.loadsDirectly then await 0 (-1) (-1) "11wait for global read"
      await 1 0 (-1) "1wait for local write"
    if k.emits .sync then piece (barrier "4sync for global read")
  note "Begin Each Unroll: Check VGPR.checkin for INT8 LW"
  release
  keepLoads .loop
  keepSteps 0
  if k.emits .localWrite then keepWrites else noWrites
  if k.prefetchGlobalRead == 0 then loadInLoop
  for _ in [0, 1] do put ""
  for i in upTo (k.loopIters * k.depthULdsDivisor) do loopIter i
  for _ in [0, 1] do put ""
  put <| comment3 <| if !k.expandPtrSwap then "Unrolled Loop - End"
    else if final then s!"Unrolled Loop - End {n + 1}/{copies} (final)"
    else s!"Unrolled Loop - End {n + 1}/{copies}"
  piece (close k.unrollIdx final)

/-- Twice when the buffers are told apart in the code. -/
def loop : Stage := do
  let k <- spec
  banner "Unrolled Loop(s) - Begin"
  piece (start k.unrollIdx)
  let copies := if k.expandPtrSwap then 2 else 1
  for n in upTo copies do loopCopy n copies
  note "Before NLL: Check VGPR.checkin for INT8 LW"
  release

inductive Tail where
  | writing
  | short
  | last
  deriving BEq

def branchOnAlpha (tmp : Int) (target : Text) : Code := do
  let k <- spec
  let t := k.computeType
  let equal := fun value comment => sSame (sr "Alpha") value comment
  let wide := fun lo hi loRemark hiRemark => do
    sMov (sr tmp) lo loRemark
    sMov (sr (tmp + 1)) hi hiRemark
  let equalWide := fun name comment => emit ["s_cmp_eq_u64", sr name 2, sr tmp 2] comment
  if t.isHalf then
    if k.highPrec && k.persist then equal "1.0" "Alpha == 1.0 ?"
    else
      sMov (sr tmp) "0x3c003c00" "Packed alpha==1.0"
      equal (sr tmp) "alpha == 1.0?"
  else if t.isBFloat16 then
    sMov (sr tmp) "0x3f803f80" "Packed alpha==1.0"
    equal (sr tmp) "alpha == 1.0?"
  else if t.isInt32 then equal "1" "Alpha == 1.0 ?"
  else if t.isSingle then equal "1.0" "Alpha == 1.0 ?"
  else if t.isDouble then
    wide "0" "0x3ff00000" "Low part of double 1.0" "High part of double 1.0"
    equalWide "Alpha" "Alpha == 1.0 ?"
  else if t.isSingleComplex then
    wide "1.0" "0.0" "Real part of 1.0" "Imaginary part of 1.0"
    equalWide "Alpha" "Alpha == 1.0 ?"
  else if t.isDoubleComplex then
    wide "0x00000000" "0x3ff00000" "lsb of real part of 1.0" "msb of real part of 1.0"
    equalWide "Alpha" "Alpha.real == 1.0 ?"
    emit ["s_cbranch_scc0 " ++ target] "branch if alpha.real != 1"
    wide "0x00000000" "0x00000000" "lsb of imag part of 0.0" "msb of imag part of 0.0"
    equalWide "Alpha+2" "Alpha.imag == 0.0 ?"
  emit ["s_cbranch_scc0 " ++ target] "branch if alpha != 1"
  raw "\n"

def openShort : Stage := do
  let k <- spec
  let start <- captured do
    let target <- namedLabel "OptNLL_End"
    let tmp <- glimpseTmp 2
    branchOnBeta tmp target
    if <- enabled "ApplyAlpha" then branchOnAlpha tmp target
    branchOnEdge tmp target
    raw "\n"
    consts (divideScalar (.num tmp) (.num (tmp + 1)) s!"SizesSum+{k.unrollIdx}" k.depthU (.num (tmp + 2)) 2)
    let c := loopChar k k.unrollIdx
    sSame (sr (tmp + 1)) (.hex 0) s!"numIter{c} == 0"
    emit ["s_cbranch_scc0 " ++ target] "skip if tail loop required"
  let next <- if k.prefetchAcross then do
      let opening <- captured (openNext true)
      pure (opening ++ (<- collected (setup true true)) ++ (<- captured (closeNext true)))
    else pure ""
  put (start ++ next)
  modifyThe State fun st => { st with savedVecs := some st.vectors, savedScalars := some st.scalars }

def closeShort : Code := do
  let k <- spec
  if k.prefetchAcross then
    if k.expandPtrSwap then
      sSame (sr "BreakAtEvenIter") "1" "test if BreakAtEvenIter==1 ?"
      emit ["s_cbranch_scc1", <- label "SkipLroSwap"] "Skip LROSwap if BreakAtEvenIter==1"
    heading (if k.expandPtrSwap then
      "(PAP) Select low bank of LDS, if high bank is selected before (loop odditer exit)"
      else "(PAP) local read swap offsets a, b")
    swapRead false true
    swapRead false false
    if k.expandPtrSwap then placeLabel "SkipLroSwap" "Skip LRO Swap\n"
  remark "Stores for OptNLL"
  finish
  check (k.localSplitU == 1)
  OutIdx.whole
  let (width, inside) <- elems k false
  stores { width, inside, edgeWidth := width, edge := inside } false (some [false]) (some [false])
  OutIdx.release
  raw "\n"
  finishKernel false
  raw ((<- namedLabel "OptNLL_End") ++ ":\n")

def restorePools : Code := do
  let st <- get
  if let some p := st.savedVecs then
    let p := p.growTo st.vectors.size { status := .available, tag := "restore vgprPool" }
    modify ({ · with vectors := p, savedVecs := none })
  if let some p := st.savedScalars then
    let p := if st.scalars.size > p.size then
      p.growTo (st.scalars.size + 1) { status := .available, tag := "restore sgprPool" } else p
    modify ({ · with scalars := p, savedScalars := none })

variable (t : Tail)

def closeTail : Code := do
  match t with
  | .writing => raw ((<- label "toPGR1") ++ ":\n")
  | .short => closeShort
  | .last => raw ((<- namedLabel "PrefetchGlobalLastIterEnd") ++ ":\n")
  restorePools

def tailIter (i : Int) : Stage := do
  let k <- spec
  let part := i.fdiv k.loopIters
  let last := part == k.depthULdsDivisor - 1 && t != .writing
  if i.fmod k.loopIters == 0 then
    if part > 0 then dropLoads
    if last then noWrites
    else keepWrites (some (.fmod (part + 1) k.depthULdsDivisor))
    meetEarly part
    if t != .writing then spread part
  let x <- placeOf i
  put (titleOf x last)
  let r <- reads x ((k.prefetches || x.part < k.depthULdsDivisor - 1) && !last)
  let iter <- if last then pure { u := x.u } else exchange x false
  let wait <- if k.emits .wait then
      waitFor (-1) (-1) (min (x.u + 1) (k.loopIters - k.prefetchedReads) - (x.u - k.prefetchedReads) - 1)
        "7wait for local read"
    else pure (.fixed [])
  let mac <- multiply x.u
  putIter { iter with reads := r.all, wait, mac }

def withoutLoads : Stage := do
  let k <- spec
  if t == .writing then
    banner " NoGlobalLoadLoop - Begin"
    onPending fun p => { p with writes := p.lateWrites, skippable := .replicate k.loopIters.toNat 0 }
  else
    put (filledBox "%s NoLoadLoop - Begin" (if t == .short then "Opt." else "Ord."))
    noWrites
    onPending ({ · with directA := [], loadsA := {}, directB := [], loadsB := {}, stepsA := [], stepsB := [] })
  if t == .short then openShort else put ""
  if k.prefetchedReads == 0 then
    if k.emits .wait then
      if k.loadsDirectly then await 0 (-1) (-1) "10wait for global read"
      await (-1) 0 (-1) "4wait for local write"
    if k.emits .sync then piece (barrier "")
  for i in upTo (k.loopIters * k.depthULdsDivisor) do tailIter t i
  piece (closeTail t)

end TensorForge.Assembly.Unrolled
