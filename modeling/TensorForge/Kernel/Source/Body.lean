import TensorForge.Kernel.Source.Loop

/-! # Source kernels -/

namespace TensorForge

namespace SrcWriter

def putM (f : SourceContext -> Gen Text) : SrcCode := do
  let text <- f (<- get)
  modify fun c => { c with pieces := c.pieces.push text }

def spec : SrcWriter KernelSpec := return (<- get).spec
def skip : SrcCode := put fun _ => ""
def meet (what : Text) : SrcCode := do
  let k <- spec
  if k.emits .wait then skip
  if k.emits .sync then put (·.sync what)

def boxed (text word : Text) : SrcCode := put fun c => .replace (c.comment3 text) "%s" word

def each (title : Text) (f : SourceContext -> Input -> Text) : SrcCode := do
  for i in (<- spec).inputs do
    comment s!"{title} {i.lower}"
    put (f · i)

def plainEach (f : SourceContext -> Input -> Text) : SrcCode := for i in (<- spec).inputs do put (f · i)

def eachTight (title : Text) (f : SourceContext -> Input -> Text) : SrcCode := do
  for i in (<- spec).inputs do
    put (·.comment1 s!"{title} {i.lower}")
    put (f · i)

def openString : SrcCode := put fun c => opt c.isOcl s!"\nstd::string {c.name}_src_{c.stringIdx} = \""

def closeString : SrcCode := do
  put (opt ·.dialect.isOcl "\";\n")
  modify fun c => if c.isOcl then { c with stringIdx := c.stringIdx + 1 } else c

def loopCount (loop : Int) : SrcCode := do
  let c <- get
  let mut text := c.loopCount loop
  let mut declared := c.declared
  for i in c.inputs do
    match i.padOf? (c.sumIdx loop) with
    | none => pure ()
    | some z =>
      text := text ++ c.padEdge i (c.sumChar loop) z
      let x := c.idxChar z.sum
      if !declared.contains x then
        text := text ++ c.row s!"unsigned int iter{x} = 0;"
        declared := x :: declared
  set { c with declared, pieces := c.pieces.push text }

variable (loop : Option Int)

def openLoop : SrcCode := do
  putM (·.openLoop loop)
  modify (·.deeper)

def closeLoop : SrcCode := do
  modify (·.shallower)
  put (·.closeLoop loop)

def openAtLeastOne : SrcCode := do
  put (·.openAtLeastOne)
  modify (·.deeper)

def closeAtLeastOne (prefetching : Bool) : SrcCode := do
  modify (·.shallower)
  put (·.closeAtLeastOne prefetching)

def globalReads : SrcCode := do
  for i in (<- spec).inputs do
    skip
    putM (·.globalRead false i)

def increments (loop : Int) (prefetching : Bool) : SrcCode :=
  putM fun c => do
    let (a, b) <- c.incBoth loop prefetching
    return a ++ b

def noteSizes (i : Input) : SrcCode :=
  modify fun c =>
    if (SourceContext.tileSites i).isEmpty then c
    else if i.isA then { c with sizesA := some (c.tileSizes i) }
    else { c with sizesB := some (c.tileSizes i) }

def tileAddrs : SrcCode := do
  let k <- spec
  let about := ("global read addresses: " ++ ·)
  boxed "Begin setupNewTile, isPap=%s" "False"
  comment (about "work-group")
  putM (·.groups)
  each (about "tile offset assignment") (·.tileAssign)
  each (about "unroll assignment") (·.unrollAssign)
  if k.dimsC > 2 then
    comment (about "other free assignments")
    put (·.otherFreeAssigns)
  if k.otherSums != 0 then
    comment (about "other summation assignments")
    put (·.otherSumAssigns)
  each (about "tile offsets") (·.tileOffs)
  for i in k.inputs do noteSizes i
  each (about "unroll offsets") (·.unrollOffs)
  if k.edge == "ShiftPtr" then
    for i in k.inputs do
      if !(k.bufferLoad && i.noPartial) then
        comment (about ("shift " ++ i.lower))
        put (·.shiftOffs i)
  else if k.edge == "Branch" then each (about "branch") (·.boundsChecks)
  each (about "final offsets") (·.finalOffs)
  each (about "addresses") (·.addrs)
  for i in k.inputs do
    comment (about ("increments " ++ i.lower))
    for n in (upTo k.numSum).reverse do put (·.increments n i)
  comment3 "Local Write Addresses"
  plainEach (·.writeTileAssign)
  plainEach (·.writeUnrollAssign)
  each "local write addresses: first offset" (·.writeFirstOff)
  plainEach (·.writeFinalOffs)
  plainEach (·.writeAddrs)
  plainEach (·.initWrites)

def startTile : SrcCode := do
  let k <- spec
  if k.emits .preLoop then tileAddrs
  put (·.comment1 "declare loop num iterations")
  put (·.declareCounts)
  if k.prefetchGlobalRead == 0 || k.actualLoops != 1 then put (·.clearSums)
  for n in upTo k.otherSums do
    comment s!"summation loop {n}"
    loopCount n
    if k.actualLoops > 1 then openLoop (some n)
  loopCount k.unrollIdx
  if k.staggers then
    putM (·.staggerStart)
    plainEach (·.applyStagger)
  if k.emits .preLoop then eachTight "local read addresses: init pointers" (·.initReads)
  if k.prefetches then
    comment "prefetch: global -> local"
    openAtLeastOne
    if k.emits .globalRead then globalReads
    if k.emits .readInc then increments k.unrollIdx true
  boxed "End setupNewTile, isPap=%s" "False"

def readAhead (title increment : Text) (tight : Bool) : SrcCode := do
  let k <- spec
  for n in upTo k.prefetchedReads do
    for inner in upTo k.innerUnroll do
      let active := k.inputs.filter (inner * k.readsCoalesced · < k.innerUnroll)
      for i in active do
        comment s!"{title} {i.lower}"
        put (·.localRead (n * k.itersPerRead i != 0) i)
      for i in active do
        let note := s!"{increment} {i.lower}"
        put fun c => if tight then c.comment1 note else c.comment note
        put (·.advanceReads i)

def prefetchTile : SrcCode := do
  let k <- spec
  skip
  skip
  if k.actualLoops == 1 then put (·.clearSums)
  skip
  if k.emits .wait && !k.optPreLoopVmcnt then
    skip
    if k.persist || k.actualLoops > 1 then put fun c => c.row s!"{c.barrier}// for PersistentKernel "
  if k.emits .localWrite then
    put fun c => .join (k.inputs.map fun i => c.comment s!"local write {i.lower}" ++ c.localWrite i)
    each "local write swap" (·.swapWrites)
    plainEach (·.initWrites)
  if k.prefetchGlobalRead == 2 then
    skip
    if k.emits .globalRead then globalReads
    skip
  if k.prefetchedReads != 0 then
    meet ""
    if k.emits .localRead then readAhead "local read prefetch" "local read inc" false
  closeAtLeastOne true

structure Iteration where
  u : Int
  /-- Local memory still holds data after the iteration. -/
  live : Bool
  writes : Int -> Text

def iterReads (it : Iteration) : SrcWriter Text := do
  let c <- get
  let endIter := c.loopIters - c.prefetchedReads - 1
  let slot := (it.u + c.prefetchedReads) % (c.prefetchLocalRead + 1) % c.loopIters
  let reads := fun i => (it.u + c.prefetchedReads) * c.itersPerRead i < c.loopIters || it.live && it.u > endIter
  if !c.emits .localRead then return ""
  let rounds := (upTo c.innerUnroll).map fun inner =>
    let active := c.inputs.filter fun i => reads i && inner * c.readsCoalesced i < c.innerUnroll
    let loads := active.map fun i => c.comment s!"local read {i.lower}" ++ c.localRead (slot * c.itersPerRead i != 0) i
    let moves := if it.u != endIter || inner != c.innerUnroll - 1 then
        active.map fun i => c.comment s!"local read increment {i.lower}" ++ c.advanceReads i
      else []
    .join (loads ++ moves)
  return .join rounds

variable (c : SourceContext)

def swapWritesText : Text :=
  .join (c.inputs.map fun i => c.comment s!"local write swap offsets {i.lower}" ++ c.swapWrites i) ++
  .join (c.inputs.map c.initWrites)

def swapReadsText : Text :=
  .join (c.inputs.map fun i => c.comment s!"local read swap offsets {i.lower}" ++ c.swapReads i)

def initReadsText : Text :=
  .join (c.inputs.map fun i => c.comment s!"local read init pointers {i.lower}" ++ c.initReads i)

def iterMacs (u : Int) : SrcWriter Text := do
  let c <- get
  if !c.emits .mac then return ""
  if c.hasMatrix then throw .noField
  return c.macs (u % (c.prefetchLocalRead + 1) != 0) c.innerUnroll

def iteration (it : Iteration) (last : Bool) : SrcWriter Text := do
  let c <- get
  let endIter := c.loopIters - c.prefetchedReads - 1
  let reads <- iterReads it
  let prefetching := c.prefetches && !last
  let atEnd := it.u == endIter
  let sync := if prefetching && c.emits .sync && (it.u == endIter + 1 ||
      it.u == (endIter + 1) % c.loopIters && c.scheduleIterAlg == 2) then c.sync ""
    else ""
  let pointerWrites := opt (prefetching && atEnd && c.emits .localWrite) (swapWritesText c)
  let pointerReads := if c.emits .localRead && atEnd && !last then opt prefetching (swapReadsText c) ++ initReadsText c
    else ""
  return sync ++ reads ++ it.writes it.u ++ pointerWrites ++ pointerReads ++ (<- iterMacs it.u)

def iterNote (u : Int) (last : Bool) : SrcCode := do
  let k <- spec
  let note :=
    if last then " (last unrolled loop)"
    else if u == k.loopIters - k.prefetchedReads - 1 then
      " (reset local read pointers iteration)  (swap and reset local write pointers iteration) " ++
        " (swap local read pointers iteration) "
    else ""
  comment s!"iter {u}{note}"

def writesOf (texts : Option Texts) (u : Int) : Text :=
  if c.prefetches && u == c.loopIters - c.prefetchedReads - 1 then
    let parts := texts.getD ["", ""]
    "\n/* local write A */\n" ++ parts.getD 0 "" ++ "\n/* local write B */\n" ++ parts.getD 1 ""
  else ""

def meetLoads (what : Text) : SrcCode := do
  let k <- spec
  if k.loadsDirectly && k.emits .wait then skip
  meet what

def nextPart (part : Int) : SrcCode := do
  let k <- spec
  if part > 0 then
    if k.emits .globalRead then throw .noField
    if k.prefetches && (k.loopIters == 1 || k.loopIters == 2) then meet "sync for local read after write"

def loadlessLoop (stillWrites : Bool) : SrcCode := do
  let k <- spec
  if stillWrites then comment3 " NoGlobalLoadLoop - Begin" else boxed "%s NoLoadLoop - Begin" "Ord."
  openAtLeastOne
  if k.prefetchedReads == 0 then meetLoads ""
  for n in upTo (k.loopIters * k.depthULdsDivisor) do
    let u := n % k.loopIters
    let part := n / k.loopIters
    let last := part == k.depthULdsDivisor - 1 && !stillWrites
    if u == 0 then
      nextPart part
      if !stillWrites then
        if !last && k.oneLdsBuffer then throw .noField
        skip
    iterNote u last
    let c <- get
    let writes := if stillWrites then fun _ => "" else
      writesOf c (if last then none else some (k.inputs.map c.localWrite))
    let live := (k.prefetches || part < k.depthULdsDivisor - 1) && !last
    let text <- iteration { u, live, writes } last
    put fun _ => text
  closeAtLeastOne false

def loopHead : SrcWriter Text := do
  let c <- get
  let reads <- if c.emits .globalRead then c.inputs.mapM fun i => c.globalRead false i else pure []
  let moves <- if c.emits .readInc then do
      let (a, b) <- c.incBoth c.unrollIdx false
      pure (a ++ b)
    else pure ""
  return .join reads ++ moves

def checkSchedule (k : KernelSpec) : SrcCode := do
  let _ <- Derive.cap "AsmCaps" (<- .setting CISA) "MaxVmcnt"
  if k.scheduleIterAlg == 3 && k.hasMatrix then throw .noField
  if k.oneLdsBuffer && k.emits .localWrite then throw .noField

def writeBoth (before : Text) : SrcCode := do
  let k <- spec
  meet before
  if k.emits .localWrite then each "local write" (·.localWrite)
  meet ""

def unrolledIter (n : Int) (headDone : Bool) (head : Text) : SrcCode := do
  let k <- spec
  let prefetching := k.prefetches
  let u := n % k.loopIters
  let part := n / k.loopIters
  if u == 0 then
    nextPart part
    if !headDone then
      checkSchedule k
      put fun _ => opt (part <= 0) head
  if !prefetching then
    let next := part < k.depthULdsDivisor - 1 && u == k.loopIters - k.prefetchedReads
    let again := part > 0 && k.prefetchedReads == 0 && u == 0
    .check (!(next && again)) ""
    if next || again then writeBoth "PGR=0, prior iter done reading lds"
  iterNote u false
  if prefetching && k.loadsDirectly && k.emits .wait && (u == k.loopIters - k.prefetchedReads ||
        u == (k.loopIters - k.prefetchedReads) % k.loopIters && k.scheduleIterAlg == 2) then skip
  let c <- get
  let writes := writesOf c (if k.emits .localWrite then some (k.inputs.map c.localWrite) else none)
  let live := prefetching || part < k.depthULdsDivisor - 1
  let text <- iteration { u, live, writes } false
  if k.prefetchedReads == 0 && (<- .flag ULEE) then
    if k.emits .mac then throw .noField
    if k.perfMode != 0 then throw .outOfRange
    throw (.missingKey "localReadInstruction")
  put fun _ => text

def unrolledLoop : SrcCode := do
  let k <- spec
  comment3 "Unrolled Loop(s) - Begin"
  openLoop (some k.unrollIdx)
  let copies := if k.expandPtrSwap then 2 else 1
  for copy in upTo copies do
    comment3 s!"Unrolled Loop {copy + 1}/{copies} - Begin"
    skip
    if k.prefetches && k.prefetchedReads == 0 && k.scheduleIterAlg != 2 then meetLoads "4sync for global read"
    comment "Begin Each Unroll: Check VGPR.checkin for INT8 LW"
    let head <- loopHead
    let headDone := k.prefetchGlobalRead == 0
    if headDone then
      checkSchedule k
      put fun _ => head
      writeBoth "PGR=0, prior iter done reading lds"
      if k.prefetchedReads != 0 && k.emits .localRead then readAhead "prefetch local" "local read increment" true
    closeString
    openString
    for n in upTo (k.loopIters * k.depthULdsDivisor) do unrolledIter n headDone head
    closeString
    openString
    if k.expandPtrSwap then
      let final := opt (copy == copies - 1) " (final)"
      comment3 s!"Unrolled Loop - End {copy + 1}/{copies}{final}"
    else comment3 "Unrolled Loop - End"
    closeLoop (some k.unrollIdx)

def tailLoop : SrcCode := do
  let k <- spec
  comment3 "Tail Loop"
  if k.emits .localWrite && k.prefetches then each "local write reset offsets" (·.resetWrites)
  if k.emits .globalRead then
    put (·.tailCount)
    if k.staggers && k.actualLoops == 1 then
      comment "remove stagger offsets for tail loop"
      plainEach (·.removeStagger)
    for i in k.inputs do
      comment "Update M0 for DTLDS"
      skip
      comment s!"global read {i.lower}"
      putM (·.globalRead true i)
  meet ""
  for part in upTo k.depthULdsDivisor do
    if k.depthULdsDivisor > 1 then
      comment "Recalc local write offsets"
      skip
      skip
    if k.emits .sync && part > 0 then
      comment "sync before local write"
      put (·.sync "")
    if k.emits .localWrite then
      plainEach (·.initWrites)
      each "local write" (·.localWrite)
    comment "Recalc local read offsets"
    skip
    meet ""
    comment "TailLoop: Check VGPR.checkin for INT8 LW"
    if k.prefetches then
      each "local read reset offsets" (·.resetReads)
      each "local read init pointers" (·.initReads)
    comment "tail loop: macs"
    openLoop none
    let inner := k.innerUnroll * (k.matrix.elim 1 (·.k))
    if inner == 0 then throw .divisionByZero
    let rounds := if k.assertSum % inner == 0 || k.dotLayout == 2 && k.innerUnroll == 2
      then k.innerUnroll else 1
    for _ in upTo rounds do
      if k.emits .localRead then
        each "local read" (·.localRead false)
        each "local read inc" (·.advanceReads)
    if k.emits .wait then skip
    if k.hasMatrix then skip
    if k.emits .mac then
      if k.hasMatrix then throw .noField
      put (·.macs false rounds)
    closeLoop none

def storeResult : SrcCode := do
  let k <- spec
  if k.prefetchGlobalRead == 0 then skip
  if k.edge == "ShiftPtr" then
    if !k.a.noPartial && k.a.readTileVec then
      comment "shift vector components d0"
      put (·.shiftSums k.a)
    if !k.b.noPartial && k.b.readTileVec && !k.hasMatrix then
      comment "shift vector components d1"
      put (·.shiftSums k.b)
  put (·.complexReg)
  if k.localSplitU > 1 then
    comment3 "LocalSplitU Reduction"
    if k.emits .sync then put (·.sync "")
    comment "LocalSplitU: local write"
    put (·.splitWrite)
    comment "LocalSplitU: local read"
    put (·.splitRead)
    comment "LocalSplitU: reduction"
    put (·.splitReduce)
    comment "LocalSplitU: global write indices"
    put (·.splitPositions)
    comment "LocalSplitU: global write"
    putM (·.splitStore)
  else
    comment "not-LocalSplitU: global write indices"
    put (·.positions)
    comment "not-LocalSplitU: global write"
    putM (·.store)

def afterLoop : SrcCode := do
  let k <- spec
  comment "Before NLL: Check VGPR.checkin for INT8 LW"
  if k.prefetchGlobalRead == 2 then loadlessLoop true
  if k.prefetches && !k.dropNoLoad then loadlessLoop false
  if k.staggers && k.actualLoops > 1 then
    comment "remove stagger offsets"
    plainEach (·.removeStagger)
  if k.loopTail && !k.packSum then tailLoop
  skip
  for n in (upTo k.otherLoops).reverse do
    comment "global read inc AB"
    increments n false
    closeLoop (some n)
  skip
  if k.emits .postLoop then storeResult
  put (·.fnEnd)
  put (·.undefinitions)
  closeString

def beforeSig : SrcCode := do
  openString
  comment3 "Function Prefix"
  put (·.prelude)
  comment3 "Begin Kernel"
  put (·.beforeSig)

def body : SrcCode := do
  let k <- spec
  put (·.afterSig)
  put (·.lines [" \x7b"])
  comment3 "Allocate Resources"
  put (·.resources)
  if k.emits .preLoop then
    comment3 "Local Read Addresses"
    comment "local read addresses: tile assignments a/b"
    put (·.readTileAssign)
    each "local read addresses: final offsets" (·.readFinalOff)
    each "local read addresses: declare addresses" (·.readAddr)
  if k.persist then skip
  put (·.openPersistLoop)
  startTile
  if k.prefetches then prefetchTile
  unrolledLoop
  afterLoop

def takePieces : SrcWriter Text := do
  let c <- get
  set { c with pieces := #[] }
  return "\n".intercalate c.pieces.toList

def joinedStrings : Text :=
  let parts := (span 1 c.stringIdx).map fun i => s!"\n  + {c.name}_src_{i}"
  opt c.isOcl
      (s!"std::string {c.name}_src_concatenated = \n  {c.name}_src_0" ++ .join parts ++ ";\n" ++
      s!"const char * const {c.name}_src = {c.name}_src_concatenated.c_str();") ++ "\n"

def kernel : SrcWriter Text := do
  let c <- get
  let head := opt (!c.mergeFiles) s!"\n#include \"{c.fileBase}.h\"\n\n"
  beforeSig
  let before <- takePieces
  body
  let after <- takePieces
  let done <- get
  return head ++ before ++ done.sig ++ after ++ joinedStrings done

end SrcWriter

def SourceContext.kernelText (c : SourceContext) : Gen Text := return (<- SrcWriter.kernel.run c).1

end TensorForge
