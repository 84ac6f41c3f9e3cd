import TensorForge.Kernel.Assembly.EdgeShift
import TensorForge.Kernel.Assembly.Interleave
import TensorForge.Kernel.Assembly.Iteration
import TensorForge.Kernel.Assembly.Loop
import TensorForge.Kernel.Assembly.OutputIndex
import TensorForge.Kernel.Assembly.Setup

/-! # The flow of a kernel -/

namespace TensorForge.Assembly

open Asm Emit GlobalAddr GlobalRead LocalAddr LocalPtrs LocalWrite Loop

structure Flow where
  pieces : Array Text := #[]
  pending : Pending := {}
  packs : Array (List Packing) := #[]
  held : Ints := []
  first : Option (Nat × LocalWrite.First) := none

abbrev Body := StateT Flow Emit
abbrev Stage := Body Unit

namespace Body

variable (text : Text) (i : Int) (phase : GlobalRead.Phase) (packs : List Packing)

def put (s : Text) : Stage := modify fun f => { f with pieces := f.pieces.push s }
def piece (x : Code) : Stage := do put (<- captured x)
def note : Stage := put (comment text)
def banner : Stage := put (comment3 text)

def noted (x : Code) : Stage := do
  note text
  piece x

def pieces (x : Bool -> Code) : Stage := do
  piece (x true)
  piece (x false)

def titled (title : Text) (x : Bool -> Code) : Stage := do
  noted (title ++ " a") (x true)
  noted (title ++ " b") (x false)

def code (items : Items) : Stage := put (Item.renderAllOnto false "" items)
def await (loads writes reads : Int) (comment : Text) : Stage := piece (emitWait loads writes reads comment)

def meet (loads writes reads : Int) (comment : Text) (sync : Text := "") : Stage := do
  let k <- spec
  if k.emits .wait then await loads writes reads comment
  if k.emits .sync then piece (barrier sync)

def collected (x : Stage) : Body Text := do
  let before := (<- get).pieces
  modify ({ · with pieces := #[] })
  x
  let text := "\n".intercalate (<- get).pieces.toList
  modify ({ · with pieces := before })
  return text

def onPending (f : Pending -> Pending) : Stage := modify fun s => { s with pending := f s.pending }
def hold (r : Option Int) : Stage := r.elim (pure ()) fun r => modify fun f => { f with held := f.held ++ [r] }

def release : Stage := do
  for r in (<- get).held do giveVec r
  modify ({ · with held := [] })

def keepWrites (part : Option Int := some 0) : Stage := do
  let (a, tmpA) <- writes true part
  let (b, tmpB) <- writes false part
  onPending ({ · with writesA := a, writesB := b })
  hold tmpA
  hold tmpB

def putWrites (part : Option Int := some 0) : Stage := do
  note "local write a"
  let (a, tmpA) <- writes true part
  code (itemsOf a)
  note "local write b"
  let (b, tmpB) <- writes false part
  code (itemsOf b)
  hold tmpA
  hold tmpB

def keepLoads : Stage := do
  if (<- spec).emits .globalRead then
    let directA <- directAddr true
    let loadsA <- loads true phase
    let directB <- directAddr false
    let loadsB <- loads false phase
    onPending ({ · with directA, loadsA, directB, loadsB })
  else onPending ({ · with directA := [], loadsA := {}, directB := [], loadsB := {} })

def keepSteps (ahead : Int) : Stage := do
  let k <- spec
  let (stepsA, stepsB) <- if k.emits .readInc then steps k.unrollIdx ahead else pure ([], [])
  onPending ({ · with stepsA, stepsB })

def putLoads : Stage := do
  for isA in [true, false] do
    code (<- directAddr isA)
    put (<- loads isA phase).render

def packsOf : Body (List Packing) := do
  let f <- get
  if 0 <= i && i < f.packs.size then return f.packs.getD i.toNat [] else throw .outOfRange

def setPacks : Stage := modify fun f => { f with packs := f.packs.set! i.toNat packs }
def keepPack (p : Packing) : Stage := do setPacks i ((<- packsOf i) ++ [p])

def clearPack : Stage := do
  let _ <- packsOf i
  setPacks i []

def releasePack : Stage := do for p in packs do if let some r := p.tmp then giveVec r

def putFirstReads (title : Text) (step : Text -> Text) : Stage := do
  let k <- spec
  for i in upTo k.prefetchedReads do
    clearPack i
    for u in upTo k.innerUnroll do
      for t in <- sides do
        if u * t.joined < k.innerUnroll then
          note (title ++ " " ++ t.lower)
          let (item, pack) <- LocalRead.reads t.isA (i * k.itersPerRead t.toInput) (u * t.joined)
          code [item]
          keepPack i pack
      for t in <- sides do
        if u * t.joined < k.innerUnroll then
          put (step t.lower)
          piece (advanceRead t.isA)

end Body

/-!
## Setting up a tile

A kernel finds where its work group reads, how many iterations the summation takes, and starts the first loads. A
persistent kernel sets the next tile up before it stores the current one, without what stays the same.
-/

namespace NewTile

open Body

def filledBox (text value : Text) : Text := .replace (comment3 text) "%s" value
def setSilent (b : Bool) : Stage := (modify ({ · with silent := b }) : Code)

variable (ahead short : Bool)

def skipName : Text := if short then "SkipPrefetchAcrossPersistent_OptNLL" else "SkipPrefetchAcrossPersistent"

def openLoads : Code := do
  let k <- spec
  raw (lastIterTest k)
  if ahead then emit ["s_cbranch_scc1 " ++ (<- namedLabel (skipName short))] "skip prefetch loads since numIter==0"
  else if (<- get).shadow != 0 then
    emit ["s_cbranch_scc1 " ++ (<- namedLabel "ShadowInitStart")] "skip to ShadowInitStart iter b/c numIter==0"
  else
    let c := loopChar k k.unrollIdx
    emit ["s_cbranch_scc1 " ++ (<- namedLabel s!"LoopEnd{c}")] s!"skip to unrollLoop end loop{c} iter b/c numIter==0"

def addrs : Stage := do
  let k <- spec
  let whole := fun i => k.bufferLoad && i.noPartial
  let mayShift := (k.edge == "ShiftPtr" && !whole k.a) || !whole k.b
  let quiet := ahead && !mayShift
  let about := ("global read addresses: " ++ ·)
  put (filledBox "Begin setupNewTile, isPap=%s" (if ahead then "True" else "False"))
  noted (about "work-group") Setup.workGroup
  setSilent (short && quiet)
  titled (about "tile offset assignment") tileAssign
  setSilent quiet
  titled (about "unroll assignment") unrollAssign
  setSilent false
  if k.dimsC > 2 then noted (about "other free assignments") otherFreeAssigns
  if k.otherSums != 0 then noted (about "other summation assignments") otherSumAssigns
  setSilent quiet
  titled (about "tile offsets") tileOffs
  titled (about "unroll offsets") unrollOffs
  setSilent false
  if k.edge == "ShiftPtr" then
    for t in k.inputs do if !whole t then noted (about ("shift " ++ t.lower)) (shift t.isA)
  else if k.edge == "Branch" then titled (about "branch") fun _ => pure ()
  setSilent quiet
  titled (about "final offsets") finalOffs
  setSilent false
  titled (about "addresses") GlobalAddr.addrs
  setSilent ahead
  for t in k.inputs do
    note (about ("increments " ++ t.lower))
    for i in (upTo k.numSum).reverse do piece (increments i t.isA)
  setSilent false
  banner "Local Write Addresses"
  pieces writeTile
  pieces writeUnroll
  setSilent (ahead && short)
  titled "local write addresses: first offset" writeFirst
  setSilent false
  for _ in List.range 6 do put ""

/-- With `ahead` the next tile of a persistent kernel, with `short` in the short last iteration, which schedules the
loads itself. -/
def setup : Stage := do
  let k <- spec
  if k.emits .preLoop then addrs ahead short
  put (comment1 "declare loop num iterations")
  piece declareLast
  if (<- (get : Emit State)).shadow != 2 then piece clearOut
  for i in upTo (k.numSum - 1) do
    noted s!"summation loop {i}" (count i ahead)
    if k.actualLoops > 1 then piece (start i)
  piece (count k.unrollIdx ahead)
  if k.staggers then
    piece declareStagger
    pieces stagger
  if k.emits .preLoop && !ahead then
    for t in k.inputs do
      put (comment1 ("local read addresses: init pointers " ++ t.lower))
      piece (initRead t.isA)
  if ahead && !short then
    for t in k.inputs do
      put (comment1 ("local read addresses: reset offset " ++ t.lower))
      piece (resetRead t.isA)
  if k.prefetches then
    noted "prefetch: global -> local" (openLoads ahead short)
    if ahead && short then
      keepLoads .ahead
      keepSteps 1
    else
      if k.emits .globalRead then putLoads .ahead
      if k.emits .readInc then
        let (a, b) <- steps k.unrollIdx 1
        code (a ++ b)
  put (filledBox "End setupNewTile, isPap=%s" (if ahead then "True" else "False"))

def testLast : Code := do
  let tmp <- glimpseScalar
  sMul tmp (sr "NumWorkGroups0") (sr "NumWorkGroups1") "Total WG-0x1"
  if (<- spec).alongBatch then sMul tmp tmp (sr "NumWorkGroups2") "Total WG-0 x 1 x 2"
  emit ["s_cmp_ge_u32", sr "SerialWorkGroupIter", tmp] "outside legal WG?"

def openNext : Code := do
  raw (comment3 "PrefetchAcrossPersistent - Open")
  testLast
  emit ["s_cbranch_scc1", <- namedLabel (skipName short)] "skip pf if OOB"

def closeNext : Code := do
  let label <- namedLabel (skipName short)
  raw s!"{label}: //SkipPrefetchAcrossPersistent"
  raw (comment3 "PrefetchAcrossPersistent - Close")

def finishKernel (withLabel : Bool) : Code := do
  if (<- spec).persist then
    testLast
    emit ["s_cbranch_scc0", <- label "PersistentLoopStart"] "persistent loop back"
  if withLabel then raw (Item.labelText (<- labelNum "KernelEnd") "KernelEnd")
  emit ["s_endpgm"] "Kernel End"

end NewTile

end TensorForge.Assembly
