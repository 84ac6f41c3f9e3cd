import TensorForge.Kernel.Assembly.Signature
import TensorForge.Kernel.Assembly.Unrolled

/-! # The body of a kernel -/

namespace TensorForge.Assembly

open Asm EdgeShift Emit Item Iteration LocalAddr LocalPtrs LocalRead LocalWrite Loop NewTile Setup Store Unrolled

namespace SplitSum

/-- How many results go together, and whether they are two words. -/
def stepOf (inMem : Bool) : Emit (Int × Bool) := do
  let k <- spec
  let d := k.dataType
  let bytes := (<- layout).bytesAcc
  let wide := inMem && k.vecWidth * bytes >= 8 && k.writeVecWidth * bytes >= 8
  let n := if wide then 2 else 1
  if d.isHalf && !k.highPrec then
    check (k.vecWidth % 2 == 0)
    return (2 * n, wide)
  else if d.isInt8x4 || d.isBFloat16 || d.isHalf || d.isSingle then return (n, wide)
  else if d.isDouble || d.isSingleComplex || d.isDoubleComplex then
    if inMem then check wide
    return (1, wide)
  else throw .unbound

def await (what : Text) : Code := do
  sWait "lgkmcnt(0)" s!"wait for all {what}"
  awaitWrites

def write : Code := do
  let k <- spec
  let bytes := (<- layout).bytesAcc
  let vw := k.vecWidth
  barrier "pre-lsu local write"
  let tmpV <- takePair
  let lr0 <- takeOne "lr0"
  let lr1 <- takeOne "lr1"
  let sg <- takeOne "sg"
  let copy <- takeOne "copy"
  let tmp <- glimpseTmp 1
  let scale := fun reg n name text => do
    sMov (sr tmp) (.hex (n * bytes)) name
    vMul (vr reg) (sr tmp) (vr reg) text
  vDiv lr1 lr0 "Serial" k.subGroup0 tmpV tmp true
  vMov (vr copy) (vr lr1) "copy for divide"
  vDiv sg lr1 copy k.subGroup1 tmpV tmp true
  scale lr0 vw "VW" "lr0 *= VW"
  scale lr1 (vw * k.macroTile0) "VW*MT0" "lr1 *= VW*MT0"
  scale sg (k.macroTile0 * k.macroTile1) "MT0*MT1" "sg *= MT0*MT1"
  vAddCo (vr lr0) (vr lr1) (vr lr0) ""
  vAddCo (vr lr0) (vr sg) (vr lr0) "threadOffset"
  giveVecs [lr0, lr1, sg, copy, tmpV]
  let (step, wide) <- stepOf true
  for j in upTo (<- quotient k.threadTile1 vw) do
    for i in upTo (<- quotient k.threadTile0 vw) do
      for s in upTo vw do
        for vc in multiplesBelow vw step do
          let off := vc + i * k.subGroup0 * vw + s * k.macroTile0 + j * k.macroTile0 * k.subGroup1 * vw
          let reg := vc + i * vw + s * k.threadTile0 + j * k.threadTile0 * vw
          let text := s!"j={j} i={i} s={s} vc={vc}"
          if wide then
            emit ["ds_write_b64", vr lr0, vr s!"ValuC+{reg * bytes / 4}" 2, s!"offset:{off * bytes}"] text
          else emit ["ds_write_b32", vr lr0, vr s!"ValuC+{reg / step}", s!"offset:{off * bytes}"] text
  await "writes"
  barrier "post-lsu local write"

def read : Code := do
  let k <- spec
  let l <- layout
  let bytes := l.bytesAcc
  let width := k.writeVecWidth
  let tmp <- glimpseTmp 1
  let base <- takeOne "baseAddr"
  consts (mulVec (vr base) (vr "Serial") (width * l.bytesAB) (sr tmp) "")
  let (step, wide) <- stepOf true
  for r in upTo k.localSplitU do
    for i in upTo k.numWriteVecs do
      for s in multiplesBelow width step do
        let off := (s + i * k.numThreads * width + r * k.macroTile0 * k.macroTile1) * bytes
        let reg := s + i * width + r * width * k.numWriteVecs
        let text := s!"r={r} i={i} s={s}"
        if wide then emit ["ds_read_b64", vr s!"ValuC+{reg * bytes / 4}" 2, vr base, s!"offset:{off}"] text
        else emit ["ds_read_b32", vr s!"ValuC+{reg / step}", vr base, s!"offset:{off}"] text
  await "reads"
  giveVec base

def reduce : Code := do
  let k <- spec
  let d := k.dataType
  let width := k.writeVecWidth
  let (step, _) <- stepOf false
  let add := fun op c r n part =>
    emit [op, vr s!"ValuC+{c}" n, vr s!"ValuC+{r}" n, vr s!"ValuC+{c}" n] s!"c[{c}] += c[{r}]{part}"
  for r in span 1 k.localSplitU do
    for i in upTo k.numWriteVecs do
      for s in multiplesBelow width step do
        let c := s + i * width
        let reg := c + r * width * k.numWriteVecs
        if d.isNarrow && !k.highPrec then add "v_pk_add_f16" (c / step) (reg / step) 1 ""
        else if d.isInt8x4 then add "_v_add_i32" (c / step) (reg / step) 1 ""
        else if d.isSingle then add "v_add_f32" (c / step) (reg / step) 1 ""
        else if d.isDouble then add "v_add_f64" (c * 2) (reg * 2) 2 ""
        else if d.isSingleComplex then
          add "v_add_f32" (c * 2) (reg * 2) 1 ", real part"
          add "v_add_f32" (c * 2 + 1) (reg * 2 + 1) 1 ", imaginary part"
        else if d.isDoubleComplex then
          add "v_add_f64" (c * 4) (reg * 4) 1 ", real part"
          add "v_add_f64" (c * 4 + 2) (reg * 4 + 2) 1 ", imaginary part"
        else throw .unmet

end SplitSum

open Asm Emit Body
namespace KernelBody

def opening : Stage := do
  let k <- spec
  for _ in [0, 1] do put ""
  banner "Allocate Resources"
  piece resources
  if k.emits .preLoop then
    banner "Local Read Addresses"
    noted "local read addresses: tile assignments a/b" readTiles
    titled "local read addresses: final offsets" readFinal
    titled "local read addresses: declare addresses" readDeclare
  let shadow := if k.prefetchGlobalRead == 0 then 0 else if k.actualLoops == 1 then 2 else 1
  modifyThe State ({ · with shadow })
  if k.persist then piece (widenFactors k.useBeta)
  if k.prefetchAcross then
    setup false false
    piece openPersistLoop
  else
    piece openPersistLoop
    setup false false
  modify ({ · with packs := .replicate (k.prefetchLocalRead + 1).toNat [], held := [] })

def loadedAhead : Stage := do
  let k <- spec
  if (<- getThe State).shadow != 0 then
    piece openShadow
    piece OutIdx.bufs
    if (<- getThe State).shadow == 2 then piece clearOut
    piece closeShadow
  if k.emits .wait && !k.optPreLoopVmcnt then
    await 0 (-1) (-1) "8wait for global read"
    if k.persist || k.actualLoops > 1 then put "s_barrier// for PersistentKernel \n"
  if k.emits .localWrite then
    let (first, tmps) <- first
    modify fun f => { f with first := some (f.pieces.size, first) }
    put ""
    for r in tmps do hold r
    titled "local write swap" swapWrite
    for _ in [0, 1] do put ""
  if k.prefetchGlobalRead == 2 then
    let skip <- label "skipPGR2"
    let counter := loopCounter k k.unrollIdx
    code [plain [s!"s_cmp_eq_u32 {counter} 0x1"] "PGR=2 but only 1 loop",
      plain ["s_cbranch_scc1 " ++ skip] "PGR=2 but only 1 loop"]
    if k.emits .globalRead then putLoads .ahead
    code [plain [skip ++ ":"] ""]
  if k.prefetchedReads != 0 then
    meet (-1) 0 (-1) "0prefetch wait for local write"
    if k.emits .localRead then putFirstReads "local read prefetch" fun c => comment ("local read inc " ++ c)
  put ""

def hasShortForm (k : KernelSpec) (shadow : Nat) : Bool :=
  k.optNoLoadLoop && k.bufferLoad && k.bufStore && shadow != 0 && k.localSplitU == 1 &&
    k.globalSplitU == 1 && k.actualLoops == 1

def lastIters : Stage := do
  let k <- spec
  if k.prefetchGlobalRead == 2 then withoutLoads .writing
  if k.prefetches then
    if !k.dropNoLoad then
      if hasShortForm k (<- getThe State).shadow then
        save
        let packs := (<- get).packs
        withoutLoads .short
        modify ({ · with packs })
        restore
      withoutLoads .last
    else
      for i in upTo k.prefetchLocalRead do
        releasePack (<- packsOf i)
        clearPack i

def loadRest : Stage := do
  let k <- spec
  if k.emits .localWrite && k.prefetches then titled "local write reset offsets" resetWrite
  if k.emits .globalRead then
    piece countRest
    if k.staggers && k.actualLoops == 1 then
      note "remove stagger offsets for tail loop"
      pieces unstagger
    for t in k.inputs do
      note "Update M0 for DTLDS"
      code (<- GlobalRead.directAddr t.isA)
      note ("global read " ++ t.lower)
      put (<- GlobalRead.loads t.isA .rest).render
  meet 0 (-1) (-1) "2wait for global read"
  onSides ({ · with keptRead := none, keptWrite := none })

def restUnroll (k : KernelSpec) : Emit Int := do
  let inner := k.innerUnroll * (k.matrix.map (·.k)).getD 1
  if inner == 0 then throw .divisionByZero
  return if k.assertSum.fmod inner == 0 || (k.dotLayout == 2 && k.innerUnroll == 2) then k.innerUnroll
    else 1

def restPart (n : Int) : Stage := do
  let k <- spec
  let part := if k.depthULdsDivisor > 1 then some n else none
  if k.depthULdsDivisor > 1 then
    note "Recalc local write offsets"
    pieces (readdress · n)
  if k.emits .sync && n > 0 then noted "sync before local write" (barrier "")
  if k.emits .localWrite then
    for _ in [0, 1] do put ""
    putWrites none
  noted "Recalc local read offsets" readdress
  meet (-1) 0 (-1) "5wait for local write"
  note "TailLoop: Check VGPR.checkin for INT8 LW"
  release
  if k.prefetches then
    titled "local read reset offsets" resetRead
    titled "local read init pointers" initRead
  noted "tail loop: macs" (openRest part)
  let unroll <- restUnroll k
  clearPack 0
  for i in upTo unroll do
    if k.emits .localRead then
      let packs <- [true, false].mapM fun isA => do
        note (if isA then "local read a" else "local read b")
        let (item, pack) <- reads isA 0 i
        code [item]
        return pack
      packs.forM (keepPack 0)
      titled "local read inc" advanceRead
  if k.emits .wait then await (-1) (-1) 0 "4wait for local read"
  if k.matrix.isSome then
    let packs <- packsOf 0
    code (packs.map Packing.item)
    releasePack packs
    clearPack 0
  if k.emits .mac then code [(<- k.matrix.elim (call 0 unroll true) (matrix · 0 unroll true))]
  piece (closeRest part)

def rest : Stage := do
  let k <- spec
  if k.staggers && k.actualLoops > 1 then
    note "remove stagger offsets"
    pieces unstagger
  modifyThe State ({ · with inTail := true })
  if k.loopTail && !k.packSum then
    banner "Tail Loop"
    loadRest
    for n in upTo k.depthULdsDivisor do restPart n
  piece skipLabel
  modifyThe State ({ · with inTail := false })
  for i in (upTo k.otherLoops).reverse do
    note "global read inc AB"
    let (a, b) <- GlobalRead.steps i 0
    code (a ++ b)
    piece (close i true)

def storing : Stage := do
  let k <- spec
  if k.prefetchAcross then
    piece (openNext false)
    setup true false
    piece (closeNext false)
  piece finish
  if k.emits .postLoop then
    if (<- getThe State).shadow == 0 then piece OutIdx.bufs
    if k.edge == "ShiftPtr" then
      if !k.a.noPartial && k.a.readTileVec then noted "shift vector components d0" (shift true)
      if !k.b.noPartial && k.b.readTileVec && k.matrix.isNone then
        noted "shift vector components d1" (shift false)
    put ""
    if k.localSplitU > 1 then
      banner "LocalSplitU Reduction"
      if k.emits .sync then piece (barrier "")
      noted "LocalSplitU: local write" SplitSum.write
      noted "LocalSplitU: local read" SplitSum.read
      noted "LocalSplitU: reduction" SplitSum.reduce
      noted "LocalSplitU: global write indices" OutIdx.split
      noted "LocalSplitU: global write" split
    else
      noted "not-LocalSplitU: global write indices" OutIdx.whole
      noted "not-LocalSplitU: global write" whole

/-- Notes which resource ran out, and checks that all registers were given back. -/
def settle : Code := do
  let k <- spec
  let st <- get
  let vectors : Int := st.vectors.size
  let accumulators : Int := st.accumulators.size
  let note := fun n => modify ({ · with overflowed := n })
  if vectors > maxVecs then note 1 else if st.scalars.size > maxScalars then note 2
  if k.scheduleIterAlg == 2 then
    let some n := occupancy? k.numThreads vectors (localBytes k) accumulators | throw .divisionByZero
    if n < 2 then note 6
  let perThread <- quotient 65536 k.numThreads
  if (<- quotient perThread (max vectors accumulators)) < 1 then note 4
  if (<- get).overflowed != 0 then raw ".endif // overflowed resources \n"
  RegisterPool.checkFinalState st.vectors

def fillFirst : Stage := do
  let f <- get
  if let some (i, first) := f.first then
    let limit <- if (<- spec).optPreLoopVmcnt then limit "MaxVmcnt" else pure 0
    let text := first.render (<- getThe State).counts limit
    set { f with pieces := f.pieces.modify i fun _ => text }

def pieces : Stage := do
  opening
  if (<- spec).prefetchGlobalRead != 0 then loadedAhead
  loop
  lastIters
  rest
  storing
  fillFirst
  piece (finishKernel true)
  piece settle
  put ""

def write : Emit Text := do
  let before := "\n".intercalate ["", comment3 "Function Prefix", "", comment3 "Begin Kernel", ""]
  let (_, f) <- StateT.run pieces {}
  if let some (printed, fault) := (<- get).unwritable then
    Gen.say printed
    throw fault
  return before ++ (<- captured Sig.write) ++ "\n".intercalate f.pieces.toList

end KernelBody

/-!
## Writing assembly kernels

A kernel that needs more than the machine has is refused unless the settings ask for its text all the same.
-/

def State.ofSpec (k : KernelSpec) (name : Text) (parts probes : Switches) (session : Session) : State :=
  { session, k, name, parts, probes, a := { toInput := k.a }, b := { toInput := k.b } }

/-- The outcome as a value; the state stays as it was when the computation stopped. -/
def Emit.outcome {α : Type} (st : State) (x : Emit α) : Gen (Result α × State) := fun session =>
  match x { st with session } with
  | .ok a st => .ok (.ok a, st) st.session
  | .error f st => .ok (.error f, st) st.session

def kernelText : Emit Text := do
  layOut
  let text <- KernelBody.write
  let error := (<- get).overflowed
  if error != 0 then
    if <- flag "ForceGenerateKernel" then
      Gen.sayLine s!"warning: Generating kernel source resulted in error {error}, but ForceGenerateKernel=1 so saving source"
    else throw (.failure s!"Generating kernel source resulted in error {error}")
  return text

def header (name : Text) : Gen Text := do
  let guard := if <- .flag MF then "" else "#pragma once\n\n"
  let bytes := if <- .flag CFF then ""
    else s!"extern const unsigned char {name}_coba[]; // code object byte array\n"
  return guard ++ bytes

/-- A check on its own; some leave nothing behind when checks are off. -/
structure Probe where
  emit : Code
  vanishes : Bool := false

def Probe.text (p : Probe) : Emit Value := do
  if p.vanishes && !(<- asserting) then return .null
  .str <$> captured p.emit

end TensorForge.Assembly
