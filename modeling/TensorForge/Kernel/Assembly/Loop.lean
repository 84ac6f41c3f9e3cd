import TensorForge.Kernel.Assembly.GlobalRead

/-! # Loops over the summation -/

namespace TensorForge.Assembly

open Asm Emit GlobalAddr GlobalRead LocalPtrs Text

def farBranch (label : Text) : Code := do
  let tmp <- glimpseTmp 3
  emit ["s_getpc_B64", sr tmp 2] "addr of next instr"
  sAdd (sr (tmp + 2)) label "0x4" "target branch offset"
  sAdd (sr tmp) (sr tmp) (sr (tmp + 2)) "add target branch offset"
  sAddC (sr (tmp + 1)) "0" (sr (tmp + 1)) "add high and carry"
  emit ["s_setpc_b64", sr tmp 2] s!"branch to {label}"

def farBranchIf (condition : Bool) (label : Text) : Code := do
  let skip <- freshLabel "NoBranch"
  let (wanted, other) := if condition then ("1", "0") else ("0", "1")
  emit [s!"s_cbranch_scc{other} label_{skip}"] s!"Only branch on scc{wanted}"
  farBranch label
  raw s!"label_{skip}:\n"

namespace Loop

/-- From here on the output is set up during the first loads. -/
def openShadow : Code := placeNamed "ShadowInitStart"

def closeShadow : Code := do
  let k <- spec
  check ((<- get).shadow != 0 && k.prefetches)
  raw (lastIterTest k)
  let label <- namedLabel (if k.dropNoLoad then s!"LoopEnd{k.unrollChar}" else "PrefetchGlobalLastIterEnd")
  heading "after InitC, skip to end of prefetch last iter if numIter==0"
  farBranchIf true label

def clearOut : Code := do
  let k <- spec
  let l <- layout
  let valuA := (<- side true).valu
  let text <- captured do
    if l.overlapC then
      heading s!"initC: remove AB-tile {valuA}-{l.lastValuAB - valuA} from pool"
      removeVecs valuA (l.lastValuAB - valuA) "remove AB tile"
    else
      heading s!"initC: remove C-tile 0-{l.numValuC} from pool"
      removeVecs 0 l.numValuC "ValuC"
      heading s!"initC: remove AB-tile {valuA}-{l.lastValuAB} from pool"
      removeVecs valuA (l.lastValuAB - valuA) "ValuAB"
    for i in upTo l.numValuC do vMov (vr s!"ValuC+{i}") "0x0" "initC"
  if (k.matrix.elim false (·.useAccVgpr)) then
    let (p, fault?) <- RegisterPool.removeReported (<- get).accumulators 0 l.totalAccs.toNat "ValuC"
    modify ({ · with accumulators := p })
    if let some f := fault? then throw f
    for i in upTo l.totalAccs do emit ["v_accvgpr_write", s!"acc{i}", "0x0"] "init Acc vgprs"
  else raw text
  if k.persist then
    remark "move to next serial WG"
    let serial := sr "SerialWorkGroupIter"
    sAdd serial serial (sr "GridNumWorkGroups0")
      "Move Serial forward by numworkgroups - will map to new wg0/wg1 later"
    if k.prefetchAcross then
      remark "save PrevWorkGroup for stores here"
      sMov (sr "PrevWorkGroup0") (sr "WorkGroup0") "save for store code"
      sMov (sr "PrevWorkGroup1") (sr "WorkGroup1") "save for store code"

def declareLast : Code := do
  let k <- spec
  if !k.countsElems then return
  let last := sr "UnrollLoopLastIter"
  let size := loopSizeRef k k.unrollIdx
  if k.splits then
    let tmp <- glimpseTmp 3
    consts (divideScalar "UnrollLoopLastIter" 0 (.named size) k.depthU tmp 0)
    splitIters "UnrollLoopLastIter" tmp
    sMul last last DU "scale"
  else sMov last size "init"
  if k.packSum then
    if k.splits then sMov (sr s!"GsuNumIter{loopChar k k.unrollIdx}") last "save innermost iters for later unpacking"
    for i in upTo k.otherSums do sMul last last (loopSizeRef k i) ""

def declareStagger : Code := do
  let k <- spec
  let tmp <- glimpseTmp 2
  if !k.staggers then return
  let input <- match k.staggerUMap with
    | 0 => pure (sr "WorkGroup0")
    | 1 => pure (sr "WorkGroup1")
    | 2 => pure (sr "WorkGroup2")
    | 3 => do
      let serial := sr tmp
      sMul serial (sr "NumWorkGroups0") (sr "NumWorkGroups1") "wgSerial = (nwg0*ngw1)*wg2 + (nwg0)*wg1 + wg0"
      sMul serial serial (sr "WorkGroup2") ""
      sMul (sr (tmp + 1)) (sr "NumWorkGroups0") (sr "WorkGroup1") ""
      sAdd serial serial (sr (tmp + 1)) ""
      sAdd serial serial (sr "WorkGroup0") ""
      pure serial
    | 4 => pure "-1"
    | _ => throw .unbound
  let iter := sr "StaggerUIter"
  emit ["s_and_b32", iter, sr "OrigStaggerUIter", input] "Compute actual stagger start for this tile"
  sShift iter iter k.staggerStrideShift "shift by StaggerUStride"

def stagger (isA : Bool) : Code := do
  let k <- spec
  if !k.staggers then return
  let t <- side isA
  let c := t.char
  check k.bufferLoad
  let tmp <- glimpseTmp 2
  let inc := sr s!"GlobalReadIncs{c}+{k.unrollIdx}"
  let lo := sr s!"WrapU{c}+0"
  let hi := sr s!"WrapU{c}+1"
  raw (Item.comment1 s!"SRDs += (StaggerUIter) * GlobalReadIncs{c}+{k.unrollIdx}").render
  productI64 (sr tmp) (sr (tmp + 1)) (sr "StaggerUIter") inc " stagger byte offset"
  productI64 lo hi (loopCounter k k.unrollIdx) inc "Number of bytes accessed by the unroll loop"
  sSub lo inc lo "remove one iteration"
  emit ["s_subb_u32", hi, "0", hi] "remove one iteration"
  for i in <- advanceBuf t (sr tmp) (sr (tmp + 1)) do raw i.render
  if !isA then
    let iter := sr "StaggerUIter"
    sAdd iter iter (if k.prefetches then "2" else "1")
      "Subtract (PGR-1); StaggerUIter now contains target iteration to wrap"

/-- Moves the buffer to where the rest of the summation starts. -/
def unstagger (isA : Bool) : Code := do
  let k <- spec
  if !k.staggers then return
  let t <- side isA
  let c := t.char
  let tmp <- glimpseTmp 2
  emit ["s_sub_i32", sr tmp, if k.prefetches then "3" else "2", sr "StaggerUIter"] ""
  productI64 (sr tmp) (sr (tmp + 1)) (sr tmp) (sr s!"GlobalReadIncs{c}+{k.unrollIdx}")
    "start offset S in bytes"
  sSubWide (sr tmp) (sr (tmp + 1)) (sr s!"WrapU{c}") (sr s!"WrapU{c}+1") "S - WrapU"
  for i in <- advanceBuf t (sr tmp) (sr (tmp + 1)) do raw i.render

variable (k : KernelSpec)

def restCounter : Text := if k.prefetchAcross then "TailLoopCounter" else loopCounterName k k.unrollIdx

def countRest : Code := do
  let k <- spec
  let tmp <- glimpseTmp 4
  let name := restCounter k
  let counter := sr name
  let orig := sr "OrigLoopCounter"
  raw "\n"
  if k.dropNoLoad then
    check (k.prefetchGlobalRead == 1)
    sSame orig "0" "completely skipped unroll loop?"
    emit ["s_cselect_b32", sr tmp, "0", sr "GlobalReadIncsA"] "force to 0?"
    emit ["s_cselect_b32", sr (tmp + 1), "0", sr "GlobalReadIncsB"] "force to 0?"
    retreatBuf k.a (sr tmp)
    raw "\n"
    retreatBuf k.b (sr (tmp + 1))
    raw "\n"
  let u := k.unrollChar
  raw s!"//numIter{u} = (((size{u} % LOCAL_DEPTHU) + LOCAL_SPLITU - 1) / LOCAL_SPLITU)\n"
  consts (divideScalar tmp name s!"SizesSum+{k.unrollIdx}" k.depthU (.num (tmp + 2)) 2)
  if k.localSplitU > 1 then
    sAdd counter (hex (k.localSplitU - 1)) counter "(size % DepthU) + LSU - 1"
    sMov (sr (tmp + 2)) counter "copy for divide LSU"
    consts (divideScalar name 0 (.num (tmp + 2)) k.localSplitU tmp 0)
  if k.splits then
    emit ["s_cmp_lg_u32", sr "GSUSumIdx", sr "GSUSumIdx+1"] "gsuSumIdx == numIterPerWgRemainder"
    emit ["s_cmov_b32", counter, "0x0"] "numIter=0 if gsuSimIdx!=remainder"
  let skip <- namedLabel s!"SkipTailLoop{u}"
  sSame counter "0x0" s!"numIter{u} == 0"
  sMov orig "0" "repurpose to count each localRead increment"
  emit [s!"s_cbranch_scc1 {skip}"] "skip to end of tail loop b/c numIter==0"

def elemEdge (zp : ZeroPad) : Code := do
  let free := k.plainChar zp.free
  let sum := k.plainChar zp.sum
  let edge := sr s!"ElementEdgeA{sum}"
  let tmp <- glimpseScalar
  raw "\n"
  remark s!"ElementEdgeA{sum}"
  sMul edge (strideRef k k.a zp.free) (sizeRef k zp.free) "strideFree*sizeFree"
  sSub tmp (sizeRef k zp.sum) "1" "strideSum*(sizeSum-1), step1"
  sMul tmp (strideRef k k.a zp.sum) tmp "strideSum*(sizeSum-1), step2"
  sAdd edge edge tmp "strideFree*sizeFree + strideSum*(sizeSum-1)"
  sShift edge edge "BpeALog2" "scale by bpe"
  sSub edge edge (sr s!"PadStartA{free}{sum}") "sub PadStart*Bpe"
  sSub edge edge (sr s!"PadEndA{free}{sum}")
    "Final0: (strideFree*sizeFree - strideSum*(sizeSum-1))*BPE - padStart - padEnd"
  if k.packSum then sMov (sr s!"Iter{sum}") "0" "init iterX"

variable (loop : Int) (part : Option Int)

/-- With `ahead` the next tile of a persistent kernel is set up early. -/
def count (ahead : Bool) : Code := do
  let k <- spec
  let sum := k.sumIdx loop
  let counter := loopCounter k loop
  if loop == k.unrollIdx then
    if !(<- enabled "PreLoop") then raw ".endif\n"
    if k.countsElems then sMov counter "0" "init loop counter, unrollIncIsDepthU mode"
    else
      let tmp <- glimpseTmp 3
      let name := loopCounterName k loop
      consts (divideScalar name 0 s!"SizesSum+{loop}" k.depthU tmp 0)
      if k.splits then splitIters name tmp
    sMov (sr "OrigLoopCounter") counter "copy loop counter"
    if k.prefetchAcross && k.expandPtrSwap && !ahead then
      emit ["s_and_b32", sr "BreakAtEvenIter", sr "OrigLoopCounter", "1"]
        "save unroll loop start position - copy1 or copy2"
  else if !k.packSum then
    let c := k.sumChar loop
    heading s!"other summation, numIter{c} = size{c}"
    sMov counter (sr s!"SizesSum+{loop}") "init loop counter"
  check (k.b.padOf? sum).isNone
  if let some zp := k.a.padOf? sum then elemEdge k zp

def partSuffix : Option Int -> Text
  | some n => s!"_G2L{n}"
  | none => ""

def openRest : Code := do
  let k <- spec
  modify ({ · with inTail := true })
  let u := k.unrollChar
  let first <- namedLabel s!"TailLoopBegin{u}{partSuffix part}"
  discard <| namedLabel s!"TailLoopEnd{u}{partSuffix part}"
  if k.localSplitU > 1 then
    let vcc <- .vcc
    let tmp <- glimpseTmp 1
    heading "apply exec mask for LSU"
    let tmpV <- takePair
    let dummy <- takeOne "dummy"
    let sg <- takeOne "sgId"
    vDiv sg 0 "Serial" (k.subGroup0 * k.subGroup1) tmpV tmp false
    let n <- takeOne "numIter"
    vMov (vr n) (sr "SizesSum+0") "sizeU to vgpr"
    vDiv dummy n n k.depthU tmpV tmp true
    giveVec dummy
    emit ["_v_cmpx_lt_u32", vcc, vr sg, vr n] "sgId < numIter"
    giveVec tmpV
    raw s!"{first}:\n"
    emit ["_v_cmpx_lt_u32", vcc, vr sg, vr n] "sgId < numIter"
    vAddCo (vr sg) (hex k.localSplitU) (vr sg) "sgId+=LSU"
    giveVecs [sg, n]
  else raw s!"{first}:\n"

def lastCounter : Int :=
  let late := if k.dropNoLoad then 0 else 1
  if k.prefetchGlobalRead == 1 then late else if k.prefetchGlobalRead == 2 then late + 1
  else 0

def start : Code := do
  let k <- spec
  let c := k.sumChar loop
  let opening <- namedLabel s!"openLoop{c}"
  raw s!"{opening}:\n"
  let first <- namedLabel s!"LoopBegin{c}"
  let last <- namedLabel s!"LoopEnd{c}"
  let counter := loopCounter k loop
  let bound := sr "UnrollLoopLastIter"
  if loop == k.unrollIdx then
    let twice := k.prefetchGlobalRead == 2
    if twice then
      if k.countsElems then emit ["s_cmp_ge_u32", counter, bound] s!"LoopCounter{c} > EndCounter"
      else sSame counter (hex (lastCounter k - 1)) s!"LoopCounter{c} < EndCounter"
      let once <- .label "toPGR1"
      emit [s!"s_cbranch_scc1 {once}"] "PGR=2 but only 1 loop, toPGR1"
    if k.countsElems then
      let counter <- if twice then do
          let tmp <- glimpseScalar
          sAdd tmp counter DU ""
          pure tmp
        else pure counter
      emit ["s_cmp_ge_u32", counter, bound] s!"LoopCounter{c} > EndCounter"
    else emit ["s_cmp_le_u32", counter, hex (lastCounter k)] s!"LoopCounter{c} < EndCounter"
    emit [s!"s_cbranch_scc1 {last}"] s!"do not enter Loop{c}"
  raw s!"{first}:\n"
  if loop != k.unrollIdx && k.prefetches then
    remark "openLoop - reset LRO for possible odd-iter exit"
    resetRead true
    resetRead false

def startCopy (n : Int) : Code := placeLabel s!"LoopCopy{n + 1}"

def skipLabel : Code := do
  let k <- spec
  let skip <- namedLabel s!"SkipTailLoop{k.unrollChar}"
  raw s!"{skip}:\n"

def restStep : Int :=
  let n := k.matrix.elim 1 (·.k)
  if k.assertSum % (k.innerUnroll * n) == 0 || k.dotLayout == 2 && k.innerUnroll == 2 then
    n * k.innerUnroll
  else n

def restoreAddrs : Code := do
  let tmp <- glimpseScalar
  let sides <- sides
  if (<- side true).keptRead.isSome then
    for t in sides do vMov (vr ("LocalReadAddr" ++ t.char)) (vr (t.keptRead.getD 0)) "restore LRA"
    for t in sides do
      giveVec (t.keptRead.getD 0)
      onSide t.isA ({ · with keptRead := none })
  else
    let bpe <- bytesAB
    for t in sides do
      let row := t.ownMacroTile + t.rowPad
      let inc := if k.hasMatrix && t.unrollMajor then k.localSplitU * bpe else k.localSplitU * row * bpe
      let r := vr ("LocalReadAddr" ++ t.char)
      sMov tmp inc "tailloop lds offset"
      sMul tmp (sr "OrigLoopCounter") tmp "scale by mul"
      vSub r r tmp "remove lro damage"
  if (<- side true).keptWrite.isSome then
    for t in sides do vMov (vr ("LocalWriteAddr" ++ t.char)) (vr (t.keptWrite.getD 0)) "restore LWA"
    for t in sides do
      giveVec (t.keptWrite.getD 0)
      onSide t.isA ({ · with keptWrite := none })

def closeRest : Code := do
  let k <- spec
  let u := k.unrollChar
  let first <- namedLabel s!"TailLoopBegin{u}{partSuffix part}"
  let last <- namedLabel s!"TailLoopEnd{u}{partSuffix part}"
  discard <| namedLabel s!"TailLoopEnd{u}_oddexit"
  let counter := sr (restCounter k)
  let orig := sr "OrigLoopCounter"
  let step := hex (restStep k)
  heading s!"closeLoop loop{u} finalLoop=1 tailLoop=1"
  emit ["s_sub_i32", counter, counter, step] s!"dec counter{u} (tailLoop)"
  sAdd orig orig step s!"inc counter{u}"
  emit ["s_cmp_le_i32", counter, "0x0"] s!"counter{u}<=0"
  let parts := k.depthULdsDivisor
  if parts > 1 then
    emit ["s_cbranch_scc1", <- namedLabel s!"TailLoopEnd{u}_G2L{parts - 1}"] s!"break Loop{u}"
    let n := part.getD 0
    let bound := (n + 1) * k.depthULds
    emit ["s_cmp_ge_u32", orig, bound] s!"OrigLoopCounter >= {bound} (G2L buffer {n}/{parts})"
  emit [s!"s_cbranch_scc0 {first}"] s!"restart Loop{u}"
  raw s!"{last}:\n"
  if k.persist || k.numSum > 1 then restoreAddrs k
  if k.localSplitU > 1 then
    heading "restore full exec mask"
    let lanes <- laneRegs
    let full := sr (<- glimpseTmp lanes) lanes
    let mask := if k.waveSize == 32 then "0xFFFFFFFF" else "0xFFFFFFFFFFFFFFFF"
    emit [s!"s_mov_b{k.waveSize}", full, mask] "restore all threads active"
    emit [s!"s_or_saveexec_b{k.waveSize}", full, full] "full mask -> exec"

def testEnd : Code := do
  let c := k.sumChar loop
  let counter := loopCounter k loop
  if k.countsElems && loop == k.unrollIdx then
    check !k.dropNoLoad
    let bound := sr "UnrollLoopLastIter"
    if k.prefetchGlobalRead == 2 then
      let tmp <- glimpseScalar
      sAdd tmp counter DU ""
      emit ["s_cmp_ge_u32", tmp, bound] s!"LoopCounter{c} + DU < EndCounter. Go to PGR1"
    else emit ["s_cmp_ge_u32", counter, bound] s!"counter{c}==0"
  else
    sSub counter counter "1" s!"dec counter{c}"
    let pgr := k.prefetchGlobalRead
    let stop := if (pgr == 1 || pgr == 2) && !k.dropNoLoad && loop == k.unrollIdx then pgr else 0
    emit ["s_cmp_eq_i32", counter, hex stop] s!"counter{c}=={stop}"

def close (final : Bool) : Code := do
  let k <- spec
  let c := k.sumChar loop
  let first <- namedLabel s!"LoopBegin{c}"
  let last <- namedLabel s!"LoopEnd{c}"
  let odd <- namedLabel s!"LoopEnd{c}_oddexit"
  heading s!"closeLoop loop{c} finalLoop={if final then 1 else 0} tailLoop=0"
  testEnd k loop
  if !final then emit [s!"s_cbranch_scc1 {odd}"] s!"exit Loop{c}"
  else
    emit [s!"s_cbranch_scc0 {first}"] s!"restart Loop{c}"
    if loop == k.unrollIdx then
      let swaps := !k.dropNoLoad && k.expandPtrSwap
      let text <- captured do
        if swaps then
          raw (Item.comment1 "Select high bank of LDS").render
          swapRead false true
          swapRead false false
      if swaps then emit [s!"s_branch {last}"] s!"exit unroll loop{c} (and skip oddexit)"
      raw s!"{odd}: // unroll loop odditer exit\n"
      raw text
    raw s!"{last}:\n"

def undefineFrom (first size : Nat) : Code := do
  let mut last := none
  for i in (List.range (size - first)).map (first + ·) do
    let p := (<- get).scalars
    let tag := p.tag i
    if some tag != last then
      last := some tag
      if p.status i == .inUse then raw (<- undefScalar tag)

def finish : Code := do
  let k <- spec
  let l <- layout
  let p <- probes
  let ending <- freshLabel "Summation_End"
  raw s!"{ending}:\n"
  let valuA := (<- side true).valu
  let (first, size) <- if l.overlapC then do
      let n := max 0 (l.numValuC - l.reuse)
      remark s!"endSummation: remove C-tile [{l.reuse}, {l.reuse + n}) from pool"
      removeVecs l.reuse n "ValuC"
      pure (l.numValuC, max 0 (l.lastForReads - l.numValuC))
    else pure (valuA, l.lastForReads - valuA)
  addVecs first size "endSummation"
  remark s!"endSummation: add vgpr [{first}...{first + size}) to pool"
  undefineFrom l.lastPostLoopScalar.toNat (<- get).scalars.size
  if p.bits "InitVgpr" &&& 2 != 0 then raw (<- (<- get).vectors.initTmps 0xFFFFFFFF 0 100)
  if p.bits "InitSgpr" &&& 2 != 0 then raw (<- (<- get).scalars.initTmps 0 0 (-1))
  if p.waitsAt 16 then debugWait
  if k.dropNoLoad then Checks.waitAll "wait for all summation activity"
  if let some m := k.matrix then
    if m.useAccVgpr then
      raw s!"s_nop {m.m / 2}\n"
      Acc.toRegs m

end Loop

end TensorForge.Assembly
