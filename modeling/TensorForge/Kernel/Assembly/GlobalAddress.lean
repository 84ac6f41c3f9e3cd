import TensorForge.Kernel.Assembly.Waiting

/-! # Addresses of global reads -/

namespace TensorForge.Assembly.GlobalAddr

open Asm Checks Emit

variable (t : Input)

def sizeName (size : Text) : Text := size ++ t.char

def divisorOf : Int :=
  if t.coalesceGroup then if t.coalesceVec then t.lvc else t.lsc
  else if t.coalesceVec then t.lsp else t.lvp

def workGroupReg : Text := sr s!"WorkGroup{t.tile01}"

variable (isA : Bool)

def tileAssign : Code := unlessSilent do
  let k <- spec
  let t <- side isA
  let c := t.char
  let rel := (<- layout).tileRel
  let divisor := divisorOf t
  let name := t.divisorName
  let tileFirst := t.coalesceGroup == t.tlu
  let tile <- takeVec 1 (if tileFirst then "graTA rReg0" else "graTA qReg1")
  let unroll <- takeVec 1 (if tileFirst then "graTA qReg0" else "graTA rReg1")
  let (q, r) := if tileFirst then (unroll, tile) else (tile, unroll)
  let (tileOp, unrollOp) := if tileFirst then ("%", "/") else ("/", "%")
  remark s!"{name} = {divisor}"
  let tile2 <- if rel then pure tile else takeOne "treg2"
  remark (if rel then
      s!"{vr tile2} = (local)gro{c}-tile = serial{tileOp}{name} (note (wg{c}*MT{c}) will be added to SRD)"
    else s!"{vr tile2} = gro{c}-tile = serial{tileOp}{name} + (wg{c}*MT{c})")
  remark s!"{vr unroll} = gro{c}-unroll = serial{unrollOp}{name}"
  let tmpV <- takeVec 2 "graTA vgpr" 2
  let tmpS <- glimpseTmp 1
  if t.waveSeparate != 0 then
    let inWave <- takeOne "idInWave"
    let dummy <- takeOne "dummy"
    vRem dummy inWave "Serial" k.waveSize tmpV tmpS
    vDiv q r inWave divisor tmpV tmpS true
    emit ["v_readfirstlane_b32", sr tmpS, vr "Serial"] "WaveIdxWavefrontWidth"
    emit ["s_lshr_b32", sr tmpS, sr tmpS, hexLog k.waveSize] "WaveId"
    let nrp := t.loadsPerp
    sMul (sr tmpS) (sr tmpS) (t.lsp * nrp)
      s!"Global Read Wave: each wave loads continuous lsp({t.lsp})*nrp({nrp}) columns"
    vAdd (vr q) (sr tmpS) (vr q) "Global Read Wave: add back to cloumn index"
    giveVecs [inWave, dummy]
  else vDiv q r "Serial" divisor tmpV tmpS true
  if t.loadWidth > 1 then
    let (what, reg) := if t.coalesceVec == t.tlu then ("tile", tile) else ("unroll", unroll)
    remark s!"gro-{what} *= glvw"
    vScale reg t.loadWidth tmpS
  if !rel then
    consts (mulVec (vr tmpV) (workGroupReg t) t.macroTile "None" "")
    vAddCo (vr tile2) (vr tmpV) (vr tile) s!"gro{c}-tile = serial{tileOp}{name}*VW + (wg{c}*MT{c})"
  if k.splits then
    let copy <- takeOne "uReg2"
    vMov (vr copy) (vr unroll) "copy for GlobalSplitU"
    setRole isA "uReg2" copy
  setRole isA "lwoT" tile
  setRole isA "tReg" tile2
  setRole isA "uReg" unroll
  giveVec tmpV

def unrollAssign : Code := unlessSilent do
  let k <- spec
  let u <- roleOf (<- side isA) "uReg"
  if !(<- layout).tileRel && k.splits then
    let off <- takeOne "gsuOffset"
    vMov (vr off) (sr "GSUSumIdx") "=gsuSumIdx"
    let tmpS <- glimpseTmp 1
    if k.splitRoundRobin then vScale off k.depthU tmpS
    else
      let size <- takeOne "sizeU"
      vMov (vr size) (sr "SizesSum+0") s!"=Size{k.unrollChar}"
      let q <- takeOne "quotient"
      let dummy <- takeOne "dummy"
      let tmpV <- takePair
      vDiv q dummy size k.globalSplitU tmpV tmpS true
      giveVecs [size, dummy, tmpV]
      vMul (vr off) (vr q) (vr off) "gsuOffset=gsuSumIdx*(SizeU/GSU)"
      giveVec q
    vAddCo (vr u) (vr off) (vr u) "graUnrollAssignment += gsuOffset"
    giveVec off
  else remark (vr u)

def otherFreeAssigns : Code := do
  let k <- spec
  if k.persist && k.alongBatch then
    sMov (sr "WorkGroup2") (sr "WGKSerial") "init WG2 for this persistent loop"
  else remark (sr "WorkGroup2")

def otherSumAssigns : Code := do
  let k <- spec
  for i in upTo (k.numSum - 1) do
    for c in ["A", "B"] do raw s!".set globalReadOffset{c}{k.idxChar i},  0\n"

/-- Offsets `v`, `v + 1`, … of the loads along a dimension, each a step after the one before, with `width` components.
-/
def series (name : Text) (v src count width stride : Int) (link strideName : Text) (firstInRow : Bool) : Code := do
  if width > 1 then
    vMov (vr v) (vr src) s!"{name}_0_s0"
    for s in span 1 width do vAddCo (vr (v + s)) "1" (vr (v + s - 1)) s!"{name}_0_s{s}"
    for l in span 1 count do
      vAddCo (vr (v + l * width)) stride (vr (v + (l - 1) * width))
        s!"{name}_{l}_s0 + {strideName}"
      let row := if firstInRow then 0 else l
      for s in span 1 width do
        vAddCo (vr (v + l * width + s)) "1" (vr (v + l * width + (s - 1))) s!"{name}_{row}_s{s}"
  else
    vMov (vr v) (vr src) s!"{name}_0"
    for l in span 1 count do
      vAddCo (vr (v + l)) stride (vr (v + l - 1)) s!"{name}_{l} {link} {strideName}"

variable (k : KernelSpec)

def magicOperands (c : Text) : Text :=
  ", ".intercalate [sr s!"MagicNumberSize{c}", sr s!"MagicShiftSize{c}",
    if k.magicDivAlg == 2 then sr s!"MagicAbitSize{c}" else "0"]

variable (t : Side)

def unpackTile (v packed extra : Int) : Code := do
  let tmp <- takeVec 2 "packTmp" 2
  for l in upTo t.readsTile do
    let mut last := vr (v + l)
    let mut lastIdx := t.packedIdxs.getD 0 0
    raw "\n"
    for p in upTo extra do
      let idx := t.packedIdxs.getD (p + 1).toNat 0
      let reg := vr (packed + l * extra + p)
      let before := k.plainChar (t.packedIdxs.getD p.toNat 0)
      raw s!"V_MAGIC_DIV {tmp}, {last}, {magicOperands k before}\n"
      vMov reg (vr tmp) s!"extract gro{t.char}{k.plainChar idx}_{l} ({reg})"
      vMul (vr tmp) reg (sr s!"SizesFree+{lastIdx}") "remainder part 1"
      vSub last last (vr tmp) s!"remove extracted bits from gro{t.char}{k.plainChar lastIdx}_{l} ({last})"
      last := reg
      lastIdx := idx
  giveVec tmp

def tileOffs : Code := unlessSilent do
  let k <- spec
  let t <- side isA
  onSide isA ({ · with packedOffs := none })
  let src <- roleOf t "tReg"
  if k.useSgprForGRO != 0 then onSide isA ({ · with tileOffs := src })
  else
    let width := if t.readTileParts then t.loadWidth else 1
    let count := t.readsTile * width
    let v <- takeVec count "vgprTileOffsets"
    onSide isA ({ · with tileOffs := v })
    let extra : Int := t.packedIdxs.length - 1
    let packed <- if extra != 0 then some <$> takeVec (extra * count) "vgprPackedOffsets" else pure none
    onSide isA ({ · with packedOffs := packed })
    let (size, stride) := if t.tlu then ("LSC", t.lsc) else ("LSP", t.lsp)
    if t.readTileParts then check (extra == 0)
    series s!"gro{t.char}{t.tileChar}" v src t.readsTile width stride "+=" (sizeName t size) false
    if let some packed := packed then unpackTile k t v packed extra
    if (<- roleOf t "lwoT") != src then releaseRole isA "tReg"

def unrollOffs : Code := unlessSilent do
  let k <- spec
  let t <- side isA
  let src <- roleOf t "uReg"
  if k.useSgprForGRO != 0 then setRole isA "unrollOffsets" src
  else
    let width := if t.readUnrollParts then t.loadWidth else 1
    let v <- takeVec (t.readsUnroll * width) "unrollOffsets"
    setRole isA "unrollOffsets" v
    let (size, stride) := if t.tlu then ("LSP", t.lsp) else ("LSC", t.lsc)
    series s!"gro{t.char}{k.unrollChar}" v src t.readsUnroll width stride "+" (sizeName t size) true

def shift : Code := do
  let k <- spec
  let t <- side isA
  check (k.useSgprForGRO == 0)
  let margin := if t.readTileVec then t.loadWidth else 1
  let edge <- takeOne "edge"
  let tmp <- glimpseScalar
  let size := sizeRef k t.idx
  let rel := (<- layout).tileRel
  let w := toString t.loadWidth
  let shifted <- if rel then do
      sMul tmp (workGroupReg t) t.macroTile "WorkGroup[01] * MT"
      sSub tmp size tmp s!"edge = Size{t.tileChar} - WG*MT"
      sSub tmp tmp margin s!"edge -= margin({margin})"
      vMov (vr edge) tmp s!"edge vgpr = Size{t.tileChar}- WG*MT - margin({margin})"
      let shifted <- takeOne "shiftedEdge"
      vAddCo (vr shifted) (vr edge) w s!"shiftedEdge = edge + srdShiftLeft({w})"
      pure shifted
    else do
      sSub tmp size margin s!"edge = Size{t.tileChar}-{margin}"
      vMov (vr edge) tmp s!"edge vgpr = Size{t.tileChar}-{margin}"
      pure 0
  if k.checkDimOverflow != 0 then compare "lt_i32" (vr edge) "0"
  let lanes <- laneRegs
  let mask := sr (<- glimpseTmp lanes) lanes
  for l in upTo t.readsTile do
    let v := t.tileOffs + l
    if rel then
      let off <- takeOne "shiftedOffset"
      vAddCo (vr off) (vr v) w s!"shiftedOffset = offset + srdShiftLeft({w})"
      emit ["v_cmp_lt_u32", mask, vr off, vr shifted] "shiftedOffset < shiftedEdge"
      giveVec off
    else emit ["v_cmp_lt_u32", mask, vr v, vr edge] "shiftedOffset < shiftedEdge"
    vSelect (vr v) (vr edge) (vr v) mask s!"offset = (offset < edge) ? offset(v{v}) : edge(v{edge})"
  giveVec edge
  if rel then giveVec shifted

def maxInstOff : Int := 4096

/-- The place of a load among those of a thread, and its number. -/
structure Load where
  (perp sPerp para sPara : Int)
  index : Nat

def loadsOf : Emit (List Load) := do
  if t.loadsPerp <= 0 || t.readsPerpVec <= 0 || t.loadsCoal <= 0 then return []
  let n <- quotient t.readsCoalVec t.perRead
  let places :=
    (upTo t.loadsPerp).flatMap fun perp => (upTo t.readsPerpVec).flatMap fun sPerp =>
      (upTo t.loadsCoal).flatMap fun para => (upTo n).map fun sPara => (perp, sPerp, para, sPara)
  return places.mapIdx fun index (perp, sPerp, para, sPara) => { perp, sPerp, para, sPara, index }

def directStep (bpe : Int) : Emit Int := do
  let base := (if t.waveSeparate != 0 then k.waveSize else k.numThreads) * 4
  let blocks <- if t.ldsBlockPerPad != 0 then quotient base t.ldsBlockPerPad else quotient base base
  return base + blocks * t.ldsPad * bpe

def directInc (bpe index : Int) : Emit Int := return (<- directStep k t bpe) * index % maxInstOff

def operands (tile unroll : Int) : Emit (Text × List (Int × Int)) := do
  let mut text := ""
  let mut regs := []
  let mut packed := 0
  let padded := fun n => ", " ++ Text.padLeft ' ' 2 n
  for i in t.assigns do
    if i < k.dimsC then
      if i == t.tileIdx then
        regs := (i, tile) :: regs
        text := text ++ padded tile
      else if k.isPacked i t.packBatch then
        let some first := t.packedOffs | throw .wrongKind
        let r := first + (tile - t.tileOffs) * (t.packedIdxs.length - 1) + packed
        regs := (i, r) :: regs
        text := text ++ padded r
        packed := packed + 1
      else if !k.bufferLoad then text := text ++ s!", sgprWorkGroup{i}"
    else if i == k.idxUnroll then
      regs := (i, unroll) :: regs
      text := text ++ padded unroll
  return (text, regs)

def padOff (regs : List (Int × Int)) (tmp : Int) (r : PadReg) : Code := do
  let zp := r.pad
  let name := vr r.name
  check (r.stage == .allocated)
  remark r.name
  let some free := regs.lookup zp.free | throw .unmet
  vMul name (vr free) (strideRef k t zp.free) "zp.freeDim * strideFree"
  let mut off := (regs.lookup zp.sum).elim "0" (vr ·)
  if t.mirrored.contains zp.sum then
    vSub (vr tmp) (sizeRef k zp.sum) off "zp.sumDim mirror 1"
    vSub (vr tmp) (vr tmp) "1" "zp.sumDim mirror 2"
    off := vr tmp
  vMul (vr tmp) off (strideRef k t zp.sum) "zp.sumDim * strideSum"
  vAdd name name (vr tmp) "zp.freeDim * strideFree + zp.sumDim * strideSum"
  vShift name s!"Bpe{t.char}Log2" name "scale to bpe"
  vSub name name (sr s!"PadStart{t.char}{k.plainChar zp.free}{k.plainChar zp.sum}")
    "zp.freeDim * strideFree + zp.sumDim * strideSum PadStart"

/-- Threads beyond the tile read outside the buffer. -/
def maskFraction (tmp : Text) (index : Nat) : Code := do
  let valid <- quotient (t.lsc * t.lsp) t.loadWidth
  if valid < k.numThreads then
    raw s!"// Offset only valid for {valid}/{k.numThreads} threads inside the PerLoadTile\n"
    sMov tmp valid ""
    emit ["v_cmp_lt_u32", <- vcc, vr "Serial", tmp] "tid < valid-tid"
    let bounds <- takeVec 3
    let r := vr s!"GlobalReadOffset{t.char}+{index}"
    sMov tmp "BufferOOB" ""
    vMov (vr bounds) tmp ""
    vSelect r (vr bounds) r (<- vcc) "Mask load so OOB will return 0"
    giveVec bounds

def vecOff (x : Load) (tile unroll tmp : Int) : Code := do
  let k <- spec
  let t <- side isA
  let bpe <- bytesAB
  let c := t.char
  let index := if k.bufferLoad then x.index else 2 * x.index
  let base := if k.bufferLoad then "Offset" else "Addr"
  let (text, regs) <- operands k t tile unroll
  raw (s!"GLOBAL_OFFSET_{c} vgprGlobalRead{base}{c}+{index}" ++ text ++
    s!", {tmp} // gRO{c}_{x.para}_{x.sPara}_{x.perp}_{x.sPerp}\n")
  let tmpS := sr (<- glimpseTmp 2)
  if k.useSgprForGRO == 0 && k.addsOff t then
    let r := vr s!"GlobalReadOffset{c}+{index}"
    sMov tmpS maxInstOff ""
    vAdd r r tmpS "shift for UseInstOffsetForGRO"
    let inc <- directInc k t bpe index
    if inc != 0 then
      sMov tmpS inc ""
      vSub r r tmpS "sub offset for buffer_load instoffset"
  let here := fun r => r.perp == x.perp && r.sPerp == x.sPerp && r.para == x.para && r.sPara == x.sPara
  for r in t.pads.filter here do padOff k t regs tmp r
  onSide isA fun t => { t with pads := t.pads.map fun r => if here r then { r with stage := .computed } else r }
  if k.bufferLoad && k.fracLoad != 0 then maskFraction k t tmpS index

def scalarOff (x : Load) (tVW tVS uVW uVS : Int) : Code := do
  let k <- spec
  let t <- side isA
  let bpe <- bytesAB
  let index : Int := if k.bufferLoad then x.index else 2 * x.index
  let needsFirst := k.addsOff t
  if k.useSgprForGRO != 0 && (needsFirst || index > 0) then
    let n := if needsFirst then index else index - 1
    let r := sr s!"ScalarGlobalReadOffset{t.char}+{n}"
    let stride := fun i => sr s!"Stride{t.char}{k.idxChar i}"
    if t.tlu then
      let tile := t.lsc * (x.para * tVW + x.sPara * tVS)
      let some u := (t.assigns.filter k.summation.contains).getLast? | throw .outOfRange
      sMul r (stride u) (t.lsp * (x.perp * uVW + x.sPerp * uVS)) "compute offset diff (scaled unrollDim)"
      if tile != 0 then sAdd r r tile "compute offset diff (tileDim)"
    else
      let tile := t.lsp * (x.perp * tVW + x.sPara * tVS)
      let unroll := t.lsc * (x.para * uVW + x.sPerp * uVS)
      sMul r (stride t.tileIdx) tile "compute offset diff (scaled tileDim)"
      if unroll != 0 then sAdd r r unroll "compute offset diff (unrollDim)"
    sShift r r (hexLog bpe) "scalar offset *= bytes/element"
    if needsFirst then
      sAdd r r maxInstOff "shift for UseInstOffsetForGRO"
      let inc <- directInc k t bpe index
      if inc != 0 then sSub r r inc "sub offset for buffer_load instoffset"

def finalOffs : Code := unlessSilent do
  let k <- spec
  let t <- side isA
  let (tVW, tVS, uVW, uVS) :=
    if t.readTileParts then (t.loadWidth, 1, 1, 0)
    else if t.readUnrollParts then (1, 0, t.loadWidth, 1) else (1, 0, 1, 0)
  let tmp <- takeVec 3 "tmp"
  for x in <- loadsOf t do
    let unroll <- roleOf t "unrollOffsets"
    let (tile, unroll) := if t.tlu then
        (t.tileOffs + x.para * tVW + x.sPara * tVS, unroll + x.perp * uVW + x.sPerp * uVS)
      else (t.tileOffs + x.perp * tVW + x.sPara * tVS, unroll + x.para * uVW + x.sPerp * uVS)
    if x.index == 0 || k.useSgprForGRO == 0 then vecOff isA x tile unroll tmp
    scalarOff isA x tVW tVS uVW uVS
  if !(<- layout).tileRel || k.useSgprForGRO == 0 then giveVec t.tileOffs
  if k.useSgprForGRO == 0 then releaseRole isA "unrollOffsets"
  if let some p := t.packedOffs then
    giveVec p
    onSide isA ({ · with packedOffs := none })
  giveVec tmp
  check ((<- side isA).pads.all (·.stage == .computed))

def addToStart (start tmp : Int) (what : Text) : Code := do
  sAddWide (sr start) (sr (start + 1)) (sr tmp) (sr (tmp + 1)) s!"accum {what} term to tilestart"

variable (tmp start : Int)

def tileStart : Code := do
  check (k.packedC0.length == 1)
  check (k.packedC1.length == 1)
  productU64 start (workGroupReg t) t.macroTile "WorkGroup[01] * MT"
  if k.checkDimOverflow >= 2 then equal (sr (start + 1)) "0"
  let stride := strideRef k t t.tileIdx
  if !isConstStride stride then productU64 start (sr start) stride "tlu=0, scaled tile-offset by stride"
  if k.splits then
    check k.splitRoundRobin
    productU64 tmp k.depthU (sr "GSUSumIdx") "gsuOffset = DepthU*bpe*GSUSumIdx"
    if k.checkDimOverflow >= 2 then equal (sr (tmp + 1)) "0"
    let some u := (t.assigns.filter k.summation.contains).getLast? | throw .outOfRange
    let stride := strideRef k t u
    if t.tlu && !isConstStride stride then productU64 tmp (sr tmp) stride "tlu=1, scaled unroll-offset by stride"
    addToStart start tmp "GsuOffet"

def bufLimit (prePad : Option Text) : Code := do
  let l <- layout
  let c := t.char
  let shift := hexLog l.bytesAB
  let (lo, hi) := if l.wideLimits then (sr s!"ShadowLimit{c}+0", sr s!"ShadowLimit{c}+1")
    else (sr tmp, sr (tmp + 1))
  let limit := sr s!"Srd{c}+2"
  sSub lo (sr s!"Tensor2dSize{c}") (sr start) "sub tileStart"
  emit ["s_subb_u32", hi, sr s!"Tensor2dSize{c}+1", sr (start + 1)] "sub tileStart"
  if l.wideLimits then
    let both := sr s!"ShadowLimit{c}" 2
    emit ["s_lshl_b64", both, both, shift] "Set limit to use bytes"
    if let some pad := prePad then sAddWide lo hi pad "0" "extend limit for pre-pad"
    if k.addsOff t then sAddWide lo hi maxInstOff "0" "extend limit for directToLDS instruction offset"
    sSame hi "0" "are we within 2^32?"
    emit ["s_cselect_b32", limit, lo, "BufferLimit"] "Move shadow to real if we are within 2^32"
  else
    sShift limit (sr tmp) shift "Set limit to use bytes"
    sAdd limit limit (prePad.getD "0") "extend limit for pre-pad"

/-- Adds the batch to the start; says whether the start is set. -/
def batchStart (wrote : Bool) : Emit Bool := do
  if !k.stridedBatched then return wrote
  let batches := (t.assigns.drop 1).filter fun i =>
    !(i == k.idx0 || i == k.index1 || k.summation.contains i || k.isPacked i)
  let mut wrote := wrote
  for (i, n) in batches.zipIdx do
    check (n == 0)
    let stride := sr s!"Stride{t.char}{k.idxChar i}"
    if !wrote then
      productU64 start stride (sr "WorkGroup2") "Stride*WG"
      wrote := true
    else
      productU64 tmp stride (sr "WorkGroup2") "Stride*WG"
      addToStart start tmp "wg"
  return wrote

def checkBuffer (tmp : Int) : Code := do
  let l <- layout
  let c := t.char
  let (lo, hi) := (sr tmp, sr (tmp + 1))
  emit ["s_lshl_b64", sr tmp 2, sr s!"Tensor2dSize{c}" 2, toString (roundLog2 l.bytesAB.toNat)]
    "tensor size in bytes"
  sAddWide lo hi (sr s!"Address{c}+0") (sr s!"Address{c}+1") s!"add start ptr to compute tensor{c} bot-right"
  sSubWide lo hi (sr s!"Srd{c}+0") (sr s!"Srd{c}+1") "sub SRD base"
  if l.wideLimits then sSubWide lo hi (sr s!"ShadowLimit{c}+0") (sr s!"ShadowLimit{c}+1") "sub buffer size"
  else sSub lo lo (sr s!"Srd{c}+2") "sub buffer limit"
  equal hi "0"
  compare "lt_u32" lo "0"

def describeBuf : Code := do
  let k <- spec
  let l <- layout
  let c := t.char
  let tmp <- glimpseTmp 5
  let start := tmp + 2
  if l.tileRel then tileStart k t tmp start
  let constPad := t.loadWidth * l.bytesAB
  let padReg := sr (tmp + 4)
  for (zp, i) in t.zeroPad.zipIdx do
    let pad := sr s!"PadStart{c}{k.plainChar zp.free}{k.plainChar zp.sum}"
    if i == 0 then sAdd padReg pad constPad "prePadSgpr = PadStart + ptr-shift-pad"
    else sAdd padReg padReg pad "prepadSgpr += PadStart"
  let prePad := if !t.zeroPad.isEmpty then some padReg
    else if constPad != 0 then some constPad else none
  if !l.tileRel then
    sMov (sr start) "0" "set default tileStart"
    sMov (sr (start + 1)) "0" "set default tileStart"
  bufLimit k t tmp start prePad
  let base := sr s!"Srd{c}+0"
  let high := sr s!"Srd{c}+1"
  if <- batchStart k t tmp start l.tileRel then
    consts (mulScalar (sr start 2) (sr start 2) l.bytesAB "tileStart *= BPE")
    sAdd base (sr s!"Address{c}+0") (sr start) "SRD base = Address+ tileStart0"
    sAddC high (sr s!"Address{c}+1") (sr (start + 1)) "SRD base = Address+ tileStart1"
  else
    sMov base (sr s!"Address{c}+0") "init SRD base address (lower )"
    sMov high (sr s!"Address{c}+1") "init SRD base address (upper) + other fields"
  if let some pad := prePad then sSubWide base high pad "0" "pre-pad to make room for possible pointer shift"
  if k.addsOff t then sSubWide base high maxInstOff "0" "make room for directToLDS instruction offset"
  sMov (sr s!"Srd{c}+3") "Srd127_96" "Set bits 127_96 in SRD"
  if k.checkDimOverflow >= 2 then checkBuffer t tmp
  if k.packSum then
    heading "Save the initial SRD and limit for later address calculation"
    sMov (sr s!"InitialSrd{c}Base+0") base "save base"
    sMov (sr s!"InitialSrd{c}Base+1") high "save base"
    if l.wideLimits then
      sMov (sr s!"InitialSrd{c}Limit+0") (sr s!"ShadowLimit{c}+0") "save shadow limit"
      sMov (sr s!"InitialSrd{c}Limit+1") (sr s!"ShadowLimit{c}+1") "save shadow limit"
    else sMov (sr s!"InitialSrd{c}Limit") (sr s!"Srd{c}+2") "save limit"

def addrs : Code := do
  let k <- spec
  let t <- side isA
  let c := t.char
  if k.bufferLoad then
    remark "max read offset = size[n] * stride[n-1]"
    describeBuf t
  else
    let vcc <- vcc
    let tmp <- takeVec 2 "tmp"
    vMov (vr tmp) (sr s!"Address{c}+0") ""
    vMov (vr (tmp + 1)) (sr s!"Address{c}+1") ""
    for x in <- loadsOf t do
      let place := s!"{x.para}_{x.sPara}_{x.perp}_{x.sPerp}"
      let text := s!"gRA{c}_{place} = addr{c}+grO{c}_{place}"
      let lo := vr s!"GlobalReadAddr{c}+{2 * x.index}+0"
      let hi := vr s!"GlobalReadAddr{c}+{2 * x.index}+1"
      vAddCo lo lo (vr tmp) (text ++ " (lower)")
      emit ["_v_addc_co_u32", hi, vcc, hi, vr (tmp + 1), vcc] (text ++ " (upper)")
    giveVec tmp

def splitIters (name : Text) (tmp : Int) : Code := do
  let k <- spec
  let counter := sr name
  sMov (sr (tmp + 2)) counter "copy for divide IterGsu"
  consts (divideScalar name "GSUSumIdx+1" (.num (tmp + 2)) k.globalSplitU tmp 1)
  sAdd (sr tmp) "1" counter "tmp<-numIterMyWg+"
  emit ["s_cmp_lt_u32", sr "GSUSumIdx", sr "GSUSumIdx+1"] "gsuSumIdx < numIterPerWgRemainder"
  emit ["s_cmov_b32", counter, sr tmp] "numIterMyWg++ if needed"

variable (loop : Int)

def unrollInc (stride : Text) (mirror : Bool) : Code := do
  let c := t.char
  let split := if k.splits && k.splitRoundRobin then k.globalSplitU else 1
  if !k.bufferLoad then
    let lo := vr s!"GlobalReadIncs{c}+{2 * loop}+0"
    let hi := vr s!"GlobalReadIncs{c}+{2 * loop}+1"
    if k.packSum then
      vMov lo stride ""
      vMov hi "0" ""
    else
      let tmp <- glimpseTmp 2
      let bytes := split * (<- layout).bytesAB
      sMul (sr tmp) s!"DepthU*{bytes}" stride s!"incr{c}{k.sumChar loop} = {stride}*DepthU*bpe (unrollIdx)"
      sMov (sr (tmp + 1)) "0x0" "(carry)"
      vMov lo (sr tmp) ""
      vMov hi (sr (tmp + 1)) ""
  else
    let m := opt mirror "-" ++ opt (!k.packSum) "DepthU*" ++ s!"Bpe{c}" ++ opt (split > 1) s!"*{split}"
    let inc := sr s!"GlobalReadIncs{c}+{loop}"
    if isConstStride stride then sMov inc m s!"incr{c} (unrollIdx)" else sMul inc m stride s!"incr{c} unrollIdx)"

def outerInc (stride : Text) (mirror : Bool) : Code := do
  let c := t.char
  let inc := sr s!"GlobalReadIncs{c}+{loop}"
  if k.packSum then
    if mirror then sMul inc stride s!"-Bpe{c}" "<- scale by bpe" else sShift inc stride s!"Bpe{c}Log2" "<- scale by bpe"
  else
    let inner := k.sumIdx (loop + 1)
    let innerChar := k.idxChar inner
    let innerStride := strideRef k t inner
    let innerMirror := t.mirrored.contains inner
    heading "compute globalReadInc for higher-level loop"
    let tmp <- glimpseTmp 3
    if loop + 1 == k.unrollIdx then
      let counter := loopCounterName k k.unrollIdx
      if t.isA then
        consts (divideScalar counter 0 s!"SizesSum+{k.unrollIdx}" k.depthU (.num (tmp + 2)) 0)
        if k.splits then splitIters counter tmp
        sMul (sr counter) (sr counter) (k.globalSplitU * k.depthU) "=loopCounterName*DepthU"
      sMul inc innerStride (sr counter) s!"tmp <- stride{c}{innerChar} * myWgUnrollIters"
    else sMul inc innerStride (sizeRef k inner) s!"tmp <- stride{c}{innerChar} * size{c}{innerChar}"
    let name := s!"{c}{k.sumChar loop}"
    let add := emit ["s_add_i32", inc, stride, inc] s!"incr{name} = stride{name} + <prev-incs>"
    if mirror && innerMirror then emit ["s_sub_i32", inc, inc, stride] s!"incr{name} = <prev-incs> - stride{name}"
    else if mirror then
      add
      emit ["s_sub_i32", inc, "0", inc] s!"incr{name} = - (stride{name} + <prev-incs>)"
    else if innerMirror then add
    else emit ["s_sub_i32", inc, stride, inc] s!"incr{name} = stride{name} - <prev-incs>"
    sShift inc inc s!"Bpe{c}Log2" "<- scale by bpe"

def increments (isA : Bool) : Code := unlessSilent do
  let k <- spec
  let t <- side isA
  let dim := k.sumIdx loop
  let stride := strideRef k t dim
  let mirror := t.mirrored.contains dim
  if loop == k.unrollIdx then unrollInc k t loop stride mirror
  else if !k.bufferLoad then
    Gen.fatal s!"NumIndicesSummation={k.numSum} not yet supported in assembly unless globalReadIncsUseVgpr==0"
  else outerInc k t loop stride mirror

end TensorForge.Assembly.GlobalAddr
