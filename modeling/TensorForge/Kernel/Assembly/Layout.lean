import TensorForge.Kernel.Assembly.Emit

/-! # Layout of the registers -/

namespace TensorForge.Assembly

open Asm Emit Int RegisterPool

def localTable (op : Text) : List MemInstr :=
  let one := fun suffix bytes =>
    { name := s!"ds_{op}_{suffix}", numAddrs := 1, numOffs := 1, blockBytes := bytes,
       template := "%s, %s offset:%s" }
  let narrow := if op == "read" then "u" else "b"
  [one "b128" 16, one "b64" 8, one "b32" 4, one (narrow ++ "16") 2, one (narrow ++ "8") 1]

def localReads : List MemInstr := localTable "read"
def localWrites : List MemInstr := localTable "write"

def globalReads (buf : Bool) : List MemInstr :=
  let one := fun name bytes => ({ name, numAddrs := 1, numOffs := 0, blockBytes := bytes, template := "" } : MemInstr)
  if buf then
    [one "buffer_load_dwordx4" 16, one "buffer_load_dwordx2" 8, one "buffer_load_dword" 4,
     one "buffer_load_short_d16" 2, one "buffer_load_byte_d16" 1]
  else [one "flat_load_dwordx4" 16, one "flat_load_dwordx2" 8, one "flat_load_dword" 4]

def wordsText (bytes : Int) : Text :=
  let n := bytes.toNat
  s!"{n / 4}." ++ .zeroPadded 2 (n % 4 * 25 : Nat) ++ "0000"

def chooseInstr (operation : Text) (bytes : Int) (table : List MemInstr) : Emit MemInstr := do
  match table.find? fun m => m.blockBytes <= bytes with
  | some m => return m
  | none =>
    let w := wordsText bytes
    Gen.warn s!"Could not find valid memory instruction for width={w}"
    throw (.failure <| s!"Could not find valid memory instruction for operation={operation}, " ++
      s!"width={w}, kernel={(<- get).name}")

def wholeWords (bytes : Int) : Int := bytes.fdiv 4 * 4

variable (k : KernelSpec)

def localReadBytes (t : Side) (bpe : Int) : Int :=
  if t.unrollMajor then wholeWords (t.readWidth * bpe) else if k.hasMatrix then bpe
  else wholeWords (k.vecWidth * bpe)

def chooseInstrs : Code := do
  let k <- spec
  onSides fun t => { t with readWidth := k.localReadWidth t, joined := k.readsCoalesced t }
  let bpe <- bytesAB
  for t in <- sides do
    let m <- chooseInstr "GlobalRead" (t.readsCoalVec * bpe) (globalReads k.bufferLoad)
    onSide t.isA ({ · with globalRead := m })
  for t in <- sides do
    let n := t.writesCoalVec * bpe
    onSide t.isA ({ · with localWrite := <- chooseInstr "LocalWrite" (if n >= 4 then wholeWords n else n) localWrites })
  for t in <- sides do
    onSide t.isA ({ · with localRead := <- chooseInstr "LocalRead" (localReadBytes k t bpe) localReads })
  onSides fun t =>
    { t with perRead := fdiv t.globalRead.totalBytes bpe
             perWrite := fdiv t.localWrite.totalBytes bpe }

def capsOf (isa : Value) : Gen Table := do
  .table (<- .fetchKey (<- .table (<- .setting "AsmCaps")) isa)

def settleIsa : Code := do
  let k <- spec
  let mut isa := .tuple k.isa.items
  if !(<- Gen.fetch (<- capsOf isa) SISA).truthy then
    let fallback := .tuple [9, 0, 0]
    Gen.sayLine s!"warning: ISA: {isa.shown}  is not supported; overriding with  {fallback.shown}"
    isa := fallback
  let asm <- capsOf isa
  let arch <- Gen.table (((<- Gen.table (<- Gen.setting "ArchCaps")).find? isa).getD (.dict []))
  modify ({ · with isa := (Isa.ofValue? isa).getD .none, asmCaps := asm, archCaps := arch })
  if let some m := k.matrix then
    let refuse := fun what => throw (.failure s!"{what}MatrixInstruction not supported for {isa.shown}")
    if k.dataType.isDouble && !(<- cap "HasMFMA_f64") then refuse "FP64 "
    else if !(<- cap "HasMFMA") then refuse ""
    if m.wideBfloat && !(<- cap "HasMFMA_bf16_1k") then refuse "BF16_1k "
  if !(<- cap "HasDirectToLds") then
    let off := ({ · with toLds := false, writeUseSgpr := false })
    modify fun st =>
      { st with k := { st.k with a := off st.k.a, b := off st.k.b }
                a := { st.a with toInput := off st.a.toInput }
                b := { st.b with toInput := off st.b.toInput } }

def settleBytes : Code := do
  let k <- spec
  let mut acc : Int := k.computeType.bytes
  let mut ext : Int := k.destType.bytes
  if k.highPrec then
    if k.dataType.isNarrow then
      acc := 4
      if k.usesBufs then ext := acc
    else if k.dataType.isInt8x4 || k.dataType.isInt8 then pure ()
    else
      Gen.sayLine "HighPrecisionAccumulate only valid when DataType is half, bf16, Int8x4, Int8. Forcing HPA to False"
      modify ({ · with k.highPrec := false })
  onLayout ({ · with bytesAB := k.dataType.bytes, bytesOut := ext, bytesAcc := acc })

def even (n : Int) : Int := fdiv (n + 1) 2 * 2

def valuBlocks : Int :=
  (1 + if k.prefetchLocalRead < k.loopIters then k.prefetchLocalRead else k.loopIters - 1) * k.innerUnroll

def valuPerBlock (t : Input) (bpe : Int) : Int :=
  match k.matrix with
  | some m => (if t.isA then m.waveTileA else m.waveTileB) * m.inputPerThread * bpe / 4
  | none =>
    let n := t.ownThreadTile * bpe / 4
    if k.dataType.isBFloat16 && k.highPrec then n * 2 else n

def sizeSide (bpe : Int) (keep : Bool) (t : Side) : Side :=
  let loads := t.loadsCoal * t.loadsPerp * t.loadWidth
  let components := if t.readTileParts || t.readUnrollParts then t.loadWidth else 1
  let overhang := k.fracLoad == 1 && t.perpOverhang.getD 0 != 0
  { t with
    valuPerBlock := valuPerBlock k t bpe
    numG2l := if !t.toLds || keep then -fdiv (-(loads * bpe)) 4 else 0
    numWriteAddrs := (if t.writeUseSgpr then 0 else 1) + if overhang then 1 else 0
    numReadOffs := loads * components * bpe / t.globalRead.blockBytes }

def padRegs (t : Side) (first : Int) : Emit (List PadReg) := do
  let vectors <- quotient t.readsCoalVec t.perRead
  let nrp := if t.tlu then t.readsUnroll else t.readsTile
  let nrc := if t.tlu then t.readsTile else t.readsUnroll
  let places :=
    (upTo nrp).flatMap fun perp => (upTo t.readsPerpVec).flatMap fun sPerp =>
      (upTo nrc).flatMap fun para => (upTo vectors).flatMap fun sPara =>
        t.zeroPad.map fun zp => (perp, sPerp, para, sPara, zp)
  return places.mapIdx fun i (perp, sPerp, para, sPara, zp) =>
    { pad := zp, perp, sPerp, para, sPara, vr := first + i
      name := s!"GlobalReadOffset{t.char}_ZP{k.plainChar zp.free}{k.plainChar zp.sum}_{para}_{sPara}_{perp}_{sPerp}" }

/-- Loads share the registers of values when nothing is read ahead. -/
def placeValues (keep isA : Bool) (first : Int) : Emit (Int × Bool) := do
  let k <- spec
  let t <- side isA
  let count := t.valuPerBlock * valuBlocks k
  let shared := (!t.toLds || keep) && k.prefetchGlobalRead == 0 && k.depthULdsDivisor == 1
  onSide isA ({ · with valu := first, g2l := if shared then first else 0 })
  return (if shared then first + max count t.numG2l else first + count, shared)

def placeVecs : Code := do
  let k <- spec
  let l <- layout
  let keep := <- enabled "KeepDirectToLdsAlloc"
  onSides (sizeSide k l.bytesAB keep)
  let debug := if <- flag DK then 2 else 0
  let numC := k.threadTile0 * k.threadTile1 * l.bytesAcc / 4
  let overlap := k.matrix.elim false (!k.noVgprOverlap && ·.useAccVgpr)
  let numC := if overlap then 0 else numC
  let mut v := even numC
  if (<- get).isa.major == 10 && v % 4 == 0 then v := v + 1
  let (v', sharedA) <- placeValues keep true v
  let (v', sharedB) <- placeValues keep false (even v')
  let lastValuAB := v'
  v := v'
  for t in <- sides do
    let first := v
    if !t.writeUseSgpr then
      onSide t.isA ({ · with writeAddr := first })
      v := v + t.numWriteAddrs
  for t in <- sides do
    onSide t.isA ({ · with readOff := v })
    v := v + if !k.bufferLoad then t.numReadOffs * 2 else if k.useSgprForGRO != 0 then 1 else t.numReadOffs
  for isA in [true, false] do
    let pads <- padRegs k (<- side isA) v
    onSide isA ({ · with pads })
    v := v + pads.length
  for isA in [true, false] do
    onSide isA ({ · with increments := v })
    if !k.bufferLoad then v := v + k.numSum * 2
  for (isA, shared) in [(true, sharedA), (false, sharedB)] do
    if !shared then
      v := even v
      onSide isA ({ · with g2l := v })
      v := v + (<- side isA).numG2l
  let lastForReads := if k.prefetchAcross then lastValuAB else v
  for isA in [true, false] do
    onSide isA ({ · with readAddr := v })
    v := v + 1
  let serial := v + debug
  let reuse := serial + 1
  let total := max reuse numC
  onLayout fun l => { l with
    numValuC := numC, overlapC := overlap, serialStore := overlap, lastValuAB, lastForReads
    addrDbg := v, serial, reuse, totalVecs := total }
  if total < k.minVgprNumber || total > k.maxVgprNumber then
    throw (.failure <| s!"Generating asm kernel error: total vgpr: {total} not in " ++
      s!"[{k.minVgprNumber}, {k.maxVgprNumber}].\n")

def hasRepeats : Texts -> Bool
  | [] => false
  | c :: cs => cs.contains c || hasRepeats cs

variable (sums : Texts)

/-- The magic numbers and the paddings among the arguments. -/
def sizeArgs : Texts :=
  ((sums ++ k.dividedSizes).flatMap fun c => [s!"MagicNumberSize{c}", s!"MagicShiftSize{c}"]) ++
    k.padNames.flatMap fun name => ["PadStart" ++ name, "PadEnd" ++ name]

def groupArgs : Texts :=
  ["NumWorkGroups0", "NumWorkGroups1"] ++ opt k.persist
    (["MagicNumberProblemNumGroupTiles0", "MagicShiftProblemNumGroupTiles0", "GridNumWorkGroups0"] ++ opt k.alongBatch
      ["NumWorkGroups2", "MagicNumProblemNumGroupTiles0By1", "MagicShiftProblemNumGroupTiles0By1"])

def lastArgs : Texts :=
  ["NumFullBlocks", "WgmRemainder1", "MagicNumberWgmRemainder1", "OffsetD", "OffsetC", "OffsetA", "OffsetB"]

def defineWorking : Code := do
  let k <- spec
  defScalar "KernArgAddress" 2
  for n in if k.workGroupMapping >= 0 then [0, 1] else [1, 0] do defScalar s!"WorkGroup{n}"
  for (_, i) in (k.batch.filter (!k.isPacked ·)).zipIdx do defScalar s!"WorkGroup{i + 2}"
  onLayout ({ · with firstInitScalar := (<- get).scalars.size })
  if <- asserting then defScalar "SaveExecMask" 2 2
  defScalar "GSUSumIdx" (if k.splits then 2 else 0)
  check !hasRepeats (k.packedChars0 ++ k.packedChars1)
  if k.magicDivAlg == 2 then defScalars ((sums ++ k.dividedSizes).map ("MagicAbitSize" ++ ·))
  if k.packedC0.length > 1 then defScalar "PackedSize0"
  if k.packedC1.length > 1 then defScalar "PackedSize1"
  if k.packSum then defScalar (loopCounterName k k.unrollIdx)
  else for i in upTo k.numSum do defScalar (loopCounterName k i)
  defScalar "OrigLoopCounter"
  if k.prefetchAcross then
    if k.expandPtrSwap then defScalar "BreakAtEvenIter"
    defScalar "TailLoopCounter"
  if <- flag DK then
    defScalar "AddressDbg" 2
    defScalar "DebugKernelItems"
  if k.bufferLoad then defScalars ["SrdA", "SrdB"] 4 4
  if k.bufStore then defScalars ["SrdD", "SrdC"] 4 4

/-- All free scalar registers below the present end; `fuel` bounds them. -/
def fillGaps (bound : Int) : Nat -> Emit Ints
  | 0 => return []
  | fuel + 1 => do
    let i <- takeScalar 1 "fill empty slot temporarily" 1 (some false)
    if i >= bound then
      giveScalar i
      return []
    else return i :: (<- fillGaps bound fuel)

def defineLoaded : Code := do
  let k <- spec
  let l <- layout
  let numScale := max 1 (l.bytesAcc / 4)
  defScalars ["AddressD", "AddressC", "AddressA", "AddressB"] 2
  defScalar "Alpha" numScale numScale
  if k.useBeta then defScalar "Beta" numScale numScale
  let a <- side true
  let b <- side false
  defScalars ["StridesD", "StridesC"] l.numStridesOut
  defScalar "StridesA" a.numSgprStrides
  defScalar "StridesB" b.numSgprStrides
  defScalar "SizesFree" k.dimsC
  defScalar "SizesSum" k.numSum
  defScalars (sizeArgs k sums ++ "OrigStaggerUIter" :: groupArgs k)
  let last := (<- get).scalars.size
  defScalars lastArgs
  let magic : Int := sums.length + k.dividedSizes.length + k.a.zeroPad.length + k.b.zeroPad.length
  let loaded := 4 + 8 + numScale + (if k.useBeta then numScale else 0) + 2 * l.numStridesOut +
    a.numSgprStrides + b.numSgprStrides + k.dimsC + k.numSum + 2 * magic + 1 + (groupArgs k).length + lastArgs.length
  onLayout ({ · with lastPostLoopScalar := last, numLoaded := loaded, argOffs := (loaded + 2 - 4) * 4 })

def placeScalars : Code := do
  let k <- spec
  modify ({ · with scalars := ofSize 0 "s" true false })
  let fixed := if k.initStridesCD then 0 else 1
  onLayout ({ · with numStridesOut := k.dimsC - fixed })
  let fixed := if k.initStridesAB then 0 else 1
  onSides fun t => { t with
    numSgprStrides := t.assigns.length - fixed
    numSgprIncs := if k.bufferLoad then k.numSum else 0 }
  let chars := k.dividedSums
  let sums := if k.packSum && k.splits && !chars.isEmpty then
      chars ++ [s!"{k.unrollChar}_GsuRemainder"] else chars
  onLayout ({ · with magicSums := sums })
  defineWorking sums
  defScalar "Tensor2dSizeA" 2 4
  let bound := (<- get).scalars.size
  let gaps <- fillGaps bound (bound + 1)
  defScalar "Tensor2dSizeB" 2 2
  defineLoaded sums
  for i in gaps do giveScalar i
  if !k.staggers then let _ <- undefScalar "OrigStaggerUIter"

def makePools : Code := do
  let k <- spec
  if let some m := k.matrix then
    if m.useAccVgpr then
      let mult := if k.dataType.isComplex then 2 else 1
      let dest := m.m * m.n * m.b / k.waveSize * m.regPerOut
      onLayout fun l => { l with
        accMult := mult
        totalAccs := dest * m.waveTile0 * m.waveTile1 * mult }
  let l <- layout
  let valuA := (<- side true).valu
  let mut p := ofSize l.totalVecs.toNat "v" false (<- probing "PrintRP")
  p <- p.addReported valuA.toNat (l.lastValuAB - valuA).toNat "ValuAB"
  p <- if l.serialStore then p.addReported l.reuse.toNat (p.size - l.reuse).toNat ""
    else p.addReported 0 l.numValuC.toNat "ValuC-Block"
  let vectors := p
  let accumulators <- (ofSize l.totalAccs.toNat "a" false false).addReported 0 l.totalAccs.toNat "ValuC-Block"
  modify ({ · with vectors, accumulators })

def countLocalReads : Code := do
  let k <- spec
  let bpe <- bytesAB
  for t in <- sides do
    match k.matrix with
    | some m =>
      let perVec := bpe * t.readWidth / t.localRead.blockBytes
      let n := k.innerUnroll * ((if t.isA then m.waveTile0 else m.waveTile1) * perVec) / t.localRead.numOffs
      let n <- if k.innerUnroll >= t.joined then quotient n t.joined else pure n
      onSide t.isA ({ · with readsPerVector := perVec, readsPerIter := n })
    | none =>
      let tile := if t.isA then k.threadTile0 else k.threadTile1
      onSide t.isA ({ · with readsPerIter := k.innerUnroll * (tile / k.vecWidth) / t.localRead.numOffs })
  if let some m := k.matrix then onLayout ({ · with matrixLatency := m.m / 2 - 2 - 1 })

def reserveLabels : Code := do
  let u := k.unrollChar
  modify ({ · with labels := [] })
  for name in ["PrefetchGlobalEnd", s!"LoopBegin{u}", s!"LoopEnd{u}", s!"LoopEnd{u}_oddexit", "PrefetchGlobalLastIterEnd",
      s!"TailLoopBegin{u}", s!"TailLoopEnd{u}", s!"SkipTailLoop{u}", s!"KernelEnd{u}"] do discard (named name)

def announceSwitches : Code := do
  let k <- spec
  let p <- probes
  let d := k.dataType
  check (!p.on "CheckValueC" || (d.isNarrow || d.isInt8) && k.highPrec || d.isSingle)
  let slow := "may impact performance"
  let wrong := "may impact functionality"
  let probe (name effect : Text) := (p.on name, name, effect)
  for (on, name, effect) in [probe "InitLds" slow, probe "InitSgpr" slow, probe "InitVgpr" slow,
      probe "ConservativeWaitCnt" slow, (<- enabled "KeepDirectToLdsAlloc", "KeepDirectToLdsAlloc", slow),
      (!k.loopTail, LT, "kernel may not function correctly for all inputs"), probe "CheckValue1A" slow,
      probe "CheckValue1B" slow, probe "CheckValueC" slow, probe "ForceExpectedValue" wrong,
      probe "ForceVSerial" "will impact functionality", probe "ForceInputValueA" wrong, probe "ForceInputValueB" wrong,
      (p.num "CheckStoreC" >= 0, "CheckStoreC", slow), probe "ForceEdgeStores" slow,
      probe "AssertNoEdge" "may impact functionality and performance", probe "PrintRP" "may generate verbose output",
      (k.checkDimAsserts, "CheckTensorDimAsserts", slow), (k.checkDimOverflow != 0, "CheckDimOverflow", slow)] do
    let set := if name == LT then "disabled" else "enabled"
    if on then Gen.sayLine s!"\n***WARNING: {name} {set}, {effect}\n"

def layOut : Code := do
  let k <- spec
  settleIsa
  let mix <- if <- cap "v_fma_mix_f32" then pure "v_fma_mix_f32"
    else if <- cap "v_mad_mix_f32" then pure "v_mad_mix_f32" else pure "NOT_SUPPORTED"
  let atomic := (<- cap "HasAtomicAdd") && k.usesBufs
  onLayout fun l => { l with
    mixInstr := mix, useAtomicAdd := atomic
    wideLimits := k.use64bShadowLimit && k.bufferLoad && !k.packSum
    tileRel := k.a.zeroPad.isEmpty && k.b.zeroPad.isEmpty && k.packedC0.length == 1 &&
      k.packedC1.length == 1 && k.bufferLoad }
  settleBytes
  chooseInstrs
  placeVecs
  placeScalars
  makePools
  countLocalReads
  reserveLabels k
  announceSwitches

def defineVarScalars : Code := do
  let k <- spec
  let wide := (<- layout).wideLimits
  if k.countsElems then defScalar "UnrollLoopLastIter"
  if k.packSum && k.splits then defScalar s!"GsuNumIter{loopChar k k.unrollIdx}"
  for t in k.inputs do
    for zp in t.zeroPad do
      defScalar s!"ElementEdge{t.char}{k.plainChar zp.sum}"
      if k.packSum then defScalar s!"Iter{k.plainChar zp.sum}"
  if k.fracLoad == 2 then
    for t in k.inputs do if t.perpOverhang.getD 0 != 0 then defScalar s!"PerpOverhangVcc{t.char}" 2 2
  if wide then defScalars ["ShadowLimitA", "ShadowLimitB"] 2 2
  if k.packSum then
    for t in k.inputs do
      defScalar s!"InitialSrd{t.char}Base" 2
      defScalar s!"InitialSrd{t.char}Limit" (if wide then 2 else 1)
  if k.staggers then
    defScalar "StaggerUIter"
    defScalars ["WrapUA", "WrapUB"] 2
  if k.persist then
    defScalar "SerialWorkGroupIter"
    if k.alongBatch then defScalars ["WGKSerial", "WGIJSerial"]
  if k.prefetchAcross then defScalars ["PrevWorkGroup0", "PrevWorkGroup1"]
  if k.optPreLoopVmcnt then defScalar "PreLoopLWVmcntCase"
  for t in <- sides do defScalar s!"GlobalReadIncs{t.char}" t.numSgprIncs
  for t in <- sides do if t.writeUseSgpr then defScalar s!"LocalWriteAddr{t.char}"
  if k.useSgprForGRO != 0 then
    for t in <- sides do
      defScalar s!"ScalarGlobalReadOffset{t.char}" (if k.addsOff t then t.numReadOffs else t.numReadOffs - 1)
  let size := (<- get).scalars.size
  if size >= maxScalars then
    Gen.sayLine s!"warning: Number of defined SGPRS ({size}) overflowed max SGPRS ({maxScalars})."
  if k.persist then onLayout ({ · with lastPostLoopScalar := size })

end TensorForge.Assembly
