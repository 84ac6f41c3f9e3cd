import TensorForge.Solution.Basic

/-!
# What a kernel computes and how

The parameters of a solution as the kernel emitters use them: the facts of the problem, one `Input` for each of the
two tensors, the matrix instruction if there is one, and the remaining choices.
-/

namespace TensorForge

def upTo (n : Int) : Ints := (List.range n.toNat).map .ofNat
def span (first bound : Int) : Ints := (upTo (bound - first)).map (first + ·)
def multiplesBelow (n step : Int) : Ints := (upTo ((n + step - 1) / step)).map (· * step)

structure ZeroPad where
  (free sum : Int)

structure ProblemSpec where
  (dataType destType computeType : DataType)
  (highPrec useBeta stridedBatched initStridesAB initStridesCD : Bool)
  (idx0 index1 idxUnroll : Int)
  (free batch summation : Ints)
  (dimsC allDims : Int)
  deriving Inhabited

namespace ProblemSpec

def numSum (p : ProblemSpec) : Int := p.summation.length
def inputBytes (p : ProblemSpec) : Int := p.dataType.bytes

end ProblemSpec

structure MatrixSpec where
  (m n k b bm bn waveGroup0 waveGroup1 waveTile0 waveTile1 waveTileA waveTileB inputPerThread : Int)
  (outVecWidth regPerOut : Int)
  (useAccVgpr wideBfloat : Bool)
  deriving Inhabited

/-- One of the two tensors: how it is read from global memory and kept in local memory. -/
structure Input where
  isA : Bool
  tileChar : Text
  tileIdx : Int
  (tile01 idx : Int)
  (assigns mirrored : Ints)
  zeroPad : List ZeroPad
  conj : Bool
  (tlu coalesceGroup coalesceVec : Bool)
  (loadWidth loadsCoal loadsPerp : Int)
  /-- Elements of a load along the coalesced dimension, and of a vector. -/
  (lsc lsp lvc lvp : Int)
  (macroTile threadTile subGroup ownMacroTile ownThreadTile nonTemporal : Int)
  (toLds writeUseSgpr : Bool)
  waveSeparate : Int
  unrollMajor : Bool
  (ldsPad ldsBlockPerPad ldsOff : Int)
  ldsOffBlk : Option Int
  noPartial : Bool
  perpOverhang : Option Int
  packBatch : Int
  packedIdxs : Ints
  /-- The fastest dimension is the tile or unrolled one. -/
  contig : Bool
  (readsTile readsUnroll readsTileVec readsUnrollVec : Int)
  (readTileVec readTileParts readUnrollParts : Bool)
  (writesCoalVec writesPerpVec : Int)
  (writeTileParts writeUnrollParts : Bool)
  deriving Inhabited

namespace Input

variable (i : Input)

def char : Text := if i.isA then "A" else "B"
def lower : Text := if i.isA then "a" else "b"
def offset : Text := "globalReadOffset" ++ i.char
def readsCoalVec : Int := if i.tlu then i.readsTileVec else i.readsUnrollVec
def readsPerpVec : Int := if i.tlu then i.readsUnrollVec else i.readsTileVec
def addressedVec : Int := if i.contig then 1 else i.readsCoalVec

/-- Behind a row of local memory; none when padding follows blocks. -/
def rowPad : Int := if i.ldsBlockPerPad == 0 then i.ldsPad else 0

def divisorName : Text :=
  (if i.coalesceGroup then if i.coalesceVec then "LVC" else "LSC"
   else if i.coalesceVec then "LSP" else "LVP") ++ i.char

def padOf? (sum : Int) : Option ZeroPad := i.zeroPad.find? (·.sum == sum)

end Input

structure KernelSpec extends problem : ProblemSpec where
  (a b : Input)
  matrix : Option MatrixSpec
  plainChars : Texts
  /-- With the number of the tile dimension before the two free ones. -/
  indexChars : Texts
  isa : Value
  (lang edge : Text)
  accum : Option Text
  (mapType macInstr : Text)
  packing : Packing.Scheme
  (packedC0 packedC1 : Ints)
  (packedChars0 packedChars1 : Texts)
  workGroup : Ints
  (perfMode assertFree0 assertFree1 assertSum : Int)
  (bufferLoad bufStore : Bool)
  checkDimOverflow : Int
  checkDimAsserts : Bool
  (depthU depthULds depthULdsDivisor : Int)
  disableAtomicFail : Bool
  disableKernelPieces : Int
  (noVgprOverlap expandPtrSwap : Bool)
  (fracLoad globalSplitU : Int)
  (splitRoundRobin splitMapRoundRobin : Bool)
  (writeVecWidth innerUnroll : Int)
  interleaveAlpha : Bool
  (ldsNumElems dotLayout localReadVectorWidth localSplitU : Int)
  loopDoWhile : Bool
  loopIters : Int
  loopTail : Bool
  (loopUnroll macroTile0 macroTile1 magicDivAlg maxVgprNumber minVgprNumber nonTemporalC : Int)
  (numWriteVecs numThreads : Int)
  (oneLdsBuffer optNoLoadLoop optPreLoopVmcnt : Bool)
  packGrain : Int
  packSum : Bool
  (perfSyncLoc perfWaitCount perfWaitLoc persistKernel : Int)
  (alongBatch prefetchAcross : Bool)
  (prefetchGlobalRead prefetchLocalRead : Int)
  (scheduleGlobalRead scheduleIterAlg scheduleLocalWrite : Int)
  srcSwap : Bool
  (staggerU staggerUMap staggerStrideShift remapWidth storeVecWidth : Int)
  (subGroup0 subGroup1 : Int)
  dropNoLoad : Bool
  (threadTile0 threadTile1 transposeLds : Int)
  (unrollIncIsDepthU unrollMemFence use64bShadowLimit useInstOffForGRO : Bool)
  useSgprForGRO : Int
  scalarOffsText : Text
  codeObjectVersion : Value
  vecAtomicWidth : Int
  vecStore : Bool
  (vecWidth waveSize workGroupMapping : Int)
  deriving Inhabited

namespace KernelSpec

variable (k : KernelSpec)

def inputs : List Input := [k.a, k.b]
def idxChar (i : Int) : Text := k.indexChars.getD i.toNat ""
def plainChar (i : Int) : Text := k.plainChars.getD i.toNat ""
def padNames : Texts := k.summation.flatMap fun i => k.inputs.flatMap fun t =>
  (t.zeroPad.filter (·.sum == i)).map fun zp => t.char ++ k.plainChar zp.free ++ k.plainChar zp.sum
def dividedSums : Texts := opt k.packSum ((k.summation.drop 1).map k.plainChar)
def dividedSizes : Texts := k.packedChars0.dropLast ++ k.packedChars1.dropLast
def unrollIdx : Int := k.numSum - 1
def sumIdx (position : Int) : Int := k.summation.getD position.toNat 0
def sumChar (position : Int) : Text := k.idxChar (k.sumIdx position)
def unrollChar : Text := k.sumChar k.unrollIdx
def tileChar0 : Text := k.idxChar k.idx0
def tileChar1 : Text := k.idxChar k.index1
def side0 : Input := if k.b.tile01 != 0 then k.a else k.b
def side1 : Input := if k.b.tile01 != 0 then k.b else k.a
def isPacked (index : Int) (mask : Int := 3) : Bool := (k.packing.packed index mask).truthy
def actualLoops : Int := if k.packSum then 1 else k.numSum
def otherLoops : Int := k.actualLoops - 1
def otherSums : Int := k.numSum - 1
def countsElems : Bool := k.unrollIncIsDepthU || k.packSum || !k.a.zeroPad.isEmpty || !k.b.zeroPad.isEmpty
def splits : Bool := k.globalSplitU > 1
def persist : Bool := k.persistKernel != 0
def prefetches : Bool := k.prefetchGlobalRead != 0
def staggers : Bool := k.staggerU != 0 && (k.lang == "Source" || k.bufferLoad)
def loadsDirectly : Bool := k.a.toLds || k.b.toLds
def prefetchedReads : Int := k.prefetchLocalRead % k.loopIters

/-- Partial sums of work groups are gathered in buffers of their own. -/
def usesBufs : Bool := k.accum.isSome
def manyBufs : Bool := k.accum == some MB

variable (i : Input)

def localReadWidth : Int := if !i.tlu then k.localReadVectorWidth else k.matrix.elim 1 (·.inputPerThread)

/-- Direct loads that add their offset in the instruction. -/
def addsOff : Bool := i.toLds && k.useInstOffForGRO
def readsCoalesced : Int := k.matrix.elim 1 (k.localReadWidth i / ·.inputPerThread)
def itersPerRead : Int := max 1 (k.readsCoalesced i / k.innerUnroll)
def hasMatrix : Bool := k.matrix.isSome

end KernelSpec

inductive KernelPiece where
  | preLoop | globalRead | readInc | localWrite | localRead | wait | sync | mac | postLoop
  deriving BEq

def KernelPiece.number : KernelPiece -> Int
  | preLoop => 7
  | globalRead => 2
  | readInc => 7
  | localWrite => 3
  | localRead => 4
  | wait => 5
  | sync => 5
  | mac => 6
  | postLoop => 1

def KernelSpec.emits (k : KernelSpec) (p : KernelPiece) : Bool :=
  let d := k.disableKernelPieces
  !(d > 0 && d >= p.number) && d != -p.number

/-! ## Reading -/

open Gen

namespace KernelReading

variable (s : Solution) (key : Text)

def ints : Gen Ints := do (<- items (<- s.fetch key)).mapM int
def text : Gen Text := do str (<- s.fetch key)
def int? : Gen (Option Int) := (s.state.get? key).elim (pure none) fun v => return some (<- int v)

def problem (p : ProblemType) : Gen ProblemSpec := do
  return {
    dataType := <- p.dataType DT, destType := <- p.dataType DDT,
    computeType := <- p.dataType CDT,
    highPrec := <- p.flag HPA, useBeta := <- p.flag "UseBeta",
    stridedBatched := <- p.flag SB, initStridesAB := <- p.flag UISAB,
    initStridesCD := <- p.flag UISCD, idx0 := <- p.int "Index0",
    index1 := <- p.int "Index1", idxUnroll := <- p.int "IndexUnroll", free := <- p.ints IF,
    batch := <- p.ints IB, summation := <- p.ints IS,
    dimsC := <- p.int NIC, allDims := <- p.int TI }

def matrix : Gen (Option MatrixSpec) := do
  if !(<- s.flag EMI) then return none
  let group <- ints s MIWG
  let tile <- ints s MIWT
  return some {
    m := <- s.int MIM, n := <- s.int MIN, k := <- s.int MIK,
    b := <- s.int MIB, bm := <- s.int "MatrixInstBM", bn := <- s.int "MatrixInstBN",
    waveGroup0 := group.getD 0 0, waveGroup1 := group.getD 1 0, waveTile0 := tile.getD 0 0, waveTile1 := tile.getD 1 0,
    waveTileA := <- s.int "MIWaveTileA", waveTileB := <- s.int "MIWaveTileB",
    inputPerThread := <- s.int MIIPT,
    outVecWidth := <- s.int MIOVW, regPerOut := <- s.int "MIRegPerOut",
    useAccVgpr := <- s.flag "MIUseAccVgpr", wideBfloat := <- s.flag "MFMA_BF16_1K" }

def zeroPad (v : Value) : Gen ZeroPad := do
  let xs <- items v
  return ⟨<- int (<- nth xs 0), <- int (<- nth xs 1)⟩

structure WriteGrouping where
  (tileParts unrollParts coalesced : Bool)

def writeGrouping (tlu unrollMajor vector : Bool) : Gen WriteGrouping := do
  let wide := (<- s.int GRVW) > 1
  let dot := (<- s.int LDL) > 1
  return if tlu == unrollMajor then ⟨vector && wide, false, !vector⟩
    else if vector then ⟨dot && wide, false, !dot⟩ else ⟨false, wide, false⟩

def input (isA : Bool) (chars : Texts) : Gen Input := do
  let c := if isA then "A" else "B"
  let p := s.problem
  let flag := fun key => s.flag (key ++ c)
  let int := fun key => s.int (key ++ c)
  let tileIdx <- p.int ("Index01" ++ c)
  let tile01 := if tileIdx != 0 then 1 else 0
  let tlu <- p.flag ("TLU" ++ c)
  let unrollMajor <- flag "UnrollMajorLDS"
  let vector <- flag "GlobalReadCoalesceVector"
  let width <- int "GlobalLoadVectorWidth"
  let wide := (<- s.int VW) > 1
  let coalesced <- int "NumLoadsCoalesced"
  let perp <- int "NumLoadsPerpendicular"
  let assigns <- p.ints ("IndexAssignments" ++ c)
  let grouping <- writeGrouping s tlu unrollMajor vector
  if !isA && !vector then throw .unbound
  let packBatch <- s.int PBD
  let tensor0 <- p.int "Tensor0"
  let idx0 <- p.int "Index0"
  let index1 <- p.int "Index1"
  let tileIndex := if (tensor0 == 0) == isA then idx0 else index1
  let divisor <- s.int DULD
  return {
    isA, tileIdx, tile01, assigns, tlu, unrollMajor, coalesceVec := vector, loadWidth := width,
    tileChar := chars.getD tileIndex.toNat "", idx := if isA then idx0 else index1,
    mirrored := <- p.ints ("MirrorDims" ++ c), zeroPad := <- (<- items (<- p.fetch ("ZeroPad" ++ c))).mapM zeroPad,
    conj := <- p.flag ("ComplexConjugate" ++ c), coalesceGroup := <- flag "GlobalReadCoalesceGroup",
    loadsCoal := coalesced, loadsPerp := perp,
    lsc := <- int "LSC", lsp := <- int "LSP", lvc := <- int "LVC", lvp := <- int "LVP",
    macroTile := <- s.int s!"MacroTile{tile01}", threadTile := <- s.int s!"ThreadTile{tile01}",
    subGroup := <- s.int s!"SubGroup{tile01}", ownMacroTile := <- int MT,
    ownThreadTile := <- int TT, nonTemporal := <- int "NonTemporal",
    toLds := <- flag DTL, writeUseSgpr := <- flag "LocalWriteUseSgpr",
    waveSeparate := <- int "WaveSeparateGlobalRead", ldsPad := <- int "LdsPad",
    ldsBlockPerPad := <- int LBSPP, ldsOff := <- int "LdsOffset",
    ldsOffBlk := <- int? s s!"LdsOffset{c}_Blk", noPartial := <- flag "GuaranteeNoPartial",
    perpOverhang := <- int? s ("fractionalPerpOverhang" ++ c),
    packBatch := if Packing.masked packBatch (if isA then 1 else 2) != 0 then packBatch else 0,
    packedIdxs := <- ints s s!"PackedC{tile01}IndicesX", contig := (match assigns.head? with
      | some i => i == tileIdx
      | none => false) || assigns.head? == some (<- p.int "IndexUnroll"),
    readsTile := if tlu then coalesced else perp, readsUnroll := if tlu then perp else coalesced,
    readsTileVec := if tlu == vector then width else 1, readsUnrollVec := if tlu == vector then 1 else width,
    readTileVec := tlu && vector, readTileParts := !tlu && !vector && wide,
    readUnrollParts := tlu && !vector && wide, writesCoalVec := if grouping.coalesced then width / divisor else 1,
    writesPerpVec := if grouping.coalesced then 1 else width,
    writeTileParts := grouping.tileParts,
    writeUnrollParts := grouping.unrollParts }

def letters (p : ProblemSpec) : Gen (Texts × Texts) := do
  let plain <- Helper.idxLetters
  return (plain, <- Helper.markTile plain p.idx0 p.index1)

def packedChars : Gen Texts := do (<- items (<- s.fetch key)).mapM str

end KernelReading

open KernelReading in
def KernelSpec.ofSolution (s : Solution) : Gen KernelSpec := do
  let int := s.int
  let flag := s.flag
  let problem <- KernelReading.problem s.problem
  let (plainChars, indexChars) <- letters problem
  let matrix <- KernelReading.matrix s
  let alg <- int SIA
  if (alg == 2 || alg == 3) && matrix.isNone then throw (.missingKey MIWT)
  let accum <- match <- s.fetch GA with
    | .str t => pure (some t)
    | _ => pure none
  return {
    problem, plainChars, indexChars, accum, matrix, a := <- input s true indexChars
    b := <- input s false indexChars, isa := <- s.fetch "ISA", lang := <- text s KL
    edge := <- text s ET, mapType := <- text s "WorkGroupMappingType"
    macInstr := <- text s "MACInstruction", packing := <- s.packing, packedC0 := <- ints s "PackedC0IndicesX"
    packedC1 := <- ints s "PackedC1IndicesX", packedChars0 := <- packedChars s "PackedC0IdxChars"
    packedChars1 := <- packedChars s "PackedC1IdxChars", workGroup := <- ints s WG
    perfMode := <- int "AggressivePerfMode", assertFree0 := <- int AF0EM
    assertFree1 := <- int AF1EM, assertSum := <- int ASEM
    bufferLoad := <- flag "BufferLoad", bufStore := <- flag "BufferStore"
    checkDimOverflow := <- int "CheckDimOverflow", checkDimAsserts := <- flag "CheckTensorDimAsserts"
    depthU := <- int DU, depthULds := <- int DUL, depthULdsDivisor := <- int DULD
    disableAtomicFail := <- flag "DisableAtomicFail", disableKernelPieces := <- int "DisableKernelPieces"
    noVgprOverlap := <- flag DVO, expandPtrSwap := <- flag EPS
    fracLoad := <- int FL, globalSplitU := <- int GSU, splitRoundRobin := <- flag GSUSARR
    splitMapRoundRobin := <- flag "GlobalSplitUWorkGroupMappingRoundRobin"
    writeVecWidth := <- int "GlobalWriteVectorWidth", innerUnroll := <- int IU
    interleaveAlpha := <- flag "InterleaveAlpha", ldsNumElems := <- int "LdsNumElements"
    dotLayout := <- int LDL, localReadVectorWidth := <- int LRVW
    localSplitU := <- int LSU, loopDoWhile := <- flag "LoopDoWhile", loopIters := <- int LI
    loopTail := <- flag LT, loopUnroll := <- int LU, macroTile0 := <- int MT0
    macroTile1 := <- int MT1, magicDivAlg := <- int "MagicDivAlg", maxVgprNumber := <- int "MaxVgprNumber"
    minVgprNumber := <- int "MinVgprNumber", nonTemporalC := <- int "NonTemporalC"
    numWriteVecs := <- int "NumGlobalWriteVectorsPerThread", numThreads := <- int NT
    oneLdsBuffer := <- flag LDSB, optNoLoadLoop := <- flag "OptNoLoadLoop"
    optPreLoopVmcnt := <- flag "OptPreLoopVmcnt"
    packGrain := <- int "PackGranularity", packSum := <- flag PSD
    perfSyncLoc := <- int "PerformanceSyncLocation", perfWaitCount := <- int "PerformanceWaitCount"
    perfWaitLoc := <- int "PerformanceWaitLocation", persistKernel := <- int PK
    alongBatch := <- flag PKAB
    prefetchAcross := <- flag PAP, prefetchGlobalRead := <- int PGR
    prefetchLocalRead := <- int PLR
    scheduleGlobalRead := <- int "ScheduleGlobalRead", scheduleIterAlg := alg
    scheduleLocalWrite := <- int "ScheduleLocalWrite", srcSwap := <- flag "SourceSwap", staggerU := <- int SU
    staggerUMap := <- int "StaggerUMapping", staggerStrideShift := <- int "_staggerStrideShift"
    remapWidth := <- int SRVW, storeVecWidth := <- int SVW
    subGroup0 := <- int "SubGroup0", subGroup1 := <- int "SubGroup1", dropNoLoad := <- flag SNLL
    threadTile0 := <- int TT0, threadTile1 := <- int TT1, transposeLds := <- int TLDS
    unrollIncIsDepthU := <- flag "UnrollIncIsDepthU", unrollMemFence := <- flag "UnrollMemFence"
    use64bShadowLimit := <- flag "Use64bShadowLimit", useInstOffForGRO := <- flag "UseInstOffsetForGRO"
    useSgprForGRO := <- int USFGRO, scalarOffsText := (<- s.fetch USFGRO).shown
    codeObjectVersion := s.state.or COV, vecAtomicWidth := <- int VAW
    vecStore := <- flag "_VectorStore", vecWidth := <- int VW, waveSize := <- int WS
    workGroupMapping := <- int WGM }

end TensorForge
