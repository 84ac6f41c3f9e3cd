import TensorForge.Kernel.Assembly.LocalAddress

/-! # The start of a kernel -/

namespace TensorForge.Assembly.Setup

open Asm Checks Emit LocalPtrs Operand Text

def loadWord (name : Text) (load : Bool := true) : Code := do
  let some off := (<- get).argOff | throw .noField
  if load then emit ["s_load_dword", sr name, sr "KernArgAddress" 2, hex off] ""
  modify ({ · with argOff := some (off + 4) })

def loadWords (names : Texts) : Code := names.forM (loadWord ·)

def factorWords (d : DataType) (name : Text) : Texts :=
  if d.isNarrow || d.isSingle || d.isInt8x4 then [name]
  else if d.isDouble || d.isSingleComplex then (List.range 2).map fun i => s!"{name}+{i}"
  else if d.isDoubleComplex then (List.range 4).map fun i => s!"{name}+{i}"
  else []

def loadWordByWord : Code := do
  let k <- spec
  let l <- layout
  loadWords (words "Tensor2dSizeA+0 Tensor2dSizeA+1 Tensor2dSizeB+0 Tensor2dSizeB+1 AddressD AddressD+1 AddressC
    AddressC+1 AddressA AddressA+1 AddressB AddressB+1")
  loadWords (factorWords k.dataType "Alpha")
  if k.useBeta then loadWords (factorWords k.dataType "Beta")
  for (name, n) in [("StridesD", l.numStridesOut), ("StridesC", l.numStridesOut),
      ("StridesA", (<- side true).numSgprStrides), ("StridesB", (<- side false).numSgprStrides),
      ("SizesFree", k.dimsC), ("SizesSum", k.numSum)] do
    for i in upTo n do loadWord s!"{name}+{i}"
  loadWords (sizeArgs k l.magicSums)
  loadWord "OrigStaggerUIter" k.staggers
  loadWords ["NumWorkGroups0", "NumWorkGroups1"]
  loadWord "MagicNumberProblemNumGroupTiles0" k.persist
  loadWord "GridNumWorkGroups0" k.persist
  loadWords ["NumFullBlocks", "WgmRemainder1", "MagicNumberWgmRemainder1"]

def loadWidths : Nat -> Int -> Ints
  | 0, _ => []
  | fuel + 1, n => ([16, 8, 4, 2, 1].find? (n >= ·)).elim [] fun w => w :: loadWidths fuel (n - w)

def loadArgs : Code := do
  let l <- layout
  heading "Load Kernel Args"
  modify ({ · with argOff := some 0 })
  if <- flag DK then loadWords ["AddressDbg", "AddressDbg+1"]
  loadWord "Tensor2dSizeC+0" false
  loadWord "Tensor2dSizeC+1" false
  let mut start <- scalarNamed "Tensor2dSizeA"
  for w in loadWidths l.numLoaded.toNat l.numLoaded do
    let off := (<- get).argOff.getD 0
    emit [if w == 1 then "s_load_dword" else s!"s_load_dwordx{w}", sr start w, sr "KernArgAddress" 2, hex off] ""
    start := start + w
    modify ({ · with argOff := some (off + w * 4) })
  sWait "lgkmcnt(0)" s!"wait for {(<- get).argOff.getD 0} bytes of kern args"

def loadBatchAddrs (batch : Text) (tmp : Int) : Code := do
  let k <- spec
  raw "\n"
  for i in k.batch do
    if !k.isPacked i then
      sMul (sr tmp) (sr batch) "8" "offset of global buffer address"
      for t in opt (!k.usesBufs) ["D", "C"] ++ ["A", "B"] do
        let r := sr s!"Address{t}" 2
        emit ["s_load_dwordx2", r, r, sr tmp] s!"load global buffer {t} address"

def addOff (t off : Text) (bytes : Int) : Code := do
  sShift off off (hexLog bytes) "elements offset to bytes offset"
  sAddWide (sr s!"Address{t}+0") (sr s!"Address{t}+1") off "0" "add offset to buffer address"

def addOffs (off : Nat -> Text) : Code := do
  let l <- layout
  if !(<- spec).usesBufs then
    addOff "D" (off 0) l.bytesOut
    addOff "C" (off 1) l.bytesOut
  addOff "A" (off 2) l.bytesAB
  addOff "B" (off 3) l.bytesAB

def skipZeroAlpha : Code := do
  let k <- spec
  let d := k.computeType
  let vcc <- vcc
  let target := "label_AlphaNonZero"
  let test := fun kind r part suffix => do
    emit [s!"v_cmp_eq_{kind}", vcc, r, "0.0"] s!"Alpha{part} == 0.0{suffix} ?"
    emit [s!"s_cbranch_vccz {target}"] s!"branch if Alpha{part} != 0"
  heading "Short circuit condition if Alpha == 0, then sumDims=0"
  if d.isDoubleComplex then
    test "f64" (sr "Alpha" 2) ".real" ""
    test "f64" (sr "Alpha+2" 2) ".imag" ""
  else if d.isDouble then test "f64" (sr "Alpha" 2) "" ""
  else if d.isSingleComplex then
    test "f32" (sr "Alpha") ".real" "f"
    test "f32" (sr "Alpha+1") ".imag" "f"
  else if d.isSingle || d.isNarrow then
    emit ["v_cmp_eq_f32", vcc, sr "Alpha", "0.0"] "Alpha == 0.0f ?"
    emit [s!"s_cbranch_vccz {target}"] "branch if alpha != 0"
  else
    sSame (sr "Alpha") "0" "Alpha == 0 ?"
    emit [s!"s_cbranch_scc0 {target}"] "branch if alpha != 0"
  for i in upTo k.numSum do sMov (sr s!"SizesSum+{i}") "0x0" "Set summation dim=0 if Alpha == 0"
  raw s!"{target}:\n"

def splitShifts : Code := do
  let k <- spec
  for c in (<- layout).magicSums ++ Naming.sortTexts k.dividedSizes.eraseDups do
    let shift := sr s!"MagicShiftSize{c}"
    emit ["s_lshr_b32", sr s!"MagicAbitSize{c}", shift, "31"] "extract abit"
    emit ["s_and_b32", shift, shift, "0x7fffffff"] "remove abit"

def debugBuf : Code := do
  let k <- spec
  let vcc <- vcc
  heading "Debug Buffer"
  let nwg0 <- takeVec 1
  let tmpV <- takeVec 2 "_untagged_" 2
  let tmpS <- glimpseTmp 1
  let t := k.tileChar0
  raw s!"// nwg0 = (size{t} + MT{t} - 1) / MT{t};\n"
  sMov (sr tmpS) (hex (k.macroTile0 - 1)) "MT0-1"
  vMov (vr tmpV) (sr tmpS) "MT0-1"
  vAddCo (vr nwg0) (sr "SizesFree+0") (vr tmpV) s!"{vr nwg0} = size0+MT0-1"
  vDiv nwg0 0 nwg0 k.macroTile0 tmpV tmpS false
  giveVec tmpV
  let v <- takeVec 3
  let (v0, v1, v2) := (vr v, vr (v + 1), vr (v + 2))
  let dbg := vr "AddressDbg"
  vMov v0 (sr "WorkGroup0") s!"{v0}=wg0"
  vMov v1 (sr "WorkGroup1") s!"{v1}=wg1"
  vMul v1 v1 (vr nwg0) s!"{v1}=wg1*nwg0"
  vAddCo v0 v0 v1 s!"{v0}=wg1*nwg0+wg0"
  consts (mulVec v0 v0 k.numThreads (sr tmpS) "")
  vAddCo v0 v0 (vr "Serial") s!"{v0}=tid+NT*(wg1*nwg0+wg0)=serial"
  vMul v0 "0x40" v0 s!"{v0}=serial*nipt*4"
  vMov v1 "0" ""
  vAddCo dbg (sr "AddressDbg") v0 s!"{dbg}=AddrD* + serial*nipt*4"
  vMov v2 (sr "AddressDbg+1") s!"{v2}=AddressD1"
  emit ["_v_addc_co_u32", vr "AddressDbg+1", vcc, v2, v1, vcc] s!"{dbg}=AddrD* + serial*nipt*4"
  sMov (sr "DebugKernelItems") "0" ""
  giveVecs [v, nwg0]

def begin : Code := do
  let k <- spec
  let l <- layout
  let p <- probes
  if p.bits "InitSgpr" &&& 1 != 0 then
    heading "Init SGPRs"
    for i in span l.firstInitScalar (<- get).scalars.size do sMov (sr i) "0x0" "InitSgpr&0x1"
    raw "\n"
  if p.bits "InitVgpr" &&& 1 != 0 then
    heading "Init VGPRs"
    for i in span 1 l.totalVecs do vMov (vr i) "0xffffffff" "InitVgpr&0x1"
    raw "\n"
  let bytes := k.ldsNumElems * l.bytesAB
  sMov "m0" (hex bytes) s!"LDS clamp at {bytes} bytes"
  vMov (vr "Serial") (vr 0) "thread serial id"
  if k.waveSize == 32 then sMov "vcc_hi" "0" "Ensure hi bits are zero"
  loadArgs
  if !k.stridedBatched then
    loadBatchAddrs "WorkGroup2" (<- glimpseTmp 1)
    sWait "lgkmcnt(0)" "wait global buffer adress ready"

def resources : Code := do
  let k <- spec
  if k.disableKernelPieces >= 9 || k.disableKernelPieces == -9 then emit ["s_endpgm"] "Skip the whole kernel"
  if <- enabled "PreLoop" then begin else raw ".if 0\n"
  addOffs fun i => sr ("Offset" ++ ["D", "C", "A", "B"].getD i "")
  raw "\n"
  for t in ["D", "C", "A", "B"] do raw (<- undefScalar s!"Offset{t}")
  defineVarScalars
  if <- enabled "ApplyAlpha" then skipZeroAlpha
  for t in k.inputs do
    for zp in t.zeroPad do
      for which in ["PadStart", "PadEnd"] do
        let r := sr s!"{which}{t.char}{k.plainChar zp.free}{k.plainChar zp.sum}"
        sShift r r s!"Bpe{t.char}Log2" ""
  if k.persist then sMov (sr "SerialWorkGroupIter") (sr "WorkGroup0") "init SerialWorkGroupIter"
  if k.optPreLoopVmcnt then sMov (sr "PreLoopLWVmcntCase") "0x1" "init PreLoopLWVmcntCase to 1"
  if k.magicDivAlg == 2 then splitShifts
  if <- flag DK then debugBuf
  if <- probing "InitLds" then fillLocal 0xFFFFFFFF
  if k.checkDimAsserts then
    multiple (sr s!"SizesSum+{k.numSum - 1}") k.assertSum 0x1001
    multiple (sr "SizesFree+0") k.assertFree0 0x1002
    multiple (sr "SizesFree+1") k.assertFree1 0x1003

def openPersistLoop : Code := do
  if (<- spec).persist then
    raw (comment3 "Persistent Loop Start")
    placeLabel "PersistentLoopStart"

def splitSerial (tmp : Int) (serial : Text) : Code := do
  magicDiv2 tmp (sr serial) (sr "MagicNumberProblemNumGroupTiles0") (sr "MagicShiftProblemNumGroupTiles0")
  sMov (sr "WorkGroup1") (sr tmp) s!"wg1 = {serial} / problemNumGroupTiles0"
  sMul (sr "WorkGroup0") (sr tmp) (sr "NumWorkGroups0") "remainder part 1 : quotient * divisor"
  sSub (sr "WorkGroup0") (sr serial) (sr "WorkGroup0") s!"wg0 = {serial} % problemNumGroupTiles0"

def nextTile : Code := do
  let k <- spec
  let l <- layout
  let tmp <- glimpseTmp 4 (some 4)
  if !k.prefetchAcross && k.prefetches then
    resetRead true
    resetRead false
  if k.alongBatch then
    let ij := sr "WGIJSerial"
    remark "compute SerialWorkGroupIter / problemNumGroupTiles0x1 (aka nWG0*nWG1)"
    magicDiv2 tmp (sr "SerialWorkGroupIter") (sr "MagicNumProblemNumGroupTiles0By1")
      (sr "MagicShiftProblemNumGroupTiles0By1")
    sMov (sr "WGKSerial") (sr tmp) "wgKSerial = SerialWorkGroupIter / problemNumGroupTiles0x1"
    sMul ij (sr tmp) (sr "NumWorkGroups0") "for remainder: get quotient * NumWorkGroups0"
    sMul ij ij (sr "NumWorkGroups1") "for remainder: get quotient * NumWorkGroups0 * NumWorkGroups1"
    sSub ij (sr "SerialWorkGroupIter") ij "wgIJSerial = SerialWorkGroupIter % problemNumGroupTiles0x1"
    remark "compute WGIJSerial / problemNumGroupTiles0 (aka numWorkGroups0)"
    splitSerial tmp "WGIJSerial"
    if !k.stridedBatched && !k.batch.isEmpty then
      raw "\n"
      emit ["s_load_dwordx8", sr "AddressD" 8, sr "KernArgAddress" 2, "0x18"] "reload DCAB address"
      sWait "lgkmcnt(0)" "wait for reload DCAB address"
      loadBatchAddrs "WGKSerial" tmp
      emit ["s_load_dwordx4", sr tmp 4, sr "KernArgAddress" 2, hex l.argOffs] "reload DCAB Offset"
      sWait "lgkmcnt(0)" "wait global buffer adress ready"
      addOffs fun i => sr (tmp + i)
  else
    remark "compute SerialWorkGroupIter / problemNumGroupTiles0 (aka numWorkGroups0)"
    splitSerial tmp "SerialWorkGroupIter"
  raw "\n"

/-- The work group's part of the summation, when they take it in turn. -/
def splitInTurn : Code := do
  let k <- spec
  let nwg1 <- takeOne "nwg1"
  let tmpV <- takePair
  let groups <- takeOne "quotient"
  let tmpS <- glimpseTmp 1
  let t := k.tileChar1
  raw s!"// GSU-WGMapRR :nwg1 = (size{t} + MT{t} - 1) / MT{t};\n"
  vMov (vr nwg1) (sr "SizesFree+1") ""
  sMov (sr tmpS) (hex (k.macroTile1 - 1)) ""
  vAddCo (vr nwg1) (sr tmpS) (vr nwg1) s!"{vr nwg1} = size1+MT1-1"
  vDiv groups 0 nwg1 k.macroTile1 tmpV tmpS false
  giveVec nwg1
  let wg1 <- takeOne "wg1"
  vMov (vr wg1) (sr "WorkGroup1") "wg1"
  let q <- takeOne "quotient"
  let r <- takeOne "remainer"
  let tmpV1 <- takeOne "tmpVgpr1"
  raw s!"DYNAMIC_VECTOR_DIVIDE {q} {r} {wg1} {groups} {tmpV} {tmpV1} {tmpS}\n"
  emit ["v_readfirstlane_b32", sr "GSUSumIdx", vr q] ""
  emit ["v_readfirstlane_b32", sr "WorkGroup1", vr r] ""
  giveVecs [tmpV, tmpV1, groups, wg1, q, r]

/-- The place of a work group in its block: across and along it. -/
def blockPlace (k : KernelSpec) : Text × Text :=
  if k.workGroupMapping >= 0 then ("WorkGroup0", "WorkGroup1") else ("WorkGroup1", "WorkGroup0")

/-- The divisions find the block of a work group and its place there. -/
def blockSteps (k : KernelSpec) (tmp : Int) (blocks groups : Instrs) : Instrs :=
  let wgm : Int := k.workGroupMapping.natAbs
  let reg := fun r => scalar r 1
  let block := reg tmp
  let serial := reg (.num (tmp + 1))
  let divisor := reg (.num (tmp + 2))
  let magic := reg (.num (tmp + 3))
  let wg0 := reg "WorkGroup0"
  let wg1 := reg "WorkGroup1"
  let last := reg (blockPlace k).2
  step "s_mov_b32" [magic, .long (.pow 2 31 / wgm + 1)] s!"magic number for WGM=={wgm}" :: blocks ++ [
    step "s_mul_i32" [serial, block, .dec wgm] "quotient * non-magic divisor",
    step "s_sub_u32" [serial, wg1, serial] "WorkGroup1=remainder",
    step "s_mul_i32" [serial, serial, reg "NumWorkGroups0"] "(wg1 % WGM)*nwg0",
    step "s_add_u32" [serial, serial, wg0] "wgSerial = wg0 + (wg1 % WGM)*nwg0",
    step "s_cmp_ge_u32" [block, reg "NumFullBlocks"] "blockId >= numFullBlocks ?",
    step "s_cmov_b32" [magic, reg "MagicNumberWgmRemainder1"] "",
    step "s_cselect_b32" [divisor, reg "WgmRemainder1", .dec wgm] ""] ++ groups ++
    (if k.workGroupMapping < 0 then [step "s_mov_b32" [wg0, wg1] ""] else []) ++ [
    step "s_mul_i32" [wg1, wg0, divisor] "quotient * non-magic divisor",
    step "s_sub_u32" [wg1, serial, wg1] "WorkGroup1=remainder",
    step "s_mul_i32" [block, block, .dec wgm] "blockId * WGM",
    step "s_add_u32" [last, last, block] "wg1 += blockId * WGM"]

def blockMapping : Emit Instrs := do
  let k <- spec
  let tmp <- glimpseTmp 4
  let magic := scalar (.num (tmp + 3)) 1
  let blocks <- magicDivide tmp (.scalar "WorkGroup1" 1) magic 31
  let first <- scalarNamed (blockPlace k).1
  check (first % 2 == 0)
  check (first + 1 == (<- scalarNamed (blockPlace k).2))
  return blockSteps k tmp blocks (<- magicDivide first (.scalar (.num (tmp + 1)) 1) magic 31)

def workGroup : Code := do
  let k <- spec
  if k.persist then nextTile
  remark "graWorkGroup mapping"
  if k.splits then
    if k.splitMapRoundRobin then splitInTurn
    else
      let t := k.tileChar1
      raw s!"// GSU-not-WGMapRR :nwg1 = (size{t} + MT{t} - 1) / MT{t};\n"
      let tmp <- glimpseTmp 3
      sMov (sr (tmp + 2)) (sr "WorkGroup1") "copying for divisor"
      consts (divideScalar "WorkGroup1" "GSUSumIdx" (.num (tmp + 2)) k.globalSplitU tmp 1)
  if k.mapType == "B" && k.workGroupMapping.natAbs > 1 then consts (.ok (<- blockMapping))

end TensorForge.Assembly.Setup
