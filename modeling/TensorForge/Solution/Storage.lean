import TensorForge.Solution.Preparation

/-! # Local memory of a solution -/

namespace TensorForge.Derive

open Gen Int Tile

def assignSteps : Rule := do
  if (<- flag "UnrollIncIsDepthU") || (<- is PSD 1) || (<- problemFlag "ZeroPadA") ||
      (<- problemFlag "ZeroPadB") then
    let depth <- int DU
    if (<- rem depth (<- int ASEM)) != 0 then
      reject "PackSummationDims=1 requires DepthU is integer multiple of ASEM"
    else set ASEM depth
    set SU 0

def assignTiles : Rule := do
  if !(<- flag FL) then
    let d <- get
    assignClassicTile "A" d.vecsA d.acrossA
    assignClassicTile "B" d.vecsB d.acrossB

def assignVecTiles : Rule := do
  for tensor in ["A", "B"] do
    let width <- loadWidth tensor
    set s!"LVC{tensor}" (<- pure? (ratioUp (<- int s!"LSC{tensor}") width))
    set s!"LVP{tensor}" (<- pure? (ratioUp (<- int s!"LSP{tensor}") width))

variable (tensor : Text)

/-- Wide loads need a coalesced side of stride one. -/
def checkStride : Rule := do
  let index <- if <- problemFlag s!"TLU{tensor}" then problem s!"Index01{tensor}" else problem "IndexUnroll"
  let pos <- posIn tensor index
  let known <- table (<- fetch s!"AssertStride{tensor}Equal")
  let stride := (known.find? (.int pos)).getD (.int (-1))
  if stride != 1 && (<- fetch s!"GlobalLoadVectorWidth{tensor}") != 1 then
    let text := if stride == .int (-1) then "TBD" else stride.shown
    reject (s!"Non-unit stride({text}) for coalesced dimension (index={index.shown}) requires " ++
      s!"GlobalLoadVectorWidth{tensor}==1")
  let count := (<- problemInts s!"IndexAssignments{tensor}").length
  for (p, _) in known do if (<- Gen.int p) > count then fail .wrongKind

def checkSizes : Rule := do
  let most := ((<- problemInts IAA) ++ (<- problemInts IAB)).foldl max 0
  for p in <- items "AssertSizeEqual" do
    let p <- Gen.int p
    if p > most then fail (.failure s!"AssertSize index position={p} is > maxIndex={most}")

def checkPads : Rule := do
  if <- writtenIn "Source" then
    if (<- fetch "LdsPadA") != (<- fetch "LdsPadB") then
      refuse "Source KernelLanguage only supports LdsPadA == LdsPadB"

def checkMatrixPad : Rule := do
  let block <- int s!"LdsBlockSizePerPad{tensor}"
  if block != 0 then
    if !(<- flag s!"UnrollMajorLDS{tensor}") then
      reject s!"didn't support LdsBlockSizePerPad{tensor} on tile major LDS yet"
    let depth <- int DUL
    if block < depth * (<- get).bytes then
      let whole <- int LBSPP
      reject s!"reject: DepthULds {depth} x bpe > LdsBlockSizePerPad{tensor} {whole}"

/-- Which side comes first in local memory, and where paddings go. -/
def assignPadBlocks : Rule := do
  let turned <- fetch TLDS
  for tensor in ["A", "B"] do
    let tileFirst <- problemFlag s!"TLU{tensor}"
    set s!"UnrollMajorLDS{tensor}" (if turned.truthy then !tileFirst else turned)
  if <- is LBSPP (-1) then
    if (<- flag MI) && turned.truthy then
      let row := (<- int DUL) * (<- get).bytes
      set LBSPP (<- if row > 128 then pure? (powerUp row) else pure 128)
    else set LBSPP 0
  for tensor in ["A", "B"] do
    let block <- if <- flag s!"UnrollMajorLDS{tensor}" then fetch LBSPP else pure 0
    set s!"LdsBlockSizePerPad{tensor}" block
  if <- hasMatrix then
    checkMatrixPad "A"
    checkMatrixPad "B"
  else
    if (<- flag "UnrollMajorLDSA") || (<- flag "UnrollMajorLDSB") then
      reject "didn't support UnrollMajorLDS in VALU mode yet"
    if !(<- is "LdsBlockSizePerPadA" 0) || !(<- is "LdsBlockSizePerPadB" 0) then
      reject "didn't support LdsBlockSizePerPad in VALU mode yet"

def assignLocalReads : Rule := do
  let matrix <- hasMatrix
  if <- is LRVW (-1) then
    set LRVW (<- fetch (if matrix then MIIPT else VW))
  else if matrix then
    let width <- int LRVW
    let inputs <- int MIIPT
    if width < inputs then reject s!"LocalReadVectorWidth < {inputs}"
    if width > inputs then if !(<- flag TLDS) then reject "LocalReadVectorWidth require Transpose LDS"
  else if (<- int LRVW) != (<- int VW) then
    reject "LocalReadVectorWidth must equal VectorWidth for non MI kernels"

def suitedPad : Derive Int := do
  let width <- int LRVW
  let regs := fdiv (width * (<- get).bytes) 4
  if regs > 4 then reject "LocalReadVectorWidth=%u results in attemping to read LDS larger than b128, reject"
  if <- hasMatrix then
    if <- is MIB 1 then if <- is MIM 16 then if regs == 4 || regs == 1 then return width * 2
  return width

def assignPad (suited : Int) (tensor : Text) : Rule := do
  if <- is s!"LdsPad{tensor}" (-1) then
    if <- problemFlag s!"TLU{tensor}" then set s!"LdsPad{tensor}" 0
    else
      let matrix <- hasMatrix
      if matrix && (<- flag TLDS) then set s!"LdsPad{tensor}" (.int (max (<- int GRVW) suited))
      else set s!"LdsPad{tensor}" (<- fetch VW)
    if (<- int s!"LdsPad{tensor}") < 0 then fail .unmet

def assignPads : Rule := do
  assignPadBlocks
  assignLocalReads
  let suited <- suitedPad
  assignPad suited "A"
  assignPad suited "B"
  if (<- flag "UnrollMajorLDSA") || (<- flag "UnrollMajorLDSB") then
    if !(<- hasMatrix) then reject "UnrollMajorLDS Supports only in EnableMatrixInstruction=1"

def regionOf : Derive RegionShape := do
  let sumFirst <- flag s!"UnrollMajorLDS{tensor}"
  let block <- int s!"LdsBlockSizePerPad{tensor}"
  return { depth := <- int DUL, macroTile := <- int s!"MacroTile{tensor}", pad := <- int s!"LdsPad{tensor}",
           padInterval := <- quot block (<- get).bytes, sumFirst }

def assignLayout : Rule := do
  let ahead <- flag PGR
  let align := fdiv 256 (<- get).bytes
  let l <- pure? (layOut (<- regionOf "A") (<- regionOf "B") align ahead)
  set "LdsOffsetA" 0
  if ahead then
    set "LdsNumElementsAlignedA" l.alignedA
    set "LdsNumElementsAlignedB" l.alignedB
  set "LdsOffsetB" l.alignedA
  if let some start := l.second then
    set "LdsOffsetA_Blk" start
    set "LdsOffsetB_Blk" (start + l.alignedA)
  modify ({ · with localElems := l.total, alignedA := l.alignedA, sizeB := l.sizeB })

def assignCopies : Rule := do
  let split <- int LSU
  let outs := (<- int MT0) * (<- int MT1)
  let reduction := if split > 1 then split * outs else 0
  let wanted <- quot (<- settingInt "DeviceLDS") (<- int "MaxOccupancy")
  let forOccupancy := wanted.fdiv (<- typeOf DDT).bytes
  let limit <- settingInt "MaxLDS"
  if <- is LDSB (-1) then set LDSB (if (<- get).localElems * (<- get).bytes > limit then 1 else 0)
  if <- flag LDSB then
    if !(<- flag PGR) then reject "PGR=0 already use 1 LDS buffer only"
    if !(<- is SIA 2) && !(<- is SIA 3) then
      if <- flag "ScheduleLocalWrite" then reject "1LDSBuffer only support SIA2 or SIA3, or SIA1 without SLW"
    set "LdsOffsetB" (<- get).alignedA
    modify fun d => { d with localElems := d.alignedA + d.sizeB }
  modify fun d => { d with localElems := max (max d.localElems reduction) forOccupancy }

def sharesOut : Derive Bool := do
  if (<- int GSU) > 1 then return !(<- isText GA MB)
  return false

def exchanged (width : Int) : Derive Int := do
  let pad := max width (<- int MIOVW)
  return ((<- int MT0) + pad) * (<- int MIN) * (<- nth MIWG 1)

def assignExchange : Rule := do
  if <- is SRVW (-1) then
    let bytes := (<- get).bytes
    let width := fdiv 8 bytes
    let tile0 <- int MT0
    let size := (<- exchanged width) * (if <- flag GA then 2 else 1) * bytes
    let even <- pure? (isPowerOfTwo tile0)
    let off <- if !even || size > (<- settingInt "MaxLDS") then pure true else sharesOut
    set SRVW (if off then 0 else width)

def checkSwap : Rule := do
  if <- flag "SourceSwap" then
    if !(<- hasMatrix) then refuse "SourceSwap only applies to MatrixInstruction kernels"
    if !(<- dataType).isDouble then refuse "SourceSwap currently only available for dgemm"
    if <- flag SRVW then refuse "SourceSwap not compatibile with StoreRemap"

/-- Whether a kernel can exchange results through local memory. -/
def checkExchange : Rule := do
  if !(<- hasMatrix) then refuse "storeRemap only support MaxtrixInstruction kernel"
  if <- sharesOut then refuse "storeRemap doesn't support GlobalSplitU yet, except GSU algorithm 2"
  let d <- get
  if d.packed0 || d.packed1 then refuse "storeRemap doesn't support packedC0 and packedC1 yet"
  if (<- int "MatrixInstBN") > 1 then
    if <- is MIN 4 then refuse "storeRemap doesn't support MI4x4 multi blocks in N direction yet"
  if !(<- pure? (isPowerOfTwo (<- int MT0))) then reject "storeRemap only supports power-of-2 MT0"

def checkExchangeWidth : Rule := do
  let width <- int SRVW
  let outBytes : Int := (<- typeOf DDT).bytes
  let most := if <- flag GA then 4 else fdiv 16 outBytes
  if max 1 (fdiv 4 outBytes) > width || most < width then
    refuse s!"StoreRemapVectorWidth {width} is not allowed for this data type"
  let wave := width * (<- int WS)
  let tile0 <- int MT0
  if wave < tile0 then
    refuse ("storeRemap: Per wave single global write instruction doesn't enough to write one " ++
      "M column. Please use larger StoreRemapVectorWidth.")
  if (<- quot (tile0 * (<- int MIN)) (<- nth MIWG 0)) < wave then
    refuse ("storeRemap: number elements of lds less than per wave per local read elements." ++
      " Please use smaller StoreRemapVectorWidth.")

def reserveExchange : Rule := do
  let elems <- exchanged (<- int SRVW)
  let bytes := (<- get).bytes
  let outBytes : Int := (<- typeOf DDT).bytes
  let factor := if <- flag GA then 2
    else if outBytes > bytes then outBytes.fdiv bytes else 1
  let needed := elems * factor
  if <- flag LDSB then
    if <- is SIA 3 then
      if (<- get).localElems < needed && (<- dataType).isInt8 then
        refuse "LDS usage is bound be StoreRemap, thus 1LDSBuffer wouldn't have any help. Skip."
  modify fun d => { d with localElems := max d.localElems needed }

def exchange : Rule := do
  if <- flag SRVW then
    checkExchange
    checkExchangeWidth
    reserveExchange

def checkStorage : Rule := do
  let elems := (<- get).localElems
  set "LdsNumElements" elems
  let size := elems * (<- get).bytes
  let limit <- settingInt "MaxLDS"
  if size > limit then refuse s!"Kernel Uses {size} > {limit} bytes of LDS"

def storage : List Rule :=
  [assignDepth, assignSteps, assignTiles, assignVecTiles, checkStride "A", checkStride "B", checkSizes, checkPads,
   assignPads, assignLayout, assignCopies, assignExchange, checkSwap, exchange, checkStorage]

/-! ## Last steps of the derivation -/

def assignUnroll : Rule := do
  if (<- has LSU) && (<- has DUL) then
    set LU (<- quot (<- int DUL) (<- int LSU))
  if (<- int LU) * (<- int LSU) != (<- int DUL) then set "Valid" false
  if !(<- writtenIn "Assembly") then if !(<- is IU 1) then reject "InnerUnroll only supported on assembly"
  set LU (<- quot (<- int LU) (<- int IU))

/-- Elements of several iterations side by side in local memory. -/
def checkDotLayout : Rule := do
  let layout <- int LDL
  if layout > 1 then
    set DTL false
    if (<- rem (<- int ASEM) layout) != 0 && layout != 2 then
      refuse "LocalDotLayout > 1 only supports ASEM a multiple of LDL, except ldl = 2"
    if (<- problem HPA) != true || (<- int IU) != layout then
      refuse ("LocalDotLayout > 1 only supports HighPrecisionAccumulate set to true and " ++
        "InnerUnroll equal to LocalDotLayout")

def assignIters : Rule := do
  set LI (<- fetch LU)
  if <- has MIK then set LI (<- quot (<- int LI) (<- int MIK))
  let iters <- int LI
  if iters < 1 then refuse "LoopIters need to greater than 0"
  let ahead <- int PLR
  rejectIf (ahead >= 2 * iters) s!"Reject since PrefetchLocalRead {ahead} >= 2x LoopIters {iters}"
  rejectIf ((<- rem ahead iters) > 1) s!"PrefetchLocalRead: {ahead}, LoopIters: {iters} performance is low"

/-- Wide reads of a matrix kernel serve several iterations. -/
def checkWideReads : Rule := do
  let ahead <- int PLR
  if (<- hasMatrix) && ahead > 0 then
    let width <- int LRVW
    let iters <- int LI
    let served <- quot width (<- int MIIPT)
    if served == 0 then refuse s!"LocalReadVectorWidth {width} is less than MIInput"
    if (<- rem iters served) != 0 then
      reject (s!"LocalReadVectorWidth {width} cannot be distributed evenly, LoopIters {iters} " ++
        s!"should be divisible by WLR-Multiple {served}")
    let left <- rem ahead iters
    if left != 0 && iters - left * served <= 0 then
      reject (s!"with PrefetchLocalRead {ahead} LoopIters {iters} LocalReadVectorWidth {width}, " ++
        s!"not enough LoopIters to prefetch {left}x{served} iterations, ")

def checkTurned : Rule := do
  let matrix <- hasMatrix
  if <- is TLDS 1 then
    if !matrix then reject "TransposeLds Supports only in MatrixInstruction=1"
    if (<- problemFlag "TLUA") && (<- problemFlag "TLUB") then reject "TransposeLds requires TLUA=0 or TLUB=0"
  if matrix then
    let width <- int LRVW
    let inputs <- int MIIPT
    if width > inputs then
      let ahead <- int PLR
      let iters <- int LI
      let inner <- int IU
      if !(ahead >= iters && inner == 1) && !(inner >= (<- quot width inputs)) then
        reject (s!"wider localRead only support (PrefetchLocalRead {ahead} >= LoopIters {iters}) " ++
          s!"or (InnerUnroll {inner} > LocalReadxN)")

def regsText (bytes : Int) : Text := Decimal.fixed 6 (Decimal.ofInt bytes / 4)

def checkParts : Rule := do
  let parts <- int DULD
  if parts > 1 then
    let bar := fun what => reject ("DepthULdsDivisor > 1 does not support " ++ what)
    let t <- dataType
    if !(t.isNarrow || t.isSingle) then bar "DataType other than F16, BF16 or F32 yet."
    if <- is PGR 2 then bar "PrefetchGlobalRead=2"
    if !(<- is SIA 3) then bar "SchedulIterAlg other than 3"
    if (<- fetch DTL) == true then bar DTL
    if (<- problemFlag "TLUA") || !(<- flag TLDS) then
      reject "DepthULdsDivisor > 1: Only works with TN problem layout and TransposeLDS"
    if (<- is PGR 1) && (<- is PLR 0) then
      reject "PGR1 + PLR0 in SplitLDS requires double G2L buffer which is yet to be implemented"
    let width <- int GRVW
    let bytes : Int := t.bytes
    if bytes * width < 4 * parts then
      let regs := regsText bytes
      reject (s!"SplitLDS requires wider GlobalReadVectorWidth (assert RegisterPerElem " ++
        s!"({regs}) * GRVW ({width}) // DepthULdsDivisor ({parts}) >= 1")

def assignDirect : Rule := do
  if <- flag DTL then
    for tensor in ["A", "B"] do
      if <- loadsDirectly tensor then
        set s!"DirectToLds{tensor}" true
        set s!"LocalWriteUseSgpr{tensor}" true
    set DTL ((<- flag "DirectToLdsA") || (<- flag "DirectToLdsB"))
  if <- is "UseInstOffsetForGRO" (-1) then set "UseInstOffsetForGRO" (if <- flag DTL then 1 else 0)

def assignWhole (multiple : Text) : Rule := do
  let whole <- if <- problemFlag s!"TLU{tensor}" then pure ((<- rem (<- int multiple) (<- loadWidth tensor)) == 0)
    else pure true
  set s!"GuaranteeNoPartial{tensor}" whole

def checkMatrixEdge (tensor count : Text) : Rule := do
  let n <- int count
  let width <- loadWidth tensor
  let uneven := (<- rem n width) != 0
  if !(<- flag s!"GuaranteeNoPartial{tensor}") && uneven then
    reject s!"{count} {n} % GlobalLoadVectorWidth{tensor} {width} must be 0"

def checkPlainEdge : Rule := do
  if !((<- get).bufferLoad.truthy) || !(<- flag s!"GuaranteeNoPartial{tensor}") then
    let load <- loadWidth tensor
    let width <- int VW
    if load > 1 && load != width then
      reject s!"GlobalLoadVectorWidth{tensor} {load} must be == VectorWidth {width} or == 1"

def checkEdges : Rule := do
  assignWhole "A" AF0EM
  assignWhole "B" AF1EM
  if (<- get).bufferLoad.truthy then
    if <- flag USFGRO then
      if <- isText ET "ShiftPtr" then
        if !(<- flag "GuaranteeNoPartialA") || !(<- flag "GuaranteeNoPartialB") then set USFGRO false
  if <- hasMatrix then
    checkMatrixEdge "A" MIOVW
    checkMatrixEdge "B" MIN
  else
    checkPlainEdge "A"
    checkPlainEdge "B"

def assignOffs : Rule := do
  let wide := (<- int VW) > 1
  let assembly <- writtenIn "Assembly"
  set "AssertMinApproxSize" (if !wide then 0 else if assembly then 3 else 2)
  if !(<- get).bufferLoad.truthy then if <- flag FL then reject "Fractional requires BufferLoad"
  if <- is USFGRO (-1) then
    let a := (<- int "NumLoadsCoalescedA") * (<- int "NumLoadsPerpendicularA")
    let b := (<- int "NumLoadsCoalescedB") * (<- int "NumLoadsPerpendicularB")
    set USFGRO (if a + b > 35 then 0 else 1)

def storeSingly (reason : Text) : Rule := do
  if (<- int "VectorStore") <= 0 then set "_VectorStore" 0 else reject reason

def checkPackedStores : Rule := do
  let multiple <- int AF0EM
  let width <- int VW
  if <- writtenIn "Source" then
    rejectIf (multiple < width) "packedC0 Source requires AF0EM>=VectorWidth (for loads and stores)"
  else if multiple < width || multiple == 1 then
    storeSingly "packedC0 Assembly requires AF0EM>=VectorWidth or not VectorStore (for stores)"

def checkPacked : Rule := do
  let d <- get
  if d.packed0 then if !(<- flag "GuaranteeNoPartialA") then reject "packedC0 requires GuaranteeNoPartialA"
  if d.packed1 then if !(<- flag "GuaranteeNoPartialB") then reject "packedC1 requires GuaranteeNoPartialB"
  if d.packed0 || d.packed1 then
    set USFGRO 0
    if !(<- isText ET "ShiftPtr") then reject "Packed dims requires EdgeType==ShiftPtr"
    if <- writtenIn "Assembly" then if !d.bufferLoad.truthy then reject "Packed dims for Assembly requires BufferLoad"
  if d.packed0 then if <- is "PackGranularity" 2 then checkPackedStores

def firstStride : Derive Value := do
  return ((<- table (<- fetch s!"AssertStride{tensor}Equal")).find? 0).getD (.int (-1))

def checkStores : Rule := do
  if (<- firstStride "C") != 1 || (<- firstStride "D") != 1 then
    storeSingly "UseInitialStridesCD requires not VectorStore since store locations not adjacent"

def firstPadded (pads : Value) : Gen (Option Value) := do
  let first <- .nth (<- .items pads) 0
  return (<- .items first).head?

def checkZeroPad : Rule := do
  let pads <- problem s!"ZeroPad{tensor}"
  if pads.truthy && (<- writtenIn "Assembly") then
    if !(<- is s!"GlobalLoadVectorWidth{tensor}" 1) then
      let assigns <- problem s!"IndexAssignments{tensor}"
      let first <- Gen.nth (<- Gen.items assigns) 0
      if (<- firstPadded pads) == some first then reject "asm ZeroPad requires GlobalLoadVectorWidth==1"
    if !(<- get).bufferLoad.truthy then reject "asm ZeroPad requires BufferLoad"

def checkClient : Rule := do
  if (<- problemFlag "ZeroPadA") || (<- problemFlag "ZeroPadB") then set USFGRO 0
  checkZeroPad "A"
  checkZeroPad "B"
  let newest := (<- setting NC) == 2
  if (<- is "MagicDivAlg" 2) && !newest then set "MagicDivAlg" 1
  if (<- is PSD 2) && !newest then
    fail (.failure "Legacy client does not support PackSummationDims (ASEM issues), aborting")
  if (<- flag "UnrollIncIsDepthU") && !newest then
    fail (.failure "Legacy client does not support UnrollIncIsDepthU=1 (ASEM issues), aborting")
  set ADP true

def iterations : List Rule :=
  [assignUnroll, checkDotLayout, assignIters, checkWideReads, checkTurned, checkParts, assignDirect, checkEdges,
   assignOffs, checkPacked, checkStores, checkClient]

def derivation : Rule := (preparation ++ storage ++ iterations).forM id

end TensorForge.Derive
