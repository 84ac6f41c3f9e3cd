import TensorForge.Solution.Loads

/-! # First steps of the derivation -/

namespace TensorForge.Derive

open Decimal

def writtenIn (lang : Text) : Derive Bool := isText KL lang
def is (key : Text) (n : Int) : Derive Bool := return (<- fetch key) == n

def assignAccum : Rule := do
  let t <- dataType
  set GA .null
  if t.isBFloat16 || t.isHalf then
    if <- problemFlag HPA then
      if (<- int GSU) > 1 then
        let way <- fetch "GlobalSplitUAlgorithm"
        if way == "SingleBuffer" || way == MB then set GA way
  if <- isText GA "SingleBuffer" then set WSPEC 4
  else if <- isText GA MB then
    set WSPEC (.int (4 * (<- int GSU)))
  else set WSPEC 0

def start : Rule := do
  readInstr
  assignShape
  if let some v := (<- get).state.get? ADP then if v.truthy then failure
  set ADP false
  for key in ["UseSgprForGRO", "VectorStore"] do set ("_" ++ key) (<- fetch key)
  assignAccum
  if <- is "VectorStore" (-1) then set "_VectorStore" 1
  if !(<- flag "Valid") then
    note "in assignDerivedParameters, state['Valid'] = False"
    failure

def assignInstr : Rule := do
  let isa := .tuple (<- items "ISA")
  if !(((<- get).state.get? "MACInstruction").elim false fun v => v == "MAD" || v == "FMA") then
    set "MACInstruction" (if (<- cap "AsmCaps" isa "v_mac_f32").truthy then "MAC" else "FMA")
  if <- is WS 32 then
    if !(<- cap "ArchCaps" isa "HasWave32").truthy then
      reject s!"WavefrontSize=32 not supported for ISA {isa.shown}"
    if <- writtenIn "Source" then reject "WavefrontSize=32 not yet supported for source kernels."

def assignSchedule : Rule := do
  set LI 0
  if <- has LU then set LI (<- fetch LU)
  if <- is SIA 2 then
    set IU (<- quot (<- int DU) (<- int MIK))
    set PLR 1
    set EPS 1
    set LDSB 1
    note "\nSet SIA=2, force PrefetchLocalRead=1, ExpandPointerSwap=1, 1LDSBuffer=1"
  if let true := <- fetch DVO then
    match <- fetch EMI with
    | true => pure ()
    | _ => reject "Non-MI kernels are already non-overlapping in pre-allocated registers"

def expectLen (key : Text) (n : Int) : Rule := do
  let v <- fetch key
  if !v.truthy then reject s!"invalid {key}" else if (<- v.len) != n then reject s!"invalid {key}"

def checkMatrix : Rule := do
  let t <- dataType
  if !(t.isSingle || t.isDouble || t.isBFloat16 || t.isHalf || t.isSingleComplex || t.isInt8) then
    reject s!"didn't support Matrix Instruction with type {t.char}"
  expectLen "MIBlock" 6
  expectLen MIWG 2
  expectLen MIWT 2
  if !(<- problemFlag HPA) then
    if t.bytes < 4 then
      reject ("Matrix instructions for half, bf16 (or i8) types are natively accumulated" ++
        " in fp32 (or i32) precision. Please add the following config:\n - HighPrecisionAccumulate: True")

def checkPlain : Rule := do
  if !(<- problemFlag HPA) then
    if (<- typeOf CDT).bytes > (<- dataType).bytes then
      reject ("For non-MI Kernel, if sizeof(ComputeDataType) > sizeof(DataType), " ++
        "Please add the following config:\n - HighPrecisionAccumulate: True")
  if (<- int TT0) > 16 || (<- int TT1) > 16 then reject "Invalid value for ThreadTile"
  if (<- is SIA 2) || (<- is SIA 3) then reject "SIA2 and SIA3 only support MatrixInstruction"

def assignSides : Rule := do
  let (a, b) : Text × Text := if (<- problem "Tensor0") == 0 then ("0", "1") else ("1", "0")
  let (first, second) := if a == "0" then ("A", "B") else ("B", "A")
  for key in [TT, "SubGroup", MT] do
    set (key ++ first) (<- int (key ++ "0"))
    set (key ++ second) (<- int (key ++ "1"))
  if <- hasMatrix then
    set "MIWaveTileA" (<- nth MIWT (if a == "0" then 0 else 1))
    set "MIWaveTileB" (<- nth MIWT (if b == "0" then 0 else 1))

def prepareKernel : Rule := do
  assignSchedule
  assignInstr
  if <- hasMatrix then checkMatrix else checkPlain
  assignSides
  checkWaveSeparate "A"
  checkWaveSeparate "B"
  for key in ["DirectToLdsA", "DirectToLdsB", "LocalWriteUseSgprA", "LocalWriteUseSgprB"] do set key false
  set WGM ((<- int WGM).natAbs : Int)

def assignPersist : Rule := do
  if <- flag PK then
    if <- writtenIn "Assembly" then if !(<- is GSU 1) then set PK 0
  if <- flag PKAB then
    let alone <- is PK 0
    let split <- if <- writtenIn "Source" then pure !(<- is GSU 1) else pure false
    if alone || split then
      note "PersistentKernelAlongBatch requires PersistentKernel != 0, forcing PersistentKernelAlongBatch = False"
      note "PersistentKernelAlongBatch not support GSU on HIP, forcing PersistentKernelAlongBatch = False"
      set PKAB false
  if <- flag PAP then
    if (<- writtenIn "Source") || (<- is PK 0) ||
        !(<- is PGR 1) || (<- flag SNLL) then
      note "PAP requires Assembly, PK!=0, PGR==1, SuppressNoLoadLoop=True, forcing PAP=False"
      set PAP false
  if <- flag PAP then
    if <- is SU 0 then
      note "PAP has some defects so far and would cause error when SU=0, disable PAP temporarily"
      set PAP false

def posIn (tensor : Text) (index : Value) : Derive Nat := do
  (Value.indexOf? index (<- Gen.items (<- problem ("IndexAssignments" ++ tensor)))).getDM (fail .badValue)

/-- The first is one, packed batch indices have none. -/
def assertStrides : Rule := do
  for tensors in ["AB", "CD"] do
    if !(<- problemFlag ("UseInitialStrides" ++ tensors)) then
      for c in tensors.toList do putInto s!"AssertStride{c}Equal" (.int 0) (.int 1)
  for (mask, tensor) in [(1, "B"), (2, "A")] do
    if Packing.masked (<- int PBD) mask != 0 then
      for bi in <- Gen.items (<- problem IB) do
        putInto s!"AssertStride{tensor}Equal" (.int (<- posIn tensor bi)) (.int 0)

/-- Every input needs a free index, unless batch indices take its place. -/
def checkFree : Rule := do
  for (tensor, mask) in [("A", 1), ("B", 2)] do
    let free <- problemInts IF
    if (!((<- problemInts s!"IndexAssignments{tensor}").any free.contains)) then
      let allowed <- if <- problemFlag "AllowNoFreeDims" then pure (Packing.masked (<- int PBD) mask != 0)
        else pure false
      if !allowed then
        refuse s!"tensor{tensor} contains no free indices.  Set AllowNoFreeDims and PackBatchDims&{mask}"

def packing : Derive Packing.Scheme := do
  return { free := <- problemInts IF, batch := <- problemInts IB,
           packFree := <- fetch "PackFreeDims", packBatch := <- int PBD }

/-- Of one side of the output; says whether there are several. -/
def assignPacked (side tensor : Text) (mask : Int) : Derive Bool := do
  let s <- packing
  let outs <- problemInt NIC
  let chars <- .setting "IndexChars"
  let packed := (<- problemInts s!"IndexAssignments{tensor}").filter fun i => (s.packed i mask).truthy
  let names <- packed.mapM fun i => do
    if i >= outs then fail .unmet
    return (<- Gen.nth (<- Gen.items chars) i).shown
  set s!"PackedC{side}IdxChars" (.strs names)
  setInts s!"PackedC{side}IndicesX" packed
  return packed.length > 1

def assignPacking : Rule := do
  let firstIsA := (<- problemInts IAA).contains (<- problemInt "Index0")
  let s <- packing
  if !(s.packed (<- problemInt "Index01A") 1).truthy then fail .unmet
  if !(s.packed (<- problemInt "Index01B") 2).truthy then fail .unmet
  let packed0 <- if firstIsA then assignPacked "0" "A" 1 else assignPacked "0" "B" 2
  let packed1 <- if firstIsA then assignPacked "1" "B" 2 else assignPacked "1" "A" 1
  modify ({ · with packed0, packed1 })

def assignBufs : Rule := do
  let asked <- fetch "BufferLoad"
  let assembly <- writtenIn "Assembly"
  let bufs := if asked.truthy then .bool assembly else asked
  modify ({ · with bufferLoad := bufs })
  if !bufs.truthy then
    set DTL false
    set USFGRO false
    set FL false
  if <- is SNLL 1 then
    let kept <- if bufs.truthy then if <- is PGR 1 then is GSU 1 else pure false
      else pure false
    if !kept then set SNLL 0
  if <- is EPS 1 then
    if !(<- if bufs.truthy then is PGR 1 else pure false) then set EPS 0
    if <- is PGR 2 then set EPS 0
    if (<- int DULD) > 1 then set EPS 0
  if (<- fetch "OptPreLoopVmcnt").truthy then
    let across <- fetch PAP
    set "OptPreLoopVmcnt" (if across.truthy then bufs else across)

def staggerShift (stride step : Int) : Result Int :=
  if step == 0 then .error .divisionByZero
  else
    let ratio := ofInt stride / ofInt step
    if ratio > 0 then .ok (ceil (.log ratio / .log 2)) else .ok 0

def assignStagger : Rule := do
  let bytes : Int := (<- dataType).bytes
  modify ({ · with bytes })
  let stride <- int "StaggerUStride"
  let depth <- int DU
  let shift <- pure? (staggerShift stride (depth * bytes))
  if shift < 0 then
    refuse s!"StaggerUStride={stride} is less than size of DepthU={depth} * BytesPerElement={bytes}"
  set "_staggerStrideShift" shift
  if <- is SU 0 then set "StaggerUMapping" 0

/-- Halved until both sides of the thread tile are multiples of it. -/
def fittingWidth (tile0 tile1 : Int) : Nat -> Int -> Int
  | 0, width => width
  | fuel + 1, width =>
    if tile0.fmod width == 0 && tile1.fmod width == 0 then width
    else fittingWidth tile0 tile1 fuel (width.fdiv 2)

def assignVecs : Rule := do
  let t <- dataType
  let matrix <- hasMatrix
  if (<- int VW) < 1 then
    if matrix then set VW (.int (if t.bytes < 4 then (4 / t.bytes : Nat) else 1))
    else set VW (fittingWidth (<- int TT0) (<- int TT1) 5 (16 / t.bytes : Nat))
  if !matrix then
    let t0 <- int TT0
    let t1 <- int TT1
    let width <- int VW
    if (<- rem t0 width) != 0 || (<- rem t1 width) != 0 then
      refuse s!"ThreadTile0 {t0} or ThreadTile1 {t1} not a multiple of VectorWidth {width}"

def checkSmall : Rule := do
  if (<- problemInts IS).length > 1 then set SU 0
  let t <- dataType
  if <- writtenIn "Assembly" then
    if t.isHalf then
      if (<- int VW) < 2 then reject "VectorWidth must be >= 2 for half"
      if <- protectsHalves then
        if !(<- problemFlag HPA) then
          if Int.fmod (<- int AF0EM) 2 != 0 then
            reject "Archs with HasEccHalf require AF0EM%2==0 except for HPA kernels"
    if t.isInt8 then if (<- int VW) < 4 then reject "VectorWidth must be >= 4 for Int8"

def assignTransfers : Rule := do
  let bytes := (<- get).bytes
  if <- is GRVW (-1) then set GRVW (<- fetch VW)
  if <- is SVW (-1) then set SVW (if bytes <= 4 then 4 else Int.fdiv 16 bytes)
  rejectIf ((<- int VW) * bytes > 16) "VW * DataType.numBytes() > 16"
  rejectIf ((<- int GRVW) * bytes > 16) "GRVW * DataType.numBytes() > 16"

def assignWrites : Rule := do
  let threads <- int NT
  let elems := (<- int MT0) * (<- int MT1)
  if elems < threads then
    refuse s!"NumElementsPerWorkGroup {elems} < NumThreads {threads}; reduce LocalSplitU"
  let each <- quot elems threads
  set "NumElementsPerThread" each
  let width := min (<- int VW) each
  set "GlobalWriteVectorWidth" width
  if (<- rem each width) != 0 then refuse s!"LSU NumElementsPerThread {each} not divisible into GWVW {width}"
  set "NumGlobalWriteVectorsPerThread" (<- quot each width)

def checkLocalSplit : Rule := do
  if (<- int LSU) > 1 then
    let threads <- int NT
    let tile0 <- int MT0
    if (<- rem threads tile0) != 0 then
      refuse s!"LocalSplitU but NumThreads={threads} not divisible by MT0={tile0} for sideways store"
    let elems := tile0 * (<- int MT1)
    if (<- rem elems threads) != 0 then
      refuse s!"LocalSplitU but MT0*MT1={elems} elements doesn't divide into NumThreads={threads}"

def addsPartialSums : Derive Bool := do
  let t <- dataType
  if t.isSingle then return true
  if t.isDouble then if <- flag "BufferStore" then return true
  if (<- typeOf DDT).isInt32 then return true
  if <- writtenIn "Assembly" then if t.isHalf then if !(<- problemFlag HPA) then return true
  flag GA

def checkGlobalSplit : Rule := do
  if (<- int GSU) > 1 then
    if !(<- flag GSUSARR) then
      if <- flag LT then
        refuse ("GlobalSplitU and LoopTail require SummationAssignmentRoundRobin=True since " ++
          "strongly breaks Tensile kernel architecture")
    if !(<- addsPartialSums) then
      refuse "GlobalSplitU only compatible with single or asm and (half or mixed) precision"

def assignAtomics : Rule := do
  let half := (<- dataType).isHalf
  if <- is VAW (-1) then
    set VAW 1
    if half then if !(<- flag GA) then set VAW 2
  if (<- int VAW) >= 2 && !half then reject "VectorAtomicWidth>=2 only supported for half"
  if half then
    if <- writtenIn "Assembly" then
      if (<- int VW) < 2 then reject "Assembly half requires VectorWidth >= 2"
      if (<- int GSU) > 1 then
        if !(<- flag GA) then
          if (<- int VAW) < 2 then reject "Assembly GSU half requires VectorWidth >= 2 (for 32-bit CAS)"
          if (<- int AF0EM) < 2 then
            reject "Assembly GSU half requires AF0EM>=2 (for atomics on edge tiles)"

def preparation : List Rule :=
  [start, prepareKernel, assignPersist, assertStrides, checkFree, assignPacking, assignBufs, assignStagger,
   assignVecs, checkSmall, assignTransfers, assignWrites, checkLocalSplit, checkGlobalSplit, assignAtomics]

end TensorForge.Derive
