import TensorForge.Kernel.Assembly.GlobalAddress

/-! # The place of a thread in the output -/

namespace TensorForge.Assembly.OutIdx

open Asm Emit Text

variable (k : KernelSpec) (divisor scale0 scale1 : Int) (tc : Text)

def workGroup (i : Nat) : Text := sr (if k.prefetchAcross then s!"PrevWorkGroup{i}" else s!"WorkGroup{i}")

def sizeBound (i : Nat) : Text :=
  if (if i == 0 then k.packedC0 else k.packedC1).length > 1 then sr s!"PackedSize{i}"
  else sizeRef k (if i == 0 then k.idx0 else k.index1)

def colStride : Text := sr s!"Stride{tc}{k.idxChar (k.packedC1.headD 0)}"

def desc : Code := do
  let reg := fun i => sr s!"Srd{tc}+{i}"
  sMov (reg 0) (sr s!"Address{tc}+0") "init SRD base address (lower)"
  sMov (reg 1) (sr s!"Address{tc}+1") "init SRD base address (upper) + other fields"
  sMov (reg 2) (hex 0x80000000) ""
  sMov (reg 3) "Srd127_96" "Set bits 127_96 in post-loop SRD"
  raw "\n"

def addScaled (lo : Int) (what : Text) : Code := do
  emit ["s_lshl_b64", sr lo 2, sr lo 2, toString (roundLog2 (<- layout).bytesOut.toNat)] "scale by bpe"
  let low := sr s!"Srd{tc}+0"
  let high := sr s!"Srd{tc}+1"
  sAdd low low (sr lo) s!"add lo {what}to SRD"
  sAddC high high (sr (lo + 1)) s!"add hi {what}to SRD"

def advance (tc coord : Text) (i lo : Int) (title : Text) : Code := do
  productU64 lo coord (sr s!"Stride{tc}{k.idxChar i}") title
  addScaled tc lo ""

def advanceToPart : Code := do
  let t <- glimpseTmp 5
  raw "// GSU Output Buffer offset: Free0 + (Free1-1)*StrideC1J + (Free2-1)*StrideCK * GSUIdx * bpe\n"
  productU64 t (sr "SizesFree+0") (sr "GSUSumIdx") "Free0"
  for i in span 1 k.dimsC do
    let name := s!"Free{i}"
    sSub (sr (t + 4)) (sr s!"SizesFree+{i}") "1" name
    sMul (sr (t + 4)) (sr (t + 4)) (sr "GSUSumIdx") name
    productU64 (t + 2) (sr (t + 4)) (sr s!"StrideC{k.idxChar i}") name
    sAddWide (sr t) (sr (t + 1)) (sr (t + 2)) (sr (t + 3)) name
  addScaled "D" t "GSU offset "

def startBufs : Code := do
  let k <- spec
  let tmp <- glimpseTmp 3
  check k.bufStore
  raw "\n"
  sMul (sr (tmp + 2)) "MT1" (sr "WorkGroup1") "<- wg1*MT1"
  for i in span 1 k.dimsC do
    let coord :=
      if i == k.idx0 then none else if i == k.index1 && k.packedC1.length == 1 then some (sr (tmp + 2))
      else if i != k.index1 && !k.isPacked i && (k.stridedBatched || k.usesBufs) then some (sr "WorkGroup2")
      else none
    if let some coord := coord then
      advance k "C" coord i tmp s!"CScale {coord} by Stride"
      advance k "D" coord i tmp s!"Scale {coord} by Stride"
      raw "\n"
  if k.manyBufs then advanceToPart k
  for (n, indices) in [(0, k.packedC0), (1, k.packedC1)] do
    let size := sr s!"PackedSize{n}"
    match indices with
    | first :: rest =>
      for (idx, i) in rest.zipIdx do
        sMul size (if i == 0 then sizeRef k first else size) (sizeRef k idx) "first packed size"
    | [] => pure ()

def bufs : Code := do
  if (<- spec).bufStore then
    desc "D"
    desc "C"
    startBufs

/-- Of code on vector registers. -/
inductive UnpackLine where
  | remark (text : Text)
  /-- By the size of an index, with its magic number; the register behind the quotient is lost. -/
  | divide (q x idx : Int)
  | copy (d x : Int) (comment : Text)
  | times (d x : Int) (factor comment : Text)
  | minus (d x y : Int) (comment : Text)
  | plus (d x y : Int) (comment : Text)

def UnpackLine.emit : UnpackLine -> Code
  | .remark text => .remark text
  | .divide q x idx => raw s!"V_MAGIC_DIV {q}, {vr x}, {GlobalAddr.magicOperands k (k.plainChar idx)}\n"
  | .copy d x text => vMov (vr d) (vr x) text
  | .times d x factor text => vMul (vr d) (vr x) factor text
  | .minus d x y text => vSub (vr d) (vr x) (vr y) text
  | .plus d x y text => vAdd (vr d) (vr x) (vr y) text

/-- Takes the packed coordinate in `x` apart and leaves its offset in `out`. What remains goes to `t`, the quotient and
the digit to the registers behind it, and the offset so far to `sum`. -/
def unpack (tc what : Text) (t sum out : Int) : (first : Bool) -> (x : Int) -> Ints -> List UnpackLine
  | first, x, idx :: next :: rest =>
    let stride := outStrideRef k tc idx
    [.remark s!"extract {sizeRef k idx}", .divide (t + 1) x idx,
     .times (t + 2) (t + 1) (sizeRef k idx) "remainder part 1", .minus (t + 2) x (t + 2) "remainder part 2"] ++
    (if first then [.times sum (t + 2) stride "addrCalc <- scaled extracted dim"]
     else [.times (t + 2) (t + 2) stride "scale extracted dim",
       .plus sum sum (t + 2) "addrCalc += scaled extracted dim "]) ++
    opt (!rest.isEmpty) [.copy t (t + 1) "Copy remaining bits for next divide"] ++
    unpack tc what t sum out false t (next :: rest)
  | _, _, last => last.flatMap fun idx =>
    [.remark s!"extract final {sizeRef k idx}",
     .times (t + 2) (t + 1) (outStrideRef k tc idx) "scale final extracted dim",
     .plus out sum (t + 2) s!"{what} += scaled extracted dim "]

def rowLines (t coord row : Int) : List UnpackLine :=
  .copy t coord "copy coord1 then unpack" :: unpack k "D" "rowStart" t (t + 3) row true t k.packedC1

/-- Splits the second coordinate into its packed indices, and finds the row of `D`. -/
def unpackRow (coord : Int) : Code := do
  let k <- spec
  let t <- takeVec 4
  for l in rowLines k t coord (<- rowOf "D") do l.emit k
  giveVec t

def takeRows : Code := do
  if (<- spec).bufStore then
    onOut ({ · with rowC := some (<- takeOne "cinRowPtr"), rowD := some (<- takeOne "coutRowPtr") })

def byThreads : Code := do
  let k <- spec
  let tmp <- glimpseTmp 3
  let t0 <- takeOne "tid0"
  let t1 <- takeOne "tid1"
  takeRows
  let v <- takeVec 2 "_untagged_" 2
  vDiv t1 t0 "Serial" divisor v tmp true
  vScale t0 scale0 (tmp + 1)
  if scale1 != 1 then vScale t1 scale1 (tmp + 1)
  giveVec v
  if k.bufStore then
    for tc in ["C", "D"] do vMul (vr (<- rowOf tc)) (vr t1) (colStride k tc) "rowStart vgpr"
    raw "\n"
  let (s0, s2) := (sr tmp, sr (tmp + 2))
  sMul s0 (hex k.macroTile0) (workGroup k 0) s!"{s0} = wg0*MT0"
  vAddCo (vr t0) s0 (vr t0) "coord0 = tid0*VW + wg0*MT0"
  sMul s2 (hex k.macroTile1) (workGroup k 1) "<- wg1*MT1"
  vAddCo (vr t1) s2 (vr t1) "coord1 = tid1*VW + wg1*MT1"
  if k.packedC1.length > 1 then unpackRow t1
  onOut ({ · with coord0 := t0, coord1 := t1 })

def remapPad (m : MatrixSpec) : Int := max k.remapWidth m.outVecWidth

/-- The local addresses for rearranged results, and the coordinates of what a thread stores. -/
def remap (m : MatrixSpec) : Code := do
  let k <- spec
  let shift := hexLog (<- layout).bytesOut
  remark "Store Remap Local Write adderss"
  let tmp <- glimpseTmp 2
  let t0 <- takeOne "SR coord0"
  let t1 <- takeOne "SR coord1"
  let column <- takeOne "SR coord1 offset"
  let write <- takeOne "SR local write"
  let read <- takeOne "SR local read"
  let v <- takeVec 5 "tmpV0"
  let (wave0, stride, coord0, wave1) := (v + 1, vr (v + 2), vr (v + 3), vr (v + 4))
  let width := k.remapWidth
  let rows := k.macroTile0 + remapPad k m
  let wave := k.waveSize
  let divide := fun q r d n => vDiv q r d n v tmp true
  divide t1 t0 "Serial" (wave * m.waveGroup0)
  vMul wave1 (hex m.n) (vr t1) "coord1 offset of LDS for each Wave"
  vAnd (vr t1) (hex (m.n - 1)) (vr "Serial") "coord1 offset of LDS for each thread"
  vAdd (vr t1) wave1 (vr t1) "coord1 offset in MacroTile"
  vMov stride (hex rows) "lds stride = MT0 + PAD"
  vMul (vr v) (vr t1) stride "lds coord1 offset = Col-id* lds stride"
  divide wave0 t0 t0 wave
  emit ["v_lshrrev_b32", coord0, hexLog m.n, vr t0] "tid / matrixInstN"
  vShift coord0 (hexLog m.outVecWidth) coord0 "lds coord0 offset *= 4 (each thread hold 4 element)"
  emit ["v_mad_u32_u24", coord0, (m.m * m.bm), vr wave0, coord0]
    "coord0 += waveCoord0 * wave M shape(blockM*MiM)"
  vAddShift (vr write) (vr v) coord0 shift "local write C address"
  raw "\n"
  remark "Store Remap Local Read address"
  divide t1 t0 "Serial" wave
  let perWave <- quotient m.n m.waveGroup0
  vMul wave1 (hex perWave) (vr t1) "coord1 offset of LDS for each Wave"
  let threads <- quotient k.macroTile0 width
  let columns <- quotient wave threads
  let setColumn : Code := do
    emit ["v_lshrrev_b32", vr wave0, hexLog threads, vr t0] "tid / nThreadPerCol"
    vAdd (vr column) wave1 (vr wave0) "coord1 offset in MacroTile"
  setColumn
  vMul (vr v) (vr column) stride "lds coord1 offset = Col-id* lds stride"
  vAnd coord0 (hex (threads - 1)) (vr t0) "coord0 offset of LDS for each thread"
  vShift coord0 (hexLog width) coord0 "lds coord0 offset *= gwvw (each thread hold gwvw element)"
  vAddShift (vr read) (vr v) coord0 shift "local read C address"
  raw "\n"
  remark "Store Remap global write coord0 and coord1"
  divide t1 t0 "Serial" (wave * m.waveGroup0)
  vMul wave1 (hex (m.n * m.bn)) (vr t1) "coord1 offset of global memory for each Wave"
  divide t1 t0 t0 wave
  emit ["v_mad_u32_u24", wave1, perWave, vr t1, wave1] "waveCoord1 += waveCoord0 * MiN / WaveGroupM"
  setColumn
  let (s0, s1) := (sr tmp, sr (tmp + 1))
  sMul s0 (hex k.macroTile0) (workGroup k 0) s!"{s0} = wg0*MT0"
  vAddCo (vr t0) s0 coord0 "coord0 = coord0 + wg0 * MT0"
  sMul s1 "MT1" (workGroup k 1) "<- wg1*MT1"
  vAddCo (vr t1) s1 (vr column) "coord1 = tid1*VW + wg1*MT1"
  raw "\n"
  barrier "StoreRemap Start"
  let regs := { write, read, coord0 := t0, coord1 := t1, column, stride := rows * columns, columns }
  onOut ({ · with remap := some regs })
  giveVec v

def rowStarts (t1 : Int) : Code := do
  for tc in ["C", "D"] do vMul (vr (<- rowOf tc)) (vr t1) (colStride k tc) " offset 1"

def addTile (add : Text) (t0 t1 tmp : Int) : Code := do
  sMul (sr tmp) k.macroTile0 (workGroup k 0) "wgp0 * MT0"
  emit [add, vr t0, sr tmp, vr t0] "coord 0 = (tid0/MI_m)*4 + waveG0*MIB_m + MT0*SG0"
  sMul (sr tmp) k.macroTile1 (workGroup k 1) "wgp1 * MT1"
  emit [add, vr t1, sr tmp, vr t1] "coord 1 = (tid0%MI_m) + waveG1*MIB_n + MT1*SG1"

variable (m : MatrixSpec)

def byCols (k : KernelSpec) (t0 t1 wave tmpV tmp : Int) (divide remain : Reg -> Reg -> Int -> Code) : Code := do
  let double := k.dataType.isDouble
  divide wave "Serial" k.waveSize
  divide t1 wave m.waveGroup0
  vMul (vr t1) (hex (m.n * m.bn)) (vr t1) "wave coordination offset 1"
  remain tmpV "Serial" m.n
  vAdd (vr t1) (vr tmpV) (vr t1) "coordination 1 = wave_id1 + tid1"
  if m.m == 4 then
    let (rest, divisor) :=
      if double then if m.bm < 4 then (16, 8) else (k.waveSize, m.n * m.bm * 4)
      else (k.waveSize, m.n * m.bm)
    remain tmpV "Serial" rest
    divide tmpV tmpV divisor
    vScale tmpV m.n tmp
    vAdd (vr t1) (vr tmpV) (vr t1) "coordination 1 = wave_id1 + tid1"
  rowStarts k t1
  remain tmpV wave m.waveGroup0
  vMul (vr tmpV) (hex (m.m * m.bm)) (vr tmpV) "wave coordination offset 0"
  if m.m == 4 && double then
    divide t0 "Serial" (m.n * m.m)
    remain t0 t0 m.n
    vAdd (vr tmpV) (vr tmpV) (vr t0) "WAAA"
  remain t0 "Serial" k.waveSize
  divide t0 t0 m.m
  if m.m == 4 then remain t0 t0 m.bm
  if m.m == 4 || !double then vShift (vr t0) (hex 2) (vr t0) "thread0 * 4 : mfma output 4 continuous outputs"
  vAdd (vr t0) (vr tmpV) (vr t0) "coordination 0 = wave_id0 + tid0"
  addTile k "_v_add_u32" t0 t1 tmp
  if k.packedC1.length > 1 then unpackRow t1

def byRows (k : KernelSpec) (t0 t1 wave tmpV tmp : Int) (divide remain : Reg -> Reg -> Int -> Code) : Code := do
  divide wave "Serial" k.waveSize
  divide tmpV wave m.waveGroup0
  vMul (vr tmpV) (hex (m.n * m.bn)) (vr tmpV) "wave coordination offset 1"
  remain t1 "Serial" k.waveSize
  divide t1 t1 m.m
  if m.m == 4 then remain t1 t1 m.bm
  if m.m == 4 || !k.dataType.isDouble then
    vShift (vr t1) (hex 2) (vr t1) "thread0 * 4 : mfma output 4 continuous outputs"
  emit ["v_add_u32", vr t1, vr tmpV, vr t1] "coordination 1 = wave_id1 + tid1"
  rowStarts k t1
  remain t0 wave m.waveGroup0
  vMul (vr t0) (hex (m.m * m.bm)) (vr t0) "wave coordination offset 0"
  remain tmpV "Serial" m.n
  emit ["v_add_u32", vr t0, vr tmpV, vr t0] "coordination 0 = wave_id0 + tid0"
  addTile k "v_add_u32" t0 t1 tmp

def byMatrix : Code := do
  let k <- spec
  let t0 <- takeVec 1
  let t1 <- takeVec 1
  takeRows
  let wave <- takeVec 1
  let tmpV <- takeOne "tmpVgpr0"
  let pair <- takeVec 2 "tmpVgpr1" 2
  let dummy <- takeOne "dummy"
  let tmp <- glimpseTmp 1
  let divide := fun q d n => vDiv q 0 d n pair tmp false
  let remain := fun r d n => vRem dummy r d n pair tmp
  if k.srcSwap then byRows m k t0 t1 wave tmpV tmp divide remain else byCols m k t0 t1 wave tmpV tmp divide remain
  giveVecs [dummy, pair, tmpV, wave]
  if k.remapWidth != 0 then remap m
  onOut ({ · with coord0 := t0, coord1 := t1 })

def coords : Code := do
  remark "computeStoreVgprs"
  (<- spec).matrix.elim (byThreads divisor scale0 scale1) byMatrix

def copyAddr (tc tag : Text) : Emit Int := do
  let r <- takeVec 2 tag
  vMov (vr r) (sr s!"Address{tc}+0") "sgpr -> vgpr"
  vMov (vr (r + 1)) (sr s!"Address{tc}+1") "sgpr -> vgpr"
  return r

def addrs (tagD tagC : Text) : Code := do
  if (<- spec).bufStore then onOut ({ · with addrD := -1, addrC := -1 })
  else
    onOut ({ · with addrD := <- copyAddr "D" tagD })
    onOut ({ · with addrC := <- copyAddr "C" tagC })

def split : Code := do
  let k <- spec
  let width := k.writeVecWidth
  coords (<- quotient k.macroTile0 width) width 1
  addrs "_untagged_" "_untagged_"

def whole : Code := do
  if <- enabled "PostLoop" then
    let k <- spec
    coords k.subGroup0 k.vecWidth k.vecWidth
    addrs "addrD" "addrC"

def release : Code := do
  let k <- spec
  let o <- output
  giveVecs [o.coord0, o.coord1]
  if k.remapWidth != 0 then
    o.remap.elim (throw .noField) fun r => for reg in [r.write, r.read, r.coord0, r.coord1, r.column] do giveVec reg
  if k.bufStore then giveVecs [<- rowOf "C", <- rowOf "D"] else giveVecs [o.addrD, o.addrC]

end TensorForge.Assembly.OutIdx
