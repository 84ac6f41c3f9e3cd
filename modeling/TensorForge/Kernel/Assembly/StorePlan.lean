import TensorForge.Kernel.Assembly.OutputIndex

/-! # What is stored and in which registers -/

namespace TensorForge.Assembly

open Asm Emit OutIdx

structure Elem where
  (d1 d0 vc1 vc0 : Int)
  deriving BEq, Inhabited

namespace Elem

def inFirstRow (e : Elem) : Bool := e.d1 == 0 && e.vc1 == 0

def listText (es : List Elem) : Text :=
  "[" ++ listing (es.map fun e => s!"({e.d1}, {e.d0}, {e.vc1}, {e.vc0})") ++ "]"

end Elem

variable (k : KernelSpec)

def atomicStores : Bool := k.splits && !k.manyBufs

def maxStoreWidth : Int :=
  if !atomicStores k then 1000 else if k.bufStore then k.vecAtomicWidth else 1

structure StorePlan where
  width : Int
  (edge beta atomic : Bool)
  /-- Whether all vectors share an address register, or those of a column do. -/
  (singleCol sharedCol rowByDesc sharedMask : Bool)
  (addrRegs maskScalars fixedScalars scalarLimit : Int)
  dataBytes : Int
  sumRegs : Int
  columns : Option Int := none
  lastRow : Int := 0
  started : Bool := false

namespace StorePlan

variable (p : StorePlan)

def dataRegs : Int := (p.dataBytes * p.width + 3) / 4
def vecRegs : Int := p.sumRegs * p.width + p.addrRegs + p.dataRegs
def dataAt (data i : Int) : Int := data + i * p.dataBytes / 4

def make (width : Int) (edge beta atomic : Bool) (elems : List Elem) : Emit StorePlan := do
  let k <- spec
  let l <- layout
  let plain := k.bufStore && !edge && !atomic
  let single := plain && k.packedC0.length <= 1 && k.packedC1.length <= 1 && !k.initStridesCD
  let shared := plain && k.packedC0.length > 1 && !k.initStridesCD
  let lanes <- laneRegs
  let (mask, fixed) := if plain then (0, lanes) else (lanes, 3 * lanes)
  let limit <- if plain then pure 9999 else do
    let s := (<- get).scalars
    let n := maxScalars - s.size + s.availableAtEnd
    quotient (n - n % 2 - fixed) mask
  if limit <= 0 then modify ({ · with overflowed := 2 })
  let data := if atomic then (if k.bufStore then 2 else 3) * l.bytesOut else if beta then l.bytesOut else 0
  if l.serialStore then check k.hasMatrix
  let columns <-
    if shared then some <$> takeVec (elems.filter Elem.inFirstRow).length "sharedColVgprs for packed elements"
    else if single then some <$> takeOne "sharedColVgprs"
    else pure none
  return { width, edge, beta, atomic, singleCol := single, sharedCol := shared, columns
           rowByDesc := (plain && k.packedC1.length == 1) || k.remapWidth != 0, sharedMask := plain
           addrRegs := if single then 0 else if k.bufStore then 1 else 2
           maskScalars := mask, fixedScalars := fixed, scalarLimit := if limit <= 0 then 1 else limit
           dataBytes := data, sumRegs := if l.serialStore then l.bytesAcc / 4 else 0 }

def release : Code := do if let some r := p.columns then giveVec r

end StorePlan

structure Slot where
  elem : Elem
  (addr coord1 off0 rowInc : Int)
  newRow : Bool
  (globalOff data mask sum : Int)
  coord0 : Option Int := none
  moved : Bool := false

namespace Slot

def off1Of (e : Elem) : Emit Int := do
  match k.matrix with
  | some m =>
    let step := m.n * m.bn * m.waveGroup1
    if m.m == 4 then return e.d1 * step + e.vc1
    if m.bn == 0 || m.waveTile1 == 0 then throw .divisionByZero
    return e.d1 % m.bn * m.n + e.d1 / m.bn % m.waveTile1 * step + if k.srcSwap then e.vc0 * 4 else e.vc1
  | none =>
    let stride <- if k.localSplitU > 1 then quotient (k.numThreads * k.vecWidth) k.macroTile0
      else pure (k.subGroup1 * k.vecWidth)
    return e.d1 * stride + e.vc1

def off0Of (e : Elem) : Emit Int := do
  match k.matrix with
  | some m =>
    let step := m.m * m.bm * m.waveGroup0
    if m.m == 4 then return e.d0 * step + e.vc0
    let width := m.outVecWidth
    let groups <- quotient (<- quotient (m.m * m.n) k.waveSize) width
    if groups == 0 || m.bm == 0 || m.waveTile0 == 0 then throw .divisionByZero
    let rest := e.d0 / groups
    let inner := if k.srcSwap then e.vc1 else e.vc0 * if k.dataType.isDouble then 4 else 1
    return e.d0 % groups * (k.waveSize / m.n) * width + rest % m.bm * m.m + rest / m.bm % m.waveTile0 * step + inner
  | none => return e.d0 * k.subGroup0 * k.vecWidth + e.vc0

variable (p : StorePlan)

def addrOf (e : Elem) (i : Nat) : Emit Int := do
  match p.columns with
  | some first =>
    if p.singleCol then return first
    let column := e.d0 * (k.matrix.elim k.vecWidth (·.outVecWidth)) + e.vc0
    if p.width == 0 then throw .divisionByZero
    check (column % p.width == 0)
    return first + column / p.width
  | none => takeVec p.addrRegs s!"writeBatch-addr for ei={i}" p.addrRegs (some true)

def dataOf (i : Nat) (last : Int) : Emit Int := do
  if p.dataBytes == 0 then return 0
  if p.width * p.dataBytes < 4 then
    let d := k.dataType
    if !(k.highPrec && (d.isBFloat16 || d.isHalf)) && i % 2 == 1 then return last
    let n := 2 * p.dataBytes * p.width / 4
    takeVec n s!"writeBatch-data for ei={i} and ei={i + 1}" n (some true)
  else takeVec (p.dataBytes * p.width / 4) s!"writeBatch-data for ei={i}" p.dataRegs (some false)

def sumOf (e : Elem) : Emit Int := do
  if k.localSplitU > 1 then return e.vc0 + e.d1 * k.vecWidth
  match k.matrix with
  | some m =>
    if (<- layout).serialStore then
      let n := p.sumRegs * p.width
      quotient (<- takeVec n "vgprValuC" n) p.sumRegs
    else
      let perTile := (if m.m == 4 then m.outVecWidth else m.m * m.n / k.waveSize * m.bm) * m.waveTile0
      return e.vc0 + e.d0 * m.outVecWidth + e.d1 * perTile
  | none => return e.vc0 + e.d0 * k.vecWidth + e.vc1 * k.threadTile0 + e.d1 * k.vecWidth * k.threadTile0

def ofBatch (elems : List Elem) (masks : Int) : Emit (List Slot × StorePlan) := do
  let k <- spec
  let o <- output
  let bytes := (<- layout).bytesOut
  let mut slots := #[]
  let mut lastRow := p.lastRow
  let mut last := 0
  for (e, i) in elems.zipIdx do
    let off1 <- off1Of k e
    let newRow := (!p.started && i == 0) || off1 != lastRow
    let off0 <- off0Of k e
    let addr <- addrOf k p e i
    let data <- dataOf k p i last
    last := data
    let sum <- sumOf k p e
    slots := slots.push
      { elem := e, addr, coord1 := o.coord1, off0, rowInc := off1 - lastRow, newRow
        globalOff := if p.singleCol then off0 * bytes else 0
        data, mask := masks + i * p.maskScalars, sum }
    lastRow := off1
  return (slots.toList, { p with lastRow })

def release (slots : List Slot) : Code := do
  let mut last := -1
  for s in slots do
    if p.columns.getD 0 == 0 then giveVec s.addr
    if s.data != 0 then
      if s.data != last then giveVec s.data
      last := s.data
  let l <- layout
  if l.serialStore then
    check l.overlapC
    for s in slots do giveVec (s.sum * p.sumRegs)

end Slot

/-!
## Addresses of stored vectors

From the coordinates of a thread to the address of a vector, with the mask of threads whose vector lies inside the
output.
-/

namespace StoreAddr

variable (p : StorePlan) (s : Slot)

def coord0Of : Emit Int := s.coord0.getDM (throw .wrongKind)

def addTo (dest base n tmp : Int) (load small large : Text) : Code := do
  if n <= 64 then vAddCo (vr dest) (vr base) n small
  else
    sMov (sr tmp) n load
    vAddCo (vr dest) (vr base) (sr tmp) large

def coords (tmpV tmp : Int) (updateRow : Bool) : Emit Slot := do
  let k <- spec
  let o <- output
  let e := s.elem
  remark s!"(d1,vc1,d0,vc0)=({e.d1},{e.vc1},{e.d0},{e.vc0})"
  if p.singleCol then return { s with coord0 := some o.coord0 }
  if p.sharedCol && !e.inFirstRow then return { s with coord0 := none }
  let coord0 := if s.off0 == 0 then o.coord0 else tmpV
  if s.off0 != 0 then
    addTo coord0 o.coord0 s.off0 tmp s!"coordOffset0 d0={e.d0} vc0={e.vc0}"
      "coord0.1: coord0 += d0*sg0*VW + vc0" "coord0.2: coord0 += d0*sg0*VW + vc0"
  if s.newRow && (!k.bufStore || updateRow) && s.rowInc != 0 then
    addTo s.coord1 o.coord1 s.rowInc tmp s!"rowInc d1={e.d0} vc1={e.vc0}"
      "coord1.1: coord1Vgpr += d1*sg1*VW + vc1" "coord1.2: coord1 += d1*sg1*VW + vc1"
  return { s with coord0 := some coord0 }

def addScaled (dest stride : Text) (scale tmp : Int) (text : Text) : Code := do
  if scale == 1 then vAdd dest dest stride text
  else
    sMul (sr tmp) stride scale "scale stride"
    vAdd dest dest (sr tmp) text

def shiftCols (m : MatrixSpec) (s : Slot) (tmpV tmp : Int) : Code := do
  let k <- spec
  let b <- side false
  let lanes <- laneRegs
  let (v1, v2) := (vr tmpV, vr (tmpV + 1))
  let (s1, s2) := (sr tmp lanes, sr (tmp + lanes) lanes)
  let coord1 := vr s.coord1
  let size := sr s!"SizesFree+{b.idx}"
  let mask := toString (b.loadWidth - 1)
  heading "shift vector components d1"
  emit ["v_bfi_b32", v1, mask, "0", coord1] "coord1 & ~(vw-1)"
  emit ["v_bfi_b32", v2, mask, "0", size] "sizeFree & ~(vw-1)"
  emit ["v_cmp_eq_u32", s1, v1, v2] "if coord1 is in edge glvw"
  vAnd v2 size mask "sizeFree mod VW"
  emit ["v_cmp_gt_u32", s2, v2, "0"] "this problem is not multiple size of glvw"
  emit [s!"s_and_b{k.waveSize}", s1, s1, s2] "AND both conditions"
  vAdd v1 coord1 v2 "shift coord1"
  emit ["v_bfi_b32", v1, mask, v1, size] "new coord1 = (shift coord1 & (vw-1)) |  (sizeFree & ~(vw-1))"
  emit ["_v_sub_i32", v2, v1, coord1] "shift how many column"
  vSelect coord1 coord1 v1 s1 "set new coord1 if meet conditions"
  for tc in ["C", "D"] do
    let row := vr (<- rowOf tc)
    emit ["v_mad_i32_i24", v1, colStride k tc, v2, row] s!"new rowStart address += shift column * Strides{tc}"
    vSelect row row v1 s1 "set new rowStart if meet conditions"
  if k.remapWidth != 0 then
    let bytes := (<- layout).bytesOut
    let write := vr (<- (<- output).remap.getDM (throw .noField)).write
    vMov v1 (.hex ((k.macroTile0 + remapPad k m) * bytes)) "lds byte stride = (MT0 + PAD) * bpe"
    emit ["v_mad_i32_i24", v1, v1, v2, write] "new lds write address += shift column * Lds byte Stride"
    vSelect write write v1 s1 "set new rowStart if meet conditions"
  raw "\n"

def prepare (tmpV tmp : Int) : Emit Slot := do
  let k <- spec
  let s <- coords p s tmpV tmp (p.edge || k.packedC1.length > 1)
  if !k.bufStore then
    let coord0 := s.coord0.elim "None" toString
    let indices := (upTo k.dimsC).map fun i =>
      if i == k.idx0 then s!", {coord0}" else if i == k.index1 then s!", {s.coord1}"
      else s!", sgprWorkGroup{i}"
    raw (s!"GLOBAL_OFFSET_C {s.addr}" ++ .join indices ++ s!", {tmpV + 2}\n")
    vMov (vr (tmpV + 2)) (vr s.addr) "temp store offset 0"
    vMov (vr (tmpV + 3)) (vr (s.addr + 1)) "temp store offset 1"
  let moved := !p.rowByDesc && k.bufStore && s.rowInc > 0
  if moved then
    heading "Fix for UseInitialStridesCD, emitAddressSetupCode"
    if k.packedC1.length == 1 then
      addScaled (vr (<- rowOf "C")) (colStride k "C") s.rowInc tmp "ROWINC- Move cinRowPtr to next row"
      addScaled (vr (<- rowOf "D")) (colStride k "D") s.rowInc tmp "Move coutRowPtr to next row"
    else if k.packedC1.length > 1 then unpackRow s.coord1
  if let some m := k.matrix then
    let b <- side false
    let e := s.elem
    if !b.noPartial && b.readTileVec && p.edge && ((e.inFirstRow && e.d0 == 0 && e.vc0 == 0) || s.newRow) then
      shiftCols m s tmpV tmp
  return { s with moved }

def clips : Bool := p.edge && (k.remapWidth == 0 || p.beta)

def mask (s : Slot) (tmp : Int) : Code := do
  let k <- spec
  let lanes <- laneRegs
  let (inside, tmp1, tmp2) := (sr s.mask lanes, sr tmp lanes, sr (tmp + lanes) lanes)
  let test := fun dest coord size text => emit ["v_cmp_lt_u32", dest, coord, size] text
  let both := s!"s_and_b{k.waveSize}"
  if k.bufStore then
    if clips k p then
      test tmp1 (vr (<- coord0Of s)) (sizeBound k 0) "coord0 < size0"
      test inside (vr s.coord1) (sizeBound k 1) "coord1 < size1"
      emit [both, inside, tmp1, inside] "in0 && in1"
  else
    test tmp1 (vr (<- coord0Of s)) (sr "SizesFree+0") "coord0 < size0"
    test tmp2 (vr s.coord1) (sr "SizesFree+1") "coord1 < size1"
    emit [both, inside, tmp1, tmp2] "in0 && in1"
    if p.beta || p.atomic then emit [s!"s_mov_b{k.waveSize}", <- exec, inside] "sgprs -> exec"

variable (tc : Text)

/-- Splits the first coordinate into its packed indices, and sums up their offsets. -/
def unpackCol (tmpV : Int) : Code := do
  let k <- spec
  let bits <- coord0Of s
  check (tmpV + 1 != bits)
  for l in unpack k tc "addrCalc" tmpV s.addr s.addr true bits k.packedC0 do l.emit k
  vAddShift (vr s.addr) (vr (<- rowOf tc)) (vr s.addr) (hexLog (<- layout).bytesOut) "packed: add rowPtr and scaleToBpe"

def scale (s : Slot) (tc : Text) (update : Bool) (tmpV : Int) : Code := do
  let k <- spec
  let o <- output
  let row <- rowOf tc
  let shift := hexLog (<- layout).bytesOut
  let stride := outStrideRef k tc 0
  let sum := fun elem text => vAddShift (vr s.addr) (vr row) (vr elem) shift text
  let elem <- if isConstStride stride then pure s.coord0 else do
    vMul (vr s.addr) (vr (<- coord0Of s)) stride "scale element by non-unit stride"
    pure (some s.addr)
  let elemReg := elem.getDM (throw .wrongKind)
  let updated <-
    if p.singleCol then do
      if update then
        let coord0 <- coord0Of s
        sum (<- elemReg) ("optSingleColVgpr scaleToBpe: sharedAddrVgpr <- cinRowPtr + coord0, " ++
          s!"scaled by BPE. BSHERE:coord0={o.coord0}, coord0Vgpr={coord0}")
      pure update
    else if p.sharedCol && !s.elem.inFirstRow then pure false
    else do
      if k.packedC0.length > 1 then unpackCol s tc tmpV
      else if p.sharedCol then
        sum (<- elemReg) "optSharedColVgpr scaleToBpe for first row: col addr <- cinRowPtr + coord0, scaled by BPE"
      else sum (<- elemReg) "scaleToBpe: accumulate d0 lower and *= bpe into Cin addr"
      pure true
  if s.moved && !updated then sum o.coord0 "scaleToBpe: Update address with new rowPtr"

def finish (update : Bool) (tmpV : Int) : Code := do
  let k <- spec
  if k.bufStore then
    scale p s tc update tmpV
    if clips k p then
      vSelect (vr s.addr) "-1" (vr s.addr) (sr s.mask (<- laneRegs)) s!"LD{tc} clip if OOB. offset"
  else
    let o <- output
    let vcc <- vcc
    let base := if tc == "C" then o.addrC else o.addrD
    vAddCo (vr s.addr) (vr base) (vr (tmpV + 2)) "addr = C(D) + index*bytes (lo)"
    emit ["_v_addc_co_u32", vr (s.addr + 1), vcc, vr (base + 1), vr (tmpV + 3), vcc] "addr = C(D) + index*bytes (hi)"

def nextRow (tmp : Int) : Code := do
  if p.rowByDesc && s.rowInc != 0 then
    let k <- spec
    let bytes := (<- layout).bytesOut
    check (k.packedC1.length == 1)
    let stride := colStride k tc
    if s.rowInc > 1 then
      sMul (sr tmp) stride (s.rowInc * bytes) s!"scale Stride{tc} *= numRows({s.rowInc}) * bpe"
    else emit ["s_lshl_b32 ", sr tmp, stride, toString (roundLog2 bytes.toNat)] "incToNextRow: Scale by BPE"
    emit ["s_add_u32 ", sr s!"Srd{tc}+0", sr s!"Srd{tc}+0", sr tmp] "incToNextRow: gra SRD += inc(lower)"
    emit ["s_addc_u32 ", sr s!"Srd{tc}+1", sr s!"Srd{tc}+1", "0"] "incToNextRow: gra SRD += inc(upper)"

end StoreAddr

end TensorForge.Assembly
