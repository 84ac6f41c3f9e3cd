import TensorForge.Kernel.Assembly.Waiting

/-!
# Results at the edge

A load that would reach over the edge is moved back so that it ends there.
-/

namespace TensorForge.Assembly.EdgeShift

open Asm Emit List Text

def labelOf (n : Nat) : Text := "label_" ++ zeroPadded 4 n
def place (n : Nat) : Code := raw (labelOf n ++ ":\n")

variable (k : KernelSpec) (t : Side) (isA : Bool)

def workGroupName : Text :=
  if k.prefetchAcross then if t.isA then "PrevWorkGroup0" else "PrevWorkGroup1"
  else s!"WorkGroup{t.tile01}"

def sizeLeft (rest tile tmpS : Int) : Code := do
  let lanes <- laneRegs
  vMov (vr rest) (sr (workGroupName k t)) ""
  emit ["v_mul_i32_i24", vr rest, hex (-t.macroTile), vr rest] "wg*MT"
  vAddCo (vr rest) (sr s!"SizesFree+{t.idx}") (vr rest) "wgMT = Size - wg*MT"
  vMov (vr tile) (hex t.macroTile) "MT"
  emit ["v_cmp_lt_u32", sr tmpS lanes, vr rest, vr tile] "wgMT < MT"
  vSelect (vr rest) (vr tile) (vr rest) (sr tmpS lanes) "wgMT = (wgMT < MT) ? wgMT : MT"

def leave (tmpS : Int) (done : Nat) : Code := do
  let lanes <- laneRegs
  let wave := k.waveSize
  emit [s!"s_mov_b{wave}", sr tmpS lanes, if wave == 32 then "0xFFFFFFFF" else "0xFFFFFFFFFFFFFFFF"]
    "to restore all threads active"
  emit [s!"s_or_saveexec_b{wave}", <- vcc, sr tmpS lanes] "all threads active"
  emit ["s_branch " ++ labelOf done] "done shifting"

def nth (xs : Nats) (i : Int) : Nat := xs.getD i.toNat 0

def branchIf (r n : Int) (test : Text) (target : Nat) (text : Text) : Code := do
  emit ["v_cmp_eq_u32", <- vcc, vr r, hex n] test
  emit ["s_cbranch_vccnz " ++ labelOf target] text

def branchByRest (r width : Int) (byRest : Nats) (what : Text) : Code := do
  for n in span 1 width do branchIf r n s!"wgMT%VW == {n}" (nth byRest (n - 1)) s!"{what} r={n}"
  emit ["s_branch " ++ labelOf (nth byRest (width - 1))] "no shifting"

def moveHalf (r v tt s dst src : Int) (text : Text) : Code := do
  let d := vr (dst * 2 / 4)
  let f := vr (src * 2 / 4)
  raw s!"// {r}, {v}, {tt}, {s}, {dst}, {src}\n"
  if !t.isA then if tt % 2 == 0 then vMov d f text
  else if r % 2 == 0 then if s % 2 == 0 then vMov d f text
  else
    let srcLo := src % 2 == 0
    let dstLo := dst % 2 == 0
    let bit := fun (b : Bool) => if b then 1 else 0
    raw s!"// srcLo={bit srcLo}, dstLo={bit dstLo}\n"
    if dstLo then emit ["v_lshrrev_b32", d, hex 16, f] "hi16 -> lo16"
    else
      let tmp <- takeOne "tmpSrcVgpr"
      vAnd d "0x0000FFFF" d "zero out dst hi16"
      if srcLo then vShift (vr tmp) (hex 16) f "left shift src 16 bits"
      else vAnd f "0xFFFF0000" (vr tmp) "zero out src lo16"
      emit ["v_or_b32", d, vr tmp, d] "dst = tmpSrc | dst"
      giveVec tmp

def moveElem (r v tt s : Int) : Code := do
  let vw := t.loadWidth
  let tt0 := k.threadTile0
  let c := k.tileChar0
  let far := s + vw - r
  let (dst, src, text) := if t.isA then
      (s + v * vw + tt * tt0, far + v * vw + tt * tt0, s!"rC[{s}+{v}*VW+{tt}*TT{c}] = rC[{far}+{v}*VW+{tt}*TT{c}]")
    else
      (tt + v * vw * tt0 + s * tt0, tt + v * vw * tt0 + far * tt0,
       s!"rC[{tt}+{v}*TT{c}*VW+{s}*TT{c}] = rC[{tt}+{v}*TT{c}*VW+{far}*TT{c}]")
  raw s!"// src={src}, dst={dst}\n"
  let bytes := (<- layout).bytesAcc
  if bytes == 2 then moveHalf t r v tt s dst src text
  else for i in upTo (bytes / 4) do vMov (vr (dst * bytes / 4 + i)) (vr (src * bytes / 4 + i)) text

def threadLabels (vectors : Int) : Emit (Nats × List Nats) :=
  unzip <$> (upTo t.loadWidth).mapM fun i => do
    let name := s!"ShiftVectorComponents{t.idx}_R{(i + 1) % t.loadWidth}"
    return (<- labelNum name, <- (upTo vectors).mapM fun v => labelNum s!"{name}_V{v}")

def byThreads : Code := do
  let k <- spec
  let t <- side isA
  let vw := t.loadWidth
  let vectors <- quotient t.threadTile vw
  let (byRest, byVec) <- threadLabels t vectors
  let lanes <- laneRegs
  let tmpS <- glimpseTmp lanes
  let tmpV <- takePair
  let rest <- takeOne "wgMT"
  sizeLeft k t rest tmpV tmpS
  let divide := fun q d n => vDiv q 0 d n tmpV tmpS false
  let dummy <- takeOne "dummy"
  let remain := fun r d n => vRem dummy r d n tmpV tmpS
  let q <- takeOne "qReg"
  divide q rest k.vecWidth
  let r <- takeOne "rReg"
  remain r rest vw
  let s <- takeOne "sReg"
  let e <- takeOne "eReg"
  vDiv s e q t.subGroup tmpV tmpS true
  let thread <- if isA then do
      let thread <- takeOne "thread"
      remain thread "Serial" k.subGroup0
      pure thread
    else do
      let d <- takeOne "sd0"
      divide d "Serial" k.subGroup0
      let thread <- takeOne "thread"
      remain thread d k.subGroup1
      giveVec d
      pure thread
  let major <- takeOne "mvReg"
  divide major rest (t.subGroup * k.vecWidth)
  if vw < k.vecWidth then vShift (vr major) (hexLog (k.vecWidth / vw)) (vr major) "vId *= VW/glvw"
  let v <- takeOne "vReg"
  remain v rest k.vecWidth
  let copy <- takeOne "vRegD"
  vMov (vr copy) (vr v) "duplicate"
  divide v copy vw
  vAddCo (vr v) (vr major) (vr v) "vId = 2 components"
  giveVecs [major, copy]
  let done := nth byRest (vw - 1)
  branchByRest r vw byRest s!"shift d{t.idx}"
  for n in span 1 vw do
    raw (comment3 s!"shift d{t.idx} r={n}")
    place (nth byRest (n - 1))
    let row := byVec.getD (n - 1).toNat []
    for i in upTo vectors do
      branchIf v i s!"wgMT/(SG*VW) == {i}" (nth row i) s!"shift d{t.idx}, r={n}, v={i}"
    for i in upTo vectors do
      heading s!"shift d{t.idx} r={n} v={i}"
      place (nth row i)
      emit ["_v_cmpx_eq_u32", sr tmpS lanes, vr thread, vr e] "serial % SG == (wgMT/VECTOR_WIDTH)%SG"
      for tt in upTo (if t.idx % 2 == 0 then k.threadTile1 else k.threadTile0) do
        for s in upTo n do moveElem k t n i tt s
      leave k tmpS done
  raw (labelOf done ++ ": // end shift0\n")
  for reg in [rest, tmpV, q, r, s, e, thread, dummy, v] do giveVec reg

/-- How the results of a matrix instruction lie in a wave. -/
structure Shape where
  rows : Int
  (width threads0 threads1 perWave groups : Int)
  (blocks elems columns : Int)

variable (m : MatrixSpec)

def shapeOf (t : Side) : Emit Shape := do
  let rows := m.m * m.bm
  let width := m.outVecWidth
  let threads1 := m.n
  let threads0 <- if m.m == 4 then pure m.bm else quotient k.waveSize threads1
  let perWave := threads0 * width
  let groups <- quotient rows perWave
  let blocks <- quotient width t.loadWidth
  return { rows, width, threads0, threads1, perWave, groups
           blocks := if k.dataType.isDouble then blocks * 2 else blocks
           elems := groups * width * m.waveTile0
           columns := if m.m == 4 then m.waveTile1 else m.bn * m.waveTile1 }

def matrixLabels (x : Shape) (t : Side) (r : Int) : Emit (Nats × List Nats) :=
  unzip <$> (upTo m.waveTile0).flatMapM fun wt => (upTo x.groups).mapM fun v => do
    let name := s!"ShiftVectorComponents{t.idx}_R{r}_W"
    return (<- labelNum s!"{name}T{wt}_V{v}", <- (upTo x.blocks).mapM fun o => labelNum s!"{name}t{wt}_V{v}_O{o}")

def srcOf (target : Int) : Emit Int :=
  (Acc.source? k m target).getDM (throw (.missingKey target))

def readAcc (tmp acc : Int) : Code := do
  emit ["v_accvgpr_read_b32", vr tmp, accvgpr acc] ""
  emit ["s_nop", "1"] "v_accvgpr read vgpr after write vgpr: 2 wait states"

/-- Exchanges an accumulator with the neighbouring thread. -/
def swapLanes (tmp other acc : Int) (distance : Int) : Code := do
  readAcc tmp acc
  emit ["ds_swizzle_b32", vr other, vr tmp, s!"offset:swizzle(SWAP, {distance})"] "swizzle edge values"
  sWait "0" "wait for swizzle operation"
  emit ["v_accvgpr_write_b32", accvgpr acc, vr other] ""

def copyAcc (tmp src target : Int) (what : Text) : Code := do
  readAcc tmp src
  emit ["v_accvgpr_write_b32", accvgpr target, vr tmp] what

def moveResult (x : Shape) (t : Side) (tmp r column group block i : Int) : Code := do
  let l <- layout
  let start := column * x.elems
  if k.dataType.isDouble then
    let other <- takeVec 2 "_untagged_" 2
    let target := if k.srcSwap then 2 * (start + block * m.waveTile0 + group + i)
      else 2 * (start + group * x.width + block + i)
    let acc <- srcOf k m target
    let distance := if k.srcSwap then 1 else 16
    swapLanes tmp other acc distance
    swapLanes tmp other (acc + 1) distance
    giveVec other
  else
    let target := start + group * x.width + block * t.loadWidth + i
    let src := target + (t.loadWidth - r)
    if l.serialStore then
      let s <- srcOf k m src
      let d <- srcOf k m target
      copyAcc tmp s d s!"acc{d} = acc{s}"
      if l.accMult == 2 then
        let im := Acc.imaginaryOff k m
        copyAcc tmp (s + im) (d + im) s!"acc{d + im} (imag)= acc{s + im} (imag)"
    else vMov (vr target) (vr src) ""

def byMatrix (isA : Bool) : Code := do
  let k <- spec
  let t <- side isA
  let glvw := t.loadWidth
  let x <- shapeOf k m t
  let double := k.dataType.isDouble
  let (byRest, byGroup) <- unzip <$> (upTo glvw).mapM fun i => do
    let r := (i + 1) % glvw
    return (<- labelNum s!"ShiftVectorComponents{t.idx}_R{r}", <- matrixLabels m x t r)
  let lanes <- laneRegs
  let tmpS <- glimpseTmp lanes
  let take := takeVec 1
  let tmpV <- takeVec 2 "_untagged_" 2
  let dummy <- take
  let rest <- take
  let tile <- take
  sizeLeft k t rest tile tmpS
  let divide := fun q d n => vDiv q 0 d n tmpV tmpS false
  let remain := fun r d n => vRem dummy r d n tmpV tmpS
  let w <- take
  divide w "Serial" k.waveSize
  remain w w m.waveGroup0
  let s <- take
  divide s rest x.rows
  remain s s m.waveGroup0
  emit ["v_cmp_eq_u32", sr tmpS lanes, vr s, vr w] "wave_id0 == block_belong_to_wave0?"
  vSelect (vr rest) (vr tile) (vr rest) (sr tmpS lanes) "wgMT = (wgMT < MT) ? wgMT : MT"
  giveVecs [tile, s]
  heading "gReg : group id of numSubOutputGroupsPerWave0"
  let g <- take
  vScale w x.groups tmpS
  divide g rest x.perWave
  vSub (vr g) (vr g) (vr w) ""
  giveVec w
  heading "eReg : use to disguish which shift block (sub-tile) we need to deal with"
  let e <- take
  if double then
    divide e rest x.width
    remain e e x.width
  else remain e rest x.width
  heading "mReg : decide which thread have to deal with this M-size"
  let mReg <- take
  if double then
    if k.srcSwap then
      remain mReg rest x.rows
      divide mReg mReg glvw
    else
      remain mReg rest x.width
      divide mReg mReg (x.width / 2)
  else
    divide mReg rest x.width
    remain mReg mReg x.threads0
  heading "tReg : thread group id [0-31] or [32-63] for mfma 32x32x2"
  let tReg <- take
  if double then
    if k.srcSwap then
      divide tReg "Serial" glvw
      remain tReg tReg (x.threads1 / 2)
    else
      divide tReg "Serial" (m.n * 2)
      remain tReg tReg (x.threads0 / 2)
  else
    divide tReg "Serial" m.n
    remain tReg tReg x.threads0
  heading "rReg : reminder of M_size % vectorwidth"
  let rReg <- take
  remain rReg rest glvw
  let done := nth byRest (glvw - 1)
  branchByRest rReg glvw byRest s!"branch to shift d{t.idx}"
  giveVec rReg
  for r in span 1 glvw do
    raw (comment3 s!"shift d{t.idx} r={r}")
    place (nth byRest (r - 1))
    let (groups, blocks) := byGroup.getD (r - 1).toNat ([], [])
    for wt in upTo m.waveTile0 do
      for ot in upTo x.groups do
        let i := wt * x.groups + ot
        branchIf g (wt * x.groups * m.waveGroup0 + ot) s!"wgMT/8 == {i}" (nth groups i)
          s!"branch to shift d{t.idx}, r={r}, v={i}"
    for i in upTo (m.waveTile0 * x.groups) do
      heading s!"shift d{t.idx} r={r} v={i}"
      place (nth groups i)
      emit ["v_cmpx_eq_u32", sr tmpS lanes, vr tReg, vr mReg]
        (if k.srcSwap then "(serial / glvw) % wt0 == (wgMT % mib0) / glvw" else "(serial % 64) / 32 == (wgMT/4)%2")
      let row := blocks.getD i.toNat []
      if !k.srcSwap then
        for o in upTo x.blocks do
          let (n, shown) := if double then (o, o) else (o * glvw + r, o * 2 + 1)
          branchIf e n s!"wgMT % 4 == {shown}" (nth row o) s!"branch to shift d{t.idx}, r={r}, v={i}, o={o}"
      for o in upTo x.blocks do
        place (nth row o)
        for column in upTo x.columns do for n in upTo r do moveResult k m x t tmpV r column i o n
      leave k tmpS done
  raw (labelOf done ++ ": // end shift0\n")
  for reg in [tmpV, rest, dummy, g, e, mReg, tReg] do giveVec reg

def shift : Code := do (<- spec).matrix.elim (byThreads isA) (byMatrix · isA)

end TensorForge.Assembly.EdgeShift
