import TensorForge.Kernel.Assembly.StoreData

/-! # Stores -/

namespace TensorForge.Assembly.Store

open Asm Emit OutIdx StoreAddr StoreAtomic StoreData Text

variable (k : KernelSpec) (edge : Bool)

def storeWidth (full : Int) : Int :=
  let w := min (if k.vecStore then full else 1) (maxStoreWidth k)
  if edge then min w k.assertFree0 else w

def evenWidth (full : Int) : Emit Int := do
  let width := storeWidth k edge full
  if edge then
    if width == 0 then throw .divisionByZero
    check (full % width == 0)
  return width

/-- The vectors of a thread, narrower at the edge, and their width. -/
def elems : Emit (Int × List Elem) := do
  match k.matrix with
  | some m =>
    let width := storeWidth k edge k.storeVecWidth
    let out := m.outVecWidth
    let (t0, t1) := if m.m == 4 then (m.waveTile0 * out, m.waveTile1)
      else (m.bm * m.waveTile0 * (m.m * m.n / k.waveSize), m.bn * m.waveTile1)
    let columns := upTo (<- quotient t0 out)
    let parts := multiplesBelow out width
    return (width, (upTo t1).flatMap fun d1 =>
      if k.srcSwap then parts.flatMap fun vc0 => columns.map fun d0 => { d1, d0, vc1 := 0, vc0 }
      else columns.flatMap fun d0 => parts.map fun vc0 => { d1, d0, vc1 := 0, vc0 })
  | none =>
    let vw := k.vecWidth
    let width <- evenWidth k edge vw
    return (width, (upTo (k.threadTile1 / vw)).flatMap fun d1 => (upTo vw).flatMap fun vc1 =>
      (upTo (k.threadTile0 / vw)).flatMap fun d0 => (multiplesBelow vw width).map fun vc0 => { d1, d0, vc1, vc0 })

def splitElems : Emit (Int × List Elem) := do
  let full := k.writeVecWidth
  let width <- evenWidth k edge full
  return (width, (upTo k.numWriteVecs).flatMap fun d1 => (multiplesBelow full width).map fun vc0 =>
    { d1, d0 := 0, vc1 := 0, vc0 })

variable (p : StorePlan) (slots : List Slot)

def title (unit : Int) (n : Nat) (es : List Elem) : Text :=
  let atom := opt p.atomic s!":vaw:{unit}"
  "Global Write" ++ opt p.beta " Beta" ++ opt p.edge " Edge" ++ s!" Batch #{n} (d1,d0,vc1,vc0) =\n   " ++
    "; ".intercalate (es.map fun e => s!"({e.d1},{e.d0},{e.vc1},{e.vc0}:vw{p.width}{atom})")

def conservative (bit : Nat) : Code := do
  if (<- probes).waitsAt bit then
    raw "s_barrier // debug\n"
    awaitAll "ConservativeWaitCnt"
    raw "s_barrier // debug\n"

/-- Copies accumulators to a batch; returns the copies left. -/
def copySums (copies : Texts) : Emit Texts := do
  let l <- layout
  check l.serialStore
  let perSum := l.bytesAcc / 4
  let mut rest := copies
  for s in slots do
    for v in upTo p.width do
      for r in upTo perSum do
        let c :: cs := rest | throw .outOfRange
        raw (replace c Acc.placeholder (s.sum * perSum + perSum * v + r))
        rest := cs
  emit ["s_nop 1"] "2 wait states required before reading vgpr"
  return rest

/-- Stores are not counted when old values are waited for. -/
def checkRound : Code := do
  let r := (<- get).round
  check (r == .none || r == .betaStores) "PreLoopVmcntCase 2 or 3 shouldn't enter the beta true case"

def narrowing : Emit (Option Int) := do
  let x <- spec
  if !(x.destType.isBFloat16 && x.highPrec) then return none
  let t <- takeVec 4
  vMov (vr (t + 1)) "0xffff0000" "mask for pack two bfloat16 element to 32bit"
  vMov (vr (t + 2)) "0x7fff0000" "fp32 Nan"
  vMov (vr (t + 3)) "0x7fff" "rounding bias for bfloat16"
  return some t

def storeEach (loads : Nat) (tmpV tmp : Int) : Emit Nat := do
  let k <- spec
  let wave := k.waveSize
  let interleaved := k.bufStore && !p.edge
  for s in slots do probeAll p s tmp
  if p.beta && !interleaved then
    awaitAll "wait C"
    checkRound
  heading "apply mask, calc new C and issue writes"
  let narrow <- narrowing
  let mut stores : Nat := 0
  for (s, n) in slots.zipIdx do
    if k.remapWidth > 0 then remapRow p s tmpV tmp
    if p.edge && !k.bufStore then emit [s!"s_mov_b{wave}", <- exec, sr s.mask (<- laneRegs)] "sgprs -> exec"
    if p.beta then
      if interleaved then
        let separate <- archCap SV
        let left := (loads : Int) - n + (if separate then 0 else stores) - 1
        let sum := if separate then s!"{left} = {loads} - {n} - 1" else s!"{left} = {loads} - {n} + {stores} - 1"
        let most <- limit "MaxVmcnt"
        raw "\n"
        sWait s!"vmcnt({min left most})" ("wait C (interleaved) " ++ sum)
        checkRound
      addOld p s n tmpV (narrow.map (· + 1))
    convert p s tmp narrow
    if k.remapWidth == 0 then
      store p s tmp
      stores := stores + 1
    else remapWrite p s
  if let some t := narrow then giveVec t
  let expected := (<- probes).num "CheckStoreC"
  if expected >= 0 then verify p slots tmp expected
  if p.edge && !k.bufStore then emit [s!"s_mov_b{wave}", <- exec, "-1"] "full mask -> exec"
  conservative 0x40
  return stores

structure Setting where
  scaled : Bool
  (unit tmpV tmp masks : Int)

def batch (x : Setting) (p : StorePlan) (n : Nat) (es : List Elem)
    (copies : Option Texts) (last : Bool) : Emit (StorePlan × Option Texts) := do
  let k <- spec
  let l <- layout
  let d := k.dataType
  let bit := fun (b : Bool) => if b then 1 else 0
  remark (s!"optSingleColVgpr={bit p.singleCol} optSharedColVgpr={bit p.sharedCol} " ++
    s!"optSharedMask={bit p.sharedMask} optSrdIncForRow={bit p.rowByDesc}")
  if p.atomic then
    check (x.unit <= p.width)
    if d.isNarrow && !k.usesBufs then check (x.unit >= 2)
  raw (comment3 (title p x.unit n es))
  let (slots, p) <- Slot.ofBatch p es x.masks
  heading "calc coords, apply mask, and issue loads (if necessary)"
  conservative 0x10
  if !p.edge && (<- probes).num "ForceEdgeStores" >= 2 then Checks.bomb none
  if p.edge && (<- probing "AssertNoEdge") then Checks.bomb none
  let mut ready := #[]
  for (s, i) in slots.zipIdx do
    let s <- prepare p s x.tmpV x.tmp
    if p.edge then mask p s x.tmp
    if p.beta then
      finish p s "C" (i == 0) x.tmpV
      readOld p s x.tmp
    finish p s "D" (i + 1 == slots.length) x.tmpV
    if p.atomic && !l.useAtomicAdd then readOld { plan := p, slots, unit := x.unit, tmp := x.tmp } s
    if k.interleaveAlpha && x.scaled then scale p s x.tmp
    if !k.bufStore then
      let o <- output
      let vcc <- vcc
      let off := if p.beta then x.tmpV + 2 else s.addr
      vAddCo (vr s.addr) (vr o.addrD) (vr off) "addr = D + index*bytes (lo)"
      emit ["_v_addc_co_u32", vr (s.addr + 1), vcc, vr (o.addrD + 1), vr (off + 1), vcc] "addr = D + index*bytes (hi)"
      if p.edge && (p.beta || p.atomic) then emit [s!"s_mov_b{k.waveSize}", <- exec, "-1"] "full mask -1 -> exec"
    ready := ready.push s
  let slots := ready.toList
  let copies <- copies.elim (pure none) (some <$> copySums p slots ·)
  if !k.interleaveAlpha && x.scaled then
    heading s!"rC *= alpha batchEements={Elem.listText es}"
    for s in slots do scale p s x.tmp
  let loads := if p.beta then slots.length else 0
  let stores <- if p.atomic then do
      store { plan := p, slots, unit := x.unit, tmp := x.tmp }
      pure 0
    else storeEach p slots loads x.tmpV x.tmp
  Slot.release p slots
  let remapped <- if k.remapWidth != 0 && last then do
      heading "Handle local read and global write"
      if p.atomic then throw .unbound
      remapStore p x.tmpV x.tmp
    else pure 0
  if l.serialStore then
    emit ["s_nop 0"] "1 wait state required when next inst writes vgprs held by previous dwordx4 store inst"
  let total := stores + remapped
  modify fun st =>
    let c := st.counts
    { st with counts := match st.round with
        | .first => { c with loads := c.loads + total }
        | .shortStores => { c with shortStores := c.shortStores + total }
        | .stores => { c with stores := c.stores + total }
        | _ => c }
  return ({ p with started := true }, copies)

/-- For code that keeps old values, unless their factor is zero. -/
def branchOnBeta (tmp : Int) (target : Text) : Code := do
  if (<- spec).useBeta then
    let words := (<- layout).bytesAcc / 4
    if words <= 1 then emit ["s_cmpk_eq_u32", sr "Beta", hex 0] "Beta == 0"
    else
      sMov (sr tmp) (sr "Beta+0") "tmp = Beta[0]"
      for i in span 1 words do emit ["s_or_b32", sr tmp, sr s!"Beta+{i}", sr tmp] s!"tmp |= Beta[{i}] "
      emit ["s_cmpk_eq_u32", sr tmp, hex 0] "Beta == 0"
    emit ["s_cbranch_scc0 " ++ target] "Branch if Beta is not zero"
    raw "\n"

def branchOnEdge (tmp : Int) (target : Text) : Code := do
  let k <- spec
  for (i, tile) in [(0, k.macroTile0), (1, k.macroTile1)] do
    consts (divideScalar (.num (tmp + 2)) tmp (sizeBound k i) tile (.num (tmp + 4)) 2)
    sAdd (sr (tmp + 2)) (hex (-1)) (sr s!"NumWorkGroups{i}") ""
    emit ["s_cmp_ge_u32", workGroup k i, sr (tmp + 2)] (if i == 0 then "wg0 >= nwg0-1 ?" else "wg1 >= nwg1-1")
    emit ["s_cselect_b32", sr tmp, sr tmp, "0"] s!"set rMT{i}"
    if <- enabled "EdgeWrite" then
      emit ["s_cmpk_gt_u32", sr tmp, hex 0] s!"rMT{i} > 0"
      if i == 0 && (<- probing "ForceEdgeStores") then sSame (sr tmp) (sr tmp) "ForceEdgeStores!"
      emit ["s_cbranch_scc1 " ++ target] "jump if edges required"

def widenFactors (useBeta : Bool) : Code := do
  let x <- spec
  if x.dataType.isHalf && x.computeType.isHalf && x.highPrec then
    let widen := fun name tag => do
      let v <- takeVec 1 tag
      vMov (vr v) (sr name) "sgpr -> vgpr b/c op_sel"
      emit ["v_cvt_f32_f16", vr v, vr v] s!"convert {tag} to fp32"
      emit ["v_readfirstlane_b32", sr name, vr v] s!"restore {tag} sgpr"
      giveVec v
    widen "Alpha" "alpha"
    if useBeta then widen "Beta" "beta"

def localBytes : Int := k.ldsNumElems * k.dataType.bytes

/-- Without local memory it cannot be computed. -/
def orDiv (x : Option Int) : Emit Int := x.getDM (throw .divisionByZero)

def makeRoom (count size : Int) (tag : Text) : Code := do
  giveVecs (<- (upTo count).mapM fun _ => takeVec size tag)

def vecsInRegs (count : Nat) : Emit Int := do
  let k <- spec
  let each := p.vecRegs
  let accs : Int := (<- get).accumulators.size
  let most <- orDiv (maxVgprsForOccupancy? k.numThreads (<- get).vectors.size (localBytes k) accs)
  if (<- layout).serialStore then
    let v := (<- get).vectors
    makeRoom (most - (v.size - v.available)) 1 "grow-pool up to next occupancy for GlobalWrite"
  let mut free : Int := (<- get).vectors.availableBlock each.toNat
  let least := if k.dataType.isNarrow then 2 else 1
  if free < least * each then
    Gen.sayAt 2 s!"info: growing pool += {least} * {each} for GlobalWrite\n"
    Gen.sayAt 2 (<- get).vectors.picture
    makeRoom least each "grow-pool for GlobalWrite"
    free := (<- get).vectors.available
    Gen.sayAt 2 (<- get).vectors.picture
  return if each == 0 then count else free / each

/-- Vectors of a batch, and batches of a row of rearranged results. -/
def batchSize (es : List Elem) : Emit (Int × Int) := do
  let k <- spec
  let mut n <- vecsInRegs p es.length
  if p.width == 0 then throw .divisionByZero
  check ((<- layout).numValuC % p.width == 0)
  n := min n p.scalarLimit
  if k.dataType.isNarrow then if n > 1 then n := n / 2 * 2 else if !k.hasMatrix then modify ({ · with overflowed := 3 })
  check (n > 0) s!"numElementsPerBatch=0 for {(<- get).name}"
  let row := (es.filter Elem.inFirstRow).length
  if p.atomic && (p.singleCol || p.sharedCol) then n := min row n
  if k.remapWidth == 0 then return (n, 1)
  let f? := (List.range row).map (· + 1) |>.find? fun f => row % f == 0 && (row / f : Nat) <= n
  return f?.elim (n, 1) fun f => ((row / f : Nat), f)

structure Tiles where
  width : Int
  inside : List Elem
  edgeWidth : Int
  edge : List Elem

def way (tiles : Tiles) (scaled beta edge : Bool) (tmpV : Int) : Emit Int := do
  let k <- spec
  let narrow := edge && (k.remapWidth == 0 || beta)
  let (width, es) := if narrow then (tiles.edgeWidth, tiles.edge) else (tiles.width, tiles.inside)
  let p <- StorePlan.make width edge beta (atomicStores k) es
  let (size, perRow) <- batchSize p es
  let batches := max 1 ((es.length + size - 1) / size)
  let scalars := p.fixedScalars + p.maskScalars * size
  if <- probing "PrintStoreRegisterDb" then
    let flag := if narrow then "True" else "False"
    Gen.sayLine s!"edgeI {flag} NumBatches {batches} NumElementsPerBatch {size} numVgprsPerElement {p.vecRegs} len(elements[edgeI]) {es.length}"
    let pool := (<- get).scalars
    Gen.sayLine s!"numSgprs= {scalars} sgprPool.size()= {pool.size} fixedSgprsPerBatch= {p.fixedScalars} numSgprsPerElement= {p.maskScalars}"
    Gen.sayLine pool.picture
  let narrowBit := if narrow then 1 else 0
  heading (s!"edge={narrowBit}, allocate {scalars} sgpr. perBatch={p.fixedScalars} " ++
    s!"perElement={p.maskScalars} elementsPerBatch={size}")
  let tmp <- glimpseTmp scalars (some 2)
  let x := { scaled, unit := min width k.vecAtomicWidth, tmpV, tmp, masks := tmp + p.fixedScalars }
  let reads := (<- get).accReads
  let mut state := (p, if (<- layout).serialStore then some reads else none)
  for n in List.range batches.toNat do
    let part := (es.drop (n * size.toNat)).take size.toNat
    state <- batch x state.1 n part state.2 ((n + 1) % perRow == 0)
  p.release
  return tmp

/-- Stores that may be outstanding when the next round begins. -/
def noteRound (betas : List Bool) (beta : Bool) : Code := do
  if (<- spec).optPreLoopVmcnt then
    let set := fun (n : Nat) text => sMov (sr "PreLoopLWVmcntCase") (hex n) text
    if betas.length > 1 then
      let (n, no, round) := if beta then (4, "", .betaStores) else (3, "no ", .stores)
      modify ({ · with round })
      set n s!"for optimizing next PreLoop LWVmcnt, set to Case{n}: OrdNLL and {no}beta"
    else
      modify ({ · with round := .shortStores })
      set 2 "for optimizing next PreLoop LW vmcnt, set to Case2: OptNLL"

def stores (tiles : Tiles) (scaled : Bool := true) (betas : Option (List Bool) := none)
    (edges : Option (List Bool) := none) : Code := do
  if !(<- enabled "PostLoop") then return
  let k <- spec
  let betas := betas.getD (if k.useBeta && !k.manyBufs then [false, true] else [false])
  let edges := edges.getD (if <- enabled "EdgeWrite" then [false, true] else [false])
  let bit := fun (b : Bool) => if b then 1 else 0
  let mut labels := []
  for beta in betas do
    for edge in edges do
      let name := s!"GW_B{bit beta}_E{bit edge}"
      discard <| freshLabel (name ++ "_EdgeCheck0")
      discard <| freshLabel (name ++ "_EdgeCheck1")
      labels := labels ++ [((beta, edge), <- freshLabel name)]
    if !beta then discard <| freshLabel "GW_Beta"
  let endLabel <- freshLabel "GW_End"
  let labelOf := fun beta edge => (labels.lookup (beta, edge)).getD ""
  if k.persistKernel == 0 then widenFactors (betas.getLastD false)
  let tmpV <- takeVec (if !k.bufStore then 5 else if k.packedC0.length > 1 then 3 else 2) "store tmps" 2
  let tmp <- glimpseTmp 6
  let betaLabel <- freshLabel "GW_Beta"
  if betas.contains false && betas.contains true then branchOnBeta tmp betaLabel
  let mut test := tmp
  for beta in betas do
    if beta then raw (betaLabel ++ ":\n")
    noteRound betas beta
    if edges.contains false && edges.contains true then branchOnEdge test (labelOf beta true)
    for edge in edges do
      raw (labelOf beta edge ++ ":\n")
      test <- way tiles scaled beta edge tmpV
      emit ["s_branch", "label_" ++ endLabel] "jump to end"
      modify ({ · with round := .none })
  raw s!"label_{endLabel}:\n"
  giveVec tmpV

def storeAll (elems : KernelSpec -> Bool -> Emit (Int × List Elem)) : Code := do
  if <- enabled "PostLoop" then
    let k <- spec
    let (width, inside) <- elems k false
    let (edgeWidth, edge) <- elems k true
    stores { width, inside, edgeWidth, edge }
    release

def whole : Code := storeAll elems
def split : Code := storeAll splitElems

end TensorForge.Assembly.Store
