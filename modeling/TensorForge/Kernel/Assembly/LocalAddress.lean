import TensorForge.Kernel.Assembly.Waiting

/-!
# Pointers into local memory

Of two buffers in local memory, one is read while the other is filled.
-/

namespace TensorForge.Assembly

open Asm Emit Text

namespace LocalPtrs

def readAddr (t : Side) : Text := vr ("LocalReadAddr" ++ t.char)

variable (isA : Bool)

def swapWrite : Code := do
  let k <- spec
  if !(<- enabled "LocalWrite") || k.oneLdsBuffer then return
  let t <- side isA
  if k.expandPtrSwap then
    let next <- if t.writeSwap != 0 then pure 0 else swapBytes
    onSide isA ({ · with writeSwap := next })
    heading s!"(EPS=1) local write swap internal offset -> {next}"
  else
    let bytes := hex (<- swapBytes)
    if t.writeUseSgpr then
      let r := sr ("LocalWriteAddr" ++ t.char)
      emit ["s_xor_b32", r, bytes, r] "swap Red Blk SGPR"
    else
      for i in upTo t.numWriteAddrs do
        let r := vr s!"LocalWriteAddr{t.char}+{i}"
        emit ["v_xor_b32", r, bytes, r] "swap Red Blk"

/-- Addresses from here on lie outside local memory. -/
def outOfBounds : Nat := 0xF00000

def resetWrite : Code := do
  let k <- spec
  if !(<- enabled "LocalWrite") || k.oneLdsBuffer then return
  let t <- side isA
  let n := (<- swapBytes) - 1
  if k.expandPtrSwap then onSide isA ({ · with writeSwap := 0 })
  else
    let (op, r) := if t.writeUseSgpr then ("s_and_b32", sr ("LocalWriteAddr" ++ t.char))
      else ("v_and_b32", vr ("LocalWriteAddr" ++ t.char))
    emit [op, r, hex (if n < 0 then n else n.toNat ||| outOfBounds), r] "reset to Red"

def swapRead (internal isA : Bool) : Code := do
  let k <- spec
  let t <- side isA
  if !(<- readsLocal t) || k.oneLdsBuffer then return
  if internal then
    let next <- if t.readSwap != 0 then pure 0 else swapBytes
    onSide isA ({ · with readSwap := next })
    heading s!"local read swap internal offset -> {next}"
  else emit ["v_xor_b32", readAddr t, hex (<- swapBytes), readAddr t] "swap Red Blk"

def resetRead : Code := do
  let k <- spec
  let t <- side isA
  if !(<- readsLocal t) || k.oneLdsBuffer then return
  onSide isA ({ · with readSwap := 0, localReadOff := 0 })
  heading "localReadResetOffsets"
  remark "handled internally"
  vAnd (readAddr t) (hex ((<- swapBytes) - 1)) (readAddr t) "reset Red,Blk -> Red"

def initRead : Code := do
  if !(<- readsLocal (<- side isA)) then return
  heading "localReadInitPointers"
  onSide isA ({ · with localReadOff := 0 })

def rowElems (t : Side) : Int := t.ownMacroTile + t.rowPad

def matrixAdvance (k : KernelSpec) (m : MatrixSpec) (t : Side) : Emit Int := do
  let width := t.readWidth
  let a <- side true
  let b <- side false
  if t.unrollMajor then return k.localSplitU * m.k * max a.joined b.joined
  else
    let row := k.localSplitU * rowElems t
    if m.b != 1 || a.readWidth == b.readWidth then return row * m.k * t.joined
    else
      let parts <- quotient k.localReadVectorWidth width
      if parts == 0 then throw .divisionByZero
      if t.readCount % parts != 0 then return row * width
      else return row * (m.k * k.localReadVectorWidth / width - width * (parts - 1))

def advanceRead : Code := do
  let k <- spec
  let t <- side isA
  if !(<- readsLocal t) then return
  if (<- get).inTail then
    let bpe <- bytesAB
    let row := k.localSplitU * rowElems t * bpe
    let inc := k.matrix.elim row fun m => (if t.unrollMajor then k.localSplitU * bpe else row) * m.k
    let tmp <- glimpseScalar
    sMov tmp (hex inc) "inc"
    vAddCo (readAddr t) tmp (readAddr t) s!"lr{t.char} += {inc} (LSU*(MT+PAD)*bpe)"
  else
    let inc <- k.matrix.elim (pure (k.localSplitU * rowElems t)) (matrixAdvance k · t)
    onSide isA fun t => { t with localReadOff := t.localReadOff + inc }
    remark s!"N/A, lro->{t.localReadOff + inc}"
    let st <- get
    remark s!"self.localReadDoCntA {st.a.readCount} self.localReadDoCntB {st.b.readCount}"

def save : Code := do onSides fun t => { t with savedRead := (t.localReadOff, t.readCount) }
def restore : Code := do onSides fun t => { t with localReadOff := t.savedRead.1, readCount := t.savedRead.2 }

end LocalPtrs

/-! ## Addresses in local memory -/

namespace LocalAddr

variable (k : KernelSpec)

def unrollRole : Text := if k.splits then "uReg2" else "uReg"

variable (t : Side) (isA : Bool)

def writeTile : Code := do
  let t <- side isA
  let tile <- roleOf t "lwoT"
  remark s!"lwaTileAssignment{t.char} = {vr tile}"

def writeUnroll : Code := do
  let k <- spec
  let t <- side isA
  let u := vr (<- roleOf t (unrollRole k))
  remark s!"lwaUnrollAssignment{t.char} = {u}"
  let d := k.depthULdsDivisor
  if d > 1 && t.unrollMajor then
    if (<- get).inTail then
      let sub <- takeOne "subIterReg"
      remark s!"Each wg writes 1/{d} of G2L data to LDS"
      emit ["v_lshrrev_b32", vr sub, toString (roundLog2 k.depthULds.toNat), u]
        "sub_G2L_idx = uIdx / DepthU_Compute"
      vAnd u u (toString (k.depthULds - 1)) "unrollIdx = unrollIdx % DepthU_Compute"
      setRole isA "subIterReg" sub
    else
      remark s!"Each thd writes 1/{d} of G2L data to LDS"
      emit ["v_lshrrev_b32", u, toString (roundLog2 d.toNat), u] "sub_G2L_idx = uIdx / DepthULdsDivisor"

variable (dest : Reg)

def plainWrite (u tile : Int) : Code := do
  let c := t.char
  let bpe <- bytesAB
  let shift := hexLog bpe
  let d := vr dest
  if t.unrollMajor then
    emit ["v_mul_u32_u24", d, hex (k.depthULds + t.rowPad), vr tile]
      s!"lw{c}{k.unrollChar}**(DepthU_Compute + PAD)"
    vAddShift d (vr u) d shift s!"lwFO{c} = (lw{c}{c} + lw{c}{k.unrollChar}*(DepthU+PAD))*bpe"
  else
    emit ["v_mul_u32_u24", d, hex (t.ownMacroTile + t.rowPad), vr u] s!"lw{c}{k.unrollChar}**(MT{c} + PAD)"
    vAddShift d (vr tile) d shift s!"lwFO{c} = (lw{c}{c} + lw{c}{k.unrollChar}*(MT{t.tileChar}+PAD))*bpe"
  if t.ldsBlockPerPad != 0 && t.ldsPad != 0 then
    let tmpV <- takeVec 2
    let tmpS <- glimpseTmp 1
    let text := s!"padding {t.ldsPad} per block {t.ldsBlockPerPad}"
    vDiv u 0 dest t.ldsBlockPerPad tmpV tmpS false text
    vScale u (t.ldsPad * bpe) tmpS text
    vAdd d (vr u) d ("add " ++ text)
    giveVec tmpV

def interleavedWrite (u tile : Int) : Code := do
  let c := t.char
  let low := toString (k.dotLayout - 1)
  let high := toString (-k.dotLayout)
  let d := vr dest
  let off <- takeOne "ldlOffsetVgpr"
  let scrap <- takeOne "uRegScrap"
  vAnd d high (vr tile) "lwoT & ~(LDL-1)"
  vAnd (vr scrap) low (vr u) "uReg & LDL-1"
  vAnd (vr u) high (vr u) "uReg & LDL-1"
  vAnd (vr off) low (vr tile) "lwoT & LDL-1"
  emit ["_v_lshl_add_u32", vr u, vr off, "0", vr u] "shift scrap by LDL"
  emit ["v_mul_u32_u24", vr u, hex (t.ownMacroTile + t.rowPad), vr u]
    s!"lw{c}{k.unrollChar}**(MT{c} + PAD)"
  vAddCo (vr u) (vr scrap) (vr u) "add scraps from LDL masking"
  vAddShift d (vr u) d (hexLog (<- layout).bytesAB) " *= bpe"
  giveVecs [scrap, off]

/-- Threads beyond the tile write out of local memory. -/
def maskWrite (part : Int) : Code := do
  let vcc <- vcc
  let d := vr dest
  let bpe := k.dataType.bytes
  let elems := t.lsc * t.lsp
  let valid <- quotient elems t.loadWidth
  let mut validBytes := elems * bpe
  let maxBytes := k.numThreads * t.loadWidth * bpe
  if t.waveSeparate != 0 then validBytes := validBytes * (<- quotient k.numThreads k.waveSize)
  check (validBytes <= maxBytes)
  check (elems % t.loadWidth == 0)
  let outside := hex LocalPtrs.outOfBounds
  if validBytes != maxBytes then
    let tmp <- glimpseScalar
    sMov tmp valid s!"lsc*lsp={t.lsc}*{t.lsp}"
    emit ["v_cmp_lt_u32", vcc, vr "Serial", tmp] "fractional: ensure tid < global read tile elements"
    let v <- takeOne "tmpVgpr"
    vMov (vr v) outside ""
    vSelect d (vr v) d vcc "Mask load so out-of-gr-tile bounds returns 0"
    giveVec v
  else if (<- get).inTail && k.depthULdsDivisor > 1 then
    discard <| glimpseTmp 1
    check !t.tlu
    emit ["v_cmp_eq_u32", vcc, vr (<- roleOf t "subIterReg"), part] s!"if sub_g2l_idx == {part} ?"
    let v <- takeOne "lds OOB addr"
    vMov (vr v) outside "lds OOB address"
    vSelect d (vr v) d vcc "Mask threads not belonging to current sub_g2l_idx by assigning OOB"
    giveVec v

def overhangOf (t : Side) : Emit Int :=
  t.perpOverhang.getDM (throw (.missingKey ("fractionalPerpOverhang" ++ t.char)))

/-- So does the part of the last load that hangs over the tile. -/
def maskOverhang : Code := do
  if k.fracLoad == 0 then return
  let overhang <- overhangOf t
  if overhang == 0 then return
  let valid <- quotient (overhang * t.lsc) t.loadWidth
  let mask : Reg <- if k.fracLoad == 2 then pure (.named ("PerpOverhangVcc" ++ t.char)) else .num <$> glimpseTmp 2
  remark "Compute fractional overhang"
  sMov (sr mask) valid s!"overhang={overhang}, validWI={valid}"
  emit ["v_cmp_lt_u32", sr mask 2, vr "Serial", sr mask]
    "fractional-overhang: some wi write to harmless LDS location"
  if k.fracLoad == 1 then
    vSelect (vr ("LocalWriteAddrOverhang" ++ t.char)) "1.0" (vr ("LocalWriteAddr" ++ t.char)) (sr mask 2)
      "Mask load so out-of-gr-tile bounds returns 0. Note 1.0f=0x3f80000 which is large non-neg int"

/-- Of a thread; `part` numbers the part of the loaded elements when they are written in several. -/
def writeFirst (part : Int := 0) : Code := unlessSilent do
  let k <- spec
  let t <- side isA
  let c := t.char
  let u <- roleOf t (unrollRole k)
  let dest <- if t.writeUseSgpr then .num <$> takeOne "destVgpr" else pure (.named ("LocalWriteAddr" ++ c))
  let tile <- roleOf t "lwoT"
  if k.dotLayout == 1 then plainWrite k t dest u tile else interleavedWrite k t dest u tile
  if !isA then
    let bpe <- bytesAB
    vAddCo (vr dest) (hex (k.b.ldsOff * bpe)) (vr dest)
      (s!"lwFOB = lwB{t.tileChar} + lwB{k.unrollChar}*MT{t.tileChar} + LDS_OFFSET_B={k.b.ldsOff}*{bpe}")
  releaseRole isA "lwoT"
  if k.splits then releaseRole isA "uReg2"
  maskWrite k t dest part
  if t.writeUseSgpr then
    emit ["v_readfirstlane_b32", sr ("LocalWriteAddr" ++ c), vr dest] "Copy lds write address VGPR to SGPR"
    if let .num i := dest then giveVec i
  maskOverhang k t
  releaseRole isA "uReg"
  if (<- side isA).roles.any (·.1 == "subIterReg") then releaseRole isA "subIterReg"

def threadRead : Code := do
  let k <- spec
  let t <- side isA
  let q <- takeOne "qReg"
  let r <- takeOne "rReg"
  let tmpV <- takePair
  let tmpS <- glimpseTmp 1
  let c := t.tileChar
  if t.tileIdx == 0 then
    raw s!"/*lr{c} = serial % SG{c}*/\n"
    vDiv q r "Serial" k.subGroup0 tmpV tmpS true
    setRole isA "lro" r
    modify ({ · with sharedRead := some q })
  else
    raw s!"/*lr{c} = (serial / SG{c}) % SG{c}*/\n"
    match (<- get).sharedRead with
    | none => throw .noField
    | some shared =>
      vDiv q r shared k.subGroup1 tmpV tmpS true
      setRole isA "lro" r
      giveVecs [shared, q]
  giveVec tmpV

def matrixRead (m : MatrixSpec) (isA : Bool) : Code := do
  let t <- side isA
  raw s!"/*lr{t.tileChar}*/\n"
  let w <- takeOne "wReg"
  let tile <- takeOne "tReg"
  let kk <- takeOne "kReg"
  let tmpV <- takePair
  let dummy <- takeOne "dummy"
  let tmpS <- glimpseTmp 1
  let perThread := max (<- side true).readWidth (<- side false).readWidth
  let first := t.tile01 == 0
  let blocks := if first then m.bm else m.bn
  let waves := if first then m.waveGroup0 else m.waveGroup1
  let forBlock := if first then m.m else m.m * m.bm
  let forWave := if first then k.waveSize else k.waveSize * m.waveGroup0
  let strideTile := if t.unrollMajor then k.depthULds + t.rowPad else 1
  let strideK := if t.unrollMajor then perThread else (t.macroTile + t.rowPad) * perThread
  let strideBlock := m.m * strideTile
  let strideWave := m.m * blocks * strideTile
  let rest := fun r d n text => vRem dummy r d n tmpV tmpS text
  let quotient := fun q d n text => vDiv q 0 d n tmpV tmpS false text
  let times := fun r n text => vScale r n tmpS text
  rest kk "Serial" k.waveSize s!"0. thread id in wave: wtid = tid % wavelength({k.waveSize})"
  rest tile kk m.n s!"1. N offset: nIdx = wtid % MI_N({m.n})"
  times tile strideTile s!"1. N offset: nOffset = nIdx * nStride({strideTile})"
  quotient w kk forBlock s!"2. block offset: bnIdx = wtid / dividedForBlkId({forBlock})"
  rest w w blocks s!"2. block offset: bnIdx = bnIdx % num1DBlocks({blocks})"
  times w strideBlock s!"2. block offset: bnOffset = bnIdx * strideBlock({strideBlock})"
  vAdd (vr tile) (vr w) (vr tile) "3. add N and block offset: bnOffset = block and N offset"
  quotient kk kk (m.m * m.b) s!"4. K offset: kIdx = wtid / (MIN({m.n}) * MIBB({m.b}))"
  times kk strideK s!"4. K offset: lrKOffset = kIdx * mStride({strideK})"
  vAdd (vr tile) (vr kk) (vr tile) "5. offset in wave: lrOffset = bnOffset + lrKOffset"
  if waves > 1 then
    quotient w "Serial" forWave s!"6. wave offset in N dimen: wtid = tid / dividedForWaveId({forWave})"
    rest w w waves s!"6. wave offset in M dimen: wtid0 = wtid / num1DWaves({waves})"
    times w strideWave s!"6. wave offset in M dimen: wOffset = wtid0 * W0Stride({strideWave})"
    vAdd (vr tile) (vr w) (vr tile) "7. final local read offset: flrOffset = lrOffset + WOffset"
  setRole isA "lro" tile
  giveVecs [w, kk, tmpV, dummy]

def readTiles : Code := do
  let k <- spec
  let firstIsA := k.b.tile01 != 0
  for isA in [firstIsA, !firstIsA] do k.matrix.elim (threadRead isA) (matrixRead k · isA)

def readFinal : Code := do
  let k <- spec
  let t <- side isA
  let c := t.char
  let bpe <- bytesAB
  let sgid <- takeVec 1
  let r <- takeVec 1
  let tmpV <- takePair
  let tmpS <- glimpseTmp 1
  let n := t.tile01
  let divisor := k.subGroup0 * k.subGroup1
  vDiv sgid 0 "Serial" divisor tmpV tmpS false
    s!"LSU offset: sgid = Serial / subGroup({divisor})"
  sMov (sr tmpS) (t.macroTile + t.rowPad)
    s!"LSU offset: stirde = MT{n}({t.macroTile}) + PAD{n}({t.rowPad})"
  vMul (vr sgid) (sr tmpS) (vr sgid) s!"LSU offset: lsuoffset = sgid*(MT{n}+PAD)"
  let lro <- roleOf t "lro"
  if !k.hasMatrix && k.vecWidth > 1 then vScale lro k.vecWidth tmpS s!"Final Offset: lr{c}Offset * VW"
  let addr := "LocalReadAddr" ++ c
  vAddShift (vr addr) (vr sgid) (vr lro) (hexLog bpe) s!"Final Offset: offset = (lro{n}*VW+lsuoffset)*bpe"
  if t.ldsBlockPerPad != 0 && t.ldsPad != 0 then
    let text := s!"padding {t.ldsPad} per block {t.ldsBlockPerPad}"
    vDiv r 0 addr t.ldsBlockPerPad tmpV tmpS false ("Final Offset: " ++ text)
    vScale r (t.ldsPad * bpe) tmpS ("Final Offset: " ++ text)
    vAdd (vr addr) (vr r) (vr addr) ("Final Offset: add " ++ text)
  giveVecs [tmpV, sgid, r, lro]

def readDeclare : Code := do
  let t <- side isA
  if isA then remark "N/A"
  else
    let r := vr s!"LocalReadAddr{t.char}+0"
    vAddCo r (hex (t.ldsOff * (<- layout).bytesAB)) r s!" += LdsOffset{t.char} (lower)"

end LocalAddr

end TensorForge.Assembly
