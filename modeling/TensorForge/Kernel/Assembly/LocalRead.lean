import TensorForge.Kernel.Assembly.LocalAddress

/-! # Reading from local memory -/

namespace TensorForge.Assembly

open Asm Emit Item LocalAddr

/-- Code that packs what was read, and its first register. -/
structure Packing where
  name : Text
  items : Items := []
  tmp : Option Int := none

def Packing.item (p : Packing) : Item := modul p.name p.items

namespace LocalRead

def firstOf (operand : Text) : Text :=
  match operand.splitOn "v[" with
  | [r] => r
  | _ :: r :: _ => "v[" ++ (((r.splitOn "]").headD "").splitOn ":").headD "" ++ "]"
  | [] => operand

def compared (reg value : Text) : Emit Items := do return [.text (<- captured (Checks.equal reg value))]

def comparedBits (reg : Text) (tmp : Int) (bits : Nat) (kind : Text) : Emit Items := do
  return plain ["s_mov_b32", sr tmp, .hex bits] s!"CheckValue1: {kind}" :: (<- compared reg (sr tmp))

def awaited : Emit Items := do
  let wait := [plain ["s_waitcnt lgkmcnt(0)"] "CheckValue1 wait for LDS read"]
  if <- archCap SV then return wait ++ [plain ["s_waitcnt_vscnt", "null", "0"] ""]
  return wait

variable (t : Side)

def checksOnes : Emit Bool := probing s!"CheckValue1{t.char}"

def remarkOf (step v r buf unroll : Int) : Text :=
  s!"L -> Reg lro={t.localReadOff} swapByteOffset={t.readSwap} ti={step} vIdx={v} rIdx={r} oIdx=0 " ++
  s!"buffer={buf} iui={unroll}"

def checkThread (d : DataType) (dest : Text) (tmp : Int) : Emit Items := do
  let reg := firstOf dest
  let wait <- awaited
  let halves <-
    if d.isHalf then comparedBits reg tmp 0x3c003c00 "FP16"
    else if d.isBFloat16 then comparedBits reg tmp 0x3f803f80 "BF16"
    else pure []
  let rest <-
    if d.isInt8 then comparedBits reg tmp 0x01010101 "INT8" else if d.isInt8x4 then compared reg "1"
    else if d.isSingle then compared reg "1.0"
    else pure []
  return wait ++ halves ++ rest

def byThreads (buf unroll : Int) : Emit Items := do
  let k <- spec
  let bpe <- bytesAB
  let m := t.localRead
  let width : Int := m.blockBytes / 4
  let vw := k.vecWidth
  let (tile, group) := if t.tile01 == 0 then (k.threadTile0, k.subGroup0) else (k.threadTile1, k.subGroup1)
  let mut items := []
  let mut valu := 0
  for v in upTo (<- quotient tile vw) do
    for r in upTo (<- quotient (vw * bpe) (width * 4)) do
      let dest := vr s!"Valu{t.char}_X{buf}_I{unroll}+{valu}" width
      let off := (r * width + group * v * vw + t.localReadOff) * bpe + t.readSwap
      let code <- m.padded [dest, vr ("LocalReadAddr" ++ t.char), off] 0 false
      let read := instOf (.localRead m.latency) [code] (remarkOf t group v r buf unroll)
      let tmp <- glimpseTmp 1
      let check <- if <- checksOnes t then checkThread k.dataType dest tmp else pure []
      items := items ++ [modul s!"LocalRead{t.char} Valu{valu}" (read :: check)]
      valu := valu + width
  return items

/-- The upper byte of a pair, and the upper pair. -/
structure Part where
  (byte half : Bool)

def checkMatrix (d : DataType) (dest : Text) (tmp : Int) (narrow : Bool) (part : Part) : Emit Items := do
  let reg := firstOf dest
  let wait <- awaited
  let halves <-
    if d.isHalf then
      comparedBits reg tmp (if !narrow then 0x3c003c00 else if part.half then 0x3c000000 else 0x3c00) "FP16"
    else if d.isBFloat16 then
      comparedBits reg tmp (if !narrow then 0x3f803f80 else if part.half then 0x3f800000 else 0x3f80) "BF16"
    else pure []
  let rest <-
    if d.isInt8 then
      if narrow then comparedBits reg tmp (if part.half then 0x00010000 else 0x00000001) "INT8"
      else pure []
    else if d.isInt8x4 then comparedBits reg tmp 0x01010101 "INT8x4"
    else if d.isSingle then compared reg "1.0"
    else pure []
  return wait ++ halves ++ rest

/-- The register of a narrow read, the code that packs it, and the next register free for packing. -/
def packed (bytes : Nat) (base : Text) (part : Part) (next : Int) : Text × Items × Int :=
  if bytes == 2 && part.half then
    (vr next, [plain ["v_or_b32", base, base, vr next] "pack two half Vgpr to one Vgpr"], next + 1)
  else if bytes == 1 && (part.byte || part.half) then
    let low := if part.half then vr (next - 1) else base
    let bytesCode := opt part.byte
        [plain ["_v_lshl_or_b32", low, vr next, "0x8", low] "pack two int8 Vgpr to one half Vgpr"]
    let halvesCode := opt (part.byte && part.half)
        [plain ["v_or_b32", base, base, low] "pack two half Vgpr to one Vgpr"]
    (vr next, bytesCode ++ halvesCode, next + 1)
  else (base, [], next)

def byMatrix (m : MatrixSpec) (t : Side) (buf unroll : Int) : Emit (Items × Packing) := do
  let k <- spec
  let bpe <- bytesAB
  onSide t.isA fun t => { t with readCount := t.readCount + 1 }
  let op := t.localRead
  let bytes := op.blockBytes
  let narrow := bytes < 4
  let shape := if t.tile01 == 0 then m.m * m.bm * m.waveGroup0 else m.n * m.bn * m.waveGroup1
  let (tileStride, unrollStride) := if t.unrollMajor then (k.depthULds + t.rowPad, 1) else (1, t.ownMacroTile + t.rowPad)
  let tiles := if t.tile01 == 0 then m.waveTile0 else m.waveTile1
  let tmp? <- if narrow then some <$> takeVec (t.valuPerBlock * t.joined * ((4 / bytes : Nat) - 1))
    else pure none
  let mut next := tmp?.getD 0
  let mut reads := []
  let mut packs := []
  let mut at4 := 0
  for v in upTo tiles do
    let name := s!"LocalRead{t.char} Valu{at4 / 4}"
    let mut code := []
    let mut packCode := []
    for r in upTo (bpe * t.readWidth / bytes) do
      let base := vr s!"Valu{t.char}_X{buf}_I{unroll}+{at4 / 4}" (max 1 (bytes / 4) : Nat)
      let part :=
        { byte := bytes == 1 && r % 2 == 1
          half := if bytes == 2 then r % 2 == 1 else bytes == 1 && r % 4 / 2 == 1 }
      let (dest, packing, next') := packed bytes base part next
      next := next'
      packCode := packCode ++ packing
      at4 := at4 + bytes
      let off := (r * unrollStride + v * shape * tileStride + t.localReadOff) * bpe
      let off := if t.ldsBlockPerPad != 0 && t.ldsPad != 0 then
          off + off / t.ldsBlockPerPad * t.ldsPad * bpe else off
      let text <- op.padded [dest, vr ("LocalReadAddr" ++ t.char), (off + t.readSwap)] 0 part.half
      code := code ++ [instOf (.localRead op.latency) [text] (remarkOf t shape v r buf unroll)]
      let tmp <- glimpseTmp 1
      if (<- checksOnes t) && !(<- get).inTail then code := code ++ (<- checkMatrix k.dataType dest tmp narrow part)
    reads := reads ++ [modul name code]
    if narrow then packs := packs ++ [modul "packCode" packCode]
  return (reads, { name := s!"pack{t.char}_I{unroll}", items := packs, tmp := tmp? })

def reads (isA : Bool) (buf unroll : Int) : Emit (Item × Packing) := do
  let t <- side isA
  let nothing := { name := s!"pack{t.char}_I{unroll}" }
  let (items, packing) <- if !(<- readsLocal t) then pure ([], nothing)
    else (<- spec).matrix.elim (do pure (<- byThreads t buf unroll, nothing)) (byMatrix · t buf unroll)
  return (modul s!"LocalReadDo{t.char}_I{unroll}" items, packing)

/-- The rest of the summation reads fewer elements at once. -/
def readdress : Code := do
  let k <- spec
  let st <- get
  if !st.inTail then return
  if !(k.depthULdsDivisor > 1 || ((st.a.joined > 1 || st.b.joined > 1) && (k.matrix.elim false (·.b == 1)))) then return
  let perThread <- k.matrix.elim (throw (.missingKey MIIPT)) (pure ·.inputPerThread)
  onSides ({ · with joined := 1, readWidth := perThread })
  if k.persist then
    for t in <- sides do
      if t.keptRead.isNone then
        let r <- takeVec 1 ("OriLocalReadAddr" ++ t.char)
        onSide t.isA ({ · with keptRead := some r })
        vMov (vr r) (vr ("LocalReadAddr" ++ t.char)) "back up LRA for persistent kernel + wider local read"
  readTiles
  for isA in [true, false] do
    readFinal isA
    readDeclare isA
  let bpe <- bytesAB
  for t in <- sides do
    let m <- chooseInstr "LocalRead" (if t.unrollMajor then perThread * bpe / 4 * 4 else bpe) localReads
    onSide t.isA ({ · with localRead := m })

end LocalRead

end TensorForge.Assembly
