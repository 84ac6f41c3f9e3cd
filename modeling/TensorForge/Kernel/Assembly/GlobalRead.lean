import TensorForge.Kernel.Assembly.GlobalAddress
import TensorForge.Kernel.Assembly.LocalAddress

/-! # Reading from global memory -/

namespace TensorForge.Assembly

open Access Asm Emit GlobalAddr Item

structure Loads where
  (header middle footer : Items := [])

def Loads.render (l : Loads) : Text := renderAllOnto false "" (l.header ++ l.middle ++ l.footer)

namespace GlobalRead

def advanceBuf (t : Input) (lo hi : Text) : Emit Items := do
  let base := sr s!"Srd{t.char}+0"
  let high := sr s!"Srd{t.char}+1"
  let limit := sr s!"Srd{t.char}+2"
  let move :=
    [plain ["s_add_u32", base, base, lo] "gra SRD += inc(lower)",
     plain ["s_addc_u32 ", high, high, hi] "gra SRD += inc(upper)"]
  if (<- layout).wideLimits then
    let low := sr s!"ShadowLimit{t.char}+0"
    let up := sr s!"ShadowLimit{t.char}+1"
    return move ++ [plain ["s_sub_u32", low, low, lo] "limit -= inc)",
       plain ["s_subb_u32", up, up, hi] "limit -= inc)", plain ["s_cmp_eq_u32", up, "0"] "are we within 2^32?",
       plain ["s_cmov_b32", limit, low] "Move shadow to real if we are within 2^32"]
  else return move ++ [plain ["s_sub_u32", limit, limit, lo] "limit -= inc)"]

def retreatBuf (t : Input) (lo : Text) : Code := do
  let base := sr s!"Srd{t.char}+0"
  let high := sr s!"Srd{t.char}+1"
  emit ["s_sub_u32 ", base, base, lo] "gra SRD -= inc(lower)"
  emit ["s_subb_u32 ", high, high, "0"] "gra SRD -= inc(upper)"
  check (<- layout).wideLimits
  let low := sr s!"ShadowLimit{t.char}+0"
  let up := sr s!"ShadowLimit{t.char}+1"
  sAddWide low up lo "0" "limit -= inc)"
  sSame up "0" "are we within 2^32?"
  emit ["s_cmov_b32", sr s!"Srd{t.char}+2", low] "Move shadow to real if we are within 2^32"

variable (k : KernelSpec) (t : Side) (isA : Bool)

/-- In one iteration a staggered buffer goes back to the beginning. -/
def wrapStep (ahead : Int) : Emit Items := do
  let lo <- glimpseTmp 3
  let hi := lo + 1
  let tmp := sr (lo + 2)
  let counter := loopCounter k k.unrollIdx
  let test := if ahead != 0 then
      [plain ["s_add_u32", tmp, counter, ahead] s!"remove pf({ahead})",
       plain ["s_cmp_eq_u32", sr "StaggerUIter", tmp] "Is this wrapIter? (pf)"]
    else [plain ["s_cmp_eq_u32", counter, sr "StaggerUIter"] "Is this the wrapIter?"]
  let choose :=
    [plain ["s_cselect_b32", sr lo, sr s!"WrapU{t.char}+0",
       sr s!"GlobalReadIncs{t.char}+{k.unrollIdx}"] "incLower <- ?",
     plain ["s_cselect_b32", sr hi, sr s!"WrapU{t.char}+1", "0"] "incUpper <- ?"]
  return test ++ choose ++ [modul "incrementSrd" (<- advanceBuf t (sr lo) (sr hi))]

def step (loop ahead : Int) : Emit Items := do
  if !(<- enabled "GlobalInc") then return []
  let k <- spec
  let t <- side isA
  let c := t.char
  let char := k.sumChar loop
  let title := .comment1 s!"global read inc {c} loop{char}"
  if k.bufferLoad then
    if k.staggers && loop == k.unrollIdx then return title :: (<- wrapStep k t ahead)
    let inc := sr s!"GlobalReadIncs{c}+{loop}"
    if loop != k.unrollIdx || t.mirrored.contains (k.sumIdx k.unrollIdx) then
      let hi <- glimpseScalar
      return [title, plain ["s_ashr_i32", hi, inc, "31"] "sign-extend", modul "incrementSrd" (<- advanceBuf t inc hi)]
    return [title, modul "incrementSrd" (<- advanceBuf t inc "0")]
  let vcc <- vcc
  return title :: (<- loadsOf t).flatMap fun x =>
    let lo := vr s!"GlobalReadAddr{c}+{2 * x.index}+0"
    let hi := vr s!"GlobalReadAddr{c}+{2 * x.index}+1"
    [plain ["_v_add_co_u32 ", lo, vcc, lo, vr s!"GlobalReadIncs{c}+{2 * loop}+0"] s!"gra += inc{c}{char} (lower)",
     plain ["_v_addc_co_u32", hi, vcc, hi, vr s!"GlobalReadIncs{c}+{2 * loop}+1", vcc] s!"gra += inc{c}{char} (upper)"]

/-- `tmp` gets the quotient of the packed counter by the size of a summation, whose iteration is the remainder. -/
def splitCounter (position tmp gsuMagic : Int) (bits : Text) : Emit (Items × Text) := do
  let char := k.sumChar position
  let first := position == k.unrollIdx
  if position == 0 then return ([], if first then bits else sr tmp)
  let split := first && k.splits
  let size := if split then s!"GsuNumIter{char}" else s!"Size{char}"
  let (copy, bits2) := if first then ([], bits)
    else ([plain ["s_mov_b32", sr (tmp + 2), bits] "copy psdPackedBits"], sr (tmp + 2))
  let divide <- if split then do
      let pick := fun n what =>
        plain ["s_cselect_b32", sr (gsuMagic + n), sr s!"Magic{what}Size{char}_GsuRemainder",
          sr s!"Magic{what}Size{char}"] "Use alternate divisor"
      let text <- captured (magicDivBy tmp bits gsuMagic (sr gsuMagic) (sr (gsuMagic + 1)) (sr (gsuMagic + 2)))
      pure [plain ["s_cmp_lt_u32", sr "GSUSumIdx", sr "GSUSumIdx+1"] "gsuSumIdx < numIterPerWgRemainder",
        pick 0 "Number", pick 1 "Abit", pick 2 "Shift", .text text]
    else pure [.text (<- captured (magicDivBySize tmp bits char))]
  let rest :=
    [plain ["s_mul_i32", sr (tmp + 1), sr tmp, sr size] "remainder step 1",
     plain ["s_sub_u32", sr (tmp + 1), bits2, sr (tmp + 1)] "remainder step 2"]
  return (copy ++ divide ++ rest, sr (tmp + 1))

/-- Advances both buffers from their beginning, by the iteration of every packed summation. -/
def packedStep (ahead : Int) : Emit Items := do
  let tmp <- glimpseTmp (5 + if k.splits then 3 else 0)
  let incOf := fun (isA : Bool) => if isA then tmp + 3 else tmp + 4
  let mut bits := if ahead > 0 then DU else loopCounter k k.unrollIdx
  let mut code := [.comment1 s!"extract indices here from {bits}"]
  for position in (upTo k.numSum).reverse do
    let sum := k.sumIdx position
    let char := k.sumChar position
    let (split, iter) <- splitCounter k position tmp (tmp + 5) bits
    code := code ++ .comment1 s!"extract index {char}" :: split ++ k.inputs.flatMap fun t =>
      opt (t.padOf? sum).isSome [plain ["s_mov_b32", sr s!"Iter{char}", iter] "save iterX"]
    for t in k.inputs do
      let c := t.char
      let inc := sr (incOf t.isA)
      let by' := sr s!"GlobalReadIncs{c}+{position}"
      let text := s!"psdOffset{c} += scale iter{char}"
      code := code ++ (if position == k.unrollIdx then [plain ["s_mul_i32", inc, iter, by'] text]
        else [plain ["s_mul_i32", sr (tmp + 2), iter, by'] s!"Scale iter{char}",
          plain ["s_add_u32", inc, inc, sr (tmp + 2)] text])
    bits := sr tmp
  check k.bufferLoad
  code := code ++ [.text "\n", Item.comment1 "Reset and increment SRDs"]
  check !(<- layout).wideLimits
  for t in k.inputs do
    let restore n (first what : Text) :=
      plain ["s_mov_b32", sr s!"Srd{t.char}+{n}", sr s!"InitialSrd{t.char}{first}"] ("restore " ++ what)
    code := code ++ [restore 0 "Base+0" "base", restore 1 "Base+1" "base", restore 2 "Limit" "limit"]
  for t in k.inputs do
    let inc := sr (incOf t.isA)
    let hi <- if k.summation.any t.mirrored.contains then glimpseScalar else pure "0"
    code := code ++ .text "\n" :: opt (hi != "0") [plain ["s_ashr_i32", hi, inc, "31"] "sign-extend"] ++
      [modul "incrementSrd" (<- advanceBuf t inc hi)]
  return code

def steps (loop ahead : Int) : Emit (Items × Items) := do
  let k <- spec
  let counter := loopCounter k k.unrollIdx
  let count := opt (k.countsElems && loop == k.unrollIdx)
      [plain ["s_add_u32", counter, counter, DU] "increment psdIter"]
  if loop == k.unrollIdx && k.packSum && k.actualLoops == 1 then return (count ++ (<- packedStep k ahead), [])
  return (count ++ (<- step true loop ahead), <- step false loop ahead)

/-- Sends loads from a padded dimension out of the buffer; the result has the address. -/
def guardPad (off soffset : Text) (tmp addr : Int) (x : Load) : Emit Items := do
  let vcc <- vcc
  let lanes <- laneRegs
  let pads := t.pads.filter fun r => r.perp == x.perp && r.sPerp == x.sPerp && r.para == x.para && r.sPara == x.sPara
  let s := sr tmp
  pads.zipIdx.flatMapM fun (r, i) => do
    let sum := r.pad.sum
    let char := k.idxChar sum
    let mask := sr tmp lanes
    check (soffset == "0")
    return .comment1 s!"guardZeroPad: {r.name}" ::
      opt (!k.packSum) [plain ["s_sub_u32", s, sr s!"Size{char}", sr s!"LoopCounter{char}"]
        "loop = Size - remaining loop counter"] ++
      [plain ["s_mul_i32", s, if k.packSum then sr s!"Iter{char}" else s, strideRef k t sum] "LoopCounterZp*strideSum",
       plain ["s_lshl_b32", s, s, s!"Bpe{t.char}Log2"] "", if t.mirrored.contains sum then plain ["_v_sub_u32", vr addr,
       vr r.name, s] "<- GRO - scaled elementCounter" else plain ["_v_add_u32", vr addr, vr r.name,
       s] "<- GRO + scaled elementCounter", plain ["v_cmp_ge_u32", if i == 0 then vcc else mask, vr addr,
       sr s!"ElementEdge{t.char}{char}"] "loopCounter*strideSum >= ElementEdge ?"] ++
      opt (i > 0) [plain [s!"s_or_b{k.waveSize}", vcc, vcc, mask] "combine elementEdge masks"] ++
      opt (i + 1 == pads.length) [plain ["v_cndmask_b32", vr addr, vr off, "-1", vcc]
        "Set addresses in pad to large OOB value"]

def directAddr : Emit Items := do
  let k <- spec
  let t <- side isA
  if !(<- enabled s!"GlobalRead{t.char}") || !t.toLds then return []
  check t.writeUseSgpr
  let addr := sr s!"LocalWriteAddr{t.char}"
  let text := "m0 <- LDS write address"
  return [if k.expandPtrSwap then plain ["s_add_u32", "m0", addr, t.writeSwap] text
    else plain ["s_mov_b32", "m0", addr] text]

def hints : Text :=
  opt (t.nonTemporal.fmod 2 == 1) " glc" ++ opt (t.nonTemporal.fdiv 2 == 1) " slc" ++ opt t.toLds " lds"

def isNarrow : Bool := k.dataType.isNarrow

/-- What a load adds to the base: a register of a thread and one of all. -/
def bufOffs (index : Nat) : Text × Text :=
  let c := t.char
  if k.useSgprForGRO == 0 then (s!"GlobalReadOffset{c}+{index}", "0")
  else
    (s!"GlobalReadOffset{c}+0", if k.addsOff t then sr s!"ScalarGlobalReadOffset{c}+{index}"
     else if index == 0 then "0" else sr s!"ScalarGlobalReadOffset{c}+{(index : Int) - 1}")

structure Direct where
  loads : Nat := 0
  off : Int := 0

def prepare (x : Load) (tmp addr : Int) : Emit (Reg × Text × Items × Items) := do
  let (off, soffset) := bufOffs k t x.index
  let guarded := !t.zeroPad.isEmpty && !k.addsOff t
  let pad <- if guarded then guardPad k t off soffset tmp addr x else pure []
  let reg := if guarded then .num addr else .named off
  if t.mirrored.contains (k.sumIdx k.unrollIdx) && soffset != "0" then
    let v := vr reg
    return (reg, "0", pad ++ [plain ["_v_sub_u32", v, v, soffset] "mirror unroll: GRO=GRO-SGRO, soffset=0"],
      [plain ["_v_add_u32", v, v, soffset] "mirror unroll: restore GRO=GRO+SGRO"])
  return (reg, soffset, pad, [])

def directMove (d : Direct) (inc : Int) : Items × Direct :=
  let counted := { d with loads := d.loads + 1 }
  if k.useInstOffForGRO then
    let bound := maxInstOff
    if d.off >= bound then
      let base := d.off / bound * bound
      ([plain ["s_add_u32", "m0", "m0", base] "Move LDS write address to next base"],
        { counted with off := d.off - base })
    else ([], counted)
  else if d.loads != 0 then
    ([plain ["s_add_u32", "m0", "m0", inc] "Move LDS write address to next line"], counted)
  else ([], counted)

def nextDirect (k : KernelSpec) (t : Side) (d : Direct) : Emit (Int × Items × Direct) := do
  if !t.toLds then return (0, [], d)
  let inc <- directStep k t (<- bytesAB)
  return (inc, directMove k d inc)

def load (k : KernelSpec) (t : Side) (x : Load) (tmp addr : Int) (d : Direct) : Emit (Item × Direct) := do
  let l <- layout
  let c := t.char
  let bytes := l.bytesAB * t.loadWidth
  let dest := s!"G2L{c}+{x.index * t.globalRead.totalBytes / 4}"
  let hi16 := isNarrow k && x.index % 2 == 1
  let text := s!"G -> Reg {x.para}_{x.sPara}_{x.perp}_{x.sPerp}"
  let name := s!"load{x.index}"
  if k.bufferLoad then
    let (reg, soffset, before, after) <- prepare k t x tmp addr
    let (inc, move, d) <- nextDirect k t d
    let read <- read true bytes (if t.toLds then .num 0 else .named dest) (vr reg)
      (sr s!"Srd{c}" 4) soffset d.off (hints t) hi16 text
    return (modul name (before ++ move ++ [read] ++ after), if k.addsOff t then { d with off := d.off + inc } else d)
  else
    let read <- read false bytes (.named dest) (vr s!"GlobalReadAddr{c}+{2 * x.index}" 2) "" "0" 0 (hints t) hi16 text
    return (modul name [read], d)

/-- For loads that must not pass the end of a tensor. -/
structure Guard where
  tmp : Int
  /-- The end of the tensor, the bytes of an element and zero. -/
  (maxAddr bpe zero addr : Int := 0)

def findEnd (tmp : Int) : Emit Guard := do
  let bpe <- bytesAB
  let c := t.char
  remark "flat addressing - max read address = size[n] * stride[n-1]"
  let last := t.assigns.getLastD 0
  let size := if k.summation.contains last then s!"SizesSum+{last - k.dimsC}" else s!"SizesFree+{last}"
  productU64 tmp (sr size) (sr s!"Stride{c}{k.idxChar last}") s!"64b tensor{c} size in elements"
  emit ["s_lshl_b64", sr tmp 2, sr tmp 2, hexLog bpe] s!"<- tensor{c} size in bytes"
  let address <- scalarNamed s!"Address{c}"
  sAdd (sr tmp) (sr address) (sr tmp) "prepend address lower"
  sAddC (sr (tmp + 1)) (sr (address + 1)) (sr (tmp + 1)) "prepend address upper"
  let maxAddr <- takeVec 2 "maxAddrVgpr"
  vMov (vr maxAddr) (sr tmp) "sgpr->vgpr"
  vMov (vr (maxAddr + 1)) (sr (tmp + 1)) "sgpr->vgpr"
  let mask := if k.waveSize == 32 then "0xFFFFFFFF" else "0xFFFFFFFFFFFFFFFF"
  emit [s!"s_mov_b{k.waveSize}", sr tmp (<- laneRegs), mask] "to restore all threads active"
  let one <- takeOne "bpeVgpr"
  vMov (vr one) (.hex bpe) "bpe"
  let zero <- takeOne "zeroVgpr"
  vMov (vr zero) "0x0" "zero"
  return { tmp, maxAddr, bpe := one, zero }

def partReg (r : Int) : Int :=
  let d := k.dataType
  if d.isInt8 then r / 4 else if isNarrow k then r / 2
  else if d.isDouble || d.isSingleComplex then r * 2
  else if d.isDoubleComplex then r * 4
  else r

structure Part where
  (upper16 upper8 : Bool := false)

variable (x : Load)

def guardedBuf (g : Guard) (r : Int) (pair : Bool) (high : Option Int) (dest : Text) (d : Direct) :
    Emit (Part × Direct) := do
  let l <- layout
  let c := t.char
  let (reg, soffset, before, after) <- prepare k t x g.tmp g.addr
  for i in before do raw i.render
  let (inc, move, d) <- nextDirect k t d
  for i in move do raw i.render
  let n : Int := if t.loadWidth == 1 then x.index else r
  let part :=
    if t.toLds then {}
    else if k.dataType.isInt8 then { upper8 := n % 4 % 2 != 0, upper16 := n % 4 / 2 != 0 }
    else if isNarrow k && !pair then { upper16 := n % 2 != 0 }
    else {}
  let text := if pair then "load packed 2X half buffer value" else "load one buffer value"
  let own := if t.toLds then .num 0 else .named dest
  let target := if part.upper16 || part.upper8 then high.elim own .num else own
  raw (<- read true ((if pair then 2 else 1) * l.bytesAB) target (vr reg)
    (sr s!"Srd{c}" 4) soffset (r * l.bytesAB + d.off) (hints t) part.upper16 text).render
  for i in after do raw i.render
  return (part, if k.addsOff t then { d with off := d.off + inc } else d)

def guardedFlat (g : Guard) (r : Int) (high : Option Int) (dest : Text) : Emit Part := do
  let vcc <- vcc
  let c := t.char
  let index := 2 * x.index
  let addr := vr s!"GlobalReadAddr{c}+{index}" 2
  let lo := vr s!"GlobalReadAddr{c}+{index}+0"
  let hi := vr s!"GlobalReadAddr{c}+{index}+1"
  emit ["_v_cmpx_lt_u64", vcc, addr, vr g.maxAddr 2] "addr < maxAddr"
  let upper16 := isNarrow k && r % 2 == 1
  let target := if upper16 then high.elim (.named dest) .num else .named dest
  raw (<- read false (<- layout).bytesAB target addr "" "0" 0 (hints t) upper16 "load one flat value").render
  emit [s!"s_or_saveexec_b{k.waveSize}", vcc, sr g.tmp (<- laneRegs)] "all threads active"
  vAddCo lo lo (vr g.bpe) "gra += 1 (lower)"
  emit ["_v_addc_co_u32", hi, vcc, hi, vr g.zero, vcc] "gra += 1 (upper)"
  return { upper16 }

/-- The components of a load from number `r` on. Quarters of a word go to registers of their own, from `high` on, and
`packing` puts them together; `fuel` bounds the components. -/
def components (k : KernelSpec) (t : Side) (x : Load) (g : Guard) (count : Int) :
    Nat -> (r : Int) -> (high : Option Int) -> (packing : Text) -> Direct -> Emit (Option Int × Text × Direct)
  | 0, _, high, packing, d => return (high, packing, d)
  | fuel + 1, r, high, packing, d => do
    if r >= count then return (high, packing, d)
    let bytes8 := k.dataType.isInt8
    let pairs := isNarrow k && t.loadWidth > 1 && k.assertSum % 2 == 0
    let high <- if bytes8 && r == 1 then some <$> takeVec (count - 1) "destVgprHi"
      else if isNarrow k && !pairs then if <- archCap "HasEccHalf" then some <$> takeOne "destVgprHi" else pure high
      else pure high
    let g2l := x.index * t.globalRead.totalBytes / 4
    remark s!"g2l={g2l}, load component {r}"
    let dest := s!"G2L{t.char}+{g2l}+{partReg k r}"
    let (part, r, d) <- if k.bufferLoad then do
        let (part, d) <- guardedBuf k t x g r pairs high dest d
        pure (part, if pairs then r + 1 else r, d)
      else pure (<- guardedFlat k t x g r high dest, r, d)
    let target := if k.bufferLoad && t.toLds then vr (0 : Int) else vr dest
    match high with
    | none => components k t x g count fuel (r + 1) none packing d
    | some h =>
      if bytes8 then
        let any := part.upper8 || part.upper16
        let text := opt any s!"s_waitcnt vmcnt({count - 1 - r})\n" ++
          opt part.upper8 (inst ["v_lshlrev_b32", vr h, "0x8", vr h] "shift left to higher 8 bits") ++
          opt any (inst ["v_or_b32", target, target, vr h] "pack a sub 8-bit with dest")
        components k t x g count fuel (r + 1) (some (h + 1)) (packing ++ text) d
      else
        if r % 2 == 1 then
          raw "s_waitcnt vmcnt(0)\n"
          raw s!"v_or_b32 {target}, {target}, {vr h} // HasEccHalf: pack\n"
        giveVec h
        components k t x g count fuel (r + 1) none packing d

def debugWait : Code := do
  raw "s_barrier // debug\n"
  raw "s_waitcnt lgkmcnt(0) & vmcnt(0)\n"
  if <- archCap SV then raw "s_waitcnt_vscnt null, 0\n"

def settle : Code := do
  if (<- probes).waitsAt 1 then
    debugWait
    raw "s_barrier // debug\n"

/-- Direct loads replace the bound on local addresses. -/
def clamp (k : KernelSpec) (t : Side) : Emit Items := do
  if !t.toLds then return []
  let n := k.ldsNumElems * (<- layout).bytesAB
  return [plain ["s_mov_b32", "m0", .hex n] s!"Restore LDS clamp at {n} bytes"]

def guarded : Code := do
  let tmp <- glimpseTmp 2
  let mut g := { tmp }
  if !k.bufferLoad then g <- findEnd k t tmp
  if !t.zeroPad.isEmpty then
    let addr <- takeOne "addrV"
    g := { g with addr }
  let count <- quotient t.globalRead.totalBytes (<- layout).bytesAB
  let mut d := {}
  for x in <- loadsOf t do
    let (high, packing, d') <- components k t x g count count.toNat 0 none "" d
    d := d'
    if k.dataType.isInt8 then
      let some h := high | throw .unmet
      raw packing
      giveVec (h - (count - 1))
  settle
  if !t.zeroPad.isEmpty then giveVec g.addr
  for i in <- clamp k t do raw i.render
  if !k.bufferLoad then giveVecs [g.maxAddr, g.bpe, g.zero]

/-- Ahead of the loop, in it, or for the rest of the summation. -/
inductive Phase where
  | ahead | loop | rest
  deriving BEq

def header (phase : Phase) : Emit Items := do
  let stop := fun c => plain ["s_cmov_b32", sr s!"Srd{c}+2", "0"] "Set limit to 0 for last iteration"
  let last := opt (k.dropNoLoad && phase == .loop && t.isA)
      [plain ["s_cmp_eq_i32", loopCounter k k.unrollIdx, "1"] "is this the last iteration", stop "A", stop "B"]
  discard <| glimpseTmp 2
  if t.isA && k.loadsDirectly then
    let sync <- captured (barrier "")
    return last ++ [.text (comment1 "before DirectToLds load, ensure prior ds_reads have finished"), .text sync]
  return last

def loads (phase : Phase) : Emit Loads := do
  let k <- spec
  let t <- side isA
  if !(<- enabled s!"GlobalRead{t.char}") then return {}
  let before <- header k t phase
  if phase == .rest then return { header := before, middle := [.text (<- captured (guarded k t))] }
  let tmp <- glimpseTmp 2
  let addr <- if t.zeroPad.isEmpty then pure 0 else takeOne "addrV"
  let mut all := []
  let mut d := {}
  for x in <- loadsOf t do
    let (i, d') <- load k t x tmp addr d
    all := all ++ [i]
    d := d'
  let waits <- if (<- probes).waitsAt 1 then do
      let stores <- archCap SV
      pure ([plain ["s_barrier"] "debug", plain ["s_waitcnt", "lgkmcnt(0) & vmcnt(0)"] "conservative wait"] ++
        opt stores [plain ["s_waitcnt_vscnt", "null", "0"] "stores"] ++ [plain ["s_barrier"] "debug"])
    else pure []
  let restore <- clamp k t
  if !t.zeroPad.isEmpty then giveVec addr
  return { header := before, middle := all, footer := waits ++ restore }

end GlobalRead

end TensorForge.Assembly
