import TensorForge.Kernel.Assembly.Multiply

/-! # Definitions at the head of a kernel -/

namespace TensorForge.Assembly.Macros

open Asm Emit

def define (head body : Text) : Text := s!".macro {head}\n{body}\n.endm\n"

inductive Spelling where
  | noCarry | carry | plain

def Spelling.pick (s : Spelling) (noCarry carry plain : Text) : Text :=
  match s with
  | .noCarry => noCarry
  | .carry => carry
  | .plain => plain

def comparisons : Emit Text := do
  let writes <- archCap "CMPXWritesSGPR"
  let wave := (<- spec).waveSize
  let one := fun op kind =>
    define s!"_v_cmpx_{op}_{kind} dst, src0, src1=" <| if writes then s!"   v_cmpx_{op}_{kind} \\dst, \\src0, \\src1 "
      else s!"   v_cmp_{op}_{kind} \\dst, \\src0, \\src1\n" ++
        if wave == 64 then "   s_mov_b64 exec \\dst" else "   s_mov_b32 exec_lo \\dst"
  let kinds := ["i16", "i32", "i64", "u16", "u32", "u64"]
  let all := ["lt", "eq", "le", "gt", "ne", "lg", "ge", "o", "u"].flatMap fun op => kinds.map (one op)
  return "\n" ++ "\n".intercalate all

def macInstr : Emit Text := do
  let body <- if (<- spec).macInstr == "FMA" then do
      if <- cap "v_fmac_f32" then pure "    v_fmac_f32 \\c, \\a, \\b"
      else if <- cap "v_fma_f32" then pure "    v_fma_f32 \\c, \\a, \\b, \\c"
      else lacks "FMA"
    else if <- cap "v_mac_f32" then pure "    v_mac_f32 \\c, \\a, \\b"
    else lacks "MAC"
  return s!".macro _v_mac_f32 c:req, a:req, b:req\n{body}\n.endmacro\n"

def features : Code := do
  let co <- cap "HasExplicitCO"
  let nc <- cap "HasExplicitNC"
  let addLshl <- cap "HasAddLshl"
  let lshlOr <- cap "HasLshlOr"
  let s := if nc then Spelling.noCarry else if co then .carry else .plain
  let two := "\\src0, \\src1 \\dpp"
  let carryName := fun name => if co then s!"{name}_co_u32" else s!"{name}_u32"
  let simple := fun op sep =>
    let opNc := op.replace "_" "_nc_"
    s.pick s!"   v_{opNc} \\dst, \\src0{sep} \\src1 \\dpp" s!"   v_{op} \\dst, {two}"
      s!"   v_{op} \\dst, vcc, {two}"
  let both := fun op sep => define s!"_v_{op} dst:req, src0:req, src1:req, dpp=" (simple op sep)
  let carrying := fun op => define s!"_{op}_co_u32 dst:req, cc:req, src0:req, src1:req, dpp="
    s!"   {carryName op} \\dst, \\cc, {two}"
  let sum := "    " ++ carryName "v_add" ++ " \\dst, vcc, \\src0, \\src1"
  raw (comment3 "Asm syntax workarounds")
  raw <| "\n".intercalate [carrying "v_add", both "add_u32" "", both "add_i32" "",
    define "_v_addc_co_u32 dst:req, ccOut:req, src0:req, ccIn:req, src1:req, dpp="
      ("   " ++ s.pick "v_add_co_ci_u32" "v_addc_co_u32" "v_addc_u32" ++ " \\dst, \\ccOut, \\src0, \\ccIn, \\src1 \\dpp"),
    carrying "v_sub", both "sub_u32" ",", both "sub_i32" ",",
    define "_v_add_lshl_u32 dst:req, src0:req, src1:req, shiftCnt:req" <|
      if addLshl then "    v_add_lshl_u32 \\dst, \\src0, \\src1, \\shiftCnt"
      else sum ++ "\n    v_lshlrev_b32 \\dst, \\shiftCnt, \\dst",
    define "_v_lshl_add_u32 dst:req, src0:req, src1:req, shiftCnt:req" <|
      if addLshl then "    v_lshl_add_u32 \\dst, \\src0, \\src1, \\shiftCnt"
      else "    v_lshlrev_b32 \\dst, \\shiftCnt, \\dst\n" ++ sum,
    define "_v_lshl_or_b32 dst:req, src0:req, shiftCnt:req, src1:req" <|
      if lshlOr then "    v_lshl_or_b32 \\dst, \\src0, \\shiftCnt, \\src1"
      else "    v_lshlrev_b32 \\dst, \\shiftCnt, \\src0\n    v_or_b32 \\dst, \\dst, \\src1"]
  raw (<- comparisons)
  raw (<- macInstr)

variable (k : KernelSpec)

def magicDiv : Text :=
  let defined := fun low rest =>
    define "V_MAGIC_DIV dstIdx:req, dividend:req, magicNumber:req, magicShift:req, magicA:req"
      s!"    v_mul_hi_u32 v[\\dstIdx+1], \\dividend, \\magicNumber
    v_mul_lo_u32 v[\\dstIdx+0], \\dividend, \\{low}
    {rest}"
  comment3 "Magic div and mod functions" ++ (if k.magicDivAlg == 1 then
    defined "magicNumber" "v_lshrrev_b64 v[\\dstIdx:\\dstIdx+1], \\magicShift, v[\\dstIdx:\\dstIdx+1]"
  else if k.magicDivAlg == 2 then
    defined "magicA" "_v_add_u32 v[\\dstIdx+0], v[\\dstIdx+0], v[\\dstIdx+1]
    v_lshrrev_b32 v[\\dstIdx+0], \\magicShift, v[\\dstIdx+0]"
  else "")

structure Tensor where
  char : Text
  indices : Ints
  narrow : Bool
  packMask : Int
  mirrored : Ints
  initStrides : Bool
  input : Option Input

variable (t : Tensor)

def Tensor.stride (dim : Int) : Text := t.input.elim (outStrideRef k t.char dim) (strideRef k · dim)

inductive Role where
  | vector | scalar | mirroredSum | absent
  deriving BEq

def Tensor.role (i : Int) : Role :=
  if (t.char != "B" && i == k.idx0) || (t.char != "A" && i == k.index1) || i == k.idxUnroll then .vector
  else if k.summation.contains i then if t.mirrored.contains i then .mirroredSum else .absent
  else if k.isPacked i t.packMask then .vector
  else if !t.narrow then .scalar else .absent

/-- The offset still to be added, and whether the address can be written without adding. -/
structure Pending where
  off : Option Text := none
  direct : Bool := true

def addr0 : Text := "v[\\vgprAddr+0]"
def addr1 : Text := "v[\\vgprAddr+1]"
def tmp0 : Text := "v[\\vgprTmp+0]"
def tmp1 : Text := "v[\\vgprTmp+1]"
def tmp2 : Text := "v[\\vgprTmp+2]"

def mirroredSum (last : Text) (s : Pending) (i : Int) : Emit Pending := do
  let dest := if s.direct then addr0 else tmp0
  let name := t.char ++ k.plainChar i
  vSub dest (sizeRef k i) "1" s!"mirror {name} 1"
  vMul dest dest (t.stride k i) s!"mirror {name} 2"
  if !s.direct then vAddCo addr0 (s.off.getD addr0) tmp0 s!"accumulate {last} lower"
  return { s with direct := false }

def dimension (last : Text) (s : Pending) (d : Nat) (i : Int) : Emit Pending := do
  let c := k.idxChar i
  let mirror := t.mirrored.contains i
  check (!(k.summation.contains i && i != k.idxUnroll))
  let isVec := i == k.idx0 || i == k.index1 || i == k.idxUnroll || k.isPacked i t.packMask
  let off := if isVec then s!"v[\\vgprOffset{c}]" else s!"s[\\sgprOffset{c}]"
  if d == 0 && !t.initStrides then return { off := some off, direct := false }
  let stride := t.stride k i
  let mut adds := false
  let mut direct := s.direct
  if isVec then
    let (lo, hi) := if s.direct then (addr0, addr1) else (tmp0, tmp1)
    adds := !s.direct
    direct := false
    let mut src := off
    if mirror then
      let name := t.char ++ k.plainChar i
      emit ["_v_sub_i32", tmp0, sizeRef k i, off] s!"mirror {name} 1"
      emit ["_v_sub_i32", tmp0, tmp0, "1"] s!"mirror {name} 2"
      src := tmp0
    vMul lo stride src s!"mul d{d} lower"
    if !t.narrow then emit ["v_mul_hi_u32", hi, stride, src] s!"mul d{d} upper"
  else
    check !mirror
    if !t.narrow then
      vMov tmp2 off "sgprOffset -> vgprTmp+2"
      vMul tmp0 stride tmp2 s!"other stride mul d{d} lower"
      emit ["v_mul_hi_u32", tmp1, stride, tmp2] s!"mul d{d} upper"
      adds := true
  if adds then
    let vcc <- vcc
    vAddCo addr0 (s.off.getD addr0) tmp0 s!"accumulate {last} lower"
    if !t.narrow then
      emit ["_v_addc_co_u32", addr1, vcc, tmp1, if s.off.isSome then "0" else addr1, vcc] s!"accumulate {last} upper"
    return { off := none, direct := false }
  return { s with direct }

def globalOff : Code := do
  let k <- spec
  let bpe <- bytesAB
  let roles := t.indices.map fun i => (i, t.role k i)
  let last := k.idxChar (t.indices.getLastD 0)
  heading s!"Global Offset {t.char}"
  raw s!".macro GLOBAL_OFFSET_{t.char} vgprAddr:req"
  for (i, r) in roles do
    match r with
    | .vector => raw s!" vgprOffset{k.idxChar i}:req"
    | .scalar => raw s!" sgprOffset{k.idxChar i}:req"
    | _ => pure ()
  raw " vgprTmp:req\n"
  let mut s := {}
  for (i, r) in roles do if r == .mirroredSum then s <- mirroredSum k t last s i
  for ((i, r), d) in roles.zipIdx do if r == .vector || r == .scalar then s <- dimension k t last s d i
  if let some off := s.off then vAddCo addr0 addr0 off "accumulate final pendingOffset"
  if let some input := t.input then
    if k.bufferLoad && input.loadWidth != 0 then
      vAdd addr0 (.hex input.loadWidth) addr0 "add prepad for pointer shift"
  if t.narrow then consts (mulVec addr0 addr0 bpe "None" "offset *= bytes/element")
  else
    let pair := "v[\\vgprAddr+0:\\vgprAddr+1]"
    emit ["v_lshlrev_b64", pair, hexLog bpe, pair] "offset *= bytes/element"
  raw ".endm\n"

def globalOffs : Code := do
  let k <- spec
  if !k.bufStore then
    globalOff { char := "C", indices := upTo k.dimsC, narrow := k.bufStore, packMask := 3
                mirrored := [], initStrides := k.initStridesCD, input := none }
  for t in k.inputs do
    globalOff { char := t.char, indices := t.assigns, narrow := k.bufferLoad
                packMask := t.packBatch, mirrored := t.mirrored
                initStrides := k.initStridesAB, input := some t }

def dynamicDiv : Code := do
  let wave := (<- spec).waveSize
  let vcc <- vcc
  let mask := if wave == 32 then "s[\\sTmp]" else "s[\\sTmp:\\sTmp+1]"
  let q := "v[\\vQuotient]"
  let r := "v[\\vRemainder]"
  let n := "v[\\vDividend]"
  let d := "v[\\vDivisor]"
  let t0 := "v[\\vTmp0]"
  let t1 := "v[\\vTmp1]"
  raw (comment3 "Dynamic Scalar Divide: vQuotient=vDividend/vDivisor; vRemainder=vDividend%vDivisor;")
  raw ".macro DYNAMIC_VECTOR_DIVIDE vQuotient vRemainder vDividend vDivisor vTmp0 vTmp1 sTmp\n"
  for i in [ ["v_cvt_f32_u32", q, d], ["v_rcp_f32", q, q], ["v_mul_f32", q, "0x4f800000", q],
      ["v_cvt_u32_f32", q, q], ["v_mul_lo_u32", r, d, q], ["v_mul_hi_u32", t0, d, q],
      ["_v_sub_co_u32", t1, vcc, "0x0", r], ["v_cmp_ne_i32", mask, "0x0", t0],
      ["v_cndmask_b32", r, t1, r, mask], ["v_mul_hi_u32", r, r, q],
      ["_v_sub_co_u32", t0, vcc, q, r], ["_v_add_co_u32", q, vcc, q, r],
      ["v_cndmask_b32", q, q, t0, mask], ["v_mul_hi_u32", q, q, n], ["v_mul_lo_u32", r, q, d],
      ["_v_sub_co_u32", t0, vcc, n, r], ["v_cmp_ge_u32", mask, n, r],
      ["_v_add_co_u32", r, vcc, "0x1", q], ["_v_add_co_u32", t1, vcc, "-1", q],
      ["v_cmp_le_u32", vcc, d, t0], [s!"s_and_b{wave}", vcc, mask, vcc],
      ["v_cndmask_b32", q, q, r, vcc], ["v_cndmask_b32", q, t1, q, mask], ["v_cmp_ne_i32", vcc, "0x0", d]] do
    emit i ""
  vSelect q "-1" q vcc "final result"
  vMul r q d ""
  emit ["_v_sub_co_u32", r, vcc, n, r] "final result"
  raw ".endm\n"

end TensorForge.Assembly.Macros
