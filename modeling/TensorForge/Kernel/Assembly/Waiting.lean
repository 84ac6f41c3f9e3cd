import TensorForge.Kernel.Assembly.Layout

/-! # Checks inside a kernel and waiting for memory operations -/

namespace TensorForge.Assembly

open Asm Emit Text

namespace Checks

def savedMask : Emit Text := return sr "SaveExecMask" (<- laneRegs)
def onMask (op : Text) : Emit Text := return s!"{op}_b{(<- spec).waveSize}"

/-- Makes the kernel fault; the number can be seen afterwards. -/
def bomb (cookie : Option Int) (scratch : Int := -1) : Code := do
  let v <- if scratch == -1 then takeVec 2 else pure scratch
  if let some c := cookie then raw (if c < 0 then s!"bomb_neg{c.natAbs}:\n" else s!"bomb_{c.natAbs}:\n")
  vMov (vr v) "0" ""
  vMov (vr (v + 1)) "0" ""
  emit ["flat_load_dword", vr v, vr v 2] "bomb - force fault"
  if let some c := cookie then
    let shown := hexDigits (c % .pow 2 32).toNat
    sMov (sr 0) c s!"bomb cookie={c}(0x{shown})"
  if scratch == -1 then giveVec v

variable (cookie : Int) (val0 val1 : Text)

def fault : Code := do
  modify fun st => { st with asserts := st.asserts + 1 }
  let n : Int := (<- get).asserts
  bomb (some (if cookie != -1 then cookie else -n))

def restoreMask : Code := do emit [<- onMask "s_or_saveexec", <- vcc, <- savedMask] "assert: restore execmask"

def faultWhere (select : Code) : Code := do
  if <- asserting then
    emit [<- onMask "s_or_saveexec", <- savedMask, "0"] "assert: saved execmask"
    select
    fault cookie
    restoreMask

def compare (cond val0 val1 : Text) (cookie : Int := -1) : Code := faultWhere cookie do
  emit [s!"_v_cmpx_{cond}", <- vcc, val0, val1] "v_cmp"

def equal (cookie : Int := -1) : Code := compare "ne_u32" val0 val1 cookie

/-- The conditions under which checks by these names fail. -/
def comparisons : Pairs :=
  [("assert_eq", "ne_u32"), ("assert_eq_u16", "ne_u16"), ("assert_ne", "eq_u32"), ("assert_lt_u32", "ge_u32"),
   ("assert_gt_u32", "le_u32"), ("assert_le_u32", "gt_u32"), ("assert_ge_u32", "lt_u32"), ("assert_ge_i32", "lt_i32")]

def noShiftOf (val : Text) (shift : Int) (tmp : Text) (cookie : Int := -1) : Code := do
  sMov tmp (hex ((shift - 1) * .pow 2 (32 - roundLog2 shift.toNat))) "assert_no_shift_of - compute mask"
  emit ["s_and_b32", tmp, tmp, val] "assert_no_shift_of"
  equal tmp "0" cookie

def multiple (val : Text) (factor : Int) (cookie : Int := -1) : Code := do
  if <- asserting then
    let tmp := sr "SaveExecMask"
    let mask <- savedMask
    emit [<- onMask "s_and", tmp, val, toString (factor - 1)] "mask"
    sSame tmp "0" "if maskedBits==0 then SCC=1 == no fault"
    emit [<- onMask "s_mov", mask, "-1"] ""
    emit [<- onMask "s_cmov", mask, "0"] "Clear exec mask"
    emit [<- onMask "s_and_saveexec", mask, mask] "assert: saved execmask"
    fault cookie
    restoreMask

def masked (x : Text -> Code) : Code := do
  if <- asserting then
    let mask <- savedMask
    emit [<- onMask "s_and_saveexec", mask, mask] "assert: saved execmask"
    emit [<- onMask "s_mov", mask, "-1"] ""
    x mask
    fault cookie
    restoreMask

def scalarEqual (cookie : Int := -1) : Code := masked cookie fun mask => do
  sSame val0 val1 "cmp"
  emit [<- onMask "s_cmov", mask, "0"] "No assert if SCC=1"

def condition (expected : Bool) (cookie : Int := -1) : Code := masked cookie fun mask => do
  emit [<- onMask "s_cmov", mask, "0"] (if expected then "No assert if SCC=1" else "")
  if !expected then emit [<- onMask "s_not", mask, mask] "Assert if SCC==1"

def vecCond (expected : Bool) (cookie : Int := -1) : Code := faultWhere cookie do
  if expected then emit [<- onMask "s_mov", <- exec, <- vcc] "Predicate based on VCC"
  else emit [<- onMask "s_not", <- exec, <- vcc] "Predicate based on !VCC"

def difference (v0 v1 expected : Text) (cookie : Int := -1) : Code := do
  let v <- takeVec 1
  vAddCo (vr v) expected v0 "assert_vector_diff add expectedScalarDiff"
  equal (vr v) v1 cookie
  giveVec v

def limited (x : Code) : Code := do
  if <- flag DK then
    if (<- probes).num "DebugKernelMaxItems" != -1 then
      let after := "label_" ++ zeroPadded 4 (<- Gen.int (<- freshNum))
      let items := sr "DebugKernelItems"
      emit ["s_cmp_lt_u32", items, "16"] ""
      emit ["s_cbranch_scc0", after] "skip if already wrote enough work-items"
      sAdd items items "0x1" "inc items written"
      x
      raw s!"{after}:// skip debug target  \n"
    else x

def advance : Code := vAddCo (vr "AddressDbg") (vr "AddressDbg") "0x4" "debug dump inc"

def dump (v : Text) : Code := limited do
  emit ["flat_store_dword", vr "AddressDbg" 2, v] "debug dump store"
  advance

def dumpScalar (s : Text) : Code := limited do
  let tmp <- takeOne "tmp"
  vMov (vr tmp) s "Debug"
  emit ["flat_store_dword", vr "AddressDbg" 2, vr tmp] "debug dump sgpr store"
  advance
  giveVec tmp

def waitAll (comment : Text) : Code := do
  sWait "lgkmcnt(0) & vmcnt(0)" comment
  awaitWrites

def dumpLocal (start count : Int) : Code := do
  if <- flag DK then
    let k <- spec
    let bpe <- bytesAB
    heading "dump lds state"
    waitAll ""
    emit ["s_barrier"] "dump LDS"
    let tmp <- takeVec 1
    let addr <- takeVec 1
    vShift (vr addr) (hexLog bpe) (vr "Serial") "dump lds"
    for i in span start (start + count) do
      emit ["ds_read_b32", vr tmp, s!"{vr addr} offset:{i * k.numThreads * 4}"] "dump lds"
      waitAll "dump"
      dump (vr tmp)
    giveVecs [tmp, addr]

def fillLocal (value : Int) : Code := do
  let k <- spec
  heading "init lds state"
  waitAll ""
  emit ["s_barrier"] "init LDS"
  let tmp <- takeVec 1
  let addr <- takeVec 1
  vMov (vr tmp) (hex value) "Init value"
  let bytes : Int := k.dataType.bytes
  let writes := .fdiv (.fdiv (k.ldsNumElems * bytes - 1) k.numThreads) 4 + 1
  vShift (vr addr) "2" (vr "Serial") "set per-thread address to init LDS"
  for i in upTo writes do raw s!"ds_write_b32 {vr addr}, {vr tmp} offset:{i * k.numThreads * 4} //init lds\n"
  waitAll "wait for LDS init to complete"
  emit ["s_barrier"] "init LDS exit"
  giveVecs [tmp, addr]

end Checks

/-- Hardware without an instruction for the upper half takes it through a vector register. -/
def wideProduct (signed : Bool) (lo hi x y : Operand) (comment : Text) : Emit Instrs := do
  check (hi != x)
  check (hi != y)
  let kind := if signed then "i32" else "u32"
  if <- cap "HasSMulHi" then return [step s!"s_mul_hi_{kind}" [hi, x, y] comment, step "s_mul_i32" [lo, x, y] comment]
  let v <- takeVec 2
  giveVec v
  let factor := .vector v 1
  let half := .vector (.num (v + 1)) 1
  return [step "v_mov_b32" [factor, y] comment, step s!"v_mul_hi_{kind}" [half, factor, x] comment,
    step "v_readfirstlane_b32" [hi, half] comment, step "v_mul_lo_u32" [half, factor, x] comment,
    step "v_readfirstlane_b32" [lo, half] comment]

def product64 (signed : Bool) (lo hi x y : Operand) (comment : Text) : Code := do
  consts (.ok (<- wideProduct signed lo hi x y comment))

variable (lo hi x y : Operand)

def productU64 (first : Int) (x y comment : Text) : Code :=
  product64 false (sr first) (sr (first + 1)) x y comment

def productI64 (comment : Text) : Code := product64 true lo hi x y comment

variable (dest : Int)

def magicDivide (dividend number : Operand) (shift : Nat) : Emit Instrs := do
  let product <- wideProduct false (.scalar dest 1) (.scalar (.num (dest + 1)) 1) dividend number "s_magic mul"
  return product ++ [step "s_lshr_b64" [.scalar dest 2, .scalar dest 2, .dec shift] "sMagicDiv"]

/-- By multiplication, with an additional bit in the shift. -/
def magicDiv2 (dividend number shift : Text) : Code := do
  let tmp := sr (dest + 2)
  emit ["s_mul_hi_u32", sr (dest + 1), dividend, number] " s_magic mul, div alg 2"
  emit ["s_lshr_b32", tmp, shift, "31"] " tmpS = extract abit"
  sMul (sr dest) dividend tmp " s_magic mul, div alg 2"
  sAdd (sr dest) (sr dest) (sr (dest + 1)) ""
  emit ["s_and_b32", tmp, shift, "0x7fffffff"] " tmpS = remove abit to final shift"
  emit ["s_lshr_b32", sr dest, sr dest, tmp] " sMagicDiv Alg 2"

/-- By multiplication, with an additional bit in a register. -/
def magicDivBy (dividend tag number abit shift : Text) : Code := do
  heading s!"dst1:0 = dividend({dividend}) / magicTag({tag})"
  emit ["s_mul_hi_u32", sr (dest + 1), dividend, number] "scalar magic div (magicnum)"
  sMul (sr dest) dividend abit "scalar magic div (abit)"
  sAdd (sr dest) (sr dest) (sr (dest + 1)) "scalar magic div (combine)"
  emit ["s_lshr_b32", sr dest, sr dest, shift] s!"scalar magic div (shift), quotient in s{dest}"

def magicDivBySize (dividend tag : Text) : Code :=
  magicDivBy dest dividend s!"MagicNumberSize{tag}" (sr s!"MagicNumberSize{tag}")
    (sr s!"MagicAbitSize{tag}") (sr s!"MagicShiftSize{tag}")

def barrier (comment : Text) : Code := do
  let k <- spec
  if k.numThreads > k.waveSize && (<- enabled "Sync") then
    if <- archCap SV then emit ["s_waitcnt_lgkmcnt", "null", "0"] "extra navi wait"
    else if k.depthULdsDivisor > 1 || k.scheduleIterAlg == 2 || k.prefetchGlobalRead == 2 || k.prefetchAcross then
      raw "// Skip force waitcnt0\n"
    else if <- archCap "Waitcnt0Disabled" then sWait "lgkmcnt(0) & vmcnt(0)" "force waitcnt0"
    raw s!"s_barrier //{comment}\n"
  else raw s!"// Skip barrier: NumThreads={k.numThreads}{comment}\n"

open Asm Emit Item
namespace Access

def offBound : Int := 4096

variable (bytes : Int)

def words : Int := max 1 (bytes / 4)

def later (r : Reg) (n : Int) : Emit Reg :=
  match r with
  | .num i => pure (.num (i + n))
  | .named _ => throw .wrongKind

def tail (off : Int) (extra : Text) : Text := s!"offen offset:{off}" ++ opt (extra != "") (", " ++ extra)

/-- Single bytes are loaded from buffers only. -/
def loadName (path : Text) (hi16 : Bool) : Emit Text := do
  let size <- match bytes with
    | 1 => if path == "buffer" then pure "ubyte_d16" else throw badLoad
    | 2 => pure "short_d16"
    | 4 => pure "dword"
    | 8 => pure "dwordx2"
    | 16 => pure "dwordx4"
    | _ => throw badLoad
  return s!"{path}_load_{size}" ++ opt (hi16 && bytes < 4) "_hi"
where badLoad := .violated "chooseGlobalRead: bad bpl"

def bufRead (dest : Reg) (addr0 addr1 soffset : Text) (off : Int)
    (extra : Text) (hi16 : Bool) (comment : Text) : Emit Item := do
  let (large, soffset, fields) <- if off >= offBound then do
      check (soffset == "0") "offset too large and soffset set"
      let s <- glimpseScalar
      pure ([text (inst ["s_mov_b32", s, off] "large offset")], s, tail 0 extra)
    else pure ([], soffset, tail off extra)
  let read := fun name r count fields => instOf .globalRead [name, vr r count, addr0, addr1, soffset, fields] comment
  if bytes == 32 then
    let second <- later dest 4
    return modul "emulated buffer_load_dwordx8" [read "buffer_load_dwordx4" dest 4 fields,
       read "buffer_load_dwordx4" second 4 (tail (off + 16) extra)]
  return modul "Global Read" (large ++ [read (<- loadName bytes "buffer" hi16) dest (words bytes) fields])

def flatRead (dest : Reg) (addr extra : Text) (hi16 : Bool) (comment : Text) : Emit Item := do
  return instOf .globalRead [<- loadName bytes "flat" hi16, vr dest (words bytes), addr, extra] comment

def read (buf : Bool) (bytes : Int) (dest : Reg) (addr0 addr1 soffset : Text) (off : Int)
    (extra : Text) (hi16 : Bool) (comment : Text) : Emit Item :=
  if buf then bufRead bytes dest addr0 addr1 soffset off extra hi16 comment
  else flatRead bytes dest addr0 extra hi16 comment

def bufWrite (src : Reg) (addr0 addr1 : Text) (off : Int) (extra : Text) (hi16 : Bool) : Code := do
  let (soffset, off) <- if off >= offBound then do
      let s <- glimpseScalar
      sMov s off "large offset"
      pure (s, 0)
    else pure ("0", off)
  let write := fun name r count off =>
    emit [name, vr r count, addr0, addr1, soffset, "offen", s!"offset:{off}", extra] "store D"
  match bytes with
  | 2 => write (if hi16 then "buffer_store_short_d16_hi" else "buffer_store_short") src 1 off
  | 4 => write "buffer_store_dword" src 1 off
  | 8 => write "buffer_store_dwordx2" src 2 off
  | 16 => write "buffer_store_dwordx4" src 4 off
  | 32 =>
    write "buffer_store_dwordx4" src 4 off
    write "buffer_store_dwordx4" (<- later src 4) 4 (off + 16)
  | _ => throw (.violated "bad bps")

def flatWrite (src : Reg) (addr extra : Text) (hi16 : Bool) : Code := do
  let write := fun name value => emit [name, addr, value, extra] "store D"
  match bytes with
  | 2 =>
    if hi16 then
      let twice : Reg := match src with
        | .num n => .num (n * 2)
        | .named s => .named (s ++ s)
      write "flat_store_short_d16_hi" (vr twice)
    else write "flat_store_short" (vr src)
  | 4 => write "flat_store_dword" (vr src)
  | 8 => write "flat_store_dwordx2" (vr src 2)
  | 16 => write "flat_store_dwordx4" (vr src 4)
  | _ => throw (.violated "bad bps")

def write (buf : Bool) (bytes : Int) (src : Reg) (addr0 addr1 : Text) (off : Int)
    (extra : Text) (hi16 : Bool := false) : Code :=
  if buf then bufWrite bytes src addr0 addr1 off extra hi16 else flatWrite bytes src addr0 extra hi16

end Access

/-! ## Waiting -/

open Item

inductive WaitCode where
  /-- Counts that the schedule may still correct. -/
  | counts (w : Wait)
  | fixed (items : Items)

def WaitCode.items (w : WaitCode) (major : Int) : Items :=
  match w with
  | counts w => [w.item major]
  | fixed items => items

def loadsPerTile (t : Input) : Int :=
  t.loadsPerp * t.loadsCoal * if t.readTileParts || t.readUnrollParts then t.loadWidth else 1

def writesPerTile (t : Side) : Emit Int := do
  if t.toLds then return 0
  quotient (t.loadsPerp * t.loadsCoal * max t.writesCoalVec t.writesPerpVec) t.perWrite

variable (loads writes reads : Int)

/-- Loads, writes and reads of so many tiles may be outstanding; `-1` is no condition. -/
def waitFor (comment : Text) : Emit WaitCode := do
  if !(<- enabled "Wait") then return .fixed [text ""]
  let k <- spec
  let a <- side true
  let b <- side false
  let onWrites <- if writes > -1 then pure (writes * ((<- writesPerTile a) + (<- writesPerTile b))) else pure 0
  let onReads := if reads > -1 then reads * (a.readsPerIter + b.readsPerIter) else 0
  let onLoads := if loads > -1 then loads * (loadsPerTile a.toInput + loadsPerTile b.toInput) else 0
  let lgkmcnt := if writes > -1 || reads > -1 then onWrites + onReads else -1
  let lgkmcnt := if loads > -1 && lgkmcnt > -1 && !k.bufferLoad then lgkmcnt + onLoads else lgkmcnt
  let vmcnt := if loads > -1 then onLoads else -1
  let p <- probes
  if p.waitsAt 2 && loads != -1 || p.waitsAt 4 && writes != -1 || p.waitsAt 8 && reads != -1 then
    return .fixed (plain ["s_waitcnt", "lgkmcnt(0) & vmcnt(0)"] s!"debug {comment}" ::
      opt (<- archCap SV) [plain ["s_waitcnt_vscnt", "null", "0"] "writes"] ++
      [plain ["s_barrier"] "debug"])
  let lgkmcnt := min lgkmcnt (<- limit "MaxLgkmcnt")
  return .counts (.make lgkmcnt (min (if lgkmcnt >= 0 && vmcnt >= 0 then -1 else vmcnt) (<- limit "MaxVmcnt")) comment)

def emitWait (comment : Text) : Code := do
  raw (renderAllOnto false "" ((<- waitFor loads writes reads comment).items (<- get).isa.major))

/-!
## Accumulators

Before results of matrix instructions are stored they are copied to vector registers, in the order in which the
elements of a thread lie in the output.
-/

namespace Acc

variable (k : KernelSpec) (m : MatrixSpec)

/-- Accumulators are numbered by tile before block, and their registers by block before tile. -/
def exchanged (width blocks tiles rows : Int) : List (Int × Int) :=
  (upTo rows).flatMap fun r => (upTo tiles).flatMap fun t => (upTo blocks).flatMap fun b =>
    (upTo width).map fun i => (i + width * (b + blocks * (t + tiles * r)), i + width * (t + tiles * (b + blocks * r)))

/-- Accumulators and their registers. -/
def pairs : List (Int × Int) :=
  let outs := m.m * m.n / k.waveSize
  if m.m == 4 then (upTo (m.outVecWidth * m.waveTile0 * m.waveTile1 * m.regPerOut)).map fun i => (i, i)
  else if k.srcSwap then exchanged m.regPerOut outs m.waveTile0 m.waveTile1
  else exchanged (outs * m.regPerOut * m.bm) m.bn m.waveTile0 m.waveTile1

def source? (target : Int) : Option Int := ((pairs k m).map (·.swap)).lookup target
def imaginaryOff : Int := (pairs k m).length
def placeholder : Text := "__placeholder__"

def copy (late : Bool) (src target : Int) (what : Text) : Int × Text :=
  let dest := if late then "ValuC+" ++ placeholder else s!"ValuC+{target}"
  (target, line (joinOperands ["v_accvgpr_read_b32", vr dest, s!"acc{src}"]) s!"copy areg {what}to vreg[{target}]")

def written (l : Layout) : List (Int × Text) :=
  let d := k.dataType
  let copy := copy l.serialStore
  let perElem := l.bytesAcc / 4
  (pairs k m).flatMap fun (i, t) =>
    if !d.isComplex then [copy i t ""]
    else if d.isSingleComplex then
      [copy i (t * perElem) "(real) ", copy (i + imaginaryOff k m) (t * perElem + 1) "(imag) "]
    else []

def copies (l : Layout) : Texts :=
  (upTo (imaginaryOff k m * l.accMult)).map fun t => ((written k m l).lookup t).getD "None"

def toRegs : Code := do
  let k <- spec
  let l <- layout
  heading "Mapping of Acc register -> C Vgpr register"
  let all := copies k m l
  modify ({ · with accReads := all })
  if !l.serialStore then for c in all do raw c

end Acc

end TensorForge.Assembly
