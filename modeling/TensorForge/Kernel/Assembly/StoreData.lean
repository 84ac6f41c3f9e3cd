import TensorForge.Kernel.Assembly.StorePlan

/-!
# Values of stored vectors

Scaling of sums, addition of the old output, conversion, and the stores: to global memory, or to local memory first
when results are rearranged there.
-/

namespace TensorForge.Assembly

open Access Asm Emit OutIdx StoreAddr

namespace StoreData

def sumReg (i : Int) (count : Int := 1) : Text := vr s!"ValuC+{i}" count

def awaitAll (text : Text) : Code := do
  sWait "vmcnt(0)" text
  awaitWrites

def probe (i tmp : Int) (serial : Bool) : Code := do
  let p <- probes
  let expected := (p.value "ValueCExpectedValue").shown
  if p.on "ForceExpectedValue" then vMov (sumReg i) expected "force expected value"
  if serial && p.on "ForceVSerial" then vMov (sumReg i) (vr "Serial") "force expected value to serial"
  if p.on "CheckValueC" then
    sMov (sr tmp) expected "Move expected value"
    Checks.equal (sumReg i) (sr tmp)

def mac (d x y : Text) : Text -> Code := emit ["_v_mac_f32", d, x, y]

variable (p : StorePlan) (s : Slot) (tmp : Int)

/-- Replaces or compares the sums by what is expected. -/
def probeAll : Code := do
  let x <- spec
  let c := x.computeType
  if c.isInt32 || c.isSingle || c.isHalf && x.highPrec then for v in upTo p.width do probe (s.sum + v) tmp true

def scaleOne (x : ProblemSpec) (s : Slot) (v tmp : Int) : Code := do
  let c := x.computeType
  let i := s.sum + v
  let alpha := sr "Alpha"
  if c.isHalf && !x.highPrec then
    if i % 2 != 0 then emit ["v_pk_mul_f16", sumReg (i / 2), alpha, sumReg (i / 2)] s!"*= alpha sumIdx={s.sum} vi={v}"
  else if c.isHalf || c.isSingle then
    emit ["v_mul_f32", sumReg i, alpha, sumReg i] "*= alpha"
    probe i tmp true
  else if c.isInt32 then
    vMul (sumReg i) alpha (sumReg i) "*= alpha"
    probe i tmp false
  else if c.isDouble then emit ["v_mul_f64", sumReg (i * 2) 2, sr "Alpha" 2, sumReg (i * 2) 2] "*= alpha"
  else if c.isSingleComplex then
    let t <- takeVec 1
    let (re, im) := (sumReg (i * 2), sumReg (i * 2 + 1))
    vMov (vr t) re "store Cr"
    emit ["v_mul_f32", re, alpha, re] "*= alpha ( Cr = Ar * Cr)"
    mac re ("-" ++ sr "Alpha+1") im "*= alpha ( Cr += -Ai * Ci )"
    emit ["v_mul_f32", im, alpha, im] "*= alpha ( Ci = Ar * Ci)"
    mac im (sr "Alpha+1") (vr t) "*= alpha ( Ci += Ai * Cr_backup )"
    giveVec t
  else if c.isDoubleComplex then
    let t1 <- takeVec 2 "_untagged_" 2
    let t2 <- takeVec 2 "_untagged_" 2
    let (re, im) := (sumReg (i * 4) 2, sumReg (i * 4 + 2) 2)
    let (a0, a2) := (sr "Alpha+0" 2, sr "Alpha+2" 2)
    emit ["v_mul_f64", vr t1 2, a0, re] ""
    emit ["v_mul_f64", vr t2 2, a2, re] ""
    raw s!"v_fma_f64 {re}, {a2}, -{im}, {vr t1 2}\n"
    raw s!"v_fma_f64 {im}, {a0}, {im}, {vr t2 2}\n"
    giveVecs [t1, t2]

def scale : Code := do
  let k <- spec
  if !k.manyBufs && (<- enabled "ApplyAlpha") then for v in upTo p.width do scaleOne k.problem s v tmp

def addrOf (tc : Text) : Emit (Text × Text) := do
  if (<- spec).bufStore then return (vr s.addr, sr s!"Srd{tc}" 4)
  return (vr s.addr 2, "")

def readOld : Code := do
  let k <- spec
  let d := k.destType
  let (addr0, addr1) <- addrOf s "C"
  nextRow p s "C" tmp
  if d.isNarrow || d.isInt32 || d.isSingle || d.isDouble || d.isSingleComplex || d.isDoubleComplex then
    raw (<- read k.bufStore (d.bytes * p.width) s.data addr0 addr1 "0" s.globalOff ""
      (d.isHalf && s.elem.vc0 % 2 != 0) "load C for beta calc").render

/-- The old value times the second factor; `mask` is for narrow values. -/
def addOne (n : Nat) (v tmpV : Int) (mask : Option Int) : Code := do
  let x <- spec
  let d := x.destType
  let data := p.dataAt s.data v
  let i := s.sum + v
  let beta := sr "Beta"
  let final := "finalSum = sum*alpha + C*beta"
  if d.isHalf then
    if !x.highPrec then
      if i % 2 == 0 then
        emit ["v_pk_mul_f16", vr data, beta, vr data] s!"{vr data} = C*beta ei={n} vi={v}"
        emit ["v_pk_add_f16", sumReg (i / 2), vr data, sumReg (i / 2)] "sum*alpha + C*beta"
    else
      let hi := (v + p.width * s.elem.vc0) % 2
      emit [(<- layout).mixInstr, sumReg i, beta, vr (s.data + v / 2), sumReg i,
        s!"op_sel:[0,{hi},0] op_sel_hi:[0,1,0]"] "//C*=beta"
  else if d.isBFloat16 then
    if x.highPrec then
      let old := vr (s.data + v / 2)
      if v % 2 == 1 then vAnd (vr tmpV) old (vr (<- mask.getDM (throw .unbound))) "convert bf16 to fp32"
      else vShift (vr tmpV) "16" old "convert bf16 to fp32"
      mac (sumReg i) (vr tmpV) beta final
  else if d.isSingle then mac (sumReg i) (vr data) beta final
  else if d.isInt32 then
    vMul (vr data) beta (vr data) "C = C*beta"
    vAdd (sumReg i) (vr data) (sumReg i) final
  else if d.isDouble then emit ["v_fma_f64", sumReg (i * 2) 2, vr data 2, sr "Beta" 2, sumReg (i * 2) 2] final
  else if d.isSingleComplex then
    let (re, im) := (sumReg (i * 2), sumReg (i * 2 + 1))
    mac re (vr data) beta "finalSum Cr += old Cr * Br"
    mac re (vr (data + 1)) ("-" ++ sr "Beta+1") "finalSum Cr += old Ci * -Bi"
    mac im (vr (data + 1)) beta "finalSum Ci += old Ci * Br"
    mac im (vr data) (sr "Beta+1") "finalSum Ci += old Cr * Bi"
  else if d.isDoubleComplex then
    let (re, im) := (sumReg (i * 4) 2, sumReg (i * 4 + 2) 2)
    let (b0, b2) := (sr "Beta+0" 2, sr "Beta+2" 2)
    raw s!"v_fma_f64 {re}, {vr data 2}, {b0}, {re}\n"
    raw s!"v_fma_f64 {re}, {vr (data + 2) 2}, -{b2}, {re}\n"
    raw s!"v_fma_f64 {im}, {vr data 2}, {b2}, {im}\n"
    raw s!"v_fma_f64 {im}, {vr (data + 2) 2}, {b0}, {im}\n"

def addOld (n : Nat) (tmpV : Int) (mask : Option Int) : Code := for v in upTo p.width do addOne p s n v tmpV mask

/-- To the type of the output; `tmp4` are four registers for narrow values. -/
def convert (p : StorePlan) (s : Slot) (tmp : Int) (tmp4 : Option Int) : Code := do
  let k <- spec
  let d := k.destType
  if !k.highPrec || k.manyBufs then return
  for v in upTo p.width do
    let i := s.sum + v
    if d.isHalf then
      emit ["v_cvt_f16_f32", sumReg i, sumReg i] "convert C to fp16"
      if v % 2 == 1 then
        check (p.width % 2 == 0)
        emit ["v_pack_b32_f16", vr (s.sum + v / 2), sumReg (i - 1), sumReg i] "Pack with neighbor"
    else if d.isBFloat16 then
      let t <- tmp4.getDM (throw .unbound)
      let nan := sr tmp (<- laneRegs)
      emit ["v_cmp_u_f32", nan, sumReg i, sumReg i] "check Nan"
      emit ["v_bfe_u32", vr t, sumReg i, "16", "1"] "Non-Nan case: store lsb of bf16"
      emit ["v_add3_u32", vr t, sumReg i, vr t, vr (t + 3)]
        "Non-Nan case: add lsb and the increment for rounding"
      vSelect (sumReg i) (vr t) (vr (t + 2)) nan ""
      if v % 2 == 0 then emit ["v_lshrrev_b32", sumReg i, "16", sumReg i] "convert C to bf16"
      else
        emit ["v_and_or_b32", vr (s.sum + v / 2), sumReg i, vr (t + 1), sumReg (i - 1)]
          "pack two bf16 to dword"

variable (k : KernelSpec)

def cacheFields : Text := opt (k.nonTemporalC % 2 == 1) " glc" ++ opt (k.nonTemporalC / 2 == 1) " slc"

/-- Where the result stands, and whether in the upper half of its register. -/
def resultReg (s : Slot) : Option (Int × Bool) :=
  let d := k.destType
  if d.isNarrow && !k.highPrec then some (s.sum / 2, s.sum % 2 != 0)
  else if d.isNarrow || d.isInt32 || d.isSingle then some (s.sum, false)
  else if d.isDouble || d.isSingleComplex then some (s.sum * 2, false)
  else if d.isDoubleComplex then some (s.sum * 4, false)
  else none

def store : Code := do
  let k <- spec
  if !(<- enabled "GlobalWrite") then return
  let bytes := (<- layout).bytesOut * p.width
  let (addr0, addr1) <- addrOf s "D"
  nextRow p s "D" tmp
  if let some (src, hi16) := resultReg k s then
    write k.bufStore bytes src addr0 addr1 s.globalOff (cacheFields k) hi16

def remapRegs : Emit RemapRegs := do (<- output).remap.getDM (throw .noField)

def localOp (op : Text) (bytes : Int) (sizes : Ints) : Emit Text := do
  check (sizes.contains bytes) "StoreRemap: bad bps!"
  return s!"ds_{op}_b{bytes * 8}"

def remapWrite : Code := do
  let l <- layout
  let r <- remapRegs
  let bytes := l.bytesOut * p.width
  emit [<- localOp "write" bytes [2, 4, 8, 16], vr r.write, vr (s.sum * (l.bytesAcc / 4)) (words bytes), s!"offset:{s.off0 * l.bytesOut}"] "storeRemap lw"

def remapRow (tmpV tmp : Int) : Code := do
  if p.rowByDesc && s.rowInc != 0 then
    let r <- remapRegs
    heading "StoreRemap: shift coord1 address"
    nextRow p s "D" tmp
    vMov (vr tmpV) s.rowInc "set shift rows"
    vAdd (vr r.coord1) (vr r.coord1) (vr tmpV) "shift storeRemap coord1"

def awaitRead (left : Int) : Code := sWait s!"lgkmcnt({min (left - 1) 15})" "wait for LDS read"

def remapFull (r : RemapRegs) (regs : Ints) (count width addr : Int) : Code := do
  let bytes := (<- layout).bytesOut
  for (reg, i) in regs.zipIdx do
    if i == 0 then vMov (vr addr) (vr r.column) "coord1"
    else vAdd (vr addr) (vr r.column) (toString (r.columns * i)) "coord1 += nColPerLoad"
    vMul (vr addr) (vr addr) (colStride k "D") "coord1 offset =  coord1 * StrideD"
    vAddShift (vr addr) (vr addr) (vr r.coord0) (hexLog bytes) "global write D address"
    awaitRead ((count - i * width) / width)
    write true (bytes * width) reg (vr addr) (sr "SrdD" 4) 0 (cacheFields k)

def remapEdge (r : RemapRegs) (regs : Ints) (count width addr tmpV tmp : Int) : Code := do
  let bytes := (<- layout).bytesOut
  let lanes <- laneRegs
  let (in0, in1) := (sr tmp lanes, sr (tmp + lanes) lanes)
  let part := min k.assertFree0 width
  for (reg, i) in regs.zipIdx do
    for v in multiplesBelow width part do
      if v == 0 then awaitRead ((count - i * width) / width)
      let step := toString (r.columns * i)
      vAdd (vr (tmpV + 1)) (vr r.coord1) step "coord1 += nColPerLoad"
      vAdd (vr tmpV) (vr r.coord0) v "coord0 += element index of load vector"
      vAdd (vr addr) (vr r.column) step "offset coord1 += nColPerLoad"
      emit ["v_cmp_lt_u32", in0, vr tmpV, sizeBound k 0] "coord0 < size0"
      emit ["v_cmp_lt_u32", in1, vr (tmpV + 1), sizeBound k 1] "coord1 < size1"
      emit [s!"s_and_b{k.waveSize}", in1, in0, in1] "in0 && in1"
      vMul (vr addr) (vr addr) (colStride k "D") "coord1 element offset =  coord1 * StrideD"
      vAddShift (vr addr) (vr addr) (vr tmpV) (hexLog bytes) "scale to BPE"
      vSelect (vr addr) "-1" (vr addr) in1 "clip if OOB. offset"
      let src := reg + v * bytes / 4
      let total := bytes * part
      write true (if total == 2 then bytes else total) src (vr addr) (sr "SrdD" 4) 0 (cacheFields k)
        (total == 2 && v % 2 != 0)

/-- Reads rearranged results from local memory and stores them; says how many stores there are. -/
def remapStore (tmpV tmp : Int) : Emit Nat := do
  let k <- spec
  let m <- k.matrix.getDM (throw (.missingKey MIWG))
  let r <- remapRegs
  let bytes := (<- layout).bytesOut
  let width := k.remapWidth
  sWait "lgkmcnt(0)" "wait for LDS write"
  if m.waveGroup0 > 1 then raw "s_barrier //wait all lds write finished\n"
  raw "\n"
  let count <- quotient (<- quotient (k.macroTile0 * m.n) m.waveGroup0) k.waveSize
  let total := bytes * width
  let n := total / 4
  let regs <- (multiplesBelow count width).mapM fun _ => takeVec n "store element d" n
  for (reg, i) in regs.zipIdx do
    emit [<- localOp "read" total [4, 8, 16], vr reg n, vr r.read, s!"offset:{r.stride * bytes * i}"] "storeRemap lr"
  raw "\n"
  let addr <- takeOne "SR Store temp addr0"
  if !p.edge then remapFull k r regs count width addr else remapEdge k r regs count width addr tmpV tmp
  raw "\n"
  giveVec addr
  giveVecs regs
  if m.waveGroup0 > 1 then raw "s_barrier //wait all lds read finished\n"
  return regs.length * if p.edge then (multiplesBelow width (min k.assertFree0 width)).length else 1

def verify (slots : List Slot) (tmp value : Int) : Code := do
  let k <- spec
  let d := k.destType
  let text := "CheckStoreC, wait for stores to complete"
  awaitAll text
  for s in slots do
    let (addr0, addr1) <- addrOf s "C"
    if let some (dest, hi16) := resultReg k s then
      raw (<- read k.bufStore (d.bytes * p.width) dest addr0 addr1 "0" 0 "" hi16 "load C").render
  awaitAll text
  sMov (sr tmp) value "expected value"
  for s in slots do
    check (d.isSingle || d.isInt32)
    Checks.equal (vr s.sum) (sr tmp)

end StoreData

/-!
## Atomic stores

Work groups that share an output element add to it with an atomic addition, or with a loop that compares and swaps
until no thread is left.
-/

namespace StoreAtomic

structure Batch where
  plan : StorePlan
  slots : List Slot
  (unit tmp : Int)

variable (b : Batch)

def steps : Emit Ints := return upTo (<- quotient b.plan.width b.unit)
def onMask (op : Text) : Emit Text := return s!"{op}_b{(<- spec).waveSize}"
def maskReg (i : Int) : Emit Text := return sr i (<- laneRegs)
def activate (operand text : Text) : Code := do emit [<- onMask "s_mov", <- exec, operand] text

variable (s : Slot)

def readOld : Code := do
  let k <- spec
  let bytes := (<- layout).bytesOut * b.unit
  let (addr0, addr1) <- StoreData.addrOf s "D"
  for i in <- steps b do
    raw (<- read k.bufStore bytes (b.plan.dataAt s.data i + bytes / 4) addr0 addr1 "0" s.globalOff "" false
      s!"load D (atomic) bpm={bytes} vaw={b.unit}").render

def add (dest old sum text : Text) : Code := do
  let k <- spec
  let d := k.dataType
  if d.isBFloat16 && !k.usesBufs then return
  let op := if d.isSingle || d.isNarrow && k.usesBufs then "v_add_f32"
    else if d.isHalf then if k.highPrec then "v_mad_mix need madmix bozo" else "v_pk_add_f16"
    else if d.isInt8x4 || d.isInt8 then "_v_add_i32" else "v_add_f64"
  emit [op, dest, old, sum] text

def addStep (i data : Int) (text : Text) : Code := do
  let k <- spec
  let d := k.destType
  let n := if d.isDouble then 2 else 1
  let sum := s.sum + i
  let sum := if d.bytes < 4 && !k.usesBufs then sum / 2 else sum
  let old := data + (<- layout).bytesOut * b.unit / 4
  add (vr data n) (vr old n) (StoreData.sumReg (if d.isDouble then sum * 2 else sum) n) text

def resultOf (data : Int) : Emit Int := return if (<- spec).bufStore then data else data + 2

def swap (data : Int) (text flatText : Text) : Code := do
  let k <- spec
  if k.bufStore then
    let double := k.destType.isDouble
    let name := if double then "buffer_atomic_cmpswap_x2" else "buffer_atomic_cmpswap"
    let value := vr data (if double then 4 else 2)
    let buf := sr "SrdD" 4
    raw s!"{name} {value}, {vr s.addr}, {buf} 0 offen offset:{s.globalOff} glc    // {text}\n"
  else
    let result <- resultOf data
    raw s!"flat_atomic_cmpswap {vr result}, {vr s.addr 2}, {vr data 2} glc    // {flatText}\n"

def isDouble : Emit Bool := return (<- spec).destType.isDouble

def differs (dest : Text) (first second : Int) (text : Text) : Code := do
  let n := if <- isDouble then 2 else 1
  emit [s!"v_cmp_ne_u{n * 32}", dest, vr first n, vr second n] text

def compared (op : Text) : Text := s!"c read during atomic {op} c read during prior load"

def issueFirst (x : Slot -> Int -> Code) : Code := do
  heading "issue first atomic writes"
  for s in b.slots do
    if b.plan.edge then activate (<- maskReg s.mask) "sgprs -> exec (before atomic)"
    for i in <- steps b do x s i

def additions : Code := do
  issueFirst b fun s i => do
    if (<- enabled "GlobalWrite") && (<- spec).bufStore then
      let value := StoreData.sumReg (s.sum + i)
      let buf := sr "SrdD" 4
      raw (s!"buffer_atomic_add_f32 {value}, {vr s.addr}, {buf}, 0 offen offset:{s.globalOff}" ++
        s!"    // attempt write avi={i}\n")
  if b.plan.edge then activate "-1" "full mask -> exec"

def attempt (b : Batch) : Code := do
  StoreData.awaitAll "wait C (atomic)"
  issueFirst b fun s i => do
    let data := b.plan.dataAt s.data i
    addStep b s i data s!"desired value avi={i}"
    if <- enabled "GlobalWrite" then swap s data s!"attempt write avi={i}" "attempt write"
    else vMov (vr (<- resultOf data)) (vr (data + 1)) "Fake successful CAS"

def awaitSwaps : Code := do
  emit ["s_waitcnt vmcnt(0)"] "wait for atomic writes"
  awaitWrites

def checkFirst : Code := do
  let k <- spec
  let double <- isDouble
  let old := fun data => if double then data + 2 else data + 1
  let tmp1 <- maskReg b.tmp
  let tmp2 <- maskReg (b.tmp + (<- laneRegs))
  heading "check success of writes, update masks"
  for s in b.slots do
    let mask <- maskReg s.mask
    if b.plan.edge then
      activate mask "sgprs -> exec"
      for i in <- steps b do
        let data := b.plan.dataAt s.data i
        let result <- resultOf data
        if i == 0 then
          differs tmp1 result (old data) (compared "==" ++ s!" (avi={i}, first)")
        else
          differs tmp2 result (old data) (if double then compared "!=" else compared "==" ++ s!" (avi={i})")
          emit [<- onMask "s_or", tmp1, tmp1, tmp2] "combine with tmp mask"
      if k.disableAtomicFail then emit [<- onMask "s_mov", mask, "0"] "DisableAtomicFail, force 0"
      else emit [<- onMask "s_and", mask, tmp1, mask] "inBounds & must try again"
    else
      for i in <- steps b do
        let data := b.plan.dataAt s.data i
        let result <- resultOf data
        if k.disableAtomicFail then emit [<- onMask "s_mov", mask, "0"] "DisableAtomicFail, force 0"
        else differs mask result (old data) (compared "!=")

def activateLeft : Code := do
  let tmp1 <- maskReg b.tmp
  let tmp2 <- maskReg (b.tmp + (<- laneRegs))
  heading "or masks to check for exit"
  emit [<- onMask "s_mov", tmp1, .hex 0] "empty mask"
  for s in b.slots do emit [<- onMask "s_or", tmp1, <- maskReg s.mask, tmp1] "or to add threads"
  emit [<- onMask "s_or_saveexec", tmp2, tmp1] "apply combined mask"

def retry : Code := do
  let double <- isDouble
  heading "apply updated masks and issue writes again"
  for s in b.slots do
    for i in <- steps b do
      let data := b.plan.dataAt s.data i
      let result <- resultOf data
      activate (<- maskReg s.mask) "must try again"
      if double then
        vMov (vr (data + 2)) (vr result) "dataV+2 = tmp (new original C)"
        vMov (vr (data + 3)) (vr (result + 1)) "dataV+3 = tmp (new original C)"
      else vMov (vr (data + 1)) (vr result) "dataV+1 = tmp (new original C)"
      addStep b s i data "newC = rC + originalC"
      if <- enabled "GlobalWrite" then swap s data "try again" "try again"

def checkAgain : Code := do
  let tmp1 <- maskReg b.tmp
  heading "apply masks and check for success"
  for s in b.slots do
    let mask <- maskReg s.mask
    for i in <- steps b do
      let result <- resultOf (b.plan.dataAt s.data i)
      activate mask "must try again"
      if <- isDouble then differs tmp1 (s.data + 2) result (compared "!=")
      else differs tmp1 (s.data + 1) result (compared "==")
      emit [<- onMask "s_and", mask, tmp1, mask] "inBounds & must try again"

def store : Code := do
  let p := b.plan
  let e := b.slots.head?.elim default (·.elem)
  let name := "Global_Write" ++ opt p.beta " Beta" ++ opt p.edge " Edge" ++ s!"_vc={e.vc0},{e.vc1}_d={e.d0},{e.d1}"
  let again <- label name
  let done <- label (name ++ "EarlyExit")
  if (<- layout).useAtomicAdd then additions b
  else
    attempt b
    awaitSwaps
    checkFirst b
    activateLeft b
    emit ["s_cbranch_execz", done] "if exec is zero skip loop"
    heading "atomic CAS loop"
    raw (again ++ ":\n")
    retry b
    awaitSwaps
    checkAgain b
    activateLeft b
    emit ["s_cbranch_execnz", again] "try again if not complete"
    raw (done ++ ":\n")
    activate "-1" "full mask -> exec"

end StoreAtomic

end TensorForge.Assembly
