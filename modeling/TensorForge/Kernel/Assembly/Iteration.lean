import TensorForge.Kernel.Assembly.Waiting
import TensorForge.Kernel.Assembly.Multiply

/-!
# Multiplications of an iteration

A tree whose leaves can be spread between memory operations: matrix instructions, a call of a block of
multiplications, or multiplications of single elements.
-/

namespace TensorForge.Assembly.Iteration

open Asm Emit

structure Values where
  char : Text
  (buf off joined perInput : Int)

variable (k : KernelSpec)

def valuesOf (t : Side) (buf perInput : Int) : Values :=
  let iters := k.itersPerRead t
  { char := t.char, buf := buf / iters * iters
    off := buf % iters * k.innerUnroll * perInput, joined := t.joined, perInput }

def Values.symbol (v : Values) (block u : Int) : Text :=
  let first := u / v.joined * v.joined
  s!"Valu{v.char}_X{v.buf}_I{first}+{block * v.perInput * v.joined}+{v.off}+" ++ s!"{u % v.joined * v.perInput}"

variable (m : MatrixSpec) (buf unroll : Int)

def clearRest (a b : Values) (buf unroll kReg : Int) : Emit Ints := do
  let n := m.inputPerThread
  let per := a.perInput
  let counter := if k.prefetchAcross then "TailLoopCounter" else loopCounterName k k.unrollIdx
  let tmp <- glimpseTmp 3
  let mask := sr tmp 2
  vRem 0 kReg "Serial" k.waveSize 0 tmp
  vDiv kReg 0 kReg (m.n * m.b) 0 tmp false
  vScale kReg n tmp
  emit ["v_cmp_ge_i32", mask, vr kReg, sr counter] "check K index >= Size L"
  let tiles := [(a, m.waveTileA), (b, m.waveTileB)]
  for bk in upTo per do
    for (v, count) in tiles do
      for i in upTo count do
        for u in upTo unroll do
          let r := vr s!"Valu{v.char}_X{buf}_I{u}+{i * per}+{bk}"
          vSelect r r "0x0" mask "set 0 if K_idx >= sizeL"
  if n > 1 then
    let ab <- takeVec per "abReg" (if per > 1 then 2 else 1)
    let tmpV <- takePair
    let dummy <- takeOne "dummy"
    let shift := sr (tmp + 2)
    vSub (vr kReg) (sr counter) (vr kReg) "get distance between size and k index"
    emit ["v_cmp_lt_i32", mask, vr kReg, n] "set partial 0 if distance less than input per thread"
    emit ["s_and_b32", shift, sr counter, toString (n - 1)] "get inputs for edge thread"
    sSub shift n shift "use shift to fill 0 for outside element"
    sShift shift shift (toString (roundLog2 (k.dataType.bytes * 8)))
      "use shift to fill 0 for outside element"
    for (v, count) in tiles do
      for i in upTo count do
        for u in upTo unroll do
          emit [s!"v_lshlrev_b{per * 32}", vr ab per, shift, vr (v.symbol i u) per] ""
          for bk in upTo per do
            let r := vr (v.symbol i u ++ s!"+{bk}")
            vSelect r r (vr (ab + bk)) mask ""
    return [ab, tmpV, dummy]
  return []

def complexProducts (first last : Int) (a b : Text) : Emit Items := do
  let im := Acc.imaginaryOff k m
  let ar := vr a
  let ai := vr (a ++ "+1")
  let br := vr b
  let bi := vr (b ++ "+1")
  let ccA := k.a.conj
  let ccB := k.b.conj
  let negate := fun on tag src comment => do
    if on then
      let v <- takeVec 1 tag
      pure (some v, inst ["v_sub_f32", vr v, "0", src] comment)
    else pure (none, "")
  let (r1, t0) <- negate (ccA == ccB) "negate r1" ai "Ai=-Ai"
  let (i0, t1) <- negate ccA "negate i0" ai "Ai=-Ai"
  let (i1, t2) <- negate ccB "negate i1" ar "Ar=-Ar"
  let pick := fun v dflt => v.elim dflt fun v => if v == 0 then dflt else vr v
  let sign := fun v => v.elim "" fun v => opt (v != 0) "-"
  let product := fun lead off x y comment =>
    let acc := s!"a[{first + off}:{last + off}]"
    .plain [lead ++ s!"v_mfma_f32_{m.m}x{m.n}x{m.k}f32 {acc}, {x}, {y}, {acc}"] comment
  let items :=
    [product (t0 ++ t1 ++ t2) 0 ar br "Cr += Ar*Br", product "" 0 (pick r1 ai) bi s!"Cr += {sign r1}Ai*Bi",
     product "" im (pick i0 ai) br s!"Ci += {sign i0}Ai*Br", product "" im (pick i1 ar) bi s!"Ci += {sign i1}Ar*Bi"]
  for v in [r1, i0, i1] do if let some v := v then giveVec v
  return items

def matrix (tail : Bool := false) : Emit Item := do
  let k <- spec
  let d := k.dataType
  let sideA <- side true
  let sideB <- side false
  let per := m.inputPerThread * d.bytes / 4
  let a := valuesOf k sideA buf per
  let b := valuesOf k sideB buf per
  let all := m.m * m.n * m.b * if d.isDouble then 2 else 1
  let straight := k.b.tile01 != 0
  let clears := tail && m.k > 1
  let kReg <- if clears then some <$> takeOne "kReg" else pure none
  let (shifts, taken) <- kReg.elim (pure ("", [])) fun r => capturing (clearRest k m a b buf unroll r)
  let mut items := [.text (opt (clears || (d.bytes < 4 && (!sideA.unrollMajor || !sideB.unrollMajor))) "s_nop 1\n")]
  for u in upTo unroll do
    for i1 in upTo m.waveTile1 do
      for i0 in upTo m.waveTile0 do
        let acc := i1 * m.waveTile0 + i0
        let first := acc * all / k.waveSize
        let last := .tdiv ((acc + 1) * all - k.waveSize) k.waveSize
        let symbolA := a.symbol (if straight then i0 else i1) u
        let symbolB := b.symbol (if straight then i1 else i0) u
        if d.isSingleComplex then items := items ++ (<- complexProducts k m first last symbolA symbolB)
        else
          let x := vr symbolA per
          let y := vr symbolB per
          let (x, y) := if straight != k.srcSwap then (x, y) else (y, x)
          let file := if m.useAccVgpr then "a" else "v"
          let out := s!"{file}[{first}:{last}]"
          let wide := opt m.wideBfloat "_1k"
          items := items ++ [.text (s!"v_mfma_{d.traits.accumulator}_{m.m}x{m.n}x{m.k}" ++
            s!"{d.traits.abbreviation}{wide} {out}, {x}, {y}, {out}\n")]
  if let some r := kReg then giveVec r
  for v in taken do giveVec v
  let before := opt (shifts != "") [.text shifts]
  return .modul "mfmaCode" [.modul "shiftK" before, .modul "mi" items]

/-- What the last, odd step of the summation leaves over. -/
def removeExtra : Code := do
  let n := k.dotLayout - 1
  let tmp <- glimpseScalar
  sSame (loopCounter k k.unrollIdx) (.hex n) s!"leftover L == {n}?"
  sShift tmp "scc" (hexLog ((<- layout).bytesAB * 8)) "shift lenghth for remove unused unroll"
  for (c, tile) in [("A", k.threadTile0), ("B", k.threadTile1)] do
    for block in upTo (tile / 2) do
      for u in upTo k.innerUnroll do
        let r := vr s!"Valu{c}_X0_I{u}+{block}"
        vShift r tmp r "remove unused unroll"

def call (tail : Bool := false) : Emit Item := do
  let k <- spec
  let name := s!"macIter_X{buf}_I{unroll}"
  if !(<- enabled "MAC") then return .modul name []
  let extra <- if tail && k.innerUnroll == 2 && k.dotLayout == 2 && k.assertSum % k.dotLayout != 0 then do
      pure [.text (<- captured (removeExtra k))]
    else pure []
  let aligned := opt k.dataType.isHalf [.plain [".align32 8, 0xbf800001"] "align v_pk_fma"]
  let block := s!"MAC_{k.threadTile0}x{k.threadTile1}_X{buf}"
  let block := if k.innerUnroll > 1 && unroll == 1 then block ++ "_OneIUI" else block
  return .modul name (extra ++ aligned ++ [.text block])

def siteTable : Table :=
  [(TT0, k.threadTile0), (LDL, k.dotLayout), (PT, .dict [(DT, .dataType k.dataType), (HPA, k.highPrec)])]

/-- Some multiplications have no text, which matters only where they are put to paper. -/
structure Singles where
  items : Items := []
  unwritable : Option (Text × Fault) := none

def textOrFault (x : Gen Text) : Emit (Except (Text × Fault) Text) := do
  let st <- get
  match x { st.session with log := "" } with
  | .ok text s =>
    set { st with session := { s with log := st.session.log ++ s.log } }
    return .ok text
  | .error f s => return .error (s.log, f)

def single : Emit Singles := do
  let k <- spec
  if !(<- enabled "MAC") then return { items := [.text ""] }
  let d := k.dataType
  let isa <- Gen.setting CISA
  let halves := d.isNarrow
  let whole := d.isInt8x4 || d.isSingle || d.isDouble || d.isComplex
  if !halves && !whole then Gen.fatal s!"Assembly doesn't support {d.char}"
  let (n0, n1) := if halves then (k.threadTile0 / 2, k.threadTile1 / 2) else (k.threadTile0, k.threadTile1)
  let aggressive := k.perfMode != 0
  let mut items := opt d.isHalf [.plain [".align32 8, 0xbf800001"] "align v_pk_fma"]
  let mut index := 0
  let mut unwritable := none
  for b in upTo n1 do
    for a in upTo n0 do
      let text <- match <- textOrFault (Accumulate.macText { isa, kernel := siteTable k, a, b, buf, unroll }) with
        | .ok text => pure text
        | .error e =>
          unwritable := unwritable <|> some e
          pure ""
      items := items ++ [.inst .mac text]
      if aggressive && index == 0 then
        items := items ++ [.plain ["s_setprio ", "1"] "Raise priority while processing macs"]
      if d.isSingle then
        if index == k.perfWaitLoc then throw .wrongKind
        if index == k.perfSyncLoc then
          items := items ++ [.plain ["s_barrier "] "extra barrier for performance"]
      index := index + 1
  if aggressive && index > 0 then items := items ++ [.plain ["s_setprio ", "0"] "Reset priority after macs"]
  return { items, unwritable }

end TensorForge.Assembly.Iteration
