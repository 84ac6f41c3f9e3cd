import TensorForge.Kernel.Assembly.GlobalAddress
import TensorForge.Kernel.Assembly.LocalAddress

/-!
# Writing to local memory

One module for each load, so that writes can be scheduled as soon as their load has arrived.
-/

namespace TensorForge.Assembly.LocalWrite

open Asm Emit GlobalAddr LocalAddr

structure Place where
  (perp para sPerp sPara : Int)

variable (k : KernelSpec) (t : Side)

/-- In bytes, with the number of the load that it takes from and a comment. -/
def offOf (bpe : Int) (x : Place) (count : Int) : Emit (Int × Int × Text) := do
  let ldl := k.dotLayout
  let low := fun n => n % ldl
  let wide := t.macroTile >= k.subGroup0 * k.subGroup1 * t.loadWidth
  let (perpHigh, perpLow) := if ldl > 1 && wide then (x.perp - low x.perp, low x.perp) else (x.perp, 0)
  check (x.sPerp == 0 || x.sPara == 0)
  let vectors <- quotient t.readsCoalVec t.perRead
  let stride := (if t.unrollMajor then k.depthULds else t.macroTile) + t.rowPad
  let nrc := t.loadsCoal
  let (elems, index) := if t.tlu != t.unrollMajor then
      let rem := (x.sPerp - low x.sPerp) / .pow 2 (roundLog2 ldl.toNat)
      ((perpHigh * t.lsp + low x.sPerp) * stride + rem * ldl + perpLow + (x.para * t.lsc + x.sPara),
       if ldl > 1 then count else x.sPara + vectors * (x.para + nrc * (x.sPerp + t.readsPerpVec * perpHigh)))
    else
      ((x.para * t.lsc + (x.sPara - low x.sPara)) * stride + low x.sPara + (perpHigh * t.lsp + x.sPerp),
       x.sPara + vectors * (x.para * t.loadWidth + nrc * (x.sPerp + t.loadWidth * t.readsPerpVec * x.perp)))
  let bytes := elems * bpe
  let bytes := if t.ldsBlockPerPad != 0 && t.ldsPad != 0 then
      bytes + bytes / t.ldsBlockPerPad * t.ldsPad * bpe else bytes
  let bytes := bytes + t.writeSwap
  let tileLead := opt t.writeTileParts s!"{x.sPara} + "
  let unrollLead := opt t.writeUnrollParts s!"{x.sPerp} + "
  let text := s!"lwo{t.char}_{x.para}_{x.sPara}_{x.perp}_{x.sPerp} = ({tileLead}{x.para}*LSC{t.char})" ++
    opt (!t.tlu) s!"*(MT{t.tileChar}+PAD)" ++ s!" + ({unrollLead}{x.perp}*LSP{t.char})" ++
    opt t.tlu s!"(*MT{t.tileChar}+PAD)" ++ s!" = {bytes}"
  return (bytes, index, text)

def waitMark : Text := "s_waitcnt vmcnt(next)\n"

/-- Registers for the upper bytes of pairs, by the pair's register. -/
structure Shifted where
  next : Int
  taken : List (Int × Int) := []

def Shifted.get (s : Shifted) (t : Side) (src : Int) : Int × Items × Shifted :=
  match s.taken.find? (·.1 == src) with
  | some (_, r) => (r, [], s)
  | none =>
    let v := vr s.next
    (s.next, [.plain ["v_mov_b32", v, vr s!"G2L{t.char}+{src}"] "Temp VGPR storing lshr 8-bit value",
       .plain ["v_lshrrev_b32", v, "0x8", v] "G2L Vpgr >> 8"],
      { next := s.next + 1, taken := (src, s.next) :: s.taken })

def dataOf (src : Int) : Text :=
  let name := s!"G2L{t.char}+{src}"
  let bytes := t.localWrite.blockBytes
  if bytes < 4 then s!"v[vgpr{name}:vgpr{name}+0]" else vr name (bytes / 4 : Nat)

/-- `n` numbers the components of a load, `perp` the loads across. -/
def write (part : Option Int) (addr : Reg) (x : Place) (n count : Int) (s : Shifted) : Emit (Items × Shifted) := do
  let bpe <- bytesAB
  let p <- probes
  let width : Int := t.localWrite.blockBytes
  let (off, index, text) <- offOf k t bpe x count
  let src := part.elim (index * width / 4) fun u => (index * k.depthULdsDivisor + u) * width / 4
  let (high, shift, s) := if width == 1 then s.get t src else (0, [], s)
  let value := if width == 1 && n % 2 == 1 then vr high else dataOf t src
  let force := opt (p.on s!"ForceInputValue{t.char}")
    [.plain ["v_mov_b32", vr s!"G2L{t.char}+{src}", (p.value s!"ForceValue{t.char}").shown] "ForceInputValue"]
  let d := k.dataType
  let upper := if d.isNarrow then n % 2 == 1 || (t.loadWidth == 1 && x.perp % 2 == 1) else d.isInt8 && n % 4 > 1
  let code <- t.localWrite.padded [vr addr, value, off] 0 upper
  return (shift ++ force ++ [.instOf (.localWrite t.localWrite.latency) [code] text], s)

def lastAddr (perp : Int) (kept : Option Int) : Emit (Reg × Items × Option Int) := do
  let plain := .named ("LocalWriteAddr" ++ t.char)
  if k.fracLoad == 0 || perp != t.loadsPerp - 1 then return (plain, [], kept)
  let overhang <- overhangOf t
  if overhang == 0 then return (plain, [], kept)
  if k.fracLoad == 1 then return (.named ("LocalWriteAddrOverhang" ++ t.char), [], kept)
  if k.fracLoad != 2 then return (plain, [], kept)
  let tmp <- kept.getDM (takeOne "tmpLocalWriteAddr")
  let valid <- quotient (overhang * t.lsc) t.loadWidth
  return (.num tmp, [.text (comment1 s!"LastPerp.  overhang={overhang}, mask WI>{valid}"),
     .plain ["v_cndmask_b32", vr tmp, "1.0", vr plain, sr ("PerpOverhangVcc" ++ t.char) 2]
       "Mask load so out-of-gr-tile bounds returns 0. Note 1.0f=0x3f80000 which is large non-neg int"],
    some tmp)

def placeOf (perp para s : Int) : Place :=
  let across := t.tlu != t.unrollMajor
  if t.writeTileParts == t.coalesceVec then
    if across then { perp, para, sPerp := s, sPara := 0 } else { perp, para, sPerp := 0, sPara := s }
  else if t.writeUnrollParts == t.coalesceVec then
    if across then { perp, para, sPerp := 0, sPara := s } else { perp, para, sPerp := s, sPara := 0 }
  else { perp, para, sPerp := 0, sPara := 0 }

/-- One module for each load, and the first of the registers to be given back later. With `part` the elements are
written in several parts; `none` is that writes are left out. -/
def writes (isA : Bool) (part : Option Int := some 0) : Emit (Option Items × Option Int) := do
  if !(<- enabled "LocalWrite") then return (none, none)
  let k <- spec
  let t <- side isA
  if t.toLds then return (some [], none)
  let shifted <- if t.localWrite.blockBytes == 1 then some <$> takeVec (t.loadsPerp * t.loadsCoal) else pure none
  let mut s := { next := shifted.getD 0 }
  let mut kept := none
  let mut count := 0
  let mut all := []
  for perp in upTo t.loadsPerp do
    let (addr, before, kept') <- lastAddr k t perp kept
    kept := kept'
    let mut code := before
    for para in upTo t.loadsCoal do
      let name := if para >= 1 then s!"LocalWrite{perp} perp={perp} para={para}" else s!"LocalWrite{perp} perp={perp}"
      if (<- get).waitsSingly then
        modify fun st => { st with waited := st.waited + 1 }
        code := code ++ [.text waitMark]
      for n in upTo (<- quotient (max t.writesCoalVec t.writesPerpVec) t.perWrite) do
        let (items, s') <- write k t part addr (placeOf t perp para n) n count s
        code := code ++ items
        s := s'
        count := count + 1
      all := all ++ [.modul name code]
      code := []
    if t.loadsCoal <= 0 then all := all ++ [.modul s!"LocalWrite{perp} perp={perp}" before]
  if let some r := kept then giveVec r
  return (some all, shifted)

def itemsOf (w : Option Items) : Items := w.getD [.text ""]

/-- A persistent kernel waits for what its last round may have left, known only when everything is emitted. -/
inductive First where
  | plain (items : Items)
  | rounds (branches : Items) (labels : Texts) (finish : Text) (writes : Items)

def fillWaits (wait : Nat -> Text) : Nat -> Items -> Text -> Text
  | _, [], acc => acc
  | n, i :: is, acc =>
    let text := i.render
    if text == waitMark then fillWaits wait (n + 1) is (acc ++ wait (n + 1)) else fillWaits wait n is (acc ++ text)

def First.render (w : First) (c : RoundCounts) (maxCount : Int) : Text :=
  match w with
  | .plain items => Item.renderAllOnto false "" items
  | .rounds branches labels finish writes =>
    let jump := (Item.plain ["s_branch", finish] "finish case, jump to end of LW").render
    let place := fun i => "\n" ++ labels.getD i "" ++ ":"
    let wait := fun stores (n : Nat) =>
      let lead := stores.elim "" fun s => s!"{s}+"
      let value := stores.getD 0 + (c.loads : Int) - n
      Text.padRight 50 s!"s_waitcnt vmcnt({min maxCount value})" ++ s!" // min(maxVmcnt, ({lead}{c.loads}-{n})) \n"
    let case := fun i stores =>
      let title := stores.elim s!"global-load-cnt = {c.loads}" fun s =>
          s!"prev-global-store-cnt = {s}, global-load-cnt = {c.loads}"
      place i ++ (Item.comment1 title).render ++ fillWaits (wait stores) 0 writes "" ++ jump
    Item.renderAllOnto false "" branches ++ case 0 none ++ case 1 (some c.shortStores) ++
      case 2 (some c.stores) ++ place 3 ++ fillWaits (fun _ => "") 0 writes "" ++ s!"\n{finish}:"

def first : Emit (First × List (Option Int)) := do
  let k <- spec
  let both := do
    let (a, tmpA) <- writes true
    let (b, tmpB) <- writes false
    let items := [.text (comment "local write a")] ++ itemsOf a ++
      [.text (comment "local write b")] ++ itemsOf b
    return (items, [tmpA, tmpB])
  if !k.optPreLoopVmcnt then
    let (items, tmps) <- both
    return (.plain items, tmps)
  let labels <- ["Basic_GL_Label", "OptNLL_LW_Label", "OrdNLL_B0_LW_Label", "OrdNLL_B1_LW_Label"].mapM namedLabel
  let finish <- namedLabel "PreLoopLWEnd"
  modify ({ · with waitsSingly := true, waited := 0 })
  let (items, tmps) <- both
  modify fun st => { st with waitsSingly := false, counts := { st.counts with loads := st.waited } }
  let test := fun (n : Nat) ask answer =>
    [Item.plain ["s_cmp_eq_u32", sr "PreLoopLWVmcntCase", .hex n] s!"Case {n}: {ask}",
     .plain ["s_cbranch_scc1", labels.getD (n - 1) ""] s!"jump to Case {n}{answer}"]
  let branches := test 1 "First PK Loop?" ", can skip the s_barrier" ++
    [Item.plain ["\ns_barrier", ""] ("for the second or later PKLoop, need to ensure the prev DS_READ " ++
      "for SR or MFMA are finished before LW\n")] ++
    test 2 "Prev PK-Loop is Opt-NLL?" "" ++ test 3 "Prev PK-Loop is Ord-NLL with no beta?" "" ++
    test 4 "Prev PK-Loop is Ord-NLL with beta?" ""
  return (.rounds branches labels finish (Item.leavesOf items), tmps)

def readdress (isA : Bool) (part : Int) : Code := do
  let k <- spec
  let t <- side isA
  let c := t.char
  let bpe <- bytesAB
  heading s!"recalculate LocalWriteAddr{c}"
  let n := t.writesCoalVec * bpe
  let m <- chooseInstr "LocalWrite" ((if n >= 4 then n / 4 * 4 else n) * k.depthULdsDivisor) localWrites
  onSide isA ({ · with localWrite := m })
  if k.persist && t.keptWrite.isNone then
    let r <- takeOne s!"OriLocalWriteddr{c}"
    onSide isA ({ · with keptWrite := some r })
    vMov (vr r) (vr s!"LocalWriteAddr{c}") "back up LWA for persistent kernel + wider local read"
  tileAssign isA
  tileOffs isA
  unrollOffs isA
  discard <| captured (finalOffs isA)
  writeTile isA
  writeUnroll isA
  writeFirst isA part

end TensorForge.Assembly.LocalWrite
