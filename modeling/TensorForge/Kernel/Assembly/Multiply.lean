import TensorForge.Kernel.Assembly.Emit

/-! # Multiply-accumulate blocks -/

namespace TensorForge.Assembly

open Asm Emit

namespace Mul

/-- The parameters, the buffer of values and the unrolled steps. -/
structure Site where
  k : KernelSpec
  (buf unroll : Int)

namespace Site

variable (s : Site) (f : Int -> Int -> Int -> Texts)

def a (u : Int) : Text := s!"vgprValuA_X{s.buf}_I{u}"
def b (u : Int) : Text := s!"vgprValuB_X{s.buf}_I{u}"
def t0 : Int := s.k.threadTile0
def straight : Bool := s.k.b.tile01 != 0

def tile : Texts :=
  (upTo s.k.threadTile1).flatMap fun i1 => (upTo s.k.threadTile0).flatMap fun i0 => (upTo s.unroll).flatMap (f i0 i1)

def blocks (f : Int -> Int -> Texts) : Texts :=
  (upTo (s.k.threadTile1 / 2)).flatMap fun i1 => (upTo (s.k.threadTile0 / 2)).flatMap (f · i1)

def blockSteps : Texts := s.blocks fun i0 i1 => (upTo s.unroll).flatMap (f i0 i1)

end Site

variable (s : Site) (op : Text)

def raised (after : Nat) (lines : Texts) : Texts :=
  if s.k.perfMode != 0 && !lines.isEmpty then
    lines.take after ++ ["s_setprio 1 // Raise priority while processing macs"] ++ lines.drop after
  else lines

def joinLines (lines : Texts) : Text := lines.foldl (fun acc l => acc ++ l ++ "\n") ""

def titled (title : Text) (lines : Texts) : Text :=
  joinLines <| ["// Component.MAC." ++ title] ++ raised s 1 lines ++
    opt (s.k.perfMode != 0) ["s_setprio 0 // Reset priority after macs"]

def untitled (after : Nat) (lines : Texts) : Text :=
  joinLines <| raised s after lines ++ opt (s.k.perfMode != 0) ["s_setprio 0 // Reset priority after macs "]

def halfPlain : Text :=
  titled s "MAC_F16_Plain" <| s.blocks fun i0 i1 =>
    (List.range 4).flatMap fun _ => (upTo s.unroll).map fun u =>
      s!"v_mac_f16 v[vgprValuC+{i0}+{i1}*{s.t0}+0], v[{s.a u}+{i0}], v[{s.b u}+{i1}]"

def halfSingle : Text :=
  titled s "FMA_F16_NonPacked" <| s.blockSteps fun i0 i1 u =>
    let c0 := s!"{i0} + {i1}*{s.t0} + 0"
    let c1 := s!"{i0} + {i1}*{s.t0} + {s.t0 / 2}"
    let fma := fun c sel =>
      s!"v_fma_f16 v[vgprValuC + {c}], v[{s.a u} + {i0}], v[{s.b u} + {i1}], v[vgprValuC + {c}] op_sel:[{sel}] // {c}"
    [fma c0 "0,0,0,0", fma c1 "0,1,0,0", fma c0 "1,0,1,1", fma c1 "1,1,1,1"]

def halfPacked : Text :=
  titled s "FMA_F16_Packed" <| s.blockSteps fun i0 i1 u =>
    let fma := fun half sel hi =>
      let c := s!"v[vgprValuC + {i0} + {i1}*{s.t0} + {half}]"
      s!"v_pk_fma_f16 {c}, v[{s.a u} + {i0}], v[{s.b u} + {i1}], {c} op_sel:[{sel}] op_sel_hi:[{hi}] " ++
        s!"// {i0 + i1 * s.t0 + half}"
    [fma 0 "0,0,0" "1,0,1", fma (s.t0 / 2) "0,1,0" "1,1,1"]

def mixDot : Text :=
  titled s "FMA_F16_HPA_MAD_MIX_LDL" <| s.blocks fun i0 i1 =>
    let half := s.t0 / 2
    let pair := fun expr index ua ub mark =>
      ["0,0,0", "1,1,0"].map fun sel =>
        let c := s!"v[vgprValuC + {i0}*2 + {i1}*{s.t0}*2 + {expr}]"
        s!"{op} {c}, v[{s.a ua}+{i0}], v[{s.b ub}+{i1}], {c} " ++
          s!"op_sel:[{sel}] op_sel_hi:[1,1,0] //{mark}[{index}]"
    let base := i0 * 2 + i1 * s.t0 * 2
    pair "0*2 + 0" base 0 0 "ValuC" ++ pair "0*2 + 1" (base + 1) 1 0 "ValuC" ++
    pair s!"{half}*2 + 0" (base + half * 2) 0 1 "ValuC" ++ pair s!"{half}*2+1" (base + half * 2 + 1) 1 1 "valuC"

def mixPlain : Text :=
  titled s "FMA_F16_HPA_MAD_MIX" <| s.blockSteps fun i0 i1 u =>
    let half := s.t0 / 2
    let (ia, sel0, sel1) := if s.k.a.tileIdx == 0 then (i0, "1,0,0", "0,1,0") else (i1, "0,1,0", "1,0,0")
    let ib := if s.k.b.tileIdx != 0 then i1 else i0
    let mix := fun c sel index note =>
      s!"{op} v[vgprValuC{c}], v[{s.a u}+{ia}], v[{s.b u}+{ib}], v[vgprValuC{c}] " ++
        s!"op_sel:[{sel}] op_sel_hi:[1,1,0] //ValuC[{index}]{note}"
    let base := i0 * 2 + i1 * s.t0 * 2
    [mix s!" + {i0}*2 + {i1}*{s.t0}*2 + 0*2 + 0" "0,0,0" base s!" iui={u}",
     mix s!" + {i0}*2 + {i1}*{s.t0}*2 + 0*2 + 1" sel0 (base + 1) "",
     mix s!"+{i0}*2 + {i1}*{s.t0}*2 + {half}*2 + 0" sel1 (base + half * 2) "",
     mix s!"+{i0}*2+{i1}*{s.t0}*2+{half}*2+1" "1,1,0" (base + half * 2 + 1) ""]

def dotProduct (accumulates : Bool) : Text :=
  titled s "FMA_F16_DOT2" <| s.blocks fun i0 i1 =>
    let half := s.t0 / 2
    let op := if accumulates then "v_dot2c_f32_f16" else "v_dot2_f32_f16"
    let dot := fun high low ua ub =>
      let c := s!"v[vgprValuC + {i0}*2 + {i1}*{s.t0}*2 + {high}*2 + {low}]"
      let src := opt (!accumulates) s!", {c}"
      s!"{op} {c}, v[{s.a ua}+{i0}], v[{s.b ub}+{i1}]{src} " ++
        s!"//ValuC[{i0 * 2 + i1 * s.t0 * 2 + high * 2 + low}]"
    [dot 0 0 0 0, dot 0 1 1 0, dot half 0 0 1, dot half 1 1 1]

def single : Text :=
  let k := s.k
  let lines := s.tile fun i0 i1 u =>
    let (ia, ib) := if s.straight then (i0, i1) else (i1, i0)
    let c := s!"v[vgprValuC + {i0} + {i1}*{s.t0}]"
    let last := opt (op == "v_fma_f32") s!", {c}"
    [s!"{op} {c}, v[{s.a u} + {ia}], v[{s.b u} + {ib}]{last}"]
  let extra := fun (i : Nat) =>
    opt (i == k.perfWaitLoc)
        [s!"s_waitcnt lgkmcnt({k.perfWaitCount}) // extra wait for performance"] ++
    opt (i == k.perfSyncLoc) ["s_barrier // extra barrier for performance"]
  titled s "MAC_F32_Plain" (lines.zipIdx.flatMap fun (l, i) => l :: extra i)

def bfloat : Text :=
  let unpack := fun name tile =>
    ((upTo (tile / 2)).reverse).flatMap fun i =>
      [s!"v_and_b32     v[{name}+{i * 2 + 1}], 0xffff0000, v[{name}+{i}]",
       s!"v_lshlrev_b32 v[{name}+{i * 2}], 16,         v[{name}+{i}]"]
  let prepare := (upTo s.unroll).flatMap fun u =>
    unpack (s.a u) s.k.a.ownThreadTile ++ unpack (s.b u) s.k.b.ownThreadTile
  let lines := s.blockSteps fun i0 i1 u =>
    let (ia, ib) := if s.straight then (i0, i1) else (i1, i0)
    let fma := fun c ka kb index mark =>
      s!"v_fma_f32 {c}, v[{s.a u}+{ia * 2 + ka}], v[{s.b u}+{ib * 2 + kb}], {c} //{mark}[{index}]"
    let c := fun (high low : Int) => s!"v[vgprValuC+{i0}*2+{i1}*{s.t0}*2+{high}*2+{low}]"
    let base := i0 * 2 + i1 * s.t0 * 2
    let one := if s.straight then 1 else 0
    [fma (c 0 0) 0 0 base "ValuC", fma (c 0 1) one (1 - one) (base + 1) "ValuC",
     fma (c (s.t0 / 2) 0) (1 - one) one (base + s.t0) "ValuC", fma (c (s.t0 / 2) 1) 1 1 (base + s.t0 + 1) "valuC"]
  joinLines (prepare ++ raised s 1 lines)

def bytes : Text :=
  untitled s 1 <| s.tile fun i0 i1 u =>
    let c := s!"v[vgprValuC+{i0}+{i1}*{s.t0}]"
    [s!"v_dot4_i32_i8  {c}, v[{s.a u}+{i0}], v[{s.b u}+{i1}], {c} op_sel:[0,0] op_sel_hi:[1,1] " ++
      s!"//valuC[{i0 + i1 * s.t0}]"]

def double : Text :=
  untitled s 1 <| s.tile fun i0 i1 u =>
    let c := s!"v[vgprValuC+({i0}+{i1}*{s.t0})*2:(vgprValuC+{i0}+{i1}*{s.t0})*2+1]"
    [s!"v_fma_f64 {c}, v[{s.a u}+{i0}*2:{s.a u}+{i0}*2+1], v[{s.b u}+{i1}*2:{s.b u}+{i1}*2+1], {c}"]

def sign (negative : Bool) : Text := opt negative "-"

/-- The four products of two complex numbers, by their parts: of the sum, of the factors, and the factors' signs. -/
def products {α : Type} (re im : α) (onA : Bool) (f : (c a b : α) -> (signA signB : Text) -> Text) : Texts :=
  let (conjA, conjB) := (s.k.a.conj, s.k.b.conj)
  let minus := conjA == conjB
  [f re re re "" "", f re im im (sign (minus && onA)) (sign (minus && !onA)), f im re im "" (sign conjB),
   f im im re (sign conjA) ""]

def complexSingle : Text :=
  untitled s 4 <| s.tile fun i0 i1 u => products s "" "+1" true fun c a b signA signB =>
    s!"_v_mac_f32 v[vgprValuC+({i0}+{i1}*{s.t0})*2{c}], {signA}v[{s.a u}+{i0}*2{a}], {signB}v[{s.b u}+{i1}*2{b}]"

def complexDouble : Text :=
  untitled s 4 <| s.tile fun i0 i1 u => products s ("+0", "+1") ("+2", "+3") false fun c a b signA signB =>
    let c := s!"v[vgprValuC+({i0}+{i1}*{s.t0})*4{c.1}:(vgprValuC+{i0}+{i1}*{s.t0})*4{c.2}]"
    let a := s!"{signA}v[{s.a u}+{i0}*4{a.1}:{s.a u}+{i0}*4{a.2}]"
    s!"v_fma_f64 {c}, {a}, {signB}v[{s.b u}+{i1}*4{b.1}:{s.b u}+{i1}*4{b.2}], {c}"

def singleInstr (k : KernelSpec) : Emit Text := do
  let op <- if k.macInstr == "FMA" then do
      if <- cap "v_fmac_f32" then pure "v_fmac_f32" else if <- cap "v_fma_f32" then pure "v_fma_f32"
      else lacks "FMA"
    else pure "v_mac_f32"
  if !(<- cap op) then lacks op
  return op

def halfBlock? : Emit (Option Text) := do
  if s.k.highPrec then
    let fmaMix <- cap "v_fma_mix_f32"
    let mix := (<- cap "v_mad_mix_f32") || fmaMix
    let op := if fmaMix then "v_fma_mix_f32" else "v_mad_mix_f32"
    let dotc <- cap "v_dot2c_f32_f16"
    let dot := dotc || (<- cap "v_dot2_f32_f16")
    if s.k.dotLayout > 1 then
      return if dot then some (dotProduct s dotc)
        else if mix && s.k.innerUnroll == 2 then some (mixDot s op) else none
    else return if mix && s.k.dotLayout == 1 then some (mixPlain s op) else none
  else
    if <- cap "v_pk_fma_f16" then return some (halfPacked s)
    else if <- cap "v_fma_f16" then return some (halfSingle s)
    else if <- cap "v_mac_f16" then return some (halfPlain s)
    else return none

def singleBlock? : Emit (Option Text) := do
  if (<- cap "v_mac_f32") || (<- cap "v_fma_f32") then return some (single s (<- singleInstr s.k)) else return none

def block (buf unroll : Int) : Emit Text := do
  let k <- spec
  let s := { k, buf, unroll }
  let d := k.dataType
  let special <- if d.isHalf then halfBlock? s else if d.isSingle then singleBlock? s else pure none
  if let some text := special then
    if k.perfMode != 0 && k.perfMode != 1 then throw .wrongKind
    return text
  let isa := (<- get).isa
  if d.isBFloat16 then
    if [⟨9, 0, 8⟩, ⟨9, 0, 10⟩].contains isa && k.highPrec then return bfloat s
    else Gen.fatal s!"Bfloat16 not supported for arch={isa.toValue.shown}"
  else if d.isInt8x4 then
    if [⟨9, 0, 6⟩, ⟨9, 0, 8⟩, ⟨9, 0, 10⟩, ⟨10, 3, 0⟩].contains isa then return bytes s
    else
      return comment3 s!"int8x4 not implemented yet for gfx{isa.major}{isa.minor}{isa.step}:"
  else if d.isDouble then return double s
  else if d.isSingleComplex then return complexSingle s
  else if d.isDoubleComplex then return complexDouble s
  else Gen.fatal s!"Assembly doesn't support {d.char}"

def defs (unroll : Int) : Code := do
  let k <- spec
  let ext := opt (k.innerUnroll > 1 && unroll == 1) "_OneIUI"
  raw (comment3 s!"{k.threadTile0}x{k.threadTile1} thread-tile")
  let ahead := if k.prefetchLocalRead < k.loopIters then k.prefetchLocalRead else k.loopIters - 1
  for m in upTo (1 + ahead) do
    raw s!".macro MAC_{k.threadTile0}x{k.threadTile1}_X{m}{ext}"
    raw "\n"
    raw (<- block m unroll)
    raw ".endm\n"

end Mul

end TensorForge.Assembly
