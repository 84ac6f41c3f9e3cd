import TensorForge.Value.Basic

/-!
# Instruction set architectures

An architecture is a triple of major number, minor number and stepping.
-/

namespace TensorForge

open Text

structure Isa where
  (major minor step : Int)
  deriving DecidableEq, Repr

namespace Isa

def none : Isa := ⟨0, 0, 0⟩

def supported : List Isa :=
  [⟨8, 0, 3⟩, ⟨9, 0, 0⟩, ⟨9, 0, 6⟩, ⟨9, 0, 8⟩, ⟨9, 0, 10⟩, ⟨10, 1, 0⟩, ⟨10, 1, 1⟩, ⟨10, 1, 2⟩, ⟨10, 3, 0⟩]

variable (i : Isa)

def toValue : Value := .tuple [i.major, i.minor, i.step]

def ofValue? (v : Value) : Option Isa :=
  match v.items? with
  | some [a, b, c] => do return ⟨<- a.asInt?, <- b.asInt?, <- c.asInt?⟩
  | _ => .none

def hexText (n : Int) : Text := if n < 0 then "-" ++ hexDigits n.natAbs else hexDigits n.toNat
def name : Text := s!"gfx{i.major}{i.minor}" ++ hexText i.step

/-- The first three or more visible characters behind `gfx`. -/
def nameBody? : Chars -> Option Chars
  | [] => .none
  | c :: rest =>
    let here := match c :: rest with
      | 'g' :: 'f' :: 'x' :: body =>
        let run := body.takeWhile (!isBlank ·)
        if run.length >= 3 then some run else .none
      | _ => .none
    match here with
    | some run => some run
    | .none => nameBody? rest

inductive Reading where
  | absent
  | malformed
  | found (isa : Isa)
  deriving DecidableEq

def read (text : Text) : Reading :=
  match nameBody? text.toList with
  | .none => .absent
  | some body =>
    match body.reverse with
    | s :: m :: rest =>
      match readInt? 16 (.singleton s), readInt? 10 (.singleton m),
          readInt? 10 (.ofList rest.reverse) with
      | some step, some minor, some major => .found ⟨major, minor, step⟩
      | _, _, _ => .malformed
    | _ => .malformed

def codeNames : Pairs :=
  [("all", "_"), ("gfx000", "none"), ("gfx803", "r9nano"), ("gfx900", "vega10"),
   ("gfx906", "vega20"), ("gfx906:xnack+", "vega20"), ("gfx906:xnack-", "vega20"),
   ("gfx908", "arcturus"), ("gfx908:xnack+", "arcturus"), ("gfx908:xnack-", "arcturus"),
   ("gfx90a", "aldebaran"), ("gfx90a:xnack+", "aldebaran"), ("gfx90a:xnack-", "aldebaran"),
   ("gfx1010", "navi10"), ("gfx1011", "navi11"), ("gfx1012", "navi12"), ("gfx1030", "navi21")]

def codeName? (text : Text) : Option Text :=
  match codeNames.find? fun (k, _) => k == text with
  | some (_, v) => some v
  | .none => (codeNames.find? fun (k, _) => contains k text).map (·.2)

def features : Texts :=
  let words := fun s => s.splitOn " "
  let usual := fun s => words ("base co lds addlshl lshlor smulhi fma16 pkfma fma32 vm63 " ++ s)
  match i.major, i.minor, i.step with
  | 8, 0, 3 => words "base lds mac16 mac32 fma32 vm15"
  | 9, 0, 0 => usual "mac16 madmix mac32"
  | 9, 0, 6 => usual "mac16 fmamix dot2 mac32 fmac32"
  | 9, 0, 8 => usual "mfma mac16 fmamix dot2 dot2c mac32 fmac32 atomic"
  | 9, 0, 10 => usual "mfma mfma64 bf1k mac16 fmamix dot2 dot2c fmac32 atomic"
  | 10, 1, 0 => usual "nc fmamix mac32 fmac32"
  | 10, 1, 1 | 10, 1, 2 => usual "nc fmamix dot2 dot2c mac32 fmac32"
  | 10, 3, 0 => usual "nc fmamix dot2 dot2c fmac32"
  | _, _, _ => []

def capFeatures : List (Text × Option Text) :=
  [(SISA, some "base"), ("HasExplicitCO", some "co"), ("HasExplicitNC", some "nc"),
   ("HasDirectToLds", some "lds"), ("HasAddLshl", some "addlshl"), ("HasLshlOr", some "lshlor"),
   ("HasSMulHi", some "smulhi"), ("HasCodeObjectV3", some "base"), ("HasMFMA", some "mfma"),
   ("HasMFMA_f64", some "mfma64"), ("HasMFMA_bf16_1k", some "bf1k"), ("v_mac_f16", some "mac16"),
   ("v_fma_f16", some "fma16"), ("v_fmac_f16", .none), ("v_pk_fma_f16", some "pkfma"),
   ("v_pk_fmac_f16", .none), ("v_mad_mix_f32", some "madmix"), ("v_fma_mix_f32", some "fmamix"),
   ("v_dot2_f32_f16", some "dot2"), ("v_dot2c_f32_f16", some "dot2c"), ("v_mac_f32", some "mac32"),
   ("v_fma_f32", some "fma32"), ("v_fmac_f32", some "fmac32"), ("HasAtomicAdd", some "atomic")]

def asmCaps : Table :=
  let fs := i.features
  let flags := capFeatures.map fun (cap, feature) =>
    (.str cap, .bool (match feature with
      | some f => fs.contains f
      | .none => false))
  let vmcnt := if fs.contains "vm63" then 63 else if fs.contains "vm15" then 15 else 0
  flags ++ [(.str "MaxVmcnt", vmcnt), (.str "MaxLgkmcnt", .int 15), (.str "SupportedSource", .bool true)]

def archCaps : Table :=
  [("HasEccHalf", (i == ⟨9, 0, 6⟩ || i == ⟨9, 0, 8⟩ || i == ⟨9, 0, 10⟩)),
   ("Waitcnt0Disabled", (i == ⟨9, 0, 8⟩ || i == ⟨9, 0, 10⟩)), (SV, i.major == 10),
   ("CMPXWritesSGPR", i.major != 10), ("HasWave32", i.major == 10)]

end Isa

end TensorForge
