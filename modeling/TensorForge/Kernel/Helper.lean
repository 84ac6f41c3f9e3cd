import TensorForge.Problem.Type

/-!
# Helper kernels

For a summation that is split among work groups: one kernel scales the output by `beta` before partial sums are added
to it, the other adds up partial sums that were kept apart and converts the result.
-/

namespace TensorForge

open Gen String

inductive HelperKind where
  | scale
  | convert
  deriving DecidableEq

structure Helper where
  kind : HelperKind
  name : Text
  labels : Texts
  rank : Nat
  /-- Not of the tile; none when batches lie at a stride. -/
  outer : Nats
  (dest compute data : DataType)
  (strided initStrides accumulates : Bool)

namespace Helper

def markTile (labels : Texts) (idx0 index1 : Int) : Gen Texts := do place (<- place labels idx0 "0") index1 "1"
where
  place (labels : Texts) i mark : Gen Texts :=
    if i < 0 then throw .outOfRange
    else labels[i.toNat]?.elim (throw .outOfRange) fun l => pure (labels.set i.toNat (mark ++ l))

def idxLetters : Gen Texts := do (<- items (<- setting "IndexChars")).mapM str

def without (indices : Nats) (i : Int) : Gen Nats :=
  if 0 <= i && indices.contains i.toNat then pure (indices.erase i.toNat) else throw .badValue

def ofProblem (kind : HelperKind) (p : ProblemType) (accum : Value) : Gen Helper := do
  let letters <- idxLetters
  let rank := (<- p.int NIC).toNat
  if rank > letters.length then throw .outOfRange
  let dest <- p.dataType DDT
  let strided <- p.flag SB
  let accumulates := accum.truthy
  let suffix := match kind with
    | .scale => opt accumulates "_GA"
    | .convert => "_PostGSU"
  let name := "C" ++ (join (letters.take rank)).toLower ++ "_" ++ dest.char ++
    opt (!strided) "_GB" ++ suffix
  let idx0 <- p.int "Index0"
  let index1 <- p.int "Index1"
  let labels <- markTile letters idx0 index1
  let outer <- if strided then pure [] else do without (<- without (.range rank) idx0) index1
  return { kind, name, labels, rank, outer, dest, compute := <- p.dataType CDT,
           data := <- p.dataType DT, strided, initStrides := <- p.flag UISCD, accumulates }

variable (h : Helper)

def tensors : Texts :=
  match h.kind with
  | .scale => ["D", "C"]
  | .convert => ["D", "W", "C"]

def outs : Texts := h.labels.take h.rank
def onDevice (t : DataType) : Text := t.device "HIP"
def stridden : Texts := if h.initStrides then h.outs else h.outs.drop 1
def each (labels : Texts) (f : Text -> Text) : Text := .join (labels.map f)

def shapeParams (tensors : Texts) : Text :=
  join (tensors.map fun t => each h.stridden fun l => s!"  unsigned int const stride{t}{l},\n") ++
  each h.outs (fun l => s!"  unsigned int const size{l},\n") ++ "  unsigned int offsetD,\n  unsigned int offsetC,\n"

def leading : Text :=
  let mark b (s : Text) := opt (!b) s
  match h.kind with
  | .scale =>
    let one := h.strided || h.accumulates
    let d := (if h.accumulates then "float" else onDevice h.dest) ++ mark one "*"
    let c := onDevice h.dest ++ mark h.strided "*"
    "  " ++ d ++ " * " ++ mark one "Batch" ++ "D,\n  " ++ c ++ " const * " ++ mark h.strided "Batch" ++ "C,\n"
  | .convert =>
    let p := onDevice h.dest ++ mark h.strided "*"
    let b := mark h.strided "Batch"
    let factor := onDevice h.compute
    s!"  {p} * {b}D,\n  float * W,\n  {p} const * {b}C,\n  {factor} const alpha,\n  {factor} const beta,\n"

def sig : Text :=
  "\nextern \"C\"\n__global__ void " ++ h.name ++ "(\n" ++ h.leading ++ h.shapeParams h.tensors ++ match h.kind with
  | .scale => s!"  {onDevice h.compute} const beta)\n"
  | .convert => "  unsigned int const gsu)\n"

def addrDef (tensor : Text) : Text :=
  s!"#define GLOBAL_{tensor}(" ++ listing (h.outs.map ("IDX" ++ ·)) ++ ") (( " ++
  " + ".intercalate (h.outs.map fun l => s!"(IDX{l})*stride{tensor}{l}") ++ " ))\n"

def first : Text := h.labels.headD ""

def defs : Text :=
  "/* hard-coded initial strides */\n" ++
  each h.tensors (fun t => s!"#define stride{t}{h.first} 1\n") ++ each h.tensors h.addrDef

def position : Text :=
  let ids := (List.range h.rank).map fun i => s!"id{i}"
  "  uint64_t id = hc_get_workitem_absolute_id(0);\n" ++
  "  if (id >= (" ++ "*".intercalate (h.outs.map ("size" ++ ·)) ++ "))\n" ++
  "    return;\n\n  uint64_t " ++ listing ids ++ ";\n" ++
  join ((ids.zip h.outs).map fun (i, l) => s!"  {i} = id % size{l};\n  id  = id / size{l};\n")

def batchTerms : Text :=
  (h.outer.foldl (fun ((terms, stride) : Text × Text) i =>
    (terms ++ s!" + id{i} * {stride} ", stride ++ " * size" ++ h.labels.getD i "")) ("", "1")).1

def batchPtrs : Text :=
  if h.strided then ""
  else
    s!"\n  uint64_t wg = 0{h.batchTerms};\n" ++
    opt (h.kind == .convert || !h.accumulates) ("  " ++ onDevice h.dest ++ " * D = BatchD[wg];\n") ++
    "  " ++ onDevice h.dest ++ " const* C = BatchC[wg];\n"

def elemIdx (tensor : Text) (zeroed : Bool) : Text :=
  let ids := (List.range h.rank).map fun i => if zeroed && h.outer.contains i then "0" else s!"id{i}"
  s!"  uint64_t idx{tensor} = GLOBAL_{tensor}( (uint64_t)" ++ listing ids ++ ");\n"

def scaling : Text :=
  let zero := if h.accumulates then "float" else onDevice h.data
  let test := if h.data.isComplex then "(beta.s0 == 0) && (beta.s1 == 0)" else "beta == SCALAR_ZERO"
  opt (!h.accumulates) "  D = D + offsetD;\n" ++ "  C = C + offsetC;\n\n" ++
  h.elemIdx "D" (!h.accumulates) ++ h.elemIdx "C" true ++ s!"#define SCALAR_ZERO (({zero})(0))
  if({test}) \x7b
    D[idxD] = SCALAR_ZERO;
  \x7d else \x7b
    D[idxD] = (({onDevice h.compute})(C[idxC])) * beta;
  \x7d
\x7d\n"

def converting : Text :=
  "  D = D + offsetD;\n  C = C + offsetC;\n\n" ++
  h.elemIdx "D" true ++ h.elemIdx "W" false ++ h.elemIdx "C" true ++ "  uint64_t strideW = 1 + " ++
  " + ".intercalate (h.outs.map fun l => s!"(size{l} - 1) * strideW{l}") ++ s!";
  float accum = 0.0f;
  for (int i=0; i<gsu; i++) \x7b
    accum += W[idxW];
    idxW  += strideW;
  \x7d
  if( beta == ({onDevice h.compute})0)
    accum = ((float)alpha) * accum;
  else
    accum = (((float)alpha) * accum + ((float)beta) * ((float)C[idxC]));
  D[idxD] = ({onDevice h.dest})accum;
\x7d\n"

def withdrawals : Text :=
  each h.tensors (fun t => s!"#undef stride{t}{h.first}\n") ++
  each h.tensors (fun t => s!"#undef GLOBAL_{t}\n") ++ opt (h.kind == .scale) "#undef SCALAR_ZERO\n"

def body : Result Text :=
  if h.initStrides then .error .unmet
  else .ok ("\x7b\n" ++ h.defs ++ h.position ++ h.batchPtrs ++ "\n" ++ (match h.kind with
      | .scale => h.scaling
      | .convert => h.converting) ++ h.withdrawals)

def src : Gen Text := do
  return (if <- flag MF then "" else s!"\n#include \"{h.name}.h\"\n\n") ++ h.sig ++ (<- h.body)

def header : Gen Text := do
  let head := if <- flag MF then "" else
    Banner.cpp ++ "#pragma once\n\n\n#include <KernelHeader.h>\n\n" ++
    "#include <hip/hip_runtime.h>\n#include <hip/hip_fp16.h>\n\n"
  return head ++ h.sig ++ ";\n"

end Helper

end TensorForge
