import TensorForge.Problem.Sizes
import TensorForge.Tuning.Draft

/-! # Sample configurations -/

namespace TensorForge.Sample

open Gen Table Text TuningDraft

def tuples (xs : List Ints) : Value := .list (xs.map .ints)

def group (prefetch : Int) (lang : Text) (tiles groups : List Ints) (depth : Int)
    (more : List (Text × Ints)) (matrix : List Ints := []) : Table :=
  let forks := [(PGR, .ints [prefetch]), (KL, .strs [lang])] ++
    opt (!matrix.isEmpty) [(MI, tuples matrix)] ++
    [(TT, tuples tiles), (WG, tuples groups), (DU, .ints [depth])] ++
    more.map fun (k, ns) => (k, .ints ns)
  (emptyGroup.set "BenchmarkCommonParameters" (.list [.record [(ET, .strs ["ShiftPtr"])]])).set
    FP (.list (forks.map fun f => .record [f]))

def solutions : List (Text × Table) :=
  let batch := PBD
  let sums := PSD
  let reads := GRVW
  let width := VW
  let part := FL
  [("src1", group 0 "Source" [[2, 2]] [[8, 8, 1]] 8 [(batch, [1]), (sums, [1]), (reads, [1]), (width, [1])]),
   ("src5_gsu", group 0 "Source" [[8, 8]] [[8, 16, 1]] 4 [(batch, [0, 1]), (sums, [0, 1]), (GSU, [1, 2, 4, 7, 17]),
   (reads, [-1]), (width, [1, -1])]), ("asm1", group 0 "Assembly" [[4, 4]] [[8, 8, 1]] 8 [(batch, [1]), (sums, [1]),
   (reads, [-1]), (width, [1]), (part, [1])]), ("asm3_pbd", group 1 "Assembly" [[8, 4], [4, 8], [8, 8]] [[8, 8, 1], [16,
   8, 1]] 8 [(reads, [-1]), (sums, [0, 1]), (width, [1, 4]), (part, [1]), (batch, [0, 1])]),
   ("asm3_splitu", group 1 "Assembly" [[4, 4], [4, 8], [8, 4], [8, 8]] [[8, 8, 1]] 8 [(sums, [0, 1]), (reads, [-1]),
   (GSU, [1, 2, 3, 4, 8, 17]), (width, [1, 4]), (batch, [1]), (part, [1])]), ("asm3_mi", group 1 "Assembly" [[1,
   32]] [[16, 16, 1], [64, 4, 1]] 8 [(reads, [-1, 2]), (sums, [0, 1]), (width, [1, 4]), (part, [1]),
   (batch, [0, 1])] [[32, 32, 1, 2]])]

def defaultSolution : Text := "asm3_pbd"
def solution (name : Text) : Gen Table := (solutions.lookup name).getDM (throw .noField)

def header (debug : Bool) : Table :=
  let globals : Table := (commonGlobals (if debug then "Debug" else "RelWithDebInfo") 1000 true).append
    [("KernelTime", true), ("SolutionSelectionAlg", 1), (NC, 2), ("DataInitTypeAlpha", 1),
     ("DataInitTypeC", 4), ("DataInitTypeD", 4)]
  [(GP, .dict (if debug then globals.set CT 0 else globals))]

def architectures : Gen Texts := do
  let plain <- env? "ROCM_PATH"
  let root := (<- env? "TENSILE_ROCM_PATH").getD (plain.getD "/opt/rocm")
  let (code, text) <- Cmd.run [root / "bin/rocm_agent_enumerator", "-t", "GPU"]
  if code != 0 then throw .cmdFailed
  let lines := (linesKept text.toList).map fun l => trim (.ofList l)
  return lines.foldl (fun found l => if found.contains l then found else found ++ [l]) []

variable (c : Conv)

/-- An open padding becomes one less than the filter unless one is given. -/
def completed (problem : Table) (strides : Ints := [2, 3, 4]) (pads : Ints := [-1, -1, -1]) : Result Table := do
  let cc := c.config
  let stride t i (key : Text) := do
    if (<- Conv.item cc.stride i) == -1 then return t.set key (<- Conv.item (some strides) i)
    return t
  let t <- stride problem 0 "v"
  let t <- stride t 1 "u"
  let t <- if c.formatDims == 3 then stride t 2 "#" else pure t
  (List.range c.formatDims).foldlM (fun t i => do
    let key := ["q", "p", "$"].getD i ""
    let pad := do
      let p <- Conv.item (some pads) i
      if p != -1 then return p
      return .int ((<- Conv.item cc.filter i) - 1)
    let t <- if (<- Conv.item cc.padStart i) == -1 then do pure (t.set key (<- pad)) else pure t
    if (<- Conv.item cc.padEnd i) == -1 then return t.set (key ++ "_") (<- pad) else return t) t

def problem (n c h w k : Int) : Table :=
  [("n", n), ("c", c), ("h", h), ("w", w), ("k", k)].map fun (key, v) => (.str key, v)

def grid (ns cks spatial : Ints) : Result Tables := do
  let spatials <- if spatial.isEmpty then pure [] else
    if c.formatDims == 2 || c.formatDims == 3 then pure (spatial.flatMap fun a => spatial.map fun b => (a, b))
    else throw (.failure s!"unknown formatNumSpatialDims={c.formatDims}")
  let shapes := ns.flatMap fun n => cks.flatMap fun x => cks.flatMap fun k =>
    spatials.map fun (a, b) => problem n x b a k
  shapes.mapM fun p => do
    let p <- completed c p
    return if c.formatDims == 3 then p.set "d" 7 else p

def layers (text : Text) : List Ints :=
  (text.splitOn ";").map fun row => (words row).filterMap (readInt? 10)

def residualLayers : List Ints :=
  layers "1024 14 2048 0 0; 1024 14 256 0 0; 1024 14 512 0 0; 128 28 128 1 0; 128 28 512 0 0; 2048 7 512 0 0;
    256 14 1024 0 0; 256 14 256 1 0; 256 56 128 0 0; 256 56 512 0 0; 256 56 64 0 0; 3 230 64 0 2; 512 28 1024 0 0;
    512 28 128 0 0; 512 28 256 0 0; 512 7 2048 0 0; 512 7 512 1 0; 64 56 256 0 0; 64 56 64 0 0; 64 56 64 1 0"

/-- Repetitions, channels, extent, filters, paddings and stride. -/
def inceptionLayers : List Ints :=
  layers "2 128 17 128 0 3 1; 2 128 17 128 3 0 1; 1 128 17 192 0 3 1; 1 128 17 192 3 0 1; 1 1280 8 192 0 0 1;
    1 1280 8 320 0 0 1; 1 1280 8 384 0 0 1; 1 1280 8 448 0 0 1; 4 160 17 160 0 3 1; 4 160 17 160 3 0 1;
    2 160 17 192 0 3 1; 2 160 17 192 3 0 1; 4 192 17 192 0 3 1; 1 192 17 192 0 0 2; 4 192 17 192 3 0 1;
    1 192 17 320 0 0 2; 1 192 35 32 0 0 1; 1 192 35 48 0 0 1; 2 192 35 64 0 0 1; 1 2048 8 192 0 0 1;
    1 2048 8 320 0 0 1; 1 2048 8 384 0 0 1; 1 2048 8 448 0 0 1; 1 256 35 48 0 0 1; 3 256 35 64 0 0 1;
    1 288 35 384 0 0 2; 1 288 35 48 0 0 1; 4 288 35 64 0 0 1; 1 3 299 32 0 0 2; 1 32 147 64 1 1 1; 1 32 149 32 0 0 1;
    4 384 8 384 0 1 1; 4 384 8 384 1 0 1; 2 448 8 384 1 1 1; 3 48 35 64 2 2 1; 4 64 35 96 1 1 1; 1 64 73 80 0 0 1;
    2 768 17 128 0 0 1; 4 768 17 160 0 0 1; 1 80 73 192 0 0 1; 1 96 35 96 0 0 2; 3 96 35 96 1 1 1"

def residual : Result Tables :=
  residualLayers.mapM fun
    | [ch, n, k, p, u] => completed c (problem 12 ch n n k) [u, u] [p, p]
    | _ => .error .badValue

def inception : Result Tables :=
  inceptionLayers.mapM fun
    | [count, ch, n, k, p, q, u] => completed c (("count", count) :: problem 8 ch n n k) [u, u] [p, q]
    | _ => .error .badValue

def fitting (config : Table) (c : Conv) (level : Int) : Result Tables := do
  let given := c.config.spatial.getD []
  let spatial := if given.isEmpty then .replicate c.formatDims 14 else given
  if spatial.contains (-1) then
    let shown := (Value.ints spatial).quoted
    throw (.failure s!"Spatial must be completely specified, not \"{shown}\"")
  if (<- c.config.filter.getDM (throw .wrongKind)).contains (-1) then
    let v <- (config.get? "Filter").getDM (throw (.missingKey "Filter"))
    throw (.failure s!"Filter must be completely specified, not \"{v.shown}\"")
  let first <- completed c (problem 8 32 (<- Conv.item (some spatial) 1) (<- Conv.item (some spatial) 0) 16)
  let first <- if spatial.length == 3 then do pure (first.set "d" (<- Conv.item (some spatial) 2))
    else pure first
  if !given.isEmpty then return [first]
  let more <- match level with
    | 2 => grid c [1, 2, 8] [64] [7, 14, 56]
    | 3 => grid c [1, 2, 8] [127, 128] [7, 14, 56]
    | 4 => grid c [1, 2, 8] [127, 128] [7, 56, 73, 111, 194]
    | _ => pure []
  return first :: more

def problems (name : Text) (config : Table) (c : Conv) (level : Int) : Gen Tables := do
  match name with
  | "ProblemSizes" => fitting config c level
  | "ProblemSizesResNet" => residual c
  | "ProblemSizesInception" => inception c
  | _ => throw .noField

def memory (indices : Ints) (sizes : List Ints) : Gen Int := do
  let products <- sizes.mapM fun size => do
    indices.foldlM (fun n i => do return n * (<- int (<- nth (size.map .int) i))) 1
  return products.foldl max 0

structure Req where
  kind : Text
  config : Table
  convolution : Conv
  problem : Table
  solution : Text
  dataType : Value
  sizes : Text
  asConv : Bool := true
  level : Int := 1

def document (r : Req) : Gen Table := do
  let archs <- architectures
  let set <- solution r.solution
  let forks := (set.or FP).items
  if (forks.any (has ·.entries MI)) && !archs.contains "gfx908" then throw (.failure "skipped")
  let problemType : Table := if r.asConv then
      [(OT, r.kind), ("ConvolutionConfig", .list (r.config.map fun e => .dict [e])),
       (DT, r.dataType)]
    else update [(OT, "TensorContraction"), (DT, r.dataType)] r.problem
  let forks := forks ++ r.convolution.assertions.map fun (k, v) => .dict [(k, .list [v])]
  let ps <- problems r.sizes r.config r.convolution r.level
  let sizes <- if r.asConv then pure (ps.map fun p => .record [("Conv", .dict p)])
    else ps.mapM fun p => do
      let pads := r.problem.or "ZeroPadA" (.list [])
      return .record [("Exact", .dict (<- (<- Problem.ofConv (.dict p) r.convolution pads).toExact))]
  let set := (set.set FP (.list forks)).set BFP
    (.list [.record [(PS, .list sizes)]])
  return (header false).set BP (.list [.list [.dict problemType, .dict set]])

def comparison (r : Req) : Gen Table := do
  let doc <- document { r with problem := [], sizes := PS, asConv := true, level := 2 }
  let globals := (doc.or GP).entries
  let doc := doc.set GP (.dict (set globals CVC 1))
  let problems := (doc.or BP).items.map fun p =>
    match p.items with
    | first :: rest =>
      let first := set (set first.entries OT r.kind)
        "ConvolutionConfig" (.list [.dict r.config])
      .list (.dict first :: rest)
    | [] => p
  return doc.set BP (.list problems)

end TensorForge.Sample
