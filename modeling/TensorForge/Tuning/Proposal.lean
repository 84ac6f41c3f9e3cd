import TensorForge.Bench.Script
import TensorForge.Tuning.Draft

/-! # Proposals for tuning -/

namespace TensorForge.Proposal

open Bench Gen TuningDraft Value

def intLists (xs : List Ints) : Value := .list (xs.map .ints)
def scheme (es : List (Text × Values)) : Table := es.map fun (k, v) => (.str k, .list v)
def whole (ns : Ints) : Values := ns.map .int
def flags (bs : List Bool) : Values := bs.map .bool

def commonScheme (depths widths : Ints) : Table :=
  scheme [(ET, ["ShiftPtr"]), (KL, ["Assembly"]), (LT, flags [true]), (WGM, whole [1, 8]), (DU, whole depths),
    (VW, whole widths), (GSU, whole [1]), (FL, whole [1]), (PLR, flags [true]), (PGR, flags [true])]

def defaultScheme : Table := commonScheme [8, 16, 24, 32] [-1]

def matrixScheme : Table :=
  commonScheme [16, 24, 32] [2, 4] ++ scheme [(SIA, whole [1, 3]), (DVO, flags [true, false]),
    ("WaveSeparateGlobalReadA", flags [true, false]), ("WaveSeparateGlobalReadB", flags [true, false]),
    (IU, whole [1, 2]), ("OptNoLoadLoop", whole [0, 1, 2]), (SRVW, whole [4])]

def sumSizes : Ints := [30, 60, 90, 120, 180, 360, 720, 1440, 2880, 5000, 10000, 15000, 20000, 25000, 30000]

def groupOf (scheme : Table) (tileAware : Bool) : Gen Table := do
  let sized <- scheme.mapM fun (k, v) => do return (.dict [(k, v)], decide ((<- v.len) > 1))
  let pick forks := .list ((sized.filter (·.2 == forks)).map (·.1))
  let final := opt tileAware
      [.record [(PS, .null)], .record [("SolutionSummationSizes", .ints sumSizes)]]
  return ((emptyGroup.set FP (pick true)).set "BenchmarkCommonParameters"
    (pick false)).set BFP (.list final)

def fork (group : Table) (key : Text) (values : Value) : Table :=
  group.set FP (.list ((group.or FP).items ++ [.record [(key, values)]]))

def numbers (size : Value) : Gen Ints := do
  match size with
  | .list xs | .tuple xs => xs.mapM int
  | _ => throw .wrongKind

variable (size : Ints) (r : Req)

def number (n : Nat) : Gen Int := size[n]?.getDM (throw .outOfRange)

def suits : Gen Bool := do
  if (<- number size 0) % 64 != 0 || (<- number size 1) % 128 != 0 then return false
  let k <- number size 3
  return k % 64 == 0 && k >= 128

def around : Gen Values := do
  let m :: n :: b :: k :: _ := size | throw .outOfRange
  let near x : Ints := [x - 1, 2, x + 1]
  return [intLists [near m, [n], [b], [k]], intLists [[m], near n, [b], [k]], intLists [[m], [n], [b], near k]]

def sizesOf (sizes : Values) (vary onlySuited : Bool) : Gen Values := do
  let found <- sizes.mapM fun size => do
    if vary then
      let ns <- numbers size
      let ranges <- around ns
      return if <- suits ns then ranges.map fun r => .record [("Range", r)] else []
    else
      let good <- if onlySuited then do suits (<- numbers size) else pure true
      return opt good [.record [("Exact", size)]]
  return found.flatten

def withSizes (group : Table) (sizes : Values) (tileAware vary onlySuited : Bool) : Gen Table := do
  let final <- fetch group BFP
  let new <- sizesOf sizes vary onlySuited
  let old <- if final.truthy then items final else pure []
  let group := if final.truthy then group else group.set BFP (.list [])
  if tileAware then return group
  return group.set BFP (.list (old ++ [.record [(PS, .list new)]]))

/-- The least power of two at which tiles, halved that often, keep the compute units busy. -/
def splitFor (units m n : Int) : Int :=
  let tiles := [(128, 128), (128, 64), (64, 64), (64, 32), (32, 32)]
  let count (x t : Int) := max 1 ((x + t - 1).fdiv t)
  (tiles.findIdx? fun (a, b) => decide (count m a * count n b >= units)).elim 16 (Nat.pow 2 ·)

def addNew (ns : Ints) (n : Int) : Ints := if ns.contains n then ns else ns ++ [n]

def splits (sizes : Values) (matrix : Bool) : Gen (Values × Ints) := do
  let units := if matrix then 120 else 60
  let (split, values) <- sizes.foldlM (fun ((split, values) : Values × Ints) size => do
    let m :: n :: _ :: k :: _ <- numbers size | throw .outOfRange
    let long := (m <= 512 || n <= 512) && (k >= 5 * m || k >= 5 * n)
    let values := if long then addNew values (splitFor units m n) else values
    let values := if k > 100 * m && k > 100 * n then addNew values 32 else values
    return (if long then split ++ [size] else split, values)) ([], [1])
  return (split, values.mergeSort (· <= ·))

/-- Thread tiles and work groups, by the class of the sizes and the type. -/
def tiles (sizeClass type : Text) : List Ints × List Ints :=
  let usual : List Ints := [[4, 4], [4, 6], [6, 4], [4, 8], [8, 4], [8, 8]]
  match type, sizeClass with
  | "d", _ => ([[6, 6], [6, 4], [4, 6], [8, 4], [4, 4], [4, 8]],
      [[16, 16, 1], [16, 8, 1], [8, 16, 1], [16, 32, 1], [32, 16, 1]])
  | "h", c =>
    (match c with
      | "batch" => [[4, 2], [8, 4], [4, 4], [8, 8], [4, 8], [2, 4]]
      | "tiny" => [[4, 2], [4, 4], [2, 4], [2, 2]]
      | "small" => [[4, 2], [2, 4], [4, 4], [8, 4], [4, 8]]
      | "medium" => [[4, 4], [8, 4], [4, 8], [8, 8], [6, 4]]
      | _ => [[4, 4], [8, 4], [4, 8], [8, 8], [6, 4], [4, 6]],
     [[16, 16, 1], [16, 8, 1], [8, 16, 1], [4, 16, 1], [16, 4, 1], [8, 8, 1]])
  | _, "batch" => (usual, [[16, 16, 1], [16, 8, 2], [8, 16, 2], [4, 16, 4], [16, 4, 4], [8, 8, 4]])
  | _, "tiny" => ([[2, 2], [4, 2], [2, 4], [4, 4]],
      [[16, 16, 1], [8, 16, 2], [16, 8, 2], [32, 8, 4], [8, 32, 4], [8, 8, 4]])
  | _, "small" => (usual, [[16, 16, 1], [8, 16, 2], [16, 8, 2], [4, 16, 4], [16, 4, 4], [8, 8, 4]])
  | _, "medium" => (usual, [[16, 16, 1], [8, 16, 2], [16, 8, 2], [8, 8, 4]])
  | _, _ => ([[4, 4], [6, 4], [4, 6], [4, 8], [8, 4], [8, 8]], [[16, 16, 1], [16, 8, 2], [8, 16, 2], [8, 8, 4]])

def matrixTiles : List (Ints × List Ints × List Ints) :=
  [([16, 16, 4, 1], [[4, 16], [4, 32], [8, 16], [8, 32], [12, 16]], [[16, 16, 1], [64, 4, 1], [32, 8, 1]]),
   ([16, 16, 1, 4], [[2, 32], [2, 16], [1, 32], [4, 16], [2, 48], [6, 16]], [[64, 4, 1], [32, 8, 1]]),
   ([32, 32, 2, 1], [[2, 32], [1, 64], [4, 32], [6, 32], [2, 64]], [[16, 16, 1], [64, 4, 1], [32, 8, 1]]),
   ([32, 32, 1, 2], [[1, 32], [2, 32], [3, 32], [1, 64]], [[16, 16, 1], [32, 8, 1], [64, 4, 1]])]

/-- Of hand-written kernels, and whether the sizes are varied. -/
def handTiles : List (List Ints × List Ints × Bool) :=
  [([[8, 2], [8, 4], [2, 8], [4, 8], [16, 2], [16, 4], [16, 8], [2, 16], [4, 16], [8, 16]],
      [[16, 16, 1], [8, 8, 1]], true),
   ([[4, 4]], [[16, 32, 1]], false), ([[4, 16], [8, 16]], [[16, 16, 1]], true),
   ([[4, 16], [8, 16]], [[16, 16, 1]], false)]

def tiledGroup (scheme : Table) (tileAware : Bool) (instruction : Option Ints)
    (threadTiles workGroups : List Ints) (sizes : Values) (vary onlySuited : Bool) : Gen Table := do
  let group <- groupOf scheme tileAware
  let group := instruction.elim group fun i => fork group MI (intLists [i])
  let group := fork group TT (intLists threadTiles)
  withSizes (fork group WG (intLists workGroups)) sizes tileAware vary onlySuited

def firstType (types : Value) : Gen Text := do
  match types with
  | .str s => if s.isEmpty then throw .outOfRange else return .take 1 s
  | .list xs | .tuple xs => return (<- nth xs 0).shown
  | _ => throw .wrongKind

def lower (v : Value) : Gen Text :=
  match v with
  | .str s => return s.toLower
  | _ => throw .noField

def usualScheme (type : Text) (transp : Text) (split : Ints) : Table :=
  let s := (defaultScheme.set GSU (.ints split)).set TLDS
    (.ints (if transp == "tn" then [0, 1] else [0]))
  if type == "h" then
    s.update [(ASEM, .ints [2]), (AF0EM, .ints [2]), (VW, .ints [2, 4, 8])]
  else if type == "d" then
    let either := .list (flags [true, false])
    s.update [(DU, .ints [4, 8]), (PLR, either), (SNLL, either), (SU, .ints [0, 32])]
  else s

def groupsFor (key : Values) (sizeClass : Text) (sizes : Values) (tileAware matrix hand : Bool) : Gen Tables := do
  let [_, transposeA, transposeB, types] := key | throw .badValue
  let transp := (<- lower transposeA) ++ (<- lower transposeB)
  let (long, values) <- splits sizes matrix
  let short := sizes.filter fun s => !long.any s.same
  let lists := [(short, [1]), (long, values)].filter (!·.1.isEmpty)
  if hand && transp == "tn" then
    let scheme := ((defaultScheme.set GSU (.ints [1, 3])).set "ReplacementKernel"
      (.list (flags [true]))).set TLDS (.ints [0, 1])
    handTiles.mapM fun (threadTiles, workGroups, vary) =>
      tiledGroup scheme tileAware none threadTiles workGroups (short ++ long) vary true
  else if matrix && types.same "s" then
    let groups <- lists.mapM fun (sizes, split) => do
      let scheme := (matrixScheme.set GSU (.ints split)).set TLDS
        (.ints (if transp == "tn" then [0, 1] else [0]))
      matrixTiles.mapM fun (instruction, threadTiles, workGroups) =>
        tiledGroup scheme tileAware (some instruction) threadTiles workGroups sizes false false
    return groups.flatten
  else
    lists.mapM fun (sizes, split) => do
      let type <- firstType types
      let (threadTiles, workGroups) := tiles sizeClass type
      tiledGroup (usualScheme type transp split) tileAware none threadTiles workGroups sizes false false

def packedLead (call : Table) (m n k : Int) : Gen Ints := do
  if same (<- fetch call "transposeB") "T" then return [m, n, m]
  if same (<- fetch call "transposeA") "N" then return [m, k, m]
  return [k, k, m]

/-- For matrix instructions an extent of one becomes four. -/
def sizeOf (call : Table) (noStrides matrix : Bool) : Gen Ints := do
  let extent (key : Text) := do (<- fetch call key).toInt
  let m <- extent "m"
  let n <- extent "n"
  let k <- extent "k"
  let wide x := if matrix && x == 1 then 4 else x
  let (m, n, k) := (wide m, wide n, wide k)
  let b <- extent "batch_count"
  if noStrides then return [m, n, b, k]
  let isSet (key : Text) := do return !same (<- fetch call key) 0
  if <- ["lda", "ldb", "ldc"].allM isSet then
    let [lda, ldb, ldc, ldd] <- ["lda", "ldb", "ldc", "ldd"].mapM extent | throw .badValue
    return [m, n, b, k, if ldd != 0 then ldd else ldc, ldc, lda, ldb]
  let [lda, ldb, ldc] <- packedLead call m n k | throw .badValue
  return [m, n, b, k, ldc, ldc, lda, ldb]

def classOf (matrix : Bool) : Gen Text := do
  let m :: n :: b :: _ :: _ := size | throw .outOfRange
  let area := m * n
  return if matrix then "matrix" else if b > 1 then "batch"
    else if area <= 32 * 32 then "tiny" else if area <= 128 * 128 then "small"
    else if area <= 512 * 512 then "medium" else "large"

def problemType (key : Values) (tileAware noAccum : Bool) : Gen Table := do
  let [_, transposeA, transposeB, types] := key | throw .badValue
  let letter (n : Int) := match types with
    | .str s => do
      let some c := s.toList[n.toNat]? | throw .outOfRange
      return c.toString
    | v => do nth (<- items v) n
  let isNot v : Value := !v.same "N"
  let input <- letter 0
  let output <- letter 1
  let compute <- letter 2
  let params : Table := [("TransposeA", isNot transposeA), ("TransposeB", isNot transposeB), (DT, input),
    (DDT, output), (CDT, compute)]
  if (input.same "h" || input.same "b") && compute.same "s" then
    if noAccum then sayLine "input half and compute single requires hpa"
    return TuningDraft.problemType (params.set HPA true) tileAware
  return TuningDraft.problemType params tileAware

structure Req where
  (directory name lib : Text)
  (tileAware matrix hand noStrides : Bool)
  client : Text
  noAccum : Bool

def bySizeClass (calls : Tables) : Gen (List (Text × Values)) :=
  calls.foldlM (fun classes call => do
    let size <- sizeOf call r.noStrides r.matrix
    let c <- classOf size (r.hand || r.matrix)
    let size := .ints size
    return if classes.any fun e => e.1 == c
      then classes.map fun (k, sizes) => if k == c then (k, sizes ++ [size]) else (k, sizes)
      else classes ++ [(c, [size])]) []

structure Pending where
  file : Text
  draft : TuningDraft
  problem : Values
  shared : List Values := []

def clientCode (client : Text) : Int := if client == "old" then 0 else if client == "both" then 1 else 2

def sharedSizes (transp : Text) (sizes : Values) : Gen (List Values) := do
  if !(r.hand && transp == "tn") || r.tileAware then return []
  return (<- sizes.filterM fun s => do suits (<- numbers s)).map items

/-- `beta` says whether a product so far adds to its result. -/
def addProducts (pending : List Pending) (beta : Bool) (key : Value) (calls : Tables) : Gen (List Pending × Bool) := do
  let classes <- bySizeClass r calls
  let beta := beta || calls.any fun c => Text.contains (dict c).quoted "'beta': 1"
  let parts := key.items
  let problem <- problemType parts r.tileAware r.noAccum
  let dataType <- lower (<- fetch problem DT)
  let operation <- lower (<- fetch problem OT)
  let [_, transposeA, transposeB, _] := parts | throw .badValue
  let transp := (<- lower transposeA) ++ (<- lower transposeB)
  let file := r.directory / s!"{r.lib}_{dataType}{operation}_{transp}_{r.name}"
  let pending <- if pending.any fun p => p.file == file then pure pending else do
    let logic <- logicFor r.lib
    let globals := if r.hand then defaultGlobals.set MF true else defaultGlobals
    let globals := (globals.set NC (clientCode r.client)).set "DataInitTypeBeta"
      (if beta then 1 else 0)
    pure (pending ++ [{ file, problem := [.dict problem]
                        draft := { globals := .dict globals, logic, client := true } }])
  let tried := if r.matrix || r.hand then classes.getLast?.toList else classes
  let groups <- tried.mapM fun (c, sizes) => groupsFor parts c sizes r.tileAware r.matrix r.hand
  let shared <- tried.mapM fun (_, sizes) => do
    let (long, _) <- splits sizes r.matrix
    sharedSizes r transp ((sizes.filter fun s => !long.any s.same) ++ long)
  return (pending.map fun p => if p.file == file
    then { p with problem := p.problem ++ groups.flatten.map .dict
                  shared := p.shared ++ shared.flatten } else p, beta)

def write (log : Log) : Act := do
  let (pending, _) <- log.foldlM (fun (pending, beta) (key, calls) =>
    addProducts r pending beta key calls) ([], false)
  for p in pending do ({ p.draft with problems := .list [.list p.problem] }).write p.file p.shared

/-! ## The command that proposes configurations -/

open Args (Param Cmd)
open Bench (LogSrc)

def cmd (name : Text) (single : Bool) : Cmd :=
  let yesNo (name : Text) := { name, kind := .yesNo, default := false }
  let own : List Param := ["output_path", "output_file_name", "library", yesNo "tile_aware", yesNo "mfma",
    yesNo "replacement_kernel", yesNo "disable_strides", { name := "problem_definition", default := "both" },
    { name := "initialization", default := "rand_int" }, { name := "client", default := "new" }, yesNo "disable_hpa"]
  { name, params := LogSrc.params single ++ own }

def run (name : Text) (args : Texts) : Act := do
  let single := args.length <= 12
  let values <- (cmd name single).read args
  let text := fetchText values
  let switch := fetchFlag values
  let src <- LogSrc.ofValues single values
  let log <- src.read name
  let out <- text "output_path"
  let below (dir : Text) := do
    let path := out / dir
    Files.ensureDir path
    return path
  let configs <- below "configs"
  let scripts <- below "scripts"
  let scripts2 <- below "scripts2"
  let sizes <- below "sizes"
  let noStrides <- switch "disable_strides"
  let filling <- text "initialization"
  write { directory := configs, name := <- text "output_file_name", lib := <- text "library"
          tileAware := <- switch "tile_aware", matrix := <- switch "mfma"
          hand := <- switch "replacement_kernel", noStrides, client := <- text "client"
          noAccum := <- switch "disable_hpa" } log
  writeScripts (.plain scripts src.name) noStrides filling log
  writeScripts (.withLib scripts2 (src.name ++ "2")) noStrides filling log
  writeTable sizes src.name log

end TensorForge.Proposal
