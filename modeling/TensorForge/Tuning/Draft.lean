import TensorForge.Yaml.Document

/-! # Drafts of tuning configurations -/

namespace TensorForge

structure TuningDraft where
  (globals problems logic client : Value := .null)

namespace TuningDraft

def commonGlobals (build : Text) (validated : Int) (merge : Bool) : Table :=
  [(MRV, "4.2.0"), (FRBP, true), ("ForceRedoLibraryLogic", true), ("ForceRedoLibraryClient",
   true), ("CMakeBuildType", build), ("EnqueuesPerSync", 1), ("SyncsPerBenchmark", 1), (LPD, false),
   ("NumElementsToValidate", validated), ("ValidationMaxToPrint", 4), ("ValidationPrintValids", false),
   (SN, false), (MF, merge)]

def defaultGlobals : Table :=
  .append (commonGlobals "Release" 0 false) [("Platform", 0), ("Device", 0), ("KernelTime", true),
   ("PinClocks", false), ("SleepPercent", 50), ("DataInitTypeBeta", 0), ("SolutionSelectionAlg", 1),
   ("PrintWinnersOnly", 1), (PSRR, true), ("DataInitTypeAB", 0), (NC, 2)]

def logics : List (Text × Text × Texts) :=
  [("arcturus", "gfx908", ["Device 7380", "Device 7388", "Device 738c", "Device 7390"]),
   ("vega20", "gfx906", ["Device 66a0", "Device 66a1", "Device 66a7", "Device 66af", "Vega 20"]),
   ("vega10", "gfx900", ["Device 6863", "Device 6862", "Device 687f", "Device 6860", "Device 6861",
   "Vega 10 XTX [Radeon Vega Frontier Edition]", "Vega [Radeon RX Vega]"]), ("mi25", "gfx900", ["Device 6860"]),
   ("r9nano", "gfx803", ["Device 7300"]), ("hip", "fallback", ["Device 0000"])]

def logicFor (schedule : Value) : Gen Value := do
  let (architecture, devices) <- schedule.known logics
  return .record [("ArchitectureName", architecture), ("DeviceNames", .strs devices), ("ScheduleName", schedule)]

def problemType (params : Table) (tileAware : Bool) : Table :=
  let base : Table := [(OT, "GEMM"), (DT, "s"), ("Batched", true), ("UseBeta", true),
    ("TransposeA", false), ("TransposeB", true)]
  (if tileAware then base.set TAS true else base).update params

def emptyGroup : Table :=
  ["InitialSolution", "BenchmarkCommon", "Fork", "BenchmarkFork", "Join", "BenchmarkJoin", "BenchmarkFinal"].map
    fun k => (.str (k ++ "Parameters"), .null)

def plainScheme : Table :=
  [(ET, .list ["ShiftPtr"]), (KL, .list ["Assembly"]), (LT, .list [true]), (WGM, .ints [1, 8]), (DU, .ints [16]),
   (VW, .ints [-1]), (GSU, .ints [1]), (GRVW, .ints [-1]), (FL, .ints [1]), (PGR, .list [false]),
   (PLR, .list [false, true])]

def read (file : Text) : Gen TuningDraft := do
  .sayLine s!"reading configuration: {file}"
  let data <- Yaml.read (<- Files.read file)
  let section' (key : Text) := do
    if <- Value.isIn key data then .fetch (<- .table data) key else return .null
  return { globals := <- section' GP, problems := <- section' BP
           logic := <- section' "LibraryLogic"
           client := if <- Value.isIn "LibraryClient" data then true else .null }

/-- `shared` are sequences that are written once. -/
def write (d : TuningDraft) (file : Text) (shared : List Values := []) : Act := do
  let part key v layout :=
    opt v.truthy (Yaml.print layout (.record [(key, v)]))
  Files.write file (part GP d.globals { width := 1024 }
    ++ part BP d.problems { shared } ++ part "LibraryLogic" d.logic { width := 1024 }
    ++ opt d.client.truthy "LibraryClient:\n")

end TuningDraft

end TensorForge

/-!
## Configurations from parts

A head, a type, pairs of solutions and sizes, and the library logic, each from a file. A definition file says which
parts belong together.
-/

namespace TensorForge.Parts

abbrev Defs := List (Text × Pairs)

def addLine (ds : Defs) (line : Text) : Gen Defs := do
  let [sizes, solutions, problem, transform, lib] := (Text.trim line).splitOn ","
    | throw .badValue
  let key := s!"{lib}_{problem}_{transform}"
  let entry := (s!"solutions/{solutions}.yml", sizes)
  return if ds.any fun d => d.1 == key
    then ds.map fun (k, es) => if k == key then (k, es ++ [entry]) else (k, es)
    else ds ++ [(key, [entry])]

def read (file : Text) : Gen Defs := do (Files.linesOf (<- Files.read file)).foldlM addLine []

def write (head key : Text) (parts : Pairs) (dir out outDir : Text) : Act := do
  let [lib, problem, transform] := key.splitOn "_" | throw .badValue
  let files := [head, dir / s!"types/{problem}_{transform}.yml"]
    ++ (parts.flatMap fun (solutions, sizes) => [dir / solutions, sizes])
    ++ [dir / s!"boiler/library_logic_{lib}_only.yml"]
  let target := outDir / s!"{key}_{out}"
  Files.write target ""
  for file in files do Files.append target (<- Files.read file)

end TensorForge.Parts
