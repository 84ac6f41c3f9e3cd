import TensorForge.Tuning.Analysis
import TensorForge.Tuning.Benchmark

/-! # Writing logic files -/

namespace TensorForge.LogicFile

open Gen Settings

variable (config : Value)

def part? (key : Value) : Gen (Option Value) := do
  if !(<- key.isIn config) then return none
  match config with
  | .dict es => some <$> fetchKey es key
  | _ => throw .wrongKind

def params : Gen Table :=
  analysisDefaults.mapM fun (k, v) => do return (k, (<- part? config k).getD v)

def readGroup (stem : Text) : Gen MeasuredGroup := do
  let dataFile := stem ++ ".csv"
  let solutionsFile := stem ++ ".yaml"
  if !(<- Files.isThere solutionsFile) then fatal s!"{solutionsFile} doesn't exist for {stem}"
  let (sizes, solutions) <- SolutionFile.read solutionsFile
  return { sizes, dataFile, solutionsFile, selectionFile := stem ++ ".gsp", solutions }

/-- In the order in which the problem types appear. -/
def byProblem (groups : List MeasuredGroup) : List (ProblemType × List MeasuredGroup) :=
  groups.foldl (fun out g =>
    match g.solutions.head? with
    | none => out
    | some s =>
      if out.any fun e => e.1.same s.problem then out.map fun e => if e.1.same s.problem then (e.1, e.2 ++ [g]) else e
      else out ++ [(s.problem, [g])]) []

def write (dataPath logicPath : Text) : Act := do
  let rule := "".pushn '#' 80
  sayAt 2 s!"# LibraryLogic config: {config.shown}"
  sayAt 2 "# DefaultAnalysisParameters: "
  setPath logicPath
  let params <- params config
  let dataName := (<- setting "BenchmarkDataPath").shown
  sayAt 1 s!"\n{rule}\n# Analysing data in {dataName} - 0.000s"
  for (k, v) in params do sayAt 2 s!"#   {k.shown}: {v.shown}"
  sayAt 1 s!"{rule}\n"
  if !(<- Files.isThere dataPath) then fatal s!"Path doesn't exist: {dataPath}"
  let tables := (<- Files.list dataPath).filter fun n => (Path.splitExt n).2 == ".csv"
  let groups <- tables.mapM fun n => readGroup (Path.splitExt (dataPath / n)).1
  let schedule <- fetch params "ScheduleName"
  for (problem, groups) in byProblem groups do
    let findings <- analyze problem groups params
    let name := s!"{schedule.shown}_{<- problem.name}.yaml"
    let file := (<- workPath) / name
    sayAt 2 s!"# writing library logic YAML {file}"
    let data <- Logic.create schedule (<- fetch params "ArchitectureName") (<- fetch params "DeviceNames") findings
    Stored.writeDoc file (.list data)
  let above := Path.dirname logicPath
  sayAt 1 s!"{rule}\n# Finish Analysing data to in {above} - 0.000s\n{rule}"
  popPath

end TensorForge.LogicFile

/-! ## The tuning command -/

namespace TensorForge.Tuning

open Gen LogicFile Settings

open Args (Param Cmd)

variable (name : Text)

def settingParams : List Param :=
  [.number ["-d", "--device"] "device", .number ["-p", "--platform"] "platform",
   .flagged ["--runtime-language"] RL .null ["HIP", "OCL"],
   .flagged ["--code-object-version"] COV "V3" ["V2", "V3"], .switch ["-v", "--verbose"] "verbose",
   .switch ["--debug"] "debug", .switch ["--short-names"] "shortNames", .switch ["--no-merge-files"] "noMergeFiles",
   .flagged ["--cxx-compiler"] CC "hipcc" ["hipcc"],
   .flagged ["--library-format"] LF "yaml" ["yaml", "msgpack"],
   .flagged ["--client-build-path"] "client_build_path", .flagged ["--client-lock"] "client_lock",
   .flagged ["--prebuilt-client"] "prebuilt_client", .assigns "--global-parameters" "global_parameters"]

def overrides (values : Table) : Gen Table := do
  let value key := fetch values key
  let mut t : Table := []
  for (key, name) in [("device", "Device"), ("platform", "Platform"), (RL, RL),
      (COV, COV)] do
    let v <- value key
    if v.truthy then
      sayAt 1 s!"# Command-line override: {name}"
      t := t.set name v
  if (<- value "verbose").truthy then
    sayAt 1 "# Command-line override: PrintLevel"
    t := t.set PL 2
  if (<- value "debug").truthy then
    sayAt 1 "# Command-line override: Debug"
    t := (t.set PL 2).set "CMakeBuildType" "Debug"
  if (<- value "shortNames").truthy then t := t.set SN true
  if (<- value "noMergeFiles").truthy then t := t.set MF false
  t := t.set CC (<- value CC)
  sayAt 1 ""
  for (key, name) in [("client_build_path", "ClientBuildPath"), ("client_lock", "ClientExecutionLockPath"),
      ("prebuilt_client", "PrebuiltClient")] do
    let v <- value key
    if v.truthy then t := t.set name v
  putPairs t (<- value "global_parameters")

def override (t : Table) : Act := do
  for (k, v) in t do
    sayLine s!"Overriding {k.shown}={v.shown}"
    modify fun st => { st with settings := st.settings.put k v }

def execute (config : Value) : Act := do
  if let some problems <- part? config BP then
    Benchmark.run problems
    sayAt 1 ""
  let work <- workPath
  let logicPath := work / (<- settingStr "LibraryLogicPath")
  let orEmpty (v : Value) := if v.isNull then .dict [] else v
  if let some logic <- part? config "LibraryLogic" then
    let files <- if <- Files.isThere logicPath then Files.list logicPath else pure []
    if files.isEmpty || (<- flag "ForceRedoLibraryLogic") then
      write (orEmpty logic) (work / (<- settingStr "BenchmarkDataPath")) logicPath
      sayAt 1 ""
    else sayAt 1 "# LibraryLogic already done."
    sayAt 1 ""
  if let some _ <- part? config "LibraryClient" then
    let _ <- Client.runLib
    sayAt 1 ""

def cmd : Cmd :=
  { name, params :=
    "config_file" :: "output_path" ::
      { flags := ["--version"], name := "version", effect := .version s!"{name} {version}" } :: settingParams }

def restoreSettings : Act := modify ({ · with settings := initial })

def run (args : Texts) : Act := do
  let rule := "".pushn '#' 80
  sayAt 1 s!"\n{rule}\n#\n#  Tensile v{version}"
  let values <- (cmd name).read args
  let text := fetchText values
  let file := (<- get).workspace.resolve (<- text "config_file")
  sayAt 1 s!"#  Config: {file}\n#\n{rule}\n"
  sayAt 1 "# Restoring default globalParameters"
  restoreSettings
  setSetting CC (<- fetch values CC)
  setSetting LF (<- fetch values LF)
  let config <- Yaml.read (<- Files.read file)
  setSetting "ConfigPath" file
  (<- part? config GP).elim (assign []) fun v => do assign (<- table v)
  let out <- ensurePath ((<- get).workspace.resolve (<- text "output_path"))
  setSetting OP out
  setSetting WP out
  override (<- overrides values)
  execute config

end TensorForge.Tuning

/-!
## Retuning

The solutions of a logic file are measured again at the sizes that the file knows; the best solutions now replace what
the file said.
-/

namespace TensorForge.Retune

open Gen Settings

open Args (Cmd)

variable (name : Text)

def cmd : Cmd := { name, params := "library_file" :: "output_path" :: Tuning.settingParams }

structure Tuned where
  data : Values
  solutions : Solutions
  sizes : ProblemSizes

def readTuned (file : Text) : Gen Tuned := do
  let data <- items (<- Yaml.read (<- Files.read file))
  let logic <- Logic.read data file
  if data.length > 10 then setSetting PM (data.getD 10 .null)
  let sizes <- (<- items logic.exact).mapM fun entry => do
    match <- items entry with
    | [size, _] => return .record [("Exact", size)]
    | _ => throw .badValue
  return { data, solutions := logic.solutions, sizes := <- ProblemSizes.read logic.problem (.list sizes) }

/-- Gives the file that the client writes the best solutions to. -/
def measure (t : Tuned) (outPath : Text) : Gen Text := do
  let _ <- Client.program
  let baseDir := outPath / "benchmark"
  let _ <- ensurePath (baseDir / "source")
  let _ <- pushPath "benchmark"
  let work <- pushPath "source"
  Generator.copyBundled Benchmark.srcFiles work
  Generator.copyBundled [<- Client.finder] work
  let updateFile := (<- ensurePath (Path.normalize (work / "../../Data"))) / "update.yaml"
  setSetting "LibraryUpdateFile" updateFile
  let _ <- Benchmark.writeStep
    { solutions := t.solutions, sizes := t.sizes, sums := .list [], name := "benchmark", baseDir
      bundled := Benchmark.srcFiles }
  popPath
  let code <- Client.run .null true false
  if code != 0 then fatal s!"BenchmarkProblems: Benchmark Process exited with code {code}"
  return updateFile

def run (args : Texts) : Act := do
  let rule := Benchmark.rule
  sayAt 1 s!"\n{rule}\n#\n#  Tensile Retune Library v{version}"
  let text := fetchText (<- (cmd name).read args)
  let file := (<- get).workspace.resolve (<- text "library_file")
  sayAt 1 s!"#  Library Logic: {file}\n#\n{rule}\n"
  let outPath <- ensurePath ((<- get).workspace.resolve (<- text "output_path"))
  Tuning.restoreSettings
  assign [(LF, "msgpack"), (OP, outPath), (WP, outPath)]
  let tuned <- readTuned file
  let updateFile <- measure tuned outPath
  sayAt 1 s!"\n{rule}\n# Reading update file from Benchmarking Client"
  let update <- Yaml.read (<- Files.read updateFile)
  let outFile := outPath / Path.basename file
  sayAt 1 s!"# Writing updated Library Logic: {outFile}"
  Files.write outFile (Yaml.print {} (.list (tuned.data.set 7 update)))
  sayLine rule

end TensorForge.Retune
