import TensorForge.Client.Header
import TensorForge.Client.Script
import TensorForge.Host.Generator

/-! # Running clients -/

namespace TensorForge.Client

open Gen Settings Toolchain Generator Text

def lock : Act := do if <- flag "ClientExecutionLockPath" then throw .noModule

def startScript (script path : Text) : Gen Int := do
  lock
  let code <- codeOf [script] path
  if code != 0 then warn s!"ClientWriter Benchmark Process exited with code {code}"
  popPath
  return code

/-- Builds the older client if it is wanted; gives the exit code. -/
def run (logicPath : Value) (forBench : Bool) (tiles : Value) (configs : Option Texts := none) : Gen Int := do
  let path <- pushPath "build"
  if (<- settingInt NC) < 2 then
    let build <- writeBuild path (buildScript logicPath forBench)
    let script <- writeRunScript path forBench tiles configs
    require [build] path
    startScript script path
  else startScript (<- writeRunScript path forBench tiles configs) path

def judge (tell : Text -> Act) (words : Texts) (outcome : Option (Int × Text)) : Act :=
  let tell := fun reason => tell ("ClientWriter Benchmark Process exited with error: " ++ reason)
  match outcome with
  | none => tell ("[Errno 2] No such file or directory: " ++ Value.quoteText (words.headD ""))
  | some (code, _) => if code != 0 then tell (failureText (words.map .str) code) else pure ()

/-- The newer client; a failure is only warned of. -/
def runConfig (config : Text) (buildDir : Option Text) : Act := do
  let words := [<- program buildDir, s!"--config-file={config}"]
  judge warn words (<- Cmd.start words)

def srcFiles : Texts :=
  words "SolutionMapper.h Client.cpp Client.h DeviceStats.h ReferenceCPU.h TensorUtils.h MathTemplates.cpp
    MathTemplates.h KernelHeader.h Tools.h TensileCreateLibrary.cmake"

def finder : Gen Text := do
  return if (<- setting RL) == "OCL" then "FindOpenCL.cmake" else "FindHIP.cmake"

/-- As a program with its own settings; what it prints is lost. -/
def runGenerator (args : Texts) : Gen Int := do
  let st <- get
  let settings := (initial.set WP st.workspace.cwd).set CT 0
  set { st with settings, savedPaths := [] }
  let r <- try Except.ok <$> Generator.run "TensileCreateLibrary" (args ++ ["-j", "0"])
    catch e => pure (.error e)
  modify fun after =>
    { after with settings := st.settings, savedPaths := st.savedPaths, log := st.log, complaints := st.complaints }
  match r with
  | .ok () => return 0
  | .error .exit => return 1
  | .error e => throw e

def makeLib (logicPath libPath dir : Text) : Act := do
  let words := [(<- settingStr "ScriptPath") / "bin" / "TensileCreateLibrary", "--merge-files",
    "--no-legacy-components", "--new-client-only", "--no-short-file-names", "--no-library-print-debug",
    "--architecture=all", "--code-object-version=V3", "--cxx-compiler=hipcc", "--library-format=yaml",
    logicPath, libPath, "HIP"]
  judge fatal words (<- Cmd.start words dir runGenerator)

def writeLibConfig (l : Logic) (objects : Texts) (lib : Option Text) : Gen Text := do
  let problems <- (<- items l.exact).mapM fun row => do
    match <- items row with
    | [sizes, _] => return { sizes : Problem }
    | _ => throw .badValue
  let name <- l.problem.name
  let some lib := lib | throw .outOfRange
  writeStepConfig { name, baseDir := <- workPath, config := "ClientParameters_" ++ name }
    l.lib problems objects (some lib)

def runLib : Gen Int := do
  let logicPath := (<- workPath) / (<- settingStr "LibraryLogicPath")
  let base <- pushPath (<- settingStr "LibraryClientPath")
  let src <- pushPath "source"
  copyBundled srcFiles src
  if (<- settingInt NC) < 2 then copyBundled ["CMakeLists.txt"] src
  copyBundled [<- finder] src
  let files <- ((<- Files.list logicPath).map (logicPath / ·)).filterM fun f => do
    return (<- Files.isFile f) && (Path.splitExt f).2 == ".yaml"
  sayAt 1 s!"LogicFiles: {(Value.strs files).shown}"
  let _ <- Cmd.run (words (<- libScript base logicPath)) base runGenerator
  let lines := (<- Files.read (base / "library" / "TensileManifest.txt")).splitOn "\n"
  let objects := lines.filter (contains · "co")
  let lib := lines.find? (contains · "yaml")
  let parts <- files.mapM fun f => do
    let l <- readLogic f
    return (l, <- writeLibConfig l objects lib)
  let logics := parts.map (·.1)
  let half <- logics.mapM fun l => do return (<- l.problem.dataType DT).isHalf
  setSetting "EnableHalf" (half.contains true)
  if (<- setting NC) != 2 && !files.isEmpty then
    writeLibHeader (logics.map fun l => (l.schedule.shown, l.problem))
  popPath
  if <- flag "ForceRedoLibraryClient" then inSpace (·.removeTree ((<- workPath) / "build"))
  let code <- run logicPath false false (some (parts.map (·.2)))
  popPath
  return code

end TensorForge.Client

/-!
## Measuring lists of sizes

A client is started for every row of a table of sizes. It answers with raw bytes, which cannot be echoed as text, so
that a run ends with its first measurement.
-/

namespace TensorForge.SizeRuns

def usage : Text :=
  "USAGE:   python TensileBenchmarkLibraryClient.py sizes.csv library_client_command > name.txt 2> name.raw.txt \n" ++
  "Example: python TensileBenchmarkLibraryClient.py sizes.csv ./4_LibraryClient/build/client --function-idx 1 " ++
  "--num-benchmarks 100 --use-gpu-timer 0 > nn.txt 2> nn.raw.txt\n[BE SURE TO PIN CLOCKS]\n"

def header (sizes : Nat) : Text :=
  let padded width (s : Text) := .padLeft ' ' width s
  .join ((List.range sizes).map fun i => padded 6 s!"size{i}" ++ ", ") ++
    listing (["medianGF", "medianMs", "meanGF", "meanMs", "rstdGF", "rstdMs"].map (padded 9))

def rowCmd (client : Text) (row : Texts) : Text :=
  client ++ " --sizes" ++ .join (row.map (" " ++ Text.trimLeft ·))

def measureRow (client : Text) (row : Texts) : Act := do
  let cmd := rowCmd client row
  .complain (cmd ++ "\n")
  let _ <- Cmd.run [cmd]
  throw .wrongKind

def run (_ : Text) (args : Texts) : Act := do
  match args with
  | file :: client@(_ :: _) =>
    let path := (<- get).workspace.resolve file
    let client := " ".intercalate client
    let place := s!"ProblemSizesPath: {path}\n"
    let cmd := s!"LibraryClientCommand: {client}\n"
    .say (place ++ cmd ++ "\n")
    .complain (place ++ cmd ++ "\n\n")
    let rows := Csv.parse (<- Files.read path)
    let some first := rows.head? | do
      .sayLine (header 0)
      throw .unbound
    .sayLine (header first.length)
    for row in rows do measureRow client row
  | _ =>
    .complain usage
    throw .exit

end TensorForge.SizeRuns
