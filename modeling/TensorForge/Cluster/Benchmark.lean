import TensorForge.Cluster.Script
import TensorForge.Config.Expression
import TensorForge.Library.Merge
import TensorForge.Tuning.Split

/-! # Benchmarks on a cluster -/

namespace TensorForge.Cluster

open Cmd Node Files Gen

variable (name : Text)

def cmd : Args.Cmd :=
  { name, params :=
    ["BenchmarkLogicPath", "DeploymentPath", .flagged ["--cluster-backend"] "ClusterBackend" "slurm",
     .switch ["--deploy-only"] "DeployOnly", .switch ["--run-only"] "RunOnly", .switch ["--results-only"] "ResultsOnly",
     .switch ["--run-and-results-only"] "RunAndResultsOnly", .assigns "--benchmark-parameters" "benchmark_parameters"] }

def group (values : List (Text × Value)) : Result Node :=
  values.foldlM (fun n (k, v) => n.create k (.plain v) (.plain .null) "") empty >>= fun n =>
    return .param name n (.plain .null) ""

def rootDir : Gen Text := do return Path.dirname (<- settingStr "ScriptPath")

def constraints : List (Text × Expr) :=
  [("BenchmarkTaskSize > 0", .block [.statement (.comparison (.name "BenchmarkTaskSize") ["Gt"] [.number 0])]),
   ("RunDeployStep or RunBenchmarkStep or RunResultsStep", .block [.statement (.junction "Or" [.name "RunDeployStep",
   .name "RunBenchmarkStep", .name "RunResultsStep"])])]

def initConfig (values : Table) : Gen Node := do
  let flag := fetchFlag values
  let base <- fetchText values "DeploymentPath"
  let below (parts : Texts) := .str (parts.foldl (· / ·) base)
  let deploy <- flag "DeployOnly"
  let run <- flag "RunOnly"
  let results <- flag "ResultsOnly"
  let runAndResults <- flag "RunAndResultsOnly"
  let root <- rootDir
  let plain :=
    [("RootTensileDir", .str root), ("BenchmarkLogicPath", <- fetch values "BenchmarkLogicPath"),
     ("BenchmarkBaseDir", base), ("BenchmarkTasksDir", below ["Tasks"]), ("BenchmarkImageDir", below ["Image"]),
     ("BenchmarkResultsDir", below ["Results"]), ("BenchmarkFinalLogicDir", below ["Results", "Final"]),
     ("BenchmarkLogsDir", below ["Logs"]), ("BenchmarkTaskSize", .int 10),
     ("RunDeployStep", .bool (!run && !results && !runAndResults)), ("RunBenchmarkStep", .bool (!deploy && !results)),
     ("RunResultsStep", .bool (!deploy && !run)), ("FinalLogicForceMerge", false), ("FinalLogicTrim", true)]
  let backend <- fetchText values "ClusterBackend"
  if backend.toLower != "slurm" then throw (.unsupported "Cluster backend not recognized")
  let scripts := [("JobScriptName", Value.str "runBenchmark.sh"), ("TaskScriptName", "enqueueTask.sh")]
  let image := "compute-artifactory.amd.com:5000/rocm-plus-docker/compute-rocm-dkms-amd-feature-targetid:3004-STG1"
  let docker := [("DockerBaseImage", Value.str image),
    ("DockerBuildFile", .str (root / "docker" / "dockerfile-tensile-tuning-slurm")),
    ("DockerImageName", "tensile-tuning-cluster-executable"), ("DockerImageTag", "TEST"),
    ("TensileFork", "ROCmSoftwarePlatform"), ("TensileBranch", "develop"), ("TensileCommit", "HEAD")]
  .ofExcept do
    let config <- plain.foldlM (fun n (k, v) => n.create k (.plain v) (.plain .null) "") empty
    let kept := constraints.map fun (text, _) => (text, .str text)
    let config <- config.write "_Constraints" (<- group "_Constraints" kept)
    let parts := [("SCRIPTS", <- group "SCRIPTS" scripts), ("DOCKER", <- group "DOCKER" docker)]
    config.write "SLURM" (.param "SLURM" (.section parts) (.plain .null) "")

variable (config : Node)

def override (assigns : Table) : Gen Node :=
  assigns.foldlM (fun config (k, v) => do
    if <- config.contains k.shown then config.write k.shown (.plain v)
    else
      sayLine s!"Warning: Benchmark parameter {k.shown} = {v.shown} unrecognised."
      return config) config

def checkConstraints : Act := do
  for (text, e) in constraints do
    let (result, after) := e.run config
    say after.printed
    if !(<- result).toValue.truthy then throw (.violated s!"Constraint evaluation failed: {text}")

variable (path : Text)

def setting : Gen Value := do return (<- config.read path).toValue
def place : Gen Text := do str (<- setting config path)

def ensurePlace : Act := do
  try makeDirs path
  catch
    | .noFile | .fileExists | .wrongPath | .isDirectory => pure ()
    | e => throw e

def requireCmd (text : Text) : Act := do if (<- run (Text.words text)).1 != 0 then throw .cmdFailed

def buildImage : Act := do
  let docker (key : Text) := do return (<- setting config ("SLURM.DOCKER." ++ key)).shown
  let tag := (<- docker "DockerImageName") ++ ":" ++ (<- docker "DockerImageTag")
  write ((<- place config "BenchmarkLogsDir") / "dockerBuildLog.log") ""
  let gap := "".pushn ' ' 16
  let argument (name value : Text) : Text := s!"--build-arg {name}={value}"
  let build := String.join ([gap ++ "docker build ",
    gap ++ s!"-t {tag} "] ++ (["--pull -f " ++ (<- docker "DockerBuildFile"), argument "user_uid" "$UID",
    argument "base_image" (<- docker "DockerBaseImage"), argument "tensile_fork" (<- docker "TensileFork"),
    argument "tensile_branch" (<- docker "TensileBranch"), argument "tensile_commit" (<- docker "TensileCommit"),
    "."].map (gap ++ · ++ " ")))
  sayLine s!"Building docker image: {tag} ..."
  sayLine build
  requireCmd build
  sayLine "Done building docker image!"
  let archive := (<- place config "BenchmarkImageDir") / ((tag.splitOn ":").headD "" ++ ".tar.gz")
  sayLine s!"Saving docker image: {tag}  to {archive} ..."
  put archive (.zipped "")
  put archive (.zipped (<- run (Text.words s!"docker save {tag}")).2)
  sayLine "Done saving docker image!"

def writeScripts : Act := do
  let base <- place config "BenchmarkBaseDir"
  let tasks <- place config "BenchmarkTasksDir"
  writeScript jobScript (<- place config "SLURM.SCRIPTS.JobScriptName") base
  writeScript taskScript (<- place config "SLURM.SCRIPTS.TaskScriptName") base
  for name in <- (<- list tasks).filterM fun n => isFile (tasks / n) do
    let stem := (Path.splitExt name).1
    let dir := tasks / stem
    ensurePlace dir
    move (tasks / name) (dir / name)
    writeScript nodeScript (stem ++ ".sh") dir

def deploy : Act := do
  for key in ["Base", "Tasks", "Image", "Results", "FinalLogic", "Logs"] do
    ensurePlace (<- place config s!"Benchmark{key}Dir")
  let size <- int (<- setting config "BenchmarkTaskSize")
  Split.file (<- place config "BenchmarkLogicPath") (<- place config "BenchmarkTasksDir") size "" "_" "\x7b:04d\x7d"
  buildImage config
  writeScripts config

def submit : Act := do
  let base <- place config "BenchmarkBaseDir"
  let job <- place config "SLURM.SCRIPTS.JobScriptName"
  let logs <- place config "BenchmarkLogsDir"
  let image <- place config "BenchmarkImageDir"
  let results <- place config "BenchmarkResultsDir"
  let tasks <- place config "BenchmarkTasksDir"
  let script := base / job
  let task := base / (<- place config "SLURM.SCRIPTS.TaskScriptName")
  write (logs / ((Path.splitExt job).1 ++ ".log")) ""
  requireCmd s!"{script} -i {image} -l {logs} -r {results} -s {task} -t {tasks}"

def combine : Act := do
  let results <- place config "BenchmarkResultsDir"
  let dirs <- ((<- list results).map (results / · / "3_LibraryLogic")).filterM isDir
  let files <- dirs.flatMapM fun d => do ((<- list d).map (d / ·)).filterM isFile
  if dirs.length != files.length then
    sayLine "Warning: inconsistent number of expected results. Check that results are complete."
  let force <- match <- setting config "FinalLogicForceMerge" with
    | .null => pure none
    | v => pure (some v.truthy)
  let trim := (<- setting config "FinalLogicTrim").truthy
  Merge.partials files (<- place config "BenchmarkFinalLogicDir") force { force := false, trim }

def run (args : Texts) : Act := do
  let values <- (cmd name).read args
  let config <- initConfig values
  let config <- override config (<- putPairs [] (<- fetch values "benchmark_parameters"))
  checkConstraints config
  let wanted key : Gen Bool := do return (<- setting config key) matches .bool true
  let deploying <- wanted "RunDeployStep"
  let submitting <- wanted "RunBenchmarkStep"
  let combining <- wanted "RunResultsStep"
  if deploying then
    sayLine "Preparing benchmarking files..."
    deploy config
    sayLine "Finished preparing benchmarking files"
  if submitting then
    sayLine "Running benchmark tasks (this might take a while)..."
    submit config
    sayLine "Finished benchmark tasks"
  if combining then
    sayLine "Combining benchmark results..."
    combine config
    let final := (<- setting config "BenchmarkFinalLogicDir").shown
    sayLine s!"Final logic file saved to: {final}"
  sayLine "Finished"

end TensorForge.Cluster
