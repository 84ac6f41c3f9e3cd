import TensorForge.Client.Run
import TensorForge.Tuning.Plan
import TensorForge.Tuning.Results
import TensorForge.Tuning.Winners

/-! # Benchmarks -/

namespace TensorForge.Benchmark

open Client Files Gen Generator Settings Text

def rule : Text := "".pushn '#' 80

def srcFiles : Texts :=
  words "SolutionMapper.h Client.cpp Client.h CMakeLists.txt DeviceStats.h TensorUtils.h MathTemplates.cpp
    MathTemplates.h TensileTypes.h tensile_bfloat16.h KernelHeader.h ReferenceCPU.h SolutionHelper.cpp SolutionHelper.h
    Tools.cpp Tools.h"

/-- Many of the largest tiles for each length of the summation. -/
def idealSizes (batched : Bool) (solutions : Solutions) (sums : Values) : Gen Value := do
  let largest (key : Text) :=
    solutions.foldlM (fun n s => do return max n (<- int (<- s.fetch key))) 0
  let m := 36 * (<- largest MT0)
  let n := 36 * (<- largest MT1)
  return .list (sums.map fun k => .record [("Exact", .list
    (if batched then [m, n, 1, k] else [m, n, k]))])

structure StepTask where
  solutions : Solutions
  sizes : ProblemSizes
  sums : Value
  (name baseDir : Text)
  bundled : Texts

def writeStep (t : StepTask) : Gen Solutions := do
  let work <- workPath
  if !(<- flag MF) then let (<- ensurePath (work / "Solutions")) <- ensurePath (work / "Kernels")
  let _ <- Progress.counted t.solutions fun _ => pure ()
  let srcs <- Srcs.ofKernels t.solutions (<- Srcs.distinctNames t.solutions)
  let problem := (<- first t.solutions).problem
  let (left, objects) <- srcs.write work (<- settingStr CC) [problem] true
  let libDir <- ensurePath (work / "library")
  let lib <- (<- Master.ofSolutions left.solutions).named (some srcs.naming.kernels.required)
  Stored.write (libDir / "TensileLibrary") (<- lib.toValue true)
    (<- settingStr LF)
  let objects := objects.map (Path.rel · work)
  let files := { name := t.name, baseDir := t.baseDir }
  let _ <- writeStepConfig files lib t.sizes.problems objects
  let sums <- items t.sums
  if <- problem.flag TAS then
    let sizes <- ProblemSizes.read problem (<- idealSizes (<- problem.flag "Batched") left.solutions sums)
    let _ <- writeStepConfig { files with tiles := true } lib sizes.problems objects
  (<- ObjectFiles.ofSrcs left).writeBuildList work t.bundled
  copyBundled t.bundled work
  if (<- setting NC) != 2 then
    writeBenchHeader
      { solutions := left.solutions, naming := srcs.naming, sizes := t.sizes, sums, step := t.name
        baseDir := t.baseDir }
  return left.solutions

def replaceSrcs (new old : Text) : Act := do
  sayAt 1 "# Copying files that differ from sourceTmp -> source"
  for name in <- list new do
    let a := new / name
    let b := old / name
    if <- isDir a then inSpace fun w => (w.removeTree b).copyTree a b else copy a b
  inSpace (·.removeTree new)

variable (step : BenchStep)

def printParams : Act := do
  sayAt 1 "# BenchmarkParameters:"
  for (k, v) in step.choices do
    let values <- items v
    if values.isEmpty then throw .outOfRange
    let shown := listing (values.map (·.shown))
    sayAt 1 s!"#     {k.shown} = \x7b {shown} \x7d"

def stepPerms : Gen Tables := if step.choices.isEmpty then return [[]] else throw .wrongKind

structure StepState where
  fixed : Tables
  solutions : List Solutions
  winners : Winners

def dropEmpty (who : Text) (st : StepState) : Gen StepState := do
  let pairs := st.fixed.zip st.solutions
  let kept := pairs.filter (!·.2.isEmpty)
  if kept.length == pairs.length then return st
  sayAt 1 (s!"# Updating winners since {who} removed unused hardcoded solutions.  " ++
    s!"removeHardcoded={pairs.length - kept.length} winners={st.winners.entries.length}")
  let fixed <- kept.mapM (st.winners.completed ·.1)
  let winners <- st.winners.moveTo (kept.map (·.1))
  return { fixed, solutions := kept.map (·.2), winners }

def refuseEmpty {α : Type} : Gen α := do
  let more := if <- flag PSRR then
      "\nExamine reject and backtrace messages above to see why and where solutions were rejected."
    else "\nYou should re-run with \"PrintSolutionRejectionReason: True\" to see why each parameter " ++
      "combination was rejected."
  fatal ("Your parameters resulted in 0 valid solutions." ++ more)

def firstCol (problem : ProblemType) : Gen Nat := do
  return ((<- problem.int TI) + if <- flag "CSVExportWinner" then 10 else 5).toNat

structure Progressing where
  winners : Winners := {}
  failures : Nat := 0
  final : Option Text := none

def runStep (plan : BenchPlan) (group : Text) (past : Progressing) (step : BenchStep) : Gen Progressing := do
  let tiles := <- plan.problem.fetch TAS
  let (fixed, winners) <- if past.winners.entries.isEmpty then do
      sayAt 1 "# Empty winners - use fast initialization of hardcodedParameters"
      pure (step.fixed, past.winners)
    else do
      let w <- past.winners.moveTo step.fixed
      pure (w.combos, w)
  let short := step.abbreviation
  sayAt 1 s!"\n\n{rule}\n# BenchmarkStep: {group} - {step.describe} 0.000s\n# NumProblems: {step.sizes.problems.length}"
  printParams step
  let baseDir <- pushPath short
  let srcDir <- ensurePath (baseDir / "source")
  let older <- flag "OldClientSourceTmp"
  let bundled := opt older srcFiles
  if older then
    let work <- pushPath "sourceTmp"
    copyBundled bundled work
    copyBundled [<- finder] work
  else let _ <- pushPath "source"
  let perms <- stepPerms step
  let known := if step.position > 0 then some winners else none
  let solutions <- forkedSolutions plan.problem fixed perms known plan.initial
  let st <- dropEmpty "enumeration" { fixed, solutions, winners }
  let st <- if st.fixed.length < fixed.length then do
      sayAt 1 ""
      pure st
    else if winners.entries.isEmpty then do
      sayAt 1 s!"# Populating initial winners ({st.fixed.length} solutions)\n"
      let winners <- st.fixed.foldlM Winners.start st.winners
      pure { st with winners }
    else pure st
  sayAt 1 s!"# Actual Solutions: {st.solutions.length} / {perms.length * fixed.length}\n"
  if st.solutions.flatten.isEmpty then refuseEmpty
  if (<- settingInt PL) >= 1 then
    for (ss, i) in st.solutions.zipIdx do
      for (s, j) in ss.zipIdx do
        let name <- s.name
        sayAt 2 s!"#    ({i}:{j}) {name}"
    sayAt 2 rule
  let left <- writeStep
    { solutions := st.solutions.flatten, sizes := step.sizes, sums := plan.sumSizes, name := short
      baseDir, bundled }
  let leftNames <- left.mapM (·.name)
  let kept <- st.solutions.mapM fun ss => ss.filterM fun s => do return leftNames.contains (<- s.name)
  let st <- dropEmpty "kernelwriter" { st with solutions := kept }
  if older then replaceSrcs (<- workPath) srcDir
  popPath
  let results := Path.normalize ((<- workPath) / "../Data" / short)
  let file := results ++ ".csv"
  let newFile := if (<- setting NC) == 1 then some (results ++ "-new.csv") else none
  let failures <- if !(<- isThere file) || (<- flag FRBP) then do
      let code <- run .null true tiles
      if code != 0 then
        warn s!"BenchmarkProblems: Benchmark Process exited with code {code}"
        pure (past.failures + 1)
      else pure past.failures
    else do
      sayAt 1 "# Already benchmarked; skipping."
      pure past.failures
  let winners <- if tiles.truthy then pure st.winners else do
    let speeds <- Results.read file (<- firstCol plan.problem) (st.solutions.map (·.length)) false newFile
    sayAt 1 "# Finish GetResults - 0.000s\n"
    let shown := (Value.list (speeds.map fun g => .list (g.map .list))).shown
    sayAt 2 s!"CSV Results: {shown}"
    let w <- st.winners.addResults st.fixed perms st.solutions speeds
    sayAt 1 "# Finish Adding Results - 0.000s\n"
    pure w
  write (results ++ ".yaml") (<- SolutionFile.text (some step.sizes) st.solutions.flatten)
  popPath
  sayAt 1 s!"{rule}\n# {group}\n# {short}: End - 0.000s\n{rule}\n"
  return { winners, failures, final := if step.isFinal then some results else past.final }

def runGroup (config group : Table) (position : Nat) : Gen Progressing := do
  sayAt 1 s!"\n{rule}\n# Converting Config to BenchmarkProcess Object\n{rule}\n"
  let plan <- BenchPlan.ofConfig config group
  let name := (<- plan.problem.name) ++ "_" ++ zeroPadded 2 position
  let _ <- ensurePath ((<- pushPath name) / "Data")
  sayAt 1 s!"# NumBenchmarkSteps: {plan.steps.length}\n\n{rule}\n# Done Creating BenchmarkProcess Object\n{rule}"
  let done <- plan.steps.foldlM (runStep plan name) {}
  popPath
  return done

/-- Unless that has been done; gives the number of failures. -/
def runNewGroup (dataPath : Text) (config : Table) (group : Value) (position : Nat) (failures : Nat) : Gen Nat := do
  sayAt 2 s!"ProblemTypeConfig: {(Value.dict config).shown}"
  let problem <- ProblemType.ofConfig config
  setSetting "EnableHalf" (.bool (<- problem.dataType DT).isHalf)
  let suffix := opt (<- flag "CSVExportWinner") "_CSVWinner"
  let name := (<- problem.name) ++ "_" ++ zeroPadded 2 position
  let place := dataPath / (name ++ suffix)
  if !(<- flag FRBP) && (<- isThere (place ++ ".csv")) then
    sayAt 1 s!"# {name} already benchmarked; skipping."
    return failures
  let done <- runGroup config (<- table group) position
  let failures := failures + done.failures
  let verdict := if failures == 0 then "(PASS)" else "(ERROR)"
  let file := (<- setting "ConfigPath").shown
  sayLine s!"clientExit={failures} {verdict} for {file}"
  let results := done.final.getD "None"
  copy (results ++ ".csv") (place ++ ".csv")
  copy (results ++ ".yaml") (place ++ ".yaml")
  if <- isFile (results ++ "_Granularity.csv") then copy (results ++ "_Granularity.csv") (place ++ ".gsp")
  return failures

def run (config : Value) : Act := do
  if <- flag NC then let _ <- program
  let dataPath := (<- workPath) / (<- settingStr "BenchmarkDataPath")
  let (<- pushPath (<- settingStr "BenchmarkProblemsPath")) <- ensurePath dataPath
  let failures <- (<- items config).foldlM (fun failures entry => do
    let parts <- items entry
    let type <- nth parts 0
    (if parts.length < 2 then [.dict []] else parts.drop 1).zipIdx.foldlM (fun failures (g, i) => do
      runNewGroup dataPath (<- table type) g i failures) failures) 0
  popPath
  if (<- flag "ExitOnFails") && failures != 0 then throw .exit

end TensorForge.Benchmark
