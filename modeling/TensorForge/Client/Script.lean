import TensorForge.Host.Toolchain
import TensorForge.Library.Master
import TensorForge.Problem.Sizes

/-! # Configuration of the benchmark client and its scripts -/

namespace TensorForge.Client

open Gen Text

def initValues : Texts :=
  words "Zero One Two Random NaN Inf BadInput BadOutput SerialIdx SerialDim0 SerialDim1 Identity TrigSin TrigCos
    TrigAbsSin TrigAbsCos RandomNarrow"

def logLevels : Texts := ["Error", "Terse", "Verbose", "Debug"]

def nameOf (names : Texts) (v : Value) : Gen Text :=
  (names.zipIdx.find? fun (_, i) => v == .int i).elim (throw .badValue) fun (name, _) => pure name

def boundsCheckName (mode : Value) : Option Text :=
  (["Disable", "NaN", "GuardPageFront", "GuardPageBack", "GuardPageAll"].zipIdx.find? fun (_, i) =>
    mode == .int i).map (·.1)

def joined (sep : Text) (vs : Values) : Text := sep.intercalate (vs.map (·.shown))

def setItem (xs : Values) (i : Int) (v : Value) : Gen Values :=
  (pos? xs.length i).elim (throw .outOfRange) fun j => pure (xs.set j v)

variable (x : Contraction)

def inputStrides (ofA : Bool) (given : Value) : Gen Values := do
  let (dims, own, fixed) := if ofA then (x.dimsA, x.indices.assignsA, x.fixedStridesA)
    else (x.dimsB, x.indices.assignsB, x.fixedStridesB)
  let start <- if given.truthy then items given else pure (.replicate dims (.int (-1)))
  (<- items fixed).foldlM (fun strides pair => do
    let pair <- items pair
    let i <- int (<- nth pair 0)
    let stride <- nth pair 1
    let some j := pos? x.indices.total i | throw .outOfRange
    let index : Int := j
    if x.indices.free.contains index && !x.indices.batch.contains index && !own.contains index then throw .unmet
    (own.idxOf? index).elim (throw .noField) (setItem strides · stride)) start

def fillLead (tensor : Text) (strides : Values) (size : Value) (checked : Bool) : Gen Values := do
  let old <- nth strides 1
  if old == .int (-1) then setItem strides 1 size
  else if checked && old != size then
    throw (.failure (s!"problem-specified ld{tensor.map Char.toLower}({<- old.wholeText}) conflicts with " ++
      s!"setConstStride{tensor}({<- size.wholeText})"))
  else pure strides

def problemLines (p : Problem) : Gen Pairs := do
  let count := x.indices.total
  let a <- inputStrides x true p.stridesA
  let b <- inputStrides x false p.stridesB
  let output := fun (v : Value) => if v.truthy then items v else pure (.replicate x.dimsC (.int (-1)))
  let c <- output p.stridesC
  let d <- output p.stridesD
  let n <- p.sizes.len
  let sizes <- items p.sizes
  let size := fun k => sizes.getD (count + k) .null
  let (a, b, c, d) <-
    if n == count then pure (a, b, c, d)
    else if n == count + 4 then do
      let a <- fillLead "A" a (size 2) true
      pure (a, <- fillLead "B" b (size 3) true, <- fillLead "C" c (size 1) false, <- fillLead "D" d (size 0) false)
    else
      let shown := joined ", " sizes
      throw (.failure s!"Invalid number of problem type indices: {n} - Indices: {count}, problemSize: {shown}")
  let pads := fun name v => do
    if v.truthy then return [(name, ";".intercalate (<- (<- items v).mapM fun row => return joined "," (<- items row)))]
    else return []
  let strides := fun (name : Text) vs => opt (!vs.isEmpty) [(name, joined "," vs)]
  return [("problem-size", joined "," (sizes.take count)), ("a-strides", joined "," a), ("b-strides", joined "," b)] ++
    strides "c-strides" c ++ strides "d-strides" d ++ (<- pads "a-zero-pads" p.zeroPadA) ++
    (<- pads "b-zero-pads" p.zeroPadB)

def initLines : Gen Pairs := do
  let setting := fun name => setting ("DataInitType" ++ name)
  let input := fun name => do
    let v <- setting name
    if v == .int (-1) then setting "AB" else pure v
  let beta <- if x.useBeta.truthy then setting "Beta" else pure (.int 0)
  [("init-a", <- input "A"), ("init-b", <- input "B"), ("init-c", <- setting "C"), ("init-d", <- setting "D"),
   ("init-alpha", <- setting "Alpha"), ("init-beta", beta)].mapM
    fun (name, v) => return (name, <- nameOf initValues v)

variable (entries : Pairs)

def settingLines : Gen Pairs := entries.mapM fun (key, name) => return (key, (<- setting name).shown)

def switchLines : Gen Pairs := do
  return (<- entries.mapM fun (key, name) => return opt (<- flag name) [(key, "1")]).flatten

def measureSettings : Pairs :=
  [("print-valids", "ValidationPrintValids"), ("print-max", "ValidationMaxToPrint"),
   ("num-benchmarks", "NumBenchmarks"), ("num-elements-to-validate", "NumElementsToValidate"), ("num-enqueues-per-sync",
   "EnqueuesPerSync"), ("num-syncs-per-benchmark", "SyncsPerBenchmark"), ("use-gpu-timer", "KernelTime")]

def libIn (srcDir : Text) : Gen Text := do
  let name := if (<- setting LF) == "yaml" then "TensileLibrary.yaml" else "TensileLibrary.dat"
  return srcDir / "library" / name

structure Task where
  problems : List Problem
  contraction : Contraction
  convolution : Option Conv := none
  srcDir : Text
  codeObjects : Texts
  results : Text
  lib : Option Text := none

def configLines (t : Task) : Gen Pairs := do
  let lib <- t.lib.getDM (libIn t.srcDir)
  let arch <- Toolchain.nameOf (<- setting CISA)
  let objects := t.codeObjects.filter fun f => !contains f "gfx" || contains f arch
  let x := t.contraction
  let compared <- t.convolution.elim (pure none) fun c => do
      pure (if <- flag CVC then some c else none)
  let id <- x.ident
  let types := [("a", x.typeA), ("b", x.typeB), ("c", x.typeC), ("d", x.typeD), ("alpha", x.typeFactor),
    ("beta", x.typeFactor)]
  let problems <- t.problems.mapM fun p => do
    let lines <- problemLines x p
    match compared, p.origin with
    | some _, .convolution config _ => return lines ++ [("convolution-problem", config.ident)]
    | some _, _ => throw .noField
    | none, _ => return lines
  let head := [("library-file", lib)] ++ objects.map (fun f => ("code-object", t.srcDir / f)) ++
    [("results-file", t.results)] ++ (compared.elim [] fun c => [("convolution-identifier", c.ident)]) ++
    (<- settingLines [("performance-metric", PM)]) ++ [("problem-identifier", id)] ++
    types.map (fun (name, type) => (name ++ "-type", type.traits.enum)) ++
    [("high-precision-accumulate", x.highPrec.shown), ("strided-batched", x.stridedBatched.shown)]
  let each key name : Pairs := ["a", "b", "c", "d"].map fun t => (key ++ t, name ++ t.toUpper)
  let filled := (<- settingLines [("device-idx", "Device")]) ++ (<- initLines x) ++
    (<- settingLines (("c-equal-d", "CEqualD") :: each "offset-" "BufferOffset")) ++
    (<- switchLines (each "print-tensor-" "PrintTensor" ++ [("print-tensor-ref", "PrintTensorRef"), ("dump-tensors", "DumpTensors")]))
  let stops <- Value.less 1 (<- setting "ExitOnFails")
  let bounds := (boundsCheckName (<- (<- setting "BoundsCheck").toInt)).getD "None"
  let measured <- settingLines (measureSettings ++ [("hardware-monitor", "HardwareMonitor")])
  let versus <- if compared.isSome then settingLines [("convolution-vs-contraction", CVC)]
    else pure []
  let warm := if <- flag "KernelTime" then [] else [("num-warmups", "1")]
  let modelled <- settingLines [("sleep-percent", "SleepPercent"), ("perf-l2-read-hits", "PerfModelL2ReadHits"),
    ("perf-l2-write-hits", "PerfModelL2WriteHits"), ("perf-l2-read-bw-mul", "PerfModelL2ReadBwMul"),
    ("perf-read-efficiency", "PerfModelReadEfficiency"), ("csv-export-extra-cols", "CSVExportWinner"),
    ("csv-merge-same-problems", "CSVMergeSameProblemID")]
  let level <- nameOf logLevels (<- setting "ClientLogLevel")
  let last <- settingLines [("max-workspace-size", "MaxWorkspaceSize"), ("granularity-threshold", "GranularityThreshold"),
    ("pristine-on-gpu", "PristineOnGPU"), ("library-update-file", "LibraryUpdateFile"),
    ("library-update-comment", "LibraryUpdateComment")]
  return head ++ problems.flatten ++ filled ++ opt stops [("exit-on-error", "1")] ++ [("bounds-check", bounds)] ++
    measured ++ versus ++ warm ++ modelled ++ [("log-level", level)] ++ last

def writeConfig (t : Task) (file : Text) : Act := do
  Files.write file ""
  Files.write file (.join ((<- configLines t).map fun (k, v) => s!"{k}={v}\n"))

structure StepFiles where
  (name baseDir : Text)
  config : Text := "ClientParameters"
  /-- Whether solutions are measured for the choice by tiles. -/
  tiles : Bool := false

def writeStepConfig (s : StepFiles) (lib : Master) (problems : List Problem) (codeObjects : Texts)
    (libFile : Option Text := none) : Gen Text := do
  let suffix := opt s.tiles "_Granularity"
  let file := (<- workPath) / (s.config ++ suffix ++ ".ini")
  let some first := lib.solutions.head? | throw (.failure "No valid solutions found")
  let new := !s.tiles && (<- setting NC) == 1
  let results := s.baseDir / "../Data" / (s.name ++ suffix ++ opt new "-new" ++ ".csv")
  writeConfig { problems, contraction := first.contraction, convolution := first.solution.problem.convolution
                srcDir := s.baseDir / "source", codeObjects, results, lib := libFile } file
  return file

/-! ## Scripts that build and run clients -/

open Files

def rule : Text := "".pushn '#' 80
def echoTitle (lines : Texts) : Text := " && ".intercalate ("echo" :: lines.map fun l => s!"echo \"{l}\"")
def onOff (b : Bool) : Text := if b then "ON" else "OFF"
def shownSetting (key : Text) : Gen Text := return (<- setting key).shown
def countSetting (key : Text) : Gen Text := do (<- setting key).wholeText

def buildScript (logicPath : Value) (forBench : Bool) : Gen Text := do
  let define := fun name key => return s!" -D{name}={<- shownSetting key}"
  let mut s := echoTitle [rule, "# Configuring CMake for Client", rule] ++ "\ncmake"
  for (name, key) in [("Tensile_RUNTIME_LANGUAGE", RL), ("Tensile_CODE_OBJECT_VERSION", COV),
      ("Tensile_COMPILER", CC), ("Tensile_ARCHITECTURE", "Architecture"),
      ("Tensile_LIBRARY_FORMAT", LF)] do
    s := s ++ (<- define name key)
  if <- flag "EnableHalf" then s := s ++ " -DTensile_ENABLE_HALF=ON"
  let resume := ((<- get).settings.get? "ResumeBenchmarkProblem").any (·.truthy)
  s := s ++ s!" -DTensile_RESUME_BENCHMARK={onOff resume}"
  if forBench then s := s ++ " -DTensile_CLIENT_BENCHMARK=ON"
  else
    s := s ++ (<- define "Tensile_ROOT" "ScriptPath") ++ " -DTensile_CLIENT_BENCHMARK=OFF" ++
      s!" -DTensile_LOGIC_PATH={logicPath.shown}" ++
      " -DTensile_LIBRARY_PRINT_DEBUG=" ++ onOff (<- flag LPD) ++
      " -DTensile_SHORT_FILE_NAMES=" ++ onOff (<- flag SN)
  if <- flag "CMakeCXXFlags" then s := s ++ " " ++ (<- define "CMAKE_CXX_FLAGS" "CMakeCXXFlags")
  if <- flag "CMakeCFlags" then s := s ++ " " ++ (<- define "CMAKE_C_FLAGS" "CMakeCFlags")
  let new := (<- setting NC) == 2
  let kind <- shownSetting "CMakeBuildType"
  return s ++ s!" -DTENSILE_NEW_CLIENT={onOff new}  -DCMAKE_BUILD_TYPE={kind}" ++
    " -DTensile_MERGE_FILES=" ++ onOff (<- flag MF) ++ " ../source\n" ++
    echoTitle [rule, "# Building Client", rule] ++ s!"\ncmake --build . --config {kind} -- -j 8\n"

def libScript (buildPath logicPath : Text) : Gen Text := do
  let choose := fun key yes no => return " --" ++ if <- flag key then yes else no
  let text := fun key => do str (<- setting key)
  let merge <- choose MF "merge-files" "no-merge-files"
  let short <- choose SN "short-file-names" "no-short-file-names"
  let debug <- choose LPD "library-print-debug" "no-library-print-debug"
  let manifest := opt (<- flag GMAE) " --generate-manifest-and-exit"
  let new := opt ((<- get).settings.get? NC == some 2) " --new-client-only"
  return (<- text "ScriptPath") ++ "/bin/TensileCreateLibrary" ++ merge ++ " --no-legacy-components" ++ short ++ debug ++
    manifest ++ new ++ " --architecture=" ++ (<- text "Architecture") ++ " --code-object-version=" ++
    (<- text COV) ++ " --cxx-compiler=" ++ (<- text CC) ++ " --library-format=" ++
    (<- text LF) ++ s!" {logicPath} {buildPath} " ++ (<- shownSetting RL) ++ "\n"

def strictHead : Text := "#!/bin/bash\n\nset -ex\n"

def writeBuild (path : Text) (script : Gen Text) : Gen Text := do
  let file := path / "build.sh"
  write file (strictHead ++ (<- script))
  return file

def program (buildDir : Option Text := none) : Gen Text := do
  if let some v := (<- get).settings.get? "PrebuiltClient" then return v.shown
  if let some dir := (<- get).clientBuild then return dir / "client/tensile_client"
  let dir <- buildDir.getDM do pure ((<- settingStr OP) / (<- settingStr "ClientBuildPath"))
  let dir <- Settings.ensurePath dir
  let src <- settingStr "SourcePath"
  let compiler := (<- settingStr "ROCmBinPath") / (<- settingStr CC)
  let options := [("CMAKE_BUILD_TYPE", <- shownSetting "CMakeBuildType"), ("TENSILE_NEW_CLIENT", "ON"),
    ("TENSILE_USE_MSGPACK", "ON"), ("TENSILE_USE_LLVM", "ON"),
    ("Tensile_LIBRARY_FORMAT", <- shownSetting LF), ("CMAKE_CXX_COMPILER", compiler)]
  modify ({ · with clientBuild := some dir })
  for words in ["cmake" :: options.flatMap (fun (k, v) => ["-D", s!"{k}={v}"]) ++ [src], ["make", "-j"]] do
    sayAt 2 (" ".intercalate words)
    Toolchain.require (words.map .str) dir
  return dir / "client/tensile_client"

def olderArgs (tiles : Value) : Gen Text := do
  let counts := [("platform-idx", "Platform"), ("device-idx", "Device"), ("init-alpha", "DataInitTypeAlpha"),
    ("init-beta", "DataInitTypeBeta"), ("init-d", "DataInitTypeD"), ("init-c", "DataInitTypeC"),
    ("init-a", "DataInitTypeA"), ("init-b", "DataInitTypeB"), ("c-equal-d", "CEqualD")] ++ measureSettings ++ [("sleep-percent", "SleepPercent")]
  let shown <- counts.mapM fun (name, key) => return s!" --{name} {<- countSetting key}"
  let tiles <- tiles.wholeText
  let extra <- match (<- get).settings.get? "ClientArgs" with
    | some v => if v.truthy then pure (" " ++ (<- str v)) else pure ""
    | none => pure ""
  return .join shown ++ s!" --benchmark-solutions {tiles}" ++
    " --csv-export-extra-cols " ++ (<- countSetting "CSVExportWinner") ++ extra

def clocks (cmds : Texts) : Gen Text := do
  let smi <- setting "ROCmSMIPath"
  if (<- flag "PinClocks") && smi.truthy then return .join (cmds.map (replace · "SMI" smi.shown ++ "\n"))
  else return ""

def errorChoice : Text :=
  "\nERR=0\nif [[ $ERR1 -ne 0 ]]\nthen\n    echo one\n    ERR=$ERR1\nfi\n" ++
  "if [[ $ERR2 -ne 0 ]]\nthen\n    echo two\n    ERR=$ERR2\nfi\n"

def configRuns (configs : Texts) (more : Text) : Gen Text := do
  let exe <- program
  let args <- shownSetting "NewClientArgs"
  return .join (configs.map fun c => s!"{exe} --config-file {c} {args}{more}\n")

def benchRun (tiles : Value) (configs : Texts) : Gen Text := do
  let pin <- clocks ["SMI -d 0 --setfan 255 --setsclk 7", "sleep 1", "SMI -d 0 -a"]
  for key in ["DataInitTypeA", "DataInitTypeB"] do
    if (<- setting key) == .int (-1) then setSetting key (<- setting "DataInitTypeAB")
  let older <- if (<- settingInt NC) < 2 then pure ("./client" ++ (<- olderArgs tiles) ++ "\nERR1=$?\n")
    else pure "ERR1=0\n"
  let newer <- if <- flag NC then pure ((<- configRuns configs "") ++ "ERR2=$?\n\n") else pure "ERR2=0\n"
  let release <- clocks ["SMI -d 0 --resetclocks", "SMI -d 0 --setfan 50"]
  return pin ++ "set +e\n" ++ older ++ newer ++ errorChoice ++ release

def libRun (configs : Texts) : Gen Text := do
  let older <- if (<- settingInt NC) < 2 then do
      let exe := (<- workPath) / "client"
      pure (echoTitle [rule, "# Library Client:", "# " ++ exe] ++ s!" && {exe}\n")
    else pure ""
  let newer <- if (<- flag NC) && !configs.isEmpty then configRuns configs " --best-solution 1" else pure ""
  return older ++ newer

def writeRunScript (path : Text) (forBench : Bool) (tiles : Value) (configs : Option Texts) : Gen Text := do
  let configs <- match configs with
    | some cs => pure cs
    | none => do
      let work <- workPath
      let more := tiles matches true && (<- setting NC) == 2
      pure (work / "../source/ClientParameters.ini" :: opt more [work / "../source/ClientParameters_Granularity.ini"])
  let file := path / "run.sh"
  write file strictHead
  let body <- if forBench then benchRun tiles configs else libRun configs
  write file (strictHead ++ body ++ "exit $ERR\n")
  return file

end TensorForge.Client
