import TensorForge.Arch
import TensorForge.Value.Operations

/-! # Settings -/

namespace TensorForge.Banner

def licence (years : Text) : Texts :=
  s!"Copyright (C) {years} Advanced Micro Devices, Inc. All rights reserved.

Permission is hereby granted, free of charge, to any person obtaining a copy
of this software and associated documentation files (the \"Software\"), to deal
in the Software without restriction, including without limitation the rights
to use, copy, modify, merge, publish, distribute, sublicense, and/or sell cop-
ies of the Software, and to permit persons to whom the Software is furnished
to do so, subject to the following conditions:

The above copyright notice and this permission notice shall be included in all
copies or substantial portions of the Software.

THE SOFTWARE IS PROVIDED \"AS IS\", WITHOUT WARRANTY OF ANY KIND, EXPRESS OR IM-
PLIED, INCLUDING BUT NOT LIMITED TO THE WARRANTIES OF MERCHANTABILITY, FITNESS
FOR A PARTICULAR PURPOSE AND NONINFRINGEMENT. IN NO EVENT SHALL THE AUTHORS OR
COPYRIGHT HOLDERS BE LIABLE FOR ANY CLAIM, DAMAGES OR OTHER LIABILITY, WHETHER
IN AN ACTION OF CONTRACT, TORT OR OTHERWISE, ARISING FROM, OUT OF OR IN CONNE-
CTION WITH THE SOFTWARE OR THE USE OR OTHER DEALINGS IN THE SOFTWARE.".splitOn "\n"

def origin : Texts :=
  ["This file was generated by Tensile:             ", "https://github.com/ROCmSoftwarePlatform/Tensile "]

variable (mark edge : Text)

/-- Behind a mark, in a frame of marks with an edge at its corners. -/
def framed (width : Nat) (lines : Texts) : Texts :=
  let rule := .join (.replicate width mark)
  [edge ++ rule] ++ lines.map (fun l => if l.isEmpty then mark else mark ++ " " ++ l) ++ [rule ++ edge]

def text : Text :=
  .join ((framed mark edge 79 (licence "2016-2021") ++ [""] ++ framed mark edge 50 (origin.map (· ++ mark)) ++ ["", ""]).map
    (· ++ "\n"))

def cpp : Text := text "*" "/"
def cmake : Text := text "#" "#"

end TensorForge.Banner

namespace TensorForge.Settings

open Cmd Gen Text Value

def initial : Table := entries <| .record <| .flatten
  [[(MRV, "0.0.0"), (PM, DE), (PL, 1), ("ClientLogLevel", 3),
    ("KernelTime", false), ("PreciseKernelTime", true), (CFF, true), ("SortProblems", false),
    ("PinClocks", false), ("HardwareMonitor", true), ("NumBenchmarks", 1), ("SyncsPerBenchmark", 1),
    ("EnqueuesPerSync", 1), ("SleepPercent", 300), ("NumElementsToValidate", 128), ("BoundsCheck", 0),
    ("ValidationMaxToPrint", 4), ("ValidationPrintValids", false), (FRBP, true),
    ("ForceRedoLibraryLogic", true), ("ForceRedoLibraryClient", true), (CVC, false),
    ("ShowProgressBar", true), ("SolutionSelectionAlg", 1), ("ExpandRanges", true), ("ExitAfterKernelGen", false),
    (GSAE, false), ("WavefrontWidth", 64), ("ExitOnFails", 1)], [(CT, .int (-1)), ("ForceGenerateKernel", 0),
    (ULEE, false), ("CMakeBuildType", "Release"), (PSRR, false), (LF, "yaml"), ("CSVExportWinner", false),
    ("CSVMergeSameProblemID", false), ("DataInitTypeAB", 3), ("DataInitTypeA", .int (-1)), ("DataInitTypeB", .int (-1)),
    ("DataInitTypeC", 3), ("DataInitTypeD", 0), ("DataInitTypeAlpha", 2), ("DataInitTypeBeta", 2), ("CEqualD", false),
    ("BufferOffsetA", 0), ("BufferOffsetB", 0), ("BufferOffsetC", 0), ("BufferOffsetD", 0), ("CMakeCXXFlags", ""),
    ("CMakeCFlags", ""), (DK, false), (LPD, false), ("EnableAsserts", false), ("EnableDebugA", false),
    ("EnableDebugB", false), ("EnableDebugC", false), ("ExpectedValueC", .float 16.0)], [("ForceCExpectedValue", false),
    ("PrintConvolutionUsage", 0), ("PrintTensorA", 0), ("PrintTensorB", 0), ("PrintTensorC", 0), ("PrintTensorD", 0),
    ("PrintTensorRef", 0), ("PrintIndexAssignments", 0), ("PrintWinnersOnly", false), (PCC, false),
    ("DumpTensors", false), ("OldClientSourceTmp", true), ("Platform", 0), ("Device", 0), ("DeviceLDS", 65536),
    ("MaxLDS", 65536), ("MaxDepthU", 256), (SN, false), (MF, true), ("MaxFileName", 64),
    (SISA, .list (Isa.supported.map Isa.toValue)), (GMAE, false), ("ClientBuildPath", "0_Build"),
    (NC, 2), ("BenchmarkProblemsPath", "1_BenchmarkProblems"), ("BenchmarkDataPath", "2_BenchmarkData"),
    ("LibraryLogicPath", "3_LibraryLogic"), ("LibraryClientPath", "4_LibraryClient"), ("ClientExecutionLockPath",
    .null)], [("LibraryUpdateFile", ""), ("LibraryUpdateComment", false), (CISA, Isa.none.toValue), (RAEP,
    .null), ("ROCmSMIPath", .null), (AP, .null), (WP, "."),
    ("IndexChars", "IJKLMNOPQRSTUVWXYZ"), ("ScriptPath", "/tensile/Tensile"), ("SourcePath", "/tensile/Tensile/Source"),
    ("HipClangVersion", "0,0,0"), (RL, "HIP"), (COV, "V3"), (CC, "hipcc"),
    ("Architecture", "all"), ("EnableHalf", false), ("ClientArgs", ""), ("NewClientArgs", ""),
    ("PackageLibrary", false), (LC, true), ("PerfModelL2ReadHits", .float 0.0),
    ("PerfModelL2WriteHits", .float 0.15), ("PerfModelL2ReadBwMul", 2), ("PerfModelReadEfficiency", .float 0.85),
    ("MaxWorkspaceSize", 33554432), ("MinKForGSU", 256), ("GranularityThreshold", .float 0.0), ("PristineOnGPU", true)]]

def version : Text := "4.27.0"
def column (width : Nat) (s : Text) : Text := padLeft ' ' width s

/-- The major numbers agree and the rest is not newer. -/
def isCompatible (wanted : Text) : Result Bool := do
  let [qMajor, qMinor, qStep] := wanted.splitOn "." | throw .badValue
  let [tMajor, tMinor, tStep] := version.splitOn "." | throw .badValue
  let number := fun s => (readInt? 10 s).getDM (.error .badValue)
  if qMajor != tMajor then return false
  if (<- number qMinor) > (<- number tMinor) then return false
  if qMinor == tMinor && (<- number qStep) > (<- number tStep) then return false
  return true

def locate (dir name : Text) : Gen Value := do
  let w := (<- get).workspace
  return (((dir :: ((w.env.lookup "PATH").getD "").splitOn ":").map (· / name)).find? w.isFile).elim .null .str

/-- As wide as the widest cell, every cell to the right. -/
def printTable (rows : List Values) : Act := do
  let rows := rows.map (·.map shown)
  let widths := (List.range ((rows.map List.length).min?.getD 0)).map fun c =>
    (rows.map fun r => (r.getD c "").length).max?.getD 0
  for row in rows do sayLine (.join ((widths.zip row).map fun (w, cell) => column w cell ++ " "))

def sortKeys (le : Text -> Text -> Bool) (tables : Tables) : Texts :=
  ((tables.flatMap Table.names).eraseDups).mergeSort le

def printCaps (settings : Table) : Act := do
  let isas := Isa.none.toValue :: (<- items (<- fetch settings SISA))
  let names := isas.map fun v => .str ((Isa.ofValue? v).elim "" Isa.name)
  let rowsFor := fun (key : Text) (le : Text -> Text -> Bool) => do
    let caps <- table (<- fetch settings key)
    (sortKeys le (caps.map fun (_, t) => t.entries)).mapM fun cap => do
      let cells <- isas.mapM fun isa => do return .str (if (<- table (<- fetchKey caps isa)).on cap then "1" else "0")
      return .str cap :: cells
  let lastWord := fun s => (s.splitOn "_").getLastD ""
  let asmRows <- rowsFor "AsmCaps" fun a b =>
    let (x, y) := (lastWord a, lastWord b)
    if x == y then !(b < a) else x < y
  printTable ((.str "cap" :: names) :: asmRows ++ (<- rowsFor "ArchCaps" fun a b => !(b < a)))

def capTables (supported : Values) : Table × Table :=
  let isas := supported ++ [Isa.none.toValue]
  let row := fun f v => (v, .dict (f ((Isa.ofValue? v).getD .none)))
  (isas.map (row Isa.asmCaps), isas.map (row Isa.archCaps))

variable (config : Table) (path : Text)

def reportEntries : Act := do
  if (<- settingInt PL) >= 2 then
    sayLine "GlobalParameters:"
    for (k, dflt) in (<- get).settings do
      let (v, mark) := (config.find? k).elim (dflt, "unspecified") fun v =>
          (v, if v.same dflt then "same" else "overriden")
      sayLine s!" {column 24 k.shown}: {column 8 v.shown} ({mark})"

def locateTools : Act := do
  setSetting "ROCmPath" "/opt/rocm"
  setSetting CCC .null
  for (name, key) in [("ROCM_PATH", "ROCmPath"), ("TENSILE_ROCM_PATH", "ROCmPath"),
      ("CMAKE_CXX_COMPILER", CCC)] do
    if let some p <- env? name then setSetting key p
  let root <- settingStr "ROCmPath"
  let bin := root / "bin"
  setSetting "ROCmBinPath" bin
  setSetting RAEP (<- locate bin "rocm_agent_enumerator")
  if let some v := config.get? CC then setSetting CC v
  match <- env? "TENSILE_ROCM_ASSEMBLER_PATH" with
  | some p => setSetting AP p
  | none =>
    if (<- setting AP).isNull && same (<- setting CC) "hipcc" then
      setSetting AP (<- locate (root / "llvm/bin") "clang++")
  setSetting "ROCmSMIPath" (<- locate bin "rocm-smi")
  setSetting "ExtractKernelPath" (<- locate (root / "hip/bin") "extractkernel")
  setSetting "ClangOffloadBundlerPath" (<- locate (root / "llvm/bin") "clang-offload-bundler")
  if let some v := config.get? RAEP then setSetting RAEP v

def detectIsa : Act := do
  let enumerator <- setting RAEP
  if same (<- setting CISA) Isa.none.toValue && enumerator.truthy then
    let (code, printed) <- run [enumerator.shown]
    let supported <- items (<- setting SISA)
    for l in printed.splitOn "\n" do
      match Isa.read (trim l) with
      | .absent => pure ()
      | .malformed => throw .badValue
      | .found isa =>
        if supported.any isa.toValue.same then
          sayAt 1 ("# Detected local GPU with ISA: " ++ isa.name)
          setSetting CISA isa.toValue
    if same (<- setting CISA) Isa.none.toValue then
      let list := (<- setting SISA).shown
      warn s!"Did not detect SupportedISA: {list}; cannot benchmark assembly kernels."
    if code != 0 then warn s!"{enumerator.shown} exited with code {code}"
  if same (<- setting CISA) (Isa.mk 9 0 10).toValue then
    warn "HardwareMonitor currently disabled for gfx90a"
    setSetting "HardwareMonitor" false

def detectCompiler : Act := do
  match <- start ["hipcc", "--version"] with
  | none => warn "Error: hipcc running --version [Errno 2] No such file or directory: 'hipcc' "
  | some (code, printed) =>
    if code != 0 then
      warn s!"Error: hipcc running --version Command '['hipcc', '--version']' returned non-zero exit status {code}. "
    else
      for l in printed.splitOn "\n" do
        if contains l "HIP version" then
          let some v := (words l)[2]? | throw .outOfRange
          setSetting "HipClangVersion" (.str v)
          sayAt 1 ("# Found  hipcc version " ++ v)

def assign : Act := do
  if let some v := config.get? MRV then
    let .str s := v | throw .noField
    if !(<- isCompatible s) then
      fatal s!"Config file requires version={s} is not compatible with current Tensile version={version}"
  reportEntries config
  locateTools config
  detectIsa
  let supported <- items (<- setting SISA)
  let (asm, arch) := capTables supported
  setSetting "AsmCaps" (.dict asm)
  setSetting "ArchCaps" (.dict arch)
  if (<- settingInt PL) >= 1 then printCaps (<- get).settings
  setSetting SISA (.list (supported.filter fun v => (asm.find? v).any (·.entries.on SISA)))
  detectCompiler
  for (k, v) in config do
    if ((<- get).settings.find? k).isNone then warn s!"Global parameter {k.shown} = {v.shown} unrecognised."
    modify fun st => { st with settings := st.settings.put k v }

/-- Of a session that only generates code: nothing is printed unasked, and the assembler is known. -/
def quiet : Table :=
  let (asm, arch) := capTables (Isa.supported.map Isa.toValue)
  initial.update [("ROCmPath", "/opt/rocm"), (CCC, .null), ("ROCmBinPath", "/opt/rocm/bin"),
    ("ExtractKernelPath", .null), ("ClangOffloadBundlerPath", .null), ("AsmCaps", .dict asm), ("ArchCaps", .dict arch),
    (PL, 0), (AP, "/asm/clang++"), (PSRR, true), (CT, 0), ("ScriptPath", "/tensile"),
    ("SourcePath", "/tensile/Source"), ("ShowProgressBar", false)]

def ensurePath : Gen Text := do
  if !path.isEmpty && !(<- get).workspace.isFile path then inSpace (·.makeDirs path)
  return path

/-- The working path and the saved ones, the latest first. -/
abbrev Place := Text × Texts

namespace Place

def push (name : Text) (x : Place) : Place := (x.1 / name, x.2)
def set (x : Place) : Place := (path, x.1 :: x.2)

def pop : Place -> Place
  | (p, []) => (Path.dirname p, [])
  | (_, q :: saved) => (q, saved)

end Place

def move (f : Place -> Place) : Gen Text := do
  let x := f (<- workPath, (<- get).savedPaths)
  setSetting WP (.str x.1)
  modify ({ · with savedPaths := x.2 })
  return x.1

def pushPath (name : Text) : Gen Text := do ensurePath (<- move (.push name))
def popPath : Act := do let _ <- move .pop
def setPath : Act := do let _ <- ensurePath (<- move (.set path))

end TensorForge.Settings
