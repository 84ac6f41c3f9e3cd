import TensorForge.Host.Launch
import TensorForge.Host.Toolchain

/-! # Writing kernels and launching functions -/

namespace TensorForge

open Banner Files Gen KernelNaming Progress Settings Text Toolchain Value

/-- With helper kernels. A kernel is shown by a solution that has it. -/
structure Srcs where
  (solutions kernels : Solutions)
  helpers : List Helper
  naming : LaunchNaming

namespace Srcs

def sameKernel (a b : Solution) : Bool :=
  same (.dict a.kernelState) (.dict b.kernelState) && a.problem.same b.problem

def distinct {α : Type} (same : α -> α -> Bool) (xs : List α) : List α :=
  xs.foldl (fun seen x => if seen.any (same x) then seen else seen ++ [x]) []

def distinctBy (key : Solution -> Gen Text) (ss : Solutions) : Gen Solutions := do
  let keyed <- ss.mapM fun s => do return (<- key s, s)
  return (distinct (fun a b => a.1 == b.1) keyed).map (·.2)

def distinctNames : Solutions -> Gen Solutions :=
  distinctBy fun s => do Naming.full (some (<- s.problem.name)) s.kernelState

def ofKernels (ss kernels : Solutions) : Gen Srcs := do
  let helpers := distinct (·.name == ·.name) (ss.flatMap (·.helpers))
  return { solutions := ss, kernels, helpers
           naming := { required := <- Solution.requiredNames ss, kernels := <- ofSolutions kernels } }

def ofSolutions (ss : Solutions) : Gen Srcs := ofKernels ss (distinct sameKernel ss)

structure Generated where
  error : Int
  (src header name : Text)

variable (n : KernelNaming) (k : Solution)

def writeAsm : Gen Text := do
  let file := (<- directory) / ((<- n.fileBase k) ++ ".s")
  let text <- n.asmText k
  sayAt 2 s!"write_assemblyFilename {file}"
  write file text
  return file

/-- Gives the code object, or the complaint about the first failing program. -/
def assemble : Gen (Except Text Text) := do
  let file <- writeAsm n k
  let base := (Path.splitExt file).1
  let show? <- flag PCC
  let compile <- compileWords file (base ++ ".o") [] (.tuple (<- items (<- k.fetch "ISA")))
    (<- k.fetch WS)
  if show? then sayLine ((<- shown compile) ++ "  && ")
  let dir <- directory
  let code <- codeOf compile dir
  if code != 0 then return .error (failureText compile code)
  let link <- linkWords [base ++ ".o"] (base ++ ".co") []
  if show? then sayLine (<- shown link)
  let code <- codeOf link dir
  if code != 0 then return .error (failureText link code)
  return .ok (base ++ ".co")

/-- The code object, unless that is loaded from a file. -/
def embedded : Gen (Int × Text) := do
  let dir <- directory
  let name <- n.name k
  if <- flag GSAE then
    let _ <- writeAsm n k
    return (0, "")
  let script := dir / "insert_byte_array.py"
  if !(<- isFile script) then write script arrayScript
  match <- assemble n k with
  | .error text =>
    sayLine text
    return (-1, "")
  | .ok object =>
    if (<- flag CFF) || (<- settingInt NC) > 1 then return (0, "")
    return (0, byteArray name ((<- read (dir / object)).toUTF8.toList.map (·.toNat)))

def generate : Gen Generated := do
  let name <- n.fileBase k
  let (error, src) <- try
      if <- isAsm k then embedded n k else do pure (0, <- n.srcText k)
    catch
      | .failure text | .unsupported text => do
        sayLine text
        pure (-2, "")
      | e => throw e
  let header <- try some <$> n.header k catch
      | .failure _ | .unsupported _ => pure none
      | e => throw e
  return header.elim { error := 1, src := "", header := "", name } fun header => { error, src, header, name }

def removeFirst {α : Type} (same : α -> α -> Bool) (x : α) : List α -> List α
  | [] => []
  | y :: rest => if same x y then rest else y :: removeFirst same x rest

structure Target where
  (src header : Text)

def openFiles (outPath name : Text) (merged : Option Target) : Gen Target := do
  merged.getDM do
    let file := fun ext => outPath / "Kernels" / (name ++ ext)
    write (file ".cpp") cpp
    write (file ".h") cpp
    return { src := file ".cpp", header := file ".h" }

def openMerged (outPath : Text) : Gen Target := do
  let src := outPath / "Kernels.cpp"
  let header := outPath / "Kernels.h"
  write src (cpp ++ "#include \"Kernels.h\"\n")
  let runtime := opt ((<- setting RL) == "HIP")
      "#include <hip/hip_runtime.h>\n#include <hip/hip_ext.h>\n\n"
  write header (cpp ++ s!"#pragma once\n{runtime}#include \"KernelHeader.h\"\n\n")
  return { src, header }

def asmObjects (kernels : Solutions) (outPath : Text) : Gen Texts := do
  let dest <- ensurePath (outPath / "library")
  let dir <- directory
  let withArch <- (<- kernels.filterM isAsm).mapM fun k => do return (<- items (<- k.fetch "ISA"), k)
  let packaged := ((<- get).settings.get? "PackageLibrary").any (·.truthy)
  let parts <- (distinct (fun a b => sameItems a b) (withArch.map (·.1))).mapM fun arch => do
    let name <- nameOf (.tuple arch)
    let bases <- (withArch.filter (sameItems ·.1 arch)).mapM (n.fileBase ·.2)
    if <- flag MF then
      let place <- if packaged then ensurePath (dest / name) else pure dest
      let file := place / s!"TensileLibrary_{name}.co"
      require (<- linkWords (bases.map (· ++ ".o")) file []) dir
      pure [file]
    else
      let packaged <- flag "PackageLibrary"
      let pairs := bases.map fun b => (dir / (b ++ ".co"),
        if packaged then dest / name / (b ++ ".co") else dest / s!"{b}_{name}.co")
      let _ <- turning pairs fun (a, b) => copy a b
      pure (pairs.map (·.2))
  return parts.flatten

variable (s : Srcs)

/-- `broken` are the kernels that were not built. -/
def writeLaunches (outPath : Text) (problems : List ProblemType) (broken : Texts) : Act := do
  sayAt 1 "# Writing Solutions"
  let merged <- flag MF
  let src := outPath / "Solutions.cpp"
  let header := outPath / "Solutions.h"
  write src (cpp ++ "#include \"Solutions.h\"\n#include <algorithm>\n")
  let files := opt (<- flag CFF) "#include <unistd.h>\n"
  let ptrs <- problems.mapM fun p => do
    let name <- p.name
    let arguments := (<- LaunchShape.ofProblem p).arguments { workspace := true }
    return s!"\n// solution pointer\ntypedef TensileStatus (*TensileSolutionPointer_{name})(\n" ++
      ",\n".intercalate (arguments.map fun a => s!"    {a.type} {a.name}") ++ ");\n\n\n"
  write header (cpp ++ "#include \"TensileTypes.h\"\n#include \"SolutionHelper.h\"\n" ++
    "#include \"Tools.h\"\n" ++ files ++ opt merged "#include \"Kernels.h\"\n" ++ .join ptrs)
  let _ <- counted s.solutions fun x => do
    let site <- s.naming.site x
    let own := fun ext => outPath / "Solutions" / (site.name ++ ext)
    let (src, header) <- if merged then pure (src, header) else do
      write (own ".cpp") cpp
      pure (own ".cpp", own ".h")
    append src (<- Paper.textOf (Launch.function site (broken.contains site.kernel) (<- x.indented "  ")))
    if !merged then write header cpp
    append header (<- Paper.textOf (Launch.header site))
  if <- flag "ExitAfterKernelGen" then fatal "** Exiting after kernel generation due to ExitAfterKernelGen=1"

def generateAll : Gen (Srcs × List Generated) := do
  let results <- mapAll "Generating kernels" false s.kernels (generate s.naming.kernels)
  let _ <- turning results fun _ => pure ()
  let failed := results.zipIdx.filter fun (r, _) => r.error == -2
  let mut s := s
  let before := s
  for (_, i) in failed do
    if let some k := before.kernels[i]? then s := { s with kernels := removeFirst sameKernel k s.kernels }
    if let some x := before.solutions[i]? then
      let name <- x.name
      if let some j := (<- s.solutions.mapM (·.name)).idxOf? name then
        s := { s with solutions := s.solutions.eraseIdx j }
  return (s, results.filter (·.error != -2))

/-- Generates, writes and compiles everything; gives what is left of the sources and the code objects. -/
def write (outPath compiler : Text) (problems : List ProblemType) (tolerant : Bool) : Gen (Srcs × Texts) := do
  if (<- setting NC) == 2 then
    let (<- pushPath "build_tmp") <- pushPath ((Path.basename outPath).map .toUpper)
  sayAt 1 "# Writing Kernels..."
  let mergeFiles <- flag MF
  if !mergeFiles then
    if <- flag LC then let _ <- ensurePath (outPath / "Solutions")
    let _ <- ensurePath (outPath / "Kernels")
  let merged <- if mergeFiles then some <$> openMerged outPath else pure none
  writeAnyScript
  writeCurrentScript
  let (s, results) <- generateAll s
  let mut files := merged.toList.map (·.src)
  let hidden := (<- settingInt NC) > 1
  for r in results do
    if !((trim r.src).isEmpty && hidden) then
      let t <- openFiles outPath r.name merged
      if !mergeFiles then files := files ++ [t.src]
      append t.src r.src
      append t.header r.header
  let broken := (results.filter (·.error != 0)).map (·.name)
  let built <- if tolerant then s.kernels.filterM fun k => do return !broken.contains (<- s.naming.kernels.name k)
    else pure s.kernels
  for h in s.helpers do
    let t <- openFiles outPath h.name merged
    if !mergeFiles then files := files ++ [t.src]
    append t.src (<- h.src)
    append t.header (<- h.header)
  let objects <- if <- flag GSAE then pure [] else do
    let compiled <- mapAll "Compiling source kernels" false files (compileSrc compiler outPath)
    pure (compiled.flatten ++ (<- asmObjects s.naming.kernels built outPath))
  sayLine "# Kernel Building elapsed time = 0.0 secs"
  if <- flag LC then writeLaunches s outPath problems broken
  if (<- setting NC) == 2 then
    popPath
    popPath
  return (s, objects)

end Srcs

/-- Launching functions, kernels, assembled kernels and the code objects of both. -/
structure ObjectFiles where
  (solutions kernels assembly srcObjects asmObjects : Texts := [])

namespace ObjectFiles

variable (f : ObjectFiles)

def toList : List Texts := [f.solutions, f.kernels, f.assembly, f.srcObjects, f.asmObjects]

def ofSrcs (s : Srcs) : Gen ObjectFiles := do
  let n := s.naming.kernels
  let written := fun lang => s.kernels.filterM fun k => do return (<- k.fetch KL) == lang
  let srcs <- written "Source"
  let assembled <- written "Assembly"
  let srcNames <- srcs.mapM n.fileBase
  let asmNames <- assembled.mapM n.fileBase
  let helperNames := s.helpers.map (·.name)
  let compiler <- setting CC
  if compiler != "hipcc" then throw (.failure ("Unknown compiler " ++ compiler.shown))
  let archs := (<- srcTargets).map (·.1)
  let asmArchs <- (asmNames.zip assembled).mapM fun (name, k) => do
    return (name, <- nameOf (.tuple (<- items (<- k.fetch "ISA"))))
  let merged <- flag MF
  let pair := fun n => [n ++ ".h", n ++ ".cpp"]
  let solutions <- if <- flag LC then
      if merged then pure (pair "Solutions") else do
        pure ((<- s.solutions.mapM (·.nameMin s.naming.required)).flatMap pair)
    else pure []
  let kernels := if merged then pair "Kernels" else (srcNames ++ asmNames ++ helperNames).flatMap pair
  let older := (<- settingInt NC) <= 1
  let compiled := if merged then ["Kernels"] else srcNames ++ helperNames ++ opt older asmNames
  let asmObjects := if merged then
      (Srcs.distinct (· == ·) (asmArchs.map (·.2))).map fun a => s!"TensileLibrary_{a}.co"
    else (Srcs.distinct (· == ·) asmNames).flatMap fun name =>
      (asmArchs.filter (·.1 == name)).map fun e => s!"{name}_{e.2}.co"
  return { solutions, kernels, assembly := asmNames.flatMap fun n => [n ++ ".s", n ++ ".o", n ++ ".co"]
           srcObjects := compiled.flatMap fun k => archs.map fun a => s!"{k}.so-000-{a}.hsaco"
           asmObjects }

def packagedPath (dir file : Text) : Text :=
  let stem := (Path.splitExt file).1
  let parts := stem.splitOn "_gfx"
  let arch := if parts.length > 1 then "_gfx" ++ "_gfx".intercalate (parts.drop 1) else takeRight 1 stem
  dir / drop 1 arch / replace file arch ""

def under (dir : Text) : Gen ObjectFiles := do
  let merged <- flag MF
  let place := fun sub => if merged then dir else dir / sub
  let lib := dir / "library"
  let packaged <- if f.asmObjects.isEmpty then pure false else flag "PackageLibrary"
  return {
    solutions := opt (<- flag LC) (f.solutions.map (place "Solutions" / ·))
    kernels := f.kernels.map (place "Kernels" / ·)
    assembly := f.assembly.map ((dir / "assembly") / ·)
    srcObjects := f.srcObjects.map (lib / ·)
    asmObjects := f.asmObjects.map fun o => if packaged then packagedPath lib o else lib / o }

def writeBuildList (outPath : Text) (bundled : Texts) : Act := do
  sayAt 1 "# Writing Custom CMake"
  let root := "$\x7bCMAKE_SOURCE_DIR\x7d"
  let p <- ({ solutions := f.solutions, kernels := f.kernels } : ObjectFiles).under root
  let group := fun name files last =>
    s!"set( TensileClient_{name}\n" ++ .join (files.map fun x => s!"  {x}\n") ++ "  )\n" ++ last
  let solutions := opt (<- flag LC) (group "SOLUTIONS" p.solutions "")
  write (outPath / "Generated.cmake") (cmake ++ solutions ++ group "KERNELS" p.kernels "" ++
    group "SOURCE" (bundled.map (root ++ "/" ++ ·)) "\n")

end ObjectFiles

end TensorForge
