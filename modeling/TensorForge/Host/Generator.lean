import TensorForge.Arguments.Basic
import TensorForge.Host.Selector
import TensorForge.Host.Sources

/-! # The library generator -/

namespace TensorForge

structure EmbedFile where
  text : Text := ""
  step : Int := 4
  levels : Ints := [0]
  blocks : List (Option Text) := []

namespace EmbedFile

abbrev Writing := EStateM Fault EmbedFile
variable (f : EmbedFile)

def level : Int := f.levels.headD 0

def indented (line : Text) : Text :=
  let line := Text.trim line
  if line.startsWith "#" then line else "".pushn ' ' f.level.toNat ++ line

def lines (ls : Texts) : Writing Unit :=
  modify fun f => { f with text := f.text ++ .join (ls.map (f.indented · ++ "\n")) }

def write (s : Text) : Writing Unit := lines ((Text.parts '\n' s.toList).map .ofList)

def indent (spaces : Option Int) : Writing Unit :=
  modify fun f => { f with levels := (spaces.getD f.step + f.level) :: f.levels }

def dedent : Writing Unit := do
  match (<- get).levels with
  | [] => throw .outOfRange
  | _ :: rest => modify ({ · with levels := rest })

variable (name : Option Text)

def enter : Writing Unit := do
  write (name.elim "namespace \x7b" fun n => s!"namespace {n} \x7b")
  indent none

def leave : Writing Unit := do
  dedent
  write (name.elim "\x7d // anonymous namespace" fun n => s!"\x7d // namespace {n}")

def openNamespace : Writing Unit := do
  enter name
  modify fun f => { f with blocks := name :: f.blocks }

def closeNamespace : Writing Unit := do
  match (<- get).blocks with
  | [] => throw .outOfRange
  | found :: rest =>
    modify ({ · with blocks := rest })
    if name != found then
      let shown := fun n => n.getD "None"
      throw (.failure s!"Mismatched namespace open/close: expected {shown name}, found {shown found}")
    leave found

def comment (s : Text) : Writing Unit := lines ((s.splitOn "\n").map ("// " ++ ·))

def header : Writing Unit := do
  write Banner.cpp
  lines ["", "#include <Tensile/EmbeddedData.hpp>", "", "#include <Tensile/Contractions.hpp>",
    "#include <Tensile/Tensile.hpp>", ""]
  openNamespace (some "Tensile")

def footer : Writing Unit := write ""

def literal (n : Nat) : Text := "0x" ++ .padLeft '0' 2 (.hexDigits n)

/-- Sixteen bytes to a line; `fuel` bounds the lines. -/
def byteRows (last : Text) : (fuel : Nat) -> Nats -> Texts
  | 0, _ => []
  | fuel + 1, bs =>
    let row := listing ((bs.take 16).map literal)
    let rest := bs.drop 16
    if rest.isEmpty then [row ++ last] else (row ++ ",") :: byteRows last fuel rest

def initializer (start stop : Text) (bytes : Nats) : Writing Unit :=
  if bytes.isEmpty then write (start ++ "\x7b" ++ stop)
  else do
    write (start ++ "\x7b")
    indent none
    lines (byteRows "\x7d);" bytes.length bytes)
    dedent

def embed (type : Text) (bytes : Nats) (terminated : Bool) (note key : Option Text) : Writing Unit := do
  let bytes := bytes ++ opt terminated [0]
  enter none
  if let some s := note then comment s
  let (start, stop) := match key with
    | some k => (s!"(\"{k}\", ", "\x7d);")
    | none => (opt (!bytes.isEmpty) "(", "\x7d;")
  initializer (s!"EmbedData<{type}> TENSILE_EMBED_SYMBOL_NAME" ++ start) stop bytes
  leave none

def finish : Writing Unit := do
  for name in (<- get).blocks do leave name
  footer

def after {α : Type} (x : Writing α) : Result α × EmbedFile :=
  match x.run f with
  | .ok a f => (.ok a, f)
  | .error e f => (.error e, f)

end EmbedFile

/-! ## Libraries -/

namespace Generator

open EmbedFile Files Gen Progress Selection Settings Srcs Stored Toolchain Value

open Args (Cmd)

def cmd (name : Text) : Cmd :=
  { name, params :=
    ["LogicPath", OP, { name := RL, choices := ["OCL", "HIP", "HSA"] },
     .flagged ["--cxx-compiler"] CC "hipcc" ["hipcc"], .flagged ["--cmake-cxx-compiler"] CCC,
     .flagged ["--code-object-version"] COV "V3" ["V2", "V3"],
     .flagged ["--architecture"] "Architecture" "all", .switch ["--merge-files"] MF,
     .switch ["--no-merge-files"] MF false, .switch ["--short-file-names"] SN,
     .switch ["--no-short-file-names"] SN false, .switch ["--library-print-debug"] LPD,
     .switch ["--no-library-print-debug"] LPD false, .switch ["--no-enumerate"] "no_enumerate",
     .switch ["--package-library"] "PackageLibrary", .switch ["--no-legacy-components"] LC false,
     .flagged ["--embed-library"] "EmbedLibrary", .switch ["--new-client-only"] "new_client_only",
     .flagged ["--embed-library-key"] "EmbedLibraryKey", .flagged ["--version"] "version",
     .switch ["--generate-manifest-and-exit"] GMAE,
     .flagged ["--library-format"] LF "msgpack" ["yaml", "msgpack"],
     .switch ["--generate-sources-and-exit"] GSAE,
     .number ["--jobs", "-j"] CT (.int (-1)), .number ["--verbose", "-v"] PL 1,
     .assigns "--global-parameters" "global_parameters"] }

def settingsOf (values : Table) (outPath : Text) : Gen Table := do
  let taken (keys : Texts) : Gen Table := keys.mapM fun k => do return (k, <- fetch values k)
  let first <- taken [RL, COV, "Architecture", CC, MF, SN, LPD]
  let asked := fetchFlag values
  let embed <- taken ["EmbedLibrary", LF]
  let quiet : Table := opt (<- asked "no_enumerate") [(RAEP, false)]
  let parts <- taken ["PackageLibrary", LC]
  let newOnly <- asked "new_client_only"
  let client : Table := opt newOnly [(NC, 2)]
  let manifest := newOnly && (<- asked GMAE)
  let srcs <- asked GSAE
  let place : Table := opt srcs [(WP, outPath)]
  let last <- taken [CT, PL]
  let extra <- fetch values "global_parameters"
  let t := [first, [(CFF, false)], embed, quiet, parts, client,
    [(GMAE, manifest), (GSAE, srcs)], place, last].flatten
  putPairs t extra

/-- Files of a directory come before those of the directories in it. -/
def filesBelow (wanted : Text -> Bool) : (depth : Nat) -> Text -> Gen Texts
  | 0, _ => return []
  | depth + 1, dir => do
    if !(<- isDir dir) then return []
    let names <- list dir
    let here <- names.filterM fun n => isFile (dir / n)
    let below <- (<- names.filterM fun n => isDir (dir / n)).mapM fun d => filesBelow wanted depth (dir / d)
    return (here.filter wanted).map (dir / ·) ++ below.flatten

def logicFiles (dir : Text) (codeNames : Texts) : Gen Texts := do
  let wanted name : Bool :=
    let (stem, ext) := Path.splitExt name
    ext == ".yaml" && (codeNames.any (Text.contains stem) || Text.contains stem "hip")
  filesBelow wanted ((<- get).workspace.dirs.length + 2) dir

def readLogic (file : Text) : Gen Logic := do
  let v <- Yaml.read (<- read file)
  Logic.read (<- items v) file

def bundledFiles : Gen Texts := do
  let legacy <- flag LC
  return opt legacy ["SolutionMapper.h"] ++ ["TensileTypes.h", "tensile_bfloat16.h", "KernelHeader.h"] ++
    opt legacy ["SolutionHelper.cpp", "SolutionHelper.h", "Tools.cpp", "Tools.h"]

def copyBundled (names : Texts) (dir : Text) : Act := do for n in names do put (dir / n) (.bundled n)

def addLib (libs : List (Value × Master)) (version key : Value) (m : Master) : Gen (List (Value × Master)) := do
  if libs.any fun l => same l.1 key then
    libs.mapM fun l => do if same l.1 key then return (l.1, <- Master.merge l.2 m) else return l
  else
    let version := if version.isNull then none else some version
    return libs ++ [(key, { m with version })]

def missing (xs ys : Texts) : Texts := xs.filter (!ys.contains ·)

def checkObjects (made expected : Texts) : Act := do
  if <- flag PCC then
    sayLine s!"codeObjectFiles: {(Value.strs made).shown}"
    sayLine s!"sourceLibPaths + asmLibPaths: {(Value.strs expected).shown}"
  let names xs := listing (xs.map quoteText)
  let unexpected := missing made expected
  check unexpected.isEmpty s!"Unexpected code object files: \x7b{names unexpected}\x7d"
  if !(<- flag GSAE) then
    let absent := missing expected made
    check absent.isEmpty s!"Missing expected code object files: \x7b{names absent}\x7d"

def writeEmbedded (outPath name : Text) (key lib : Option Text) (objects : Texts) : Act := do
  let write (f : EmbedFile) x := do
    let (r, f) := f.after x
    r
    return f
  let f <- write {} header
  let some lib := lib | throw .unbound
  let f <- write f (embed "SolutionLibrary<ContractionProblem, ContractionSolution>"
    (<- bytes lib) true (some (Path.basename lib)) key)
  let f <- (<- counted objects fun o => do return (o, <- bytes o)).foldlM (fun f (o, bytes) =>
    write f (embed "SolutionAdapter" bytes false (some (Path.basename o)) key)) f
  Files.write (outPath / s!"library/{name}.cpp") (<- write f finish).text

def writeLibs (dir : Text) (libs : List (Value × Master)) (packaged : Bool)
    (naming : Naming.Required) (format : Text) : Gen (Option Text) := do
  let store dir m := do
    let stem := dir / "TensileLibrary"
    let m <- m.named (some naming)
    write stem (<- m.toValue true) format
    return stem
  if packaged then
    let names <- (<- (<- items (<- setting SISA)).filterM (cap · SISA)).mapM nameOf
    libs.foldlM (fun last (arch, m) => do
      if names.contains arch.shown then
        let path <- ensurePath (dir / arch.shown)
        return some (<- store path m)
      else return last) none
  else
    match libs with
    | (_, m) :: _ => some <$> store dir m
    | [] => throw .noField

def generate (values : Table) : Act := do
  let text := fetchText values
  let logicPath <- text "LogicPath"
  let outPath <- text OP
  let compiler <- text CC
  let format <- text LF
  sayAt 2 s!"OutputPath: {outPath}"
  ensureDir outPath
  let outPath := (<- get).workspace.resolve outPath
  let cmakeCompiler <- fetch values CCC
  let arguments <- settingsOf values outPath
  if cmakeCompiler.truthy then inSpace (·.setVar "CMAKE_CXX_COMPILER" cmakeCompiler.shown)
  assign arguments
  let architecture <- fetch arguments "Architecture"
  let objectVersion <- fetch arguments COV
  sayAt 1 s!"# CodeObjectVersion from TensileCreateLibrary: {objectVersion.shown}"
  sayAt 1 s!"# CxxCompiler       from TensileCreateLibrary: {compiler}"
  sayAt 1 s!"# Architecture      from TensileCreateLibrary: {architecture.shown}"
  sayAt 1 s!"# LibraryFormat     from TensileCreateLibrary: {format}"
  if !(<- isThere logicPath) then fatal s!"LogicPath {logicPath} doesn't exist"
  let .str architecture := architecture | throw .noField
  let codeNames <- (architecture.splitOn ";").mapM fun arch => do
    (Isa.codeNames.find? fun e => e.1 == arch).elim (fatal s!"Architecture {arch} not supported") fun (_, n) => pure n
  let files <- logicFiles logicPath codeNames
  sayAt 1 "# LibraryLogicFiles:"
  for f in files do sayAt 1 s!"#   {f}"
  let logics <- mapAll "Reading logic files" true files readLogic
  let packaged <- flag "PackageLibrary"
  let version <- fetch values "version"
  let (libs, known) <- do
    let added <- counted logics fun l => do return (if packaged then l.architecture else .null, l)
    pure (<- added.foldlM (fun ls (k, l) => addLib ls version k l.lib) [], added.map (·.2))
  let srcs <- ofSolutions (<- distinctBy (·.name) (known.flatMap (·.solutions)))
  let bundled <- bundledFiles
  copyBundled bundled outPath
  let names <- ObjectFiles.ofSrcs srcs
  let paths <- names.under outPath
  let expected := paths.srcObjects ++ paths.asmObjects
  let libPath <- ensurePath (outPath / "library")
  let ext := if (<- setting LF) == "yaml" then ".yaml" else ".dat"
  write (libPath / "TensileManifest.txt")
    (.join ((libPath / ("TensileLibrary" ++ ext) :: expected).map (· ++ "\n")))
  if same (<- setting GMAE) true then return
  if !(<- fetchFlag arguments GSAE) then names.writeBuildList outPath bundled
  copyBundled bundled outPath
  let selections <- collect known
  let (_, objects) <- srcs.write outPath compiler (selections.map (·.problem)) false
  checkObjects objects expected
  if <- flag LC then write outPath selections srcs.naming
  let stem <- writeLibs libPath libs packaged srcs.naming.kernels.required format
  if packaged && libs.isEmpty then throw .outOfRange
  match <- fetch values "EmbedLibrary" with
  | .str name => writeEmbedded outPath name (<- fetch values "EmbedLibraryKey").asStr? (stem.map (· ++ ext)) objects
  | _ => pure ()
  sayAt 1 "# Tensile Library Writer DONE"
  sayAt 1 ("".pushn '#' 80)
  sayAt 1 ""

def run (name : Text) (args : Texts) : Act := do
  let rule := "".pushn '#' 80
  sayAt 1 ""
  sayAt 1 rule
  sayAt 1 "# Tensile Create Library"
  sayAt 2 rule
  sayAt 2 ""
  sayAt 2 s!"Arguments: {(Value.strs (name :: args)).shown}"
  generate (<- (cmd name).read args)

/-- With a file on the problem type; gives the code objects and the library. -/
def writeClientLib (solutions : Solutions) (dir : Text) : Gen (Texts × Master) := do
  let problem := (<- first solutions).problem
  let libDir <- ensurePath (dir / "library")
  writeDoc (libDir / "metadata.yaml")
    (.record [(PT, .dict (Logic.problemFields problem))])
  if !(<- flag GSAE) then copyBundled (<- bundledFiles) dir
  let srcs <- ofSolutions solutions
  let (left, objects) <- srcs.write dir (<- settingStr CC) [problem] true
  let lib <- (<- Master.ofSolutions left.solutions).named (some srcs.naming.kernels.required)
  writeDoc (libDir / "TensileLibrary.yaml") (<- lib.toValue true)
  return (objects, lib)

end Generator

end TensorForge
