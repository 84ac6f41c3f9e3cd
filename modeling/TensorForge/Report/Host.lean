import TensorForge.Client.Header
import TensorForge.Client.Script
import TensorForge.Cluster.Script
import TensorForge.Host.Generator
import TensorForge.Report.Library

/-! # Reports on kernels -/

namespace TensorForge.Report

open Answer Assembly.Emit Cluster Contraction EmbedFile Files Gen ProblemSizes Repl Selection Settings Srcs Toolchain Client

variable (req : Table)

def viewOf : View := .read (req.get? "view")

def ofValid (reply : View -> Solution -> KernelNaming -> Reply) : Reply := do
  let s <- ask req "config"
  if !s.isValid then return .record [("valid", false)]
  forget
  reply (viewOf req) s (<- KernelNaming.ofSolutions [s])

def kernel : Reply := ofValid req fun view s naming => do
  let name <- naming.name s
  let base <- naming.fileBase s
  let src <- attempt do return view.apply (<- naming.kernelText s)
  let header <- attempt do return view.apply (<- naming.header s)
  return .record [("valid", true), ("name", name), ("base", base), ("source", src), ("header", header),
    ("helpers", Naming.sortTexts (s.helpers.map (·.name)))]

def overrideCaps (overrides : Value) : Act := do
  for o in overrides.items do
    let isa := .tuple (<- items (<- nth (<- items o) 0))
    let all <- table (<- setting "AsmCaps")
    let caps <- table (<- fetchKey all isa)
    setSetting "AsmCaps" (.dict (all.put isa (.dict (caps.update (<- table (<- nth (<- items o) 1))))))

/-- With switched parts and checks, and the code of single checks. -/
def kernelDebug (probe : Value -> Option (Assembly.Emit Value)) (req : Table) : Reply := do
  overrideCaps (req.or "caps")
  ofValid req fun view s naming => do
  let switched key s := (req.or key).entries.foldl (fun s (k, v) => s.set k.shown v) s
  let assembly <- KernelNaming.isAsm s
  let start <- observing (naming.asmState s (switched "do") (switched "db"))
  let (src, state) <- match if assembly then start.toOption else none with
    | some st => do
      let (r, st) <- outcome st Assembly.kernelText
      pure (<- attempt do return view.apply (<- r), some st)
    | none => do pure (<- attempt do return view.apply (<- naming.kernelText s), none)
  let mut state := state
  let mut calls := []
  for call in (req.or "calls").items do
    match state, probe call with
    | some st, some x =>
      let (r, st) <- outcome st x
      state := some st
      calls := calls ++ [<- attemptTo r]
    | _, _ => calls := calls ++ [<- attempt (throw .noField)]
  return .record [("valid", true), ("source", src), ("calls", calls)]

/-!
## Reports on host code
-/

def launchArg (a : LaunchArg) : Value := .list [a.type, a.name, a.default]

def launch : Reply := do
  let ss <- readSolutions req
  forget
  let n <- LaunchNaming.ofSolutions ss
  let part := fun i => (((req.get? "args").bind (·.items[i]?)).map Value.truthy).getD true
  let parts := { lock := part 0, data := part 1, events := part 2, stream := part 3, workspace := part 4 }
  return <- ss.mapM fun s => attempt do
    let site <- n.site s
    let header <- Paper.textOf (Launch.header site)
    let src <- Paper.textOf (Launch.function site (req.on "buildErrors") (<- s.indented "  "))
    return .record [("name", site.name), ("header", header), ("hs", header),
      ("source", (viewOf req).apply src), ("sig", site.sig), ("args", (site.arguments parts).map launchArg)]

/-- As a view shows them, by their names seen from the current directory. -/
def writtenFiles (lead : Text) (view : View) : Reply := do
  let w := (<- get).workspace
  return .record (w.files.filterMap fun (path, body) =>
    if Workspace.isBelow w.cwd path then
      match body with
      | .text s => some (lead ++ .drop (w.cwd.length + 1) path, view.apply s)
      | _ => none
    else none)

def writeLib : Reply := onlyLastWords do
  let ss <- readSolutions req
  setSetting GSAE true
  setSetting "ShowProgressBar" true
  let _ <- ensurePath "out"
  let problems := distinct ProblemType.same (ss.map (·.problem))
  let (left, objects) <- (<- ofSolutions ss).write "out" "hipcc" problems (req.on "errorTolerant")
  return .record [("codeObjects", objects), ("kernels", left.kernels.length),
    ("solutions", <- left.solutions.mapM (·.name)), ("files", <- writtenFiles "./" (viewOf req))]

def repl : Reply := do
  let version := req.or "version"
  let files : Table <- ask req "files"
  let _ <- ensurePath "rk"
  let paths <- files.mapM fun (k, v) => do
    let path := "rk" / k.shown
    write path (<- str v)
    return (k.shown, path)
  let names <- paths.mapM fun (k, path) => do return (k, <- attemptTo (kernelName version path))
  let found <- each req "get" fun (v : Shown) => attemptTo (find? version "rk" v.text)
  return .record [("marker", marker version), ("names", .record names), ("get", found)]

def readHex (s : Text) : Nats :=
  let digit := fun (c : Char) => if c.isDigit then c.toNat - 48 else c.toLower.toNat - 87
  let rec pairs : Chars -> Nats
    | a :: b :: rest => (16 * digit a + digit b) :: pairs rest
    | _ => []
  pairs s.toList

def embedStep (step : Values) : Gen (Writing Value) := do
  let nth := fun i => step.getD i .null
  let text? := fun v => match v with
    | .null => none
    | v => some v.shown
  let unit := fun x => do
    x
    return .null
  match <- str (<- .nth step 0) with
  | "namespace" => return unit (openNamespace (text? (nth 1)))
  | "end_namespace" => return unit (closeNamespace (text? (nth 1)))
  | "write" => return unit ((step.drop 1).forM fun v => match v with
      | .str s => write s
      | .list xs | .tuple xs => do
        lines (<- xs.mapM fun x => match x with
          | .str s => pure s
          | _ => throw .noField)
      | v => write v.shown)
  | "comment" => return unit (match nth 1 with
      | .str s => comment s
      | _ => throw .noField)
  | "indent" => return (do
      indent (nth 1).asInt?
      return "<Indent>")
  | "dedent" => return unit dedent
  | "write_header" => return unit header
  | "write_footer" => return unit footer
  | "embed_data" =>
    return unit (embed (nth 1).shown (readHex (nth 2).shown) (nth 3).truthy (text? (nth 4)) (text? (nth 5)))
  | "embed_file" =>
    return unit (embed (nth 1).shown (readHex (nth 3).shown) (nth 4).truthy
      (some (Path.basename (nth 2).shown)) (text? (nth 5)))
  | _ => throw .noField

def embedded : Reply := do
  let (r, file) := ({ step := <- int ((req.or "indent").items.headD 4) } : EmbedFile).after header
  r
  let (steps, file) <- (<- ask req "steps" : List Values).foldlM (fun (steps, file) v => do
    let (r, file) := file.after (<- embedStep v)
    return (steps ++ [<- attemptTo r], file)) ([], file)
  let (r, file) := file.after finish
  r
  return .record [("steps", steps), ("text", file.text)]

def hostLib : Reply := do
  let logics <- each req "logics" fun t => do Logic.read (<- logicData t) "logic.yaml"
  forget
  let named <- (logics.flatMap (·.solutions)).mapM fun s => do return (<- s.name, s)
  let solutions := (distinct (fun a b => a.1 == b.1) named).map (·.2)
  let srcs <- ofSolutions solutions
  let _ <- ensurePath "out"
  let logic <- attemptTo do write "out" (<- collect logics) srcs.naming
  let files <- writtenFiles "" (viewOf req)
  let objects <- attempt do
    let f <- ObjectFiles.ofSrcs srcs
    let sorted := { f with asmObjects := Naming.sortTexts f.asmObjects }
    let p <- sorted.under "prefix"
    f.writeBuildList "out" ["TensileTypes.h"]
    return .list [sorted.toList, p.toList, <- read "out/Generated.cmake"]
  let calls <- solutions.mapM fun s => do
    return callText (<- s.nameMin srcs.naming.required) (<- LaunchShape.ofProblem s.problem)
  return .record [("logic", logic), ("files", files), ("objects", objects), ("calls", calls)]

def toolScript (kind : Text) (args : Values) (req : Table) : Reply := do
  let text := fun (i : Nat) => do str (<- .nth args i)
  let texts := fun n => (args.drop n).mapM str
  match kind with
  | "asmOld" =>
    writeAnyScript
    return <- read "assembly/asm.sh"
  | "asmNew" =>
    writeCurrentScript
    return <- read "assembly/asm-new.sh"
  | "compile" =>
    let isa := .tuple (<- items (req.or "isa"))
    return <- compileWords (<- text 0) (<- text 1) (<- texts 2) isa (req.or "wave")
  | "link" => return <- linkWords (<- decode (<- nth args 0)) (<- text 1) (<- texts 2)
  | "coba" => return byteArray (<- text 0) (readHex (<- text 1))
  | "old" => return <- buildScript (<- nth args 0) (<- nth args 1).truthy
  | "new" => return <- libScript (<- text 0) (<- text 1)
  | "writeOld" => return <- read (<- writeBuild "." (buildScript (<- nth args 0) (<- nth args 1).truthy))
  | "writeNew" => return <- read (<- writeBuild "." (libScript "." (<- text 0)))
  | "run" =>
    let configs <- (args.getD 2 .null).items?.mapM (·.mapM str)
    return <- read (<- writeRunScript "." (<- nth args 0).truthy (<- nth args 1) configs)
  | _ => return .null

def script : Reply := do
  if ((<- get).settings.get? "PrebuiltClient").isNone then setSetting "PrebuiltClient" "client"
  toolScript (<- ask req "kind") (req.or "args").items req

def pairs (lines : Pairs) : List Texts := lines.map fun (k, v) => [k, v]

def problemSizes : Reply := do
  let p <- ask req "problemType"
  let s <- read p (<- ask req "sizes")
  let base <- sizesReport s
  let client <- if !req.on "client" then pure [] else do
    let x <- ofState p.state
    let params <- s.problems.mapM fun q => attemptTo do return pairs (<- problemLines x q)
    pure [entry "params" params, ("init", <- attemptTo do return pairs (<- initLines x))]
  let check <- (req.get? "cEqualD").mapM fun v => do return ("check", <- attemptTo (s.checkOuts p v.truthy))
  return .record (base ++ client ++ check.toList)

def codeObjects : Gen Texts := return (<- ask? req "codeObjects").getD []

def clientConfig : Reply := do
  let p <- ask req "problemType"
  let problems <- if req.has "exact" then each req "exact" fun sizes => pure { sizes }
    else do pure (<- read p (<- ask req "sizes")).problems
  let lines <- configLines
    { problems, contraction := <- ofState p.state, srcDir := "src"
      codeObjects := <- codeObjects req, results := (req.or "results" "r.csv").shown
      lib := (req.or "libraryFile").asStr? }
  return lines.map fun (k, v) => s!"{k}={v}"

def stepConfig : Reply := do
  let ss <- readSolutions req
  forget
  let sizes <- read (<- ask req "problemType") (<- ask req "sizes")
  let lib <- Master.ofSolutions ss
  let file <- writeStepConfig { name := "step", baseDir := "base", tiles := req.on "tile" } lib
    sizes.problems (<- codeObjects req)
  return .list [file, linesOf (<- read file)]

def clientHeader : Reply := do
  if req.has "functions" then
    writeLibHeader (<- each req "functions" fun f => do
      return ((<- nth f 0).shown, <- decode (<- nth f 1)))
  else
    let ss <- readSolutions req
    forget
    let sizes <- read (<- first ss).problem (<- ask req "sizes")
    writeBenchHeader
      { solutions := ss, naming := <- LaunchNaming.ofSolutions ss, sizes, sums := (req.or "sums").items
        step := (req.or "step" "00_Final").shown, baseDir := "base" }
  return (viewOf req).apply (<- read "ClientParameters.h")

def hostBool (b : Bool) : Text := if b then "true" else "false"

def largestTiles (solutions : Tables) (sums : Values) : Gen Values := do
  let tiles <- solutions.mapM fun t => do
    let wg <- ask t WG
    let tt <- ask t TT
    let product := fun (i : Nat) => do return (<- int (<- .nth wg i)) * (<- int (<- .nth tt i))
    return (<- product 0, <- product 1)
  let (m, n, k) <- Client.largestTiles tiles sums
  return [m, n, k]

def fixedStride (pairs : List Values) (i : Value) : Gen Value := do
  let fitting <- pairs.mapM fun
    | [a, b] => pure (if a == i then some b else none)
    | _ => throw .badValue
  return (fitting.filterMap id).getLastD .null

/-!
## Reports on cluster scripts
-/

def clusterScripts : List (Text × Texts) :=
  [("Node", nodeScript), ("Task", taskScript), ("Job", jobScript)]

def clusterScript (key start ending : Text) : Gen Texts := do
  let name <- ask req key
  let some (_, lines) := clusterScripts.find? fun (n, _) => start ++ n ++ ending == name | throw .noField
  return lines

def readScriptLine (parts : Values) : Gen Text := do
  let text := (<- nth parts 1).shown
  match <- nth parts 0 with
  | .str "writeLine" => return text
  | .str "writeComment" => return comment text
  | .str "writeEcho" => return echo text
  | _ => throw .noField

def clusterScriptText : Reply := do
  match req.or "kind" with
  | .str "preview" =>
    sayLine (scriptText (<- clusterScript req "writer" "Benchmark" "Writer"))
    return .null
  | .str "write" =>
    writeScript (<- clusterScript req "func" "writeBenchmark" "Script") "s.sh" "."
    return .list ["0o111", <- read "s.sh"]
  | .str "lines" => return scriptText (<- each req "lines" readScriptLine)
  | _ => throw .noField

end TensorForge.Report
