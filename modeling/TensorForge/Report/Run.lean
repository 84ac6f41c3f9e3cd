import TensorForge.Client.Run
import TensorForge.Report.Library

/-!
# Outside programs of requests
-/

namespace TensorForge.Report

open Gen Settings Text

def texts (v : Value) : Texts := v.items.map Value.shown

variable (req : Table)

def readPrograms : Programs :=
  let tools := (req.or "tools").entries
  let field? key := (tools.get? key).filter (!·.isNull)
  { failing := (tools.or "fail").entries.map fun (k, v) => (k.shown, v.asInt?)
    compiler := (field? "hipcc").map Value.shown
    agents := texts (tools.or "agents")
    agentsCode := (tools.or "agentsCode").asInt?.getD 0
    listing := (field? "listing").map texts
    output := texts (tools.or "output")
    results := (req.or "results").items.map fun files => files.entries.map fun (k, v) => (k.shown, v.shown) }

def installPrograms : Act := inSpace ({ · with programs := readPrograms req })

/-!
## Reports on whole commands

A command runs in an empty directory with the files of the request. The report holds its outcome, the programs it
started and the files it left.
-/

open Answer (attempt forget)

def placeText (path text : Text) : Act := do
  inSpace (·.makeDirs (Path.dirname path))
  Files.write path text

def placeFiles : Act := do
  for (name, content) in (req.or "files").entries do
    let name := name.shown
    if name.endsWith "/" then inSpace (·.makeDirs name)
    else placeText name (<- match content with
      | .dict es => match Table.get? es "yaml" with
        | some data => pure (Yaml.print {} data)
        | none => do pure (Yaml.print {} (.list (<- logicData (<- ask es "logic"))))
      | v => pure v.shown)

def putGlobals : Act := do
  for (k, v) in (req.or "globals").entries do
    let v := match k, v with
      | .str "CurrentISA", .list xs => .tuple xs
      | _, v => v
    setSetting k.shown v

def prepareRun : Act := do
  placeFiles req
  forget
  modify ({ · with settings := (initial.set WP "/work").set CT 0 })
  putGlobals req
  for (k, v) in (req.or "env").entries do inSpace (·.setVar k.shown v.shown)
  installPrograms req

variable (view : Option Value)

def shownText (name text : Text) : Answer :=
  if text.startsWith "object " then "object" else
  let whole := view == some "text"
  let plain : Answer :=
    if whole || (linesKept text.toList).length <= 60 then text
    else view.elim ((View.blocks 50).apply text) fun v => (View.read (some v)).apply text
  if (name.endsWith ".yaml" || name.endsWith ".yml") && !whole then
    match Yaml.read text with
    | .ok v => .record [("yaml", .value v)]
    | .error _ => plain
  else plain

def shownFile (name : Text) : FileBody -> Answer
  | .bundled _ => "copy"
  | .packed v => .record [("msgpack", .value v)]
  | .zipped s => .record [("gzip", s)]
  | .text s => shownText view name s

def unchanged (before : List (Text × FileBody)) (name : Text) (body : FileBody) : Bool :=
  match before.find? (·.1 == name), body with
  | some (_, .text old), .text new => old == new
  | _, _ => false

def localName (path : Text) : Text := "." ++ drop "/work".length path

def quietly : Answer -> Answer
  | .done a _ => .done a ""
  | .stopped .exit printed => .stopped .exit ((Answer.lastWords? printed).getD printed)
  | .stopped f _ => .stopped f ""
  | a => a

def withoutNames : Answer -> Answer
  | .stopped (.violated t) printed =>
    let head := (t.splitOn ": \x7b").headD ""
    .stopped (.violated (if contains t "expected code object files: \x7b" then head else t)) printed
  | a => a

def startedReport (s : Started) : Value := .list ([.str s.cmd, .str s.directory] ++ opt s.failed [.str "fails"])

def wholeRun (cmd : Reply) (req : Table) : Reply := do
  prepareRun req
  let before := (<- get).workspace.files
  let outcome := withoutNames (<- attempt cmd)
  let w := (<- get).workspace
  let complaints := (<- get).complaints
  let errors := opt (req.on "stderr" && !complaints.isEmpty) [("stderr", answer complaints)]
  let view := req.get? "view"
  let shown := w.files.filter fun (name, body) =>
    !unchanged before name body && !((texts (req.or "skip")).any (name.endsWith ·))
  let files := if req.on "nofiles" then [] else
    [("files", Answer.record (shown.map fun (name, body) => (localName name, shownFile view name body))),
     ("deleted", (before.filter (!w.isFile ·.1)).map (localName ·.1))]
  return .record ([("result", if req.on "stdout" then outcome else quietly outcome),
    ("commands", w.started.reverse.map startedReport)] ++ errors ++ files)

/-! ## Reports on single steps of commands -/

def putSettings : Act := do for (k, v) in (req.or "set").entries do setSetting k.shown v

def clientLib : Reply := do
  assign []
  putSettings req
  let (objects, lib) <- Generator.writeClientLib (<- readSolutions req) "out"
  return .record [("codeObjects", objects), ("library", <- lib.toValue true)]

def assignedSettings : Reply := do
  assign (req.or "config").entries
  let settings := (<- get).settings
  return Value.dict ((texts (req.or "show")).filterMap fun k => do return (.str k, <- settings.get? k))

def assembled : Reply := do
  return <- each req "cases" fun (case : Values) => do
    let isa :: src :: rest := case | throw .wrongKind
    let isa := match isa with
      | .list xs => .tuple xs
      | v => v
    Toolchain.accepts isa (<- str src) (rest.headD false).truthy (rest.drop 1)

def foundProgram : Reply := do return <- Toolchain.which (<- ask req "name")

def newClient : Reply := do
  putSettings req
  Client.runConfig "c.ini" (<- ask? req "build")
  return .null

def sumLib (_ : Table) : Reply := do
  Client.makeLib "logic" "lib" "."
  return .null

end TensorForge.Report
