import TensorForge.Value.Basic

/-! # Sessions -/

namespace TensorForge

/-- Why a computation stopped. -/
inductive Fault where
  /-- The program gave up with a message. -/
  | failure (text : Text)
  | missingKey (key : Value)
  /-- The program printed its last words and stopped. -/
  | exit
  | wrongKind
  | violated (text : Text)
  /-- Of the right kind, but outside the domain. -/
  | badValue
  | noField
  | outOfRange
  | divisionByZero
  | overflow
  | unbound
  | unknownName
  | noFile
  | fileExists
  | wrongPath
  | isDirectory
  | cmdFailed
  | unsupported (text : Text)
  | badOp
  | tooDeep
  /-- For the scanner, the parser or the composer. -/
  | badDoc (kind : Text)
  | noModule
  | badSyntax
  | badEncoding

abbrev Fault.unmet : Fault := .violated ""
abbrev Result := Except Fault

def Fault.msg : Fault -> Option Text
  | .failure t => some t
  | .violated t => some t
  | .unsupported t => some t
  | .missingKey k => some k.quoted
  | _ => none

inductive FileBody where
  | text (s : Text)
  | packed (v : Value)
  | zipped (s : Text)
  | bundled (name : Text)

structure Programs where
  /-- Commands with the text end with the code, or are missing without one. -/
  failing : List (Text × Option Int) := []
  compiler : Option Text := none
  agents : Texts := []
  agentsCode : Int := 0
  listing : Option Texts := none
  output : Texts := []
  results : List Pairs := []

structure Started where
  (cmd directory : Text)
  failed : Bool

structure Workspace where
  cwd : Text := "/work"
  /-- By absolute name, in the order in which they appeared. -/
  files : List (Text × FileBody) := []
  dirs : Texts := []
  env : Pairs := [("PATH", "/nowhere")]
  programs : Programs := {}
  started : List Started := []
  /-- The order in which a directory names its entries. -/
  arrange : Texts -> Texts := (·.mergeSort fun x y => !(y < x))

namespace Workspace

variable (w : Workspace) (p : Text)

def resolve : Text := Path.absolute w.cwd p
def read? : Option FileBody := w.files.lookup (w.resolve p)
def isFile : Bool := (w.read? p).isSome

def ancestors : Texts :=
  let parts := (p.splitOn "/").filter (!·.isEmpty)
  (List.range parts.length).map fun n => "/" ++ "/".intercalate (parts.take (n + 1))

def isDir : Bool :=
  let a := w.resolve p
  a == "/" || (ancestors w.cwd).contains a || w.dirs.contains a

def makeDirs : Workspace := { w with dirs := w.dirs ++ ((ancestors (w.resolve p)).filter (!w.isDir ·)) }

def write (body : FileBody) : Workspace :=
  let a := w.resolve p
  if w.files.any fun f => f.1 == a then { w with files := w.files.map fun f => if f.1 == a then (a, body) else f }
  else { w with files := w.files ++ [(a, body)] }

def setVar (name value : Text) : Workspace := { w with env := w.env.filter (·.1 != name) ++ [(name, value)] }

def append (text : Text) : Workspace :=
  match w.read? p with
  | some (.text old) => w.write p (.text (old ++ text))
  | _ => w.write p (.text text)

def remove : Workspace := { w with files := w.files.filter fun f => f.1 != w.resolve p }

def isBelow (d a : Text) : Bool := a.startsWith (if d.endsWith "/" then d else d ++ "/")

def removeTree : Workspace :=
  let a := w.resolve p
  { w with
    files := w.files.filter (!isBelow a ·.1)
    dirs := w.dirs.filter fun d => !(d == a || isBelow a d) }

def copyTree (src target : Text) : Workspace :=
  let a := w.resolve src
  let b := w.resolve target
  let moved p := b ++ .drop a.length p
  let files := w.files.filter (isBelow a ·.1)
  let w := ((w.dirs.filter (isBelow a)).map moved).foldl makeDirs (w.makeDirs b)
  files.foldl (fun w f => w.write (moved f.1) f.2) w

def list : Texts :=
  let a := w.resolve p
  let stem := if a.endsWith "/" then a else a ++ "/"
  w.arrange <| (w.files.map (·.1) ++ w.dirs).filterMap fun f =>
    if f.startsWith stem then
      let rest := Text.drop stem.length f
      if rest.contains "/" then none else some rest
    else none

end Workspace

structure Session where
  /-- In the order in which they were first set. -/
  settings : Table
  /-- The latest first. -/
  savedPaths : Texts := []
  (log complaints : Text := "")
  workspace : Workspace := {}
  clientBuild : Option Text := none
  /-- Stand in where a configuration gives none, with what reading has completed. -/
  completedSizes : List (Value × Value) := []
  deriving Inhabited

abbrev Gen := EStateM Fault Session
abbrev Act := Gen Unit

namespace Gen

variable (s : Text) {α : Type}

def say : Act := modify fun st => { st with log := st.log ++ s }
def sayLine : Act := say (s ++ "\n")
def complain : Act := modify fun st => { st with complaints := st.complaints ++ s }
def warn : Act := sayLine ("Tensile::WARNING: " ++ s)

def fatal (s : Text) : Gen α := do
  sayLine ("Tensile::FATAL: " ++ s)
  throw .exit

def check (b : Bool) (text : Text) : Act := if b then pure () else throw (.violated text)
def wrongKind : Gen α := throw .wrongKind

variable (key : Text) (v : Value)

def setting : Gen Value := do
  match (<- get).settings.get? key with
  | some v => pure v
  | none => throw (.missingKey key)

def flag : Gen Bool := return (<- setting key).truthy
def setSetting : Act := modify fun st => { st with settings := st.settings.set key v }

def int : Gen Int :=
  match v with
  | .int n => pure n
  | .bool b => pure (if b then 1 else 0)
  | _ => throw .wrongKind

def str : Gen Text :=
  match v with
  | .str s => pure s
  | _ => throw .wrongKind

def items : Gen Values :=
  match v with
  | .list xs => pure xs
  | .tuple xs => pure xs
  | .dict es => pure (es.map (·.1))
  | .str s => pure (s.toList.map fun c => String.singleton c)
  | _ => throw .wrongKind

def table : Gen Table :=
  match v with
  | .dict es => pure es
  | _ => throw .noField

def settingInt : Gen Int := do int (<- setting key)
def settingStr : Gen Text := do str (<- setting key)
def workPath : Gen Text := settingStr WP
def first (xs : List α) : Gen α := xs.head?.getDM (throw .outOfRange)
def sayAt (level : Int) (s : Text) : Act := do if (<- settingInt PL) >= level then sayLine s

variable (t : Table) (name : Text)

def fetch : Gen Value :=
  match t.get? name with
  | some v => pure v
  | none => throw (.missingKey name)

def fetchText : Gen Text := do str (<- fetch t name)
def fetchFlag : Gen Bool := return (<- fetch t name).truthy

def fetchKey (key : Value) : Gen Value :=
  match t.find? key with
  | some v => pure v
  | none => throw (.missingKey key)

/-- Negative positions count from the end. -/
def nth (xs : Values) (i : Int) : Gen Value :=
  let j := if i < 0 then i + xs.length else i
  if j < 0 then throw .outOfRange
  else match xs[j.toNat]? with
    | some v => pure v
    | none => throw .outOfRange

def putPairs (pairs : Value) : Gen Table := do
  (<- items pairs).foldlM (fun t e => do
    let pair <- items e
    return t.put (<- nth pair 0) (<- nth pair 1)) t

def inSpace (f : Workspace -> Workspace) : Act := modify fun st => { st with workspace := f st.workspace }
def env? (name : Text) : Gen (Option Text) := do return (<- get).workspace.env.lookup name

def ofExcept : Result α -> Gen α
  | .ok a => pure a
  | .error e => throw e
instance : MonadLift Result Gen := ⟨ofExcept⟩

end Gen

namespace Files

variable (path : Text)

def isFile : Gen Bool := return (<- get).workspace.isFile path
def isDir : Gen Bool := return (<- get).workspace.isDir path

variable (text : Text)

def isThere : Gen Bool := return (<- isFile path) || (<- isDir path)

def checkPlace : Act := do
  let w := (<- get).workspace
  let target := w.resolve path
  if path.isEmpty then throw .noFile
  if w.isDir target || path.endsWith "/" then throw .isDirectory
  let above := Path.dirname target
  if w.isFile above then throw .wrongPath
  if !w.isDir above then throw .noFile

def put (body : FileBody) : Act := do
  checkPlace path
  .inSpace (·.write path body)

def write : Act := put path (.text text)

def append : Act := do
  checkPlace path
  .inSpace (·.append path text)

def get : Gen FileBody := do
  let w := (<- MonadState.get).workspace
  match w.read? path with
  | some body => return body
  | none => if w.isDir path then throw .isDirectory else throw .noFile

def read : Gen Text := do
  match <- get path with
  | .text s => return s
  | .zipped _ | .packed _ => throw .badEncoding
  | .bundled _ => return ""

variable (s : Text) (dir : Text)

/-- All end with a single line feed. -/
def evenLines : Text :=
  .ofList (s.toList.foldr (fun c (feed, out) =>
    (c == '\n', if c != '\r' then c :: out else if feed then out else '\n' :: out)) (false, [])).2

def linesOf : Texts :=
  let ls := (evenLines s).splitOn "\n"
  if ls.getLast? == some "" then ls.dropLast else ls

def linesWithEnds : Texts :=
  let parts := (evenLines s).splitOn "\n"
  parts.dropLast.map (· ++ "\n") ++ (parts.getLast?.toList.filter (!·.isEmpty))

def list : Gen Texts := do
  if <- isDir dir then return (<- MonadState.get).workspace.list dir
  if <- isFile dir then throw .wrongPath else throw .noFile

def makeDirs : Act := do
  let w := (<- MonadState.get).workspace
  if dir.isEmpty then throw .noFile
  if (Workspace.ancestors (w.resolve dir)).dropLast.any w.isFile then throw .wrongPath
  .inSpace (·.makeDirs dir)

def ensureDir : Act := do if !(<- isThere dir) then makeDirs dir

variable (src target : Text)

def copy : Act := do
  let body <- get src
  put (if <- isDir target then target / Path.basename src else target) body

def move : Act := do
  put target (<- get src)
  .inSpace (·.remove src)

end Files

namespace Cmd

def recordStart (cmd directory : Text) (failed : Bool) : Act :=
  .inSpace fun w => { w with started := ⟨cmd, directory, failed⟩ :: w.started }

def outs : Texts -> Texts
  | "-o" :: file :: rest => file :: outs (file :: rest)
  | word :: rest => if word.startsWith "-outputs=" then .drop 9 word :: outs rest else outs rest
  | [] => []

def deliverResults (directory : Text) : Act := do
  let w := (<- get).workspace
  match w.programs.results with
  | [] => pure ()
  | files :: rest =>
    for (name, text) in files do
      .inSpace fun w =>
        let target := (directory / "../../Data") / .replace name "*" (Path.basename (Path.dirname directory))
        (w.makeDirs (Path.dirname (w.resolve target))).write target (.text text)
    .inSpace fun w => { w with programs := { w.programs with results := rest } }

def nextOut : Gen Text := do
  match (<- get).workspace.programs.output with
  | [] => return ""
  | s :: rest =>
    .inSpace fun w => { w with programs := { w.programs with output := rest } }
    return s

variable (words : Texts) (directory : Text := ".") (lib : Texts -> Gen Int := fun _ => pure 0)

/-- Exit code and output, `none` without such a program; `lib` runs the library generator on its arguments. -/
def start : Gen (Option (Int × Text)) := do
  let w := (<- get).workspace
  let cmd := " ".intercalate words
  let directory := w.resolve directory
  match w.programs.failing.find? fun f => Text.contains cmd f.1 with
  | some (_, code) =>
    recordStart cmd directory true
    return code.map (·, "")
  | none =>
    if cmd == "hipcc --version" then return w.programs.compiler.map (0, ·)
    recordStart cmd directory false
    let program := Path.basename (words.headD "")
    if program == "rocm_agent_enumerator" then
      return some (w.programs.agentsCode, .join (w.programs.agents.map (· ++ "\n")))
    if words.getLast? == some "-list" then
      return some (w.programs.listing.elim (1, "") fun ls => (0, .join (ls.map (· ++ "\n"))))
    for file in outs words do
      let file := directory / file
      Files.write file ("object " ++ Path.basename file ++ "\n")
    let mut code := 0
    if program == "TensileCreateLibrary" then code <- lib (words.drop 1)
    if program == "run.sh" || program == "tensile_client" then deliverResults directory
    return some (code, <- nextOut)

def run : Gen (Int × Text) := do (<- start words directory lib).getDM (throw .noFile)

end Cmd

/-! ## Progress -/

namespace Progress

open Float Gen

def fullTicks : Nat := 73
variable (done total : Nat)

def ticksAt : Nat := (.ofNat done / .ofNat total * ofNat fullTicks).toUInt64.toNat

def bar : Text :=
  let ticks := ticksAt done total
  let percent := (ofNat done / ofNat total * 100.0).toUInt64.toNat
  "\r[" ++ .padRight fullTicks ("".pushn '|' ticks) ++ "] " ++ .padLeft ' ' 3 (toString percent) ++ "%" ++
    opt (ticks == fullTicks) " (0.0 secs elapsed)\n"

def signs : Texts := ["|", "/", "-", "\\"]

variable {α β : Type} (xs : List α) (f : α -> Gen β)

def counted : Gen (List β) := do
  let total := xs.length
  let rec walk done ticks : List α -> Gen (List β)
    | [] => pure []
    | x :: rest => do
      let y <- f x
      let now := ticksAt (done + 1) total
      if now > ticks then say (bar (done + 1) total)
      return y :: (<- walk (done + 1) (max ticks now) rest)
  walk 0 0 xs

def turn (done : Nat) : Text := "\x08" ++ signs.getD (done % 4) ""
def turned : Text := "\x08*\n"

def turning : Gen (List β) := do
  let rec walk done : List α -> Gen (List β)
    | [] => do
      say turned
      return []
    | x :: rest => do
      let y <- f x
      say (turn done)
      return y :: (<- walk (done + 1) rest)
  walk 0 xs

/-- Blocks of a quarter of the items. A fault ends its block; the others are mapped all the same, and the first fault
is thrown afterwards. -/
def inBlocks : Gen (List β) := do
  let size := (xs.length + 3) / 4
  let (ys, fault) <- (List.range 4).foldlM (fun (ys, fault) i => do
    try return (ys ++ (<- ((xs.drop (i * size)).take size).mapM f), fault)
    catch e => return (ys, fault <|> some e)) ([], none)
  fault.elim (pure ys) throw

/-- `sized` says whether the number of items is known beforehand. -/
def mapAll (msg : Text) (sized : Bool) (xs : List α) (f : α -> Gen β) : Gen (List β) := do
  if <- flag "ShowProgressBar" then if sized then counted xs f else turning xs f
  else
    sayLine s!"{msg}: Launching 0 threads..."
    let ys <- inBlocks xs f
    sayLine s!"{msg}: Done."
    return ys

end Progress

end TensorForge
