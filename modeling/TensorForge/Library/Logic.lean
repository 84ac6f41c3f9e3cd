import TensorForge.Library.Master
import TensorForge.Problem.Sizes
import TensorForge.Yaml.Document

/-! # Logic files -/

namespace TensorForge

open Gen

structure Logic where
  (schedule devices : Value)
  problem : ProblemType
  solutions : Solutions
  (indexOrder exact range : Value)
  lib : Master
  architecture : Value

namespace Logic

/-- As files hold them: element types are numbers. -/
def problemFields (p : ProblemType) : Table :=
  p.state.map fun (k, v) => match v with
    | .dataType t => (k, t.code)
    | v => (k, v)

def solutionFields (s : Solution) : Table := (PT, .dict (problemFields s.problem)) :: s.state

def checkVersion (kind src : Text) (v : Value) : Act := do
  let version <- str v
  if !(<- Settings.isCompatible version) then
    warn (s!"Version = {src} in {kind} file {version} does not match Tensile version = " ++ Settings.version)

def fieldEntry (v : Value) (key : Text) : Gen Value :=
  match v with
  | .dict es => fetch es key
  | _ => throw .wrongKind

def readArch (name : Text) : Gen Value := do
  match Isa.read name with
  | .absent => return .null
  | .malformed => throw .badValue
  | .found isa => return isa.toValue

/-- Whether the name is that of the architecture. -/
def namesArch (name : Text) (isa : Value) : Gen Bool := do return (<- readArch name).same (isa.items?.elim isa .tuple)

def solutionIsa (lang architecture : Value) : Gen Value := do
  if lang == "Assembly" then readArch (<- str architecture) else return .tuple [0, 0, 0]

def underived (t : Table) : Table :=
  (t.set APIDP false).set ADP false

def readSolution (src : Text) (problem : ProblemType) (architecture v : Value) : Gen Solution := do
  let config <- match v with
    | .dict es => pure es
    | _ => throw .wrongKind
  let isa <- solutionIsa (<- fetch config KL) architecture
  let s <- Solution.ofConfig (underived (.set config "ISA" isa))
  if s.problem != problem then
    fatal (s!"ProblemType in library logic file {src} doesn't match solution: " ++
      s!"{<- problem.name} != {<- s.problem.name}")
  return s

def read (data : Values) (src : Text) : Gen Logic := do
  if data.length < 9 then fatal s!"Library logic file {src} is missing required fields (len = {data.length} < 9)"
  let field i := data.getD i .null
  let version <- fieldEntry (field 0) MRV
  let architecture <- match field 2 with
    | .str s => pure (.str s)
    | v => fieldEntry v "Architecture"
  checkVersion "library logic" src version
  let problem <- ProblemType.ofConfig (<- table (field 4))
  let solutions <- (<- items (field 5)).mapM (readSolution src problem architecture)
  let lib <- Master.ofLogic data solutions Master.usualOrder
  return { schedule := field 1, devices := field 3, problem, solutions, indexOrder := field 6,
           exact := field 7, range := field 8, lib, architecture }

def readSolutions (data : Values) (src : Text) : Gen (ProblemSizes × Solutions) := do
  if data.length < 3 then fatal s!"Solution file {src} is missing required fields (len = {data.length} < 3"
  let field i := data.getD i .null
  checkVersion "solution" src (<- fieldEntry (field 0) MRV)
  if !(<- (Value.str PS).isIn (field 1)) then
    fatal s!"Solution file {src} doesn't begin with ProblemSizes"
  let sizes <- fieldEntry (field 1) PS
  let solutions <- (data.drop 2).mapM fun v => do
    match v with
    | .dict es => Solution.ofConfig (underived es)
    | _ => throw .wrongKind
  let some first := solutions.head? | throw .outOfRange
  return (<- ProblemSizes.read first.problem sizes, solutions)

structure Findings where
  problem : ProblemType
  solutions : Solutions
  indexOrder : Value
  exact : List (Value × Value)
  range : Value
  tileSolutions : Solutions := []
  (tileIdxs metric : Value := .null)

/-- The element types become numbers, which are no types any more. -/
def numbered (state : Table) : Result Table :=
  [DT, DDT, CDT].foldlM (fun t key =>
    match t.get? key with
    | some (.dataType d) => .ok (t.set key d.code)
    | some _ => .error .noField
    | none => .error (.missingKey key)) state

/-- The numbers stand in the problem type itself before those of the solutions do. -/
def create (schedule architecture devices : Value) (f : Findings) : Result Values := do
  let problem <- numbered f.problem.state
  let solutions <- (f.solutions ++ f.tileSolutions).mapM fun s => do
    return .dict ((PT, .dict (<- numbered (if s.shared then problem else s.problem.state))) :: s.state)
  return [.record [(MRV, Settings.version)], schedule, architecture, devices,
   .dict problem, .list solutions, f.indexOrder, .list (f.exact.map fun (k, v) => .list [.list k.items, v]), f.range,
   if !f.tileSolutions.isEmpty then .record [("TileSelectionIndices", f.tileIdxs)] else .null, f.metric]

end Logic

end TensorForge

namespace TensorForge.Stored

variable (file : Text)

def writeDoc (v : Value) : Act := Files.write file (Yaml.print { opens := true, closes := true } v)

def write (stem : Text) (v : Value) (format : Text) : Act :=
  match format with
  | "yaml" => writeDoc (stem ++ ".yaml") v
  | "msgpack" => Files.put (stem ++ ".dat") (.packed v)
  | _ => .fatal s!"Unrecognized format {format}"

def bytes : Gen Nats := do
  match <- Files.get file with
  | .text s | .zipped s => return s.toUTF8.toList.map (·.toNat)
  | .packed v => return Packed.encode v
  | .bundled _ => return []

end TensorForge.Stored

/-! ## Solution files -/

namespace TensorForge.SolutionFile

variable (sizes : Option ProblemSizes)

def head : Gen Text := do
  let start := s!"- MinimumRequiredVersion: {Settings.version}\n- ProblemSizes:\n"
  match sizes with
  | none => return start
  | some s =>
    let ranges := s.ranges.map fun r => s!"  - Range: {r.describe}\n"
    return start ++ .join (ranges ++ (<- s.exacts.mapM fun p => do return s!"  - Exact: {<- p.describe}\n"))

variable (solutions : Solutions)

def text : Gen Text := do
  return (<- head sizes) ++ Yaml.print {} (.list (solutions.map fun s => .dict (Logic.solutionFields s)))

def data : Gen Values := do
  return (<- .items (<- Yaml.read (<- head sizes))) ++ solutions.map fun s => .dict (Logic.solutionFields s)

def read (file : Text) : Gen (ProblemSizes × Solutions) := do
  let v <- Yaml.read (<- Files.read file)
  Logic.readSolutions (<- .items v) file

end TensorForge.SolutionFile
