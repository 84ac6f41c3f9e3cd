import TensorForge.Problem.Sizes
import TensorForge.Solution.Basic

/-! # Results of benchmarks -/

namespace TensorForge.Selection

open Gen Files

def number (s : Text) : Result Float := (Text.readFloat? s).getDM (throw .badValue)
def whole (s : Text) : Result Int := (Text.readInt? 10 s).getDM (throw .badValue)

def sumSizes (header : Texts) : Result Ints :=
  (header.drop 7).mapM fun s => do
    match s.splitOn "=" with
    | _ :: size :: _ => whole size
    | _ => throw .outOfRange

def rowTile (row : Texts) : Result Text := do
  return (<- item row 3) ++ .join ((<- [4, 5, 6].mapM (item row)).map ("_" ++ Text.trim ·))

def tile (state : Table) : Gen Text := do
  let rows <- fetch state MT0
  let columns <- fetch state MT1
  let split <- fetch state GSU
  let group <- match <- fetch state WG with
    | .dict es => fetchKey es 2
    | v => nth (<- items v) 2
  return "_".intercalate [rows.shown, columns.shown, group.shown, split.shown]

/-- Changes the first entry that is meant, or adds one. -/
def amend {α : Type} (meant : α -> Bool) (fresh : α) (change : α -> Result α) : List α -> Result (List α)
  | [] => .ok [fresh]
  | a :: rest => do
    if meant a then return (<- change a) :: rest
    return a :: (<- amend meant fresh change rest)

def keepLarger (t : Table) (key value : Value) : Result Table :=
  amend (·.1.same key) (key, value) (fun (k, old) => return (k, if <- old.less value then value else old)) t

structure Candidate where
  name : Text
  solution : Solution

/-- A speed of a solution with its tile, for a summation size. -/
structure Measurement where
  candidate : Candidate
  tile : Text
  size : Value
  speed : Float

def Measurement.key (m : Measurement) : Text := m.tile ++ "_" ++ m.size.shown

/-- By tile and summation size, and the best speeds of every solution. -/
structure Choice where
  fastest : List Measurement := []
  speeds : List (Candidate × Table) := []

namespace Choice

def add (c : Choice) (m : Measurement) : Result Choice := do
  let speed := .float m.speed
  let fastest <- amend (·.key == m.key) m (fun old => return if m.speed > old.speed then m else old) c.fastest
  let speeds <- amend (·.1.name == m.candidate.name) (m.candidate, [(m.size, speed)])
    (fun (s, best) => return (s, <- keepLarger best m.size speed)) c.speeds
  return { fastest, speeds }

/-- Fastest somewhere, with their best speeds. -/
def chosen (c : Choice) : List (Candidate × Table) :=
  (c.fastest.map (·.candidate)).eraseDupsBy (·.name == ·.name) |>.filterMap fun s =>
    (c.speeds.find? (·.1.name == s.name)).map fun e => (s, e.2)

end Choice

def select (ms : List Measurement) : Result (List (Candidate × Table)) := return (<- ms.foldlM Choice.add {}).chosen
def rowsOf (text : Text) : List Texts := Csv.parse (evenLines text)
def candidates (ss : Solutions) : Gen (List Candidate) := ss.mapM fun s => do return { name := <- s.name, solution := s }

def cells (first : Int) (count : Nat) (row : Texts) : Result (List Float) :=
  (Value.range first (first + count)).mapM fun i => do number (<- item row i)

def fileSpeeds (total first : Int) (file : Text) (ss : Solutions) : Gen (List Measurement) := do
  let tiles <- ss.mapM (tile ·.state)
  let text <- read file
  let columns := (<- candidates ss).zip tiles
  (rowsOf text).drop 1 |>.flatMapM fun row => do
    let size := Text.trim (<- item row total)
    return (columns.zip (<- cells first columns.length row)).map fun ((candidate, tile), speed) =>
      { candidate, tile, size, speed }

def readByCols (p : ProblemType) (files : List (Text × Solutions)) : Gen (List (Candidate × Table)) := do
  let total <- p.int TI
  let first := 1 + total + (<- p.int NILD) + 1
  select (<- files.flatMapM fun (file, ss) => fileSpeeds total first file ss)

/-- One row per solution and one column per summation size. -/
def readByRows (files : List (Text × Text × Solutions)) : Gen (List (Candidate × Table)) := do
  let ms <- files.flatMapM fun (file, src, ss) => do
    if ss.isEmpty then fatal s!"{src} doesn't contains any solutions."
    if !(<- isFile file) then fatal s!"Can't open \"{file}\" to get data"
    let cs <- candidates ss
    match rowsOf (<- read file) with
    | [] => return []
    | header :: rows =>
      sayLine "0"
      let sizes <- sumSizes header
      rows.zipIdx.flatMapM fun (row, i) => do
        if row.length <= 1 then return []
        let some candidate := cs[i]? | throw .outOfRange
        let tile <- rowTile row
        sizes.zipIdx.mapM fun (size, j) => do
          return { candidate, tile, size, speed := <- number (<- item row (7 + j)) : Measurement }
  select ms

end TensorForge.Selection

namespace TensorForge.Results

def numberOr (v : Value) : Gen Float := do
  match v with
  | .str s => return (Text.readFloat? s).getD (-1)
  | v => try Value.toFloat v catch _ => pure (-1)

def isBad (x : Float) : Bool := x <= 0 || x.isNaN || x.isInf

def compare (old new name : Value) : Gen Value := do
  if name.same " WinnerIdx" then return 0
  let x <- numberOr old
  let y <- numberOr new
  if isBad x then return if isBad y then 0 else 1
  if isBad y then throw .badValue
  return .float ((x - y) / x).abs

def sideBySide : Texts -> Texts -> List (Value × Value)
  | [], [] => []
  | x :: xs, [] => (.str x, .null) :: sideBySide xs []
  | [], y :: ys => (.null, y) :: sideBySide [] ys
  | x :: xs, y :: ys => (.str x, y) :: sideBySide xs ys

def cmpRows (old new header : Texts) : Gen Texts := do
  let cells := sideBySide old new
  (List.range (max cells.length header.length)).mapM fun i => do
    let (x, y) := cells.getD i (.null, .null)
    return (<- compare x y (header[i]?.elim .null .str)).shown

structure Reading where
  rows : Nat := 0
  speeds : List Values := []
  comparison : List Texts := []
  fault : Option Fault := none

def speedsOf (row : Texts) (start count : Nat) : Result Values :=
  ((row.drop start).take count).mapM (.float <$> Selection.number ·)

def readRows (file : Text) (start count : Nat) (header : Texts) : Reading -> List (Texts × Option Texts) -> Gen Reading
  | r, [] => return r
  | r, (row, new) :: rest => do
    let r := { r with rows := r.rows + 1 }
    if row.length < start + count then
      .warn s!"CSV File {file} row {r.rows} doesn't have {start + count} elements; ignoring remainer of file."
      return r
    try
      let r := { r with comparison := r.comparison ++ (<- new.toList.mapM (cmpRows row · header)) }
      match speedsOf row start count with
      | .ok xs => readRows file start count header { r with speeds := r.speeds ++ [xs] } rest
      | .error e => return { r with fault := some e }
    catch e => return { r with fault := some e }

def grouped : (sizes : Nats) -> List Values -> List (List Values)
  | [], _ => []
  | n :: ns, speeds => speeds.take n :: grouped ns (speeds.drop n)

def columns (count : Nat) (rows : List Values) : List Values := (List.range count).map fun i => rows.filterMap (·[i]?)

/-- Group by group; `start` is the first column with speeds. With a file of another client, the two are compared in a
further file. -/
def read (file : Text) (start : Nat) (groups : Nats) (tiles : Bool) (newFile : Option Text) :
    Gen (List (List Values)) := do
  .sayAt 1 "# Get Results from CSV"
  if !(<- Files.isFile file) then .fatal s!"Can't open \"{file}\" to get results"
  let rows := Csv.parse (Files.evenLines (<- Files.read file))
  let paired <- match newFile with
    | none => pure (rows.map fun r => (r, none))
    | some f => do
      pure ((rows.zip (Csv.parse (Files.evenLines (<- Files.read f)))).map fun (r, n) => (r, some n))
  let count := groups.foldl (· + ·) 0
  let reading <- match paired with
    | [] => pure {}
    | (header, new) :: rest =>
      readRows file start count header { rows := 1, comparison := new.elim [] ([header, ·]) } rest
  if let some f := newFile then
    Files.write (f ++ "-diff.csv") (.join (reading.comparison.map (Csv.row · ++ "\r\n")))
  if let some e := reading.fault then throw e
  if reading.rows < 2 && !tiles then
    .fatal (s!"CSV File {file} only has {reading.rows} row(s); prior benchmark must not have run long " ++
      "enough to produce data.")
  return grouped groups (columns count reading.speeds)

end TensorForge.Results
