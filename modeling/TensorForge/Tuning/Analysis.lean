import TensorForge.Library.Logic
import TensorForge.Tuning.Performance
import TensorForge.Tuning.Results

/-! # Analysis of measurements -/

namespace TensorForge

open Decimal Files Gen HashOrder List Selection Text

def analysisDefaults : Table :=
  [("ScheduleName", "Tensile"), ("DeviceNames", "fallback"),
   ("ArchitectureName", "gfx000"), ("SolutionImportanceMin", .float 0.01)]

structure MeasuredGroup where
  sizes : ProblemSizes
  (dataFile solutionsFile selectionFile : Text)
  solutions : Solutions

structure Analyzer extends perf : Performance Solution where
  problem : ProblemType
  params : Table
  perStep : Int
  order : Nats
  groups : List Nats
  (exactSizes gridSizes : List Ints)
  metric : Option Text := none

namespace Analyzer

variable (a : Analyzer) (t : Option RuleTree) (speeds : List Float)

def names : Gen Texts := do
  a.solutions.mapM (·.nameMin (<- Solution.requiredNames a.solutions))

def tiles : Gen Texts :=
  a.solutions.mapM fun s => do
    let rows <- s.int MT0
    let columns <- s.int MT1
    return s!"{rows}x{columns}"

/-- Batches first, then the summation, then the two free indices. -/
def recommendedOrder (total : Nat) (first second unroll : Nat) : Nats :=
  ((range total).filter fun i => i != unroll && i != second && i != first) ++ [unroll, first, second]

def mergeSolutions (groups : List Solutions) : Gen (Solutions × List Nats) := do
  let entries := groups.zipIdx.flatMap fun (ss, g) => ss.map fun s => (g, s)
  let named <- entries.mapM fun (g, s) => return (g, <- s.name, s)
  let all := named.foldl (fun all (_, n, s) =>
    if all.any (·.1 == n) then all else all ++ [(n, s)]) []
  let _ <- Progress.counted entries fun _ => pure ()
  let maps := groups.zipIdx.map fun (_, g) => (named.filter (·.1 == g)).map fun (_, n, _) => all.findIdx (·.1 == n)
  return (all.map (·.2), maps)

def insertAll {α : Type} [BEq α] (xs ys : List α) : List α :=
  ys.foldl (fun xs y => if xs.contains y then xs else xs ++ [y]) xs

def rangeSizes (r : SizeRange) (i : Nat) : Result Ints :=
  match r.entries[i]? with
  | none => .error .outOfRange
  | some (.sized p) => .ok p.values
  | some (.mapped j) => return (<- item (RangeEntry.progressions r.entries) j).values

def sizeTable (count : Nat) (ranges : List SizeRange) : Result (List Ints) := do
  let unified <- (range count).mapM fun i => ranges.foldlM (fun sizes r => insertAll sizes <$> rangeSizes r i) []
  return unified.map fun s => s.mergeSort fun a b => a <= b

def sizesOf (q : Problem) : Gen Ints := do (<- items q.sizes).mapM int
def detail (s : Text) : Act := sayAt 2 s
def setText (xs : Texts) : Text := if xs.isEmpty then "set()" else "\x7b" ++ listing xs ++ "\x7d"
def sizeSet (xs : List Ints) : Text := setText ((listed ofInts xs).map fun s => (Value.tuple (s.map .int)).shown)
def places (ns : Nats) : Value := .ints (ns.map .ofNat)

def start (p : ProblemType) (groups : List MeasuredGroup) (params : Table) : Gen Analyzer := do
  let first <- p.int "Index0"
  let second <- p.int "Index1"
  let unroll <- p.int "IndexUnroll"
  sayAt 1 "# Merging Solutions:"
  let (solutions, maps) <- mergeSolutions (groups.map (·.solutions))
  let perStep := (<- p.dataType DT).flopsPerMac
  let total <- p.int TI
  let count := (total + (<- p.int NILD)).toNat
  let expand <- flag "ExpandRanges"
  let mut exact := []
  let mut grid := []
  for g in groups do
    exact := insertAll exact (<- g.sizes.exacts.mapM sizesOf)
    grid := insertAll grid (<- g.sizes.problems.mapM sizesOf)
    if expand then exact := insertAll exact (g.sizes.ranges.flatMap (·.problems))
  let sizes <- sizeTable count (opt (!expand) (groups.flatMap (·.sizes.ranges)))
  detail s!"UnifiedProblemSizes: {(Value.list (sizes.map Value.ints)).shown}"
  detail s!"ExactProblemSizes: {sizeSet exact}"
  detail s!"RangeProblemSizes: {sizeSet grid}"
  let perf : Performance Solution := { solutions, sizes, speeds := #[] }
  sayAt 1 s!"# NumProblemSizes: {(places perf.extents).shown}"
  let cells := perf.total * solutions.length
  detail s!"TotalProblems: {perf.total}"
  detail s!"TotalSolutions: {solutions.length}"
  detail s!"TotalSize: {cells}"
  let order := recommendedOrder total.toNat first.toNat second.toNat unroll.toNat
  detail s!"IndexOrder: {(places order).shown}"
  return { problem := p, params, perStep, order, groups := maps, exactSizes := exact, gridSizes := grid,
           perf := { perf with speeds := .replicate cells (-2) } }

def metricOf (unit file : Text) : Gen Text := do
  match unit with
  | "GFlops" => return DE
  | "GFlopsPerCU" => return "CUEfficiency"
  | _ =>
    warn s!"Performance unit {unit} in {file} is unrecognized: assuming GFlops (device efficiency)"
    return DE

def fastest : Int × Float :=
  speeds.zipIdx.foldl (fun (w, best) (x, i) => if x > best then (i, x) else (w, best)) (-1, -1)

def pointOf (sizes : List Ints) (size : Ints) : Result Nats :=
  (sizes.zip size).mapM fun (own, n) => (own.findIdx? (· == n)).getDM (.error (.missingKey n))

def lookUpSolution (group : Nats) (i : Int) : Result Nat :=
  (if i < 0 then none else group[i.toNat]?).getDM (.error (.missingKey i))

/-- A single size gets its fastest solution, and a size on the grid all of its speeds. -/
def addRow (file : Text) (hasWinner : Bool) (group : Nats) (width : Nat) (row : Texts) : Gen Analyzer := do
  let size <- (range a.sizes.length).mapM fun (i : Nat) => .ofExcept do whole (<- item row (1 + i))
  let start : Int := width - group.length
  let columns := (range group.length).map fun (i : Nat) => start + i
  let speeds := fun _ => columns.mapM fun i => do number (<- item row i)
  if a.exactSizes.contains size then
    let (winner, speed) <- .ofExcept do
      if hasWinner then
        let speed <- number (<- item row 10)
        return (<- whole (<- item row 12), speed)
      return fastest (<- speeds ())
    if winner == -1 then return a
    if a.exact.any fun e => e.1 == size && !(speed > e.2.speed) then return a
    return { a with perf := a.recordExact size (<- lookUpSolution group winner) speed }
  if a.gridSizes.contains size then
    let point <- pointOf a.sizes size
    return { a with perf := (group.zip (<- speeds ())).foldl (fun p (s, x) => p.setSpeed s point x) a.perf }
  fatal s!"Huh? {file} has ProblemSize {(Value.ints size).shown} which isn't in its yaml"

def addFile (file : Text) (group : Nats) : Gen Analyzer := do
  sayLine s!"reading datafile {file}"
  if !(<- isFile file) then fatal s!"Can't open \"{file}\" to get data"
  match rowsOf (<- read file) with
  | [] => return a
  | header :: rows =>
    let metric <- metricOf (<- item header 0) file
    let hasWinner := contains file "_CSVWinner"
    rows.foldlM (fun a row => a.addRow file hasWinner group header.length row) { a with metric := some metric }

def ofGroups (p : ProblemType) (groups : List MeasuredGroup) (params : Table) : Gen Analyzer := do
  let a <- start p groups params
  let a <- (groups.zip a.groups).foldlM (fun a (g, m) => a.addFile g.dataFile m) a
  sayAt 1 s!"# ExactWinners: {(Value.dict a.exactTable).shown}"
  return a

def stop (fault : Option Fault) : Act := fault.elim (pure ()) throw

structure Step where
  after : Analyzer
  fault : Option Fault := none

def removeInvalid : Gen Step := do
  let r := a.perf.removeInvalid
  for (i, p) in r.removed do
    let name := (<- { a with perf := p }.names).getD i ""
    sayAt 1 s!"# Removing Invalid Solution: {i} {name}"
  return { after := { a with perf := r.left }, fault := r.fault }

def percent (x : Option Float) : Text := fixed 6 (100 * x.getD 0)

def removeLeastImportant : Gen Step := do
  let least <- fetch a.params "SolutionImportanceMin"
  let r := a.perf.removeLeastImportant a.perStep fun x => (Value.float x).less least
  for (s, p) in r.removed do
    let name := (<- { a with perf := p }.names).getD s.solution ""
    sayAt 1 (s!"# Removing Unimportant Solution {s.solution}/{p.count}: {name} " ++
      s!"( {percent s.wins}% wins, {percent s.time}% ms time, {percent (some s.saved)}% ms saved")
  if r.fault.isNone then sayLine "removeLeastImportantSolutions elapsed time = 0.0 secs"
  return { after := { a with perf := r.left }, fault := r.fault }

def prune (kept : Ints) : Gen Step := do
  let (p, fault) := a.keep kept
  for (size, w) in p.exact do
    if w.solution == -1 then sayLine s!"('warning: exactWinner[', {(Value.tuple (size.map .int)).shown}, '] == -1')"
  return { after := { a with perf := p }, fault }

def keepWinners : Gen Step := do
  sayLine s!"problemIndicesForGlobalRange {(Value.list (a.points.map places)).shown}"
  let winners := a.winners
  sayLine s!"Winners {setText ((listed ofInt winners).map toString)}"
  a.prune winners

def rules : Gen (Option RuleTree) := do
  let p := a.perf
  let level <- settingInt PL
  let complete := a.order.length == p.sizes.length
  for n in RuleNote.trace (p.winner? a.perStep) complete a.order 0 a.order p.box do n.print level
  p.rules a.perStep a.order

def score : Gen (Option Float) := do
  if a.points.isEmpty then return none
  match t with
  | none =>
    for _ in a.points do warn "SolutionIdx = None. This should never happen."
    return none
  | some t => return some (<- a.perf.score a.perStep a.order t)

def complexity : Ints :=
  let levels := a.sizes.length
  t.elim (.replicate levels 0) (·.complexity levels (replicate levels 0))

def six (x : Float) : Text := fixed 6 x
def four (n : Int) : Text := padLeft ' ' 4 (toString n)

/-- The second best starts with a small speed. -/
def bestTwo : Result (Nat × Float × Nat × Float) :=
  match speeds with
  | [] => .error .outOfRange
  | first :: rest => .ok (rest.zipIdx.foldl (fun (w, best, s, second) (x, i) =>
      if x > best then (i + 1, x, w, best) else if x > second then (w, best, i + 1, x)
      else (w, best, s, second)) (0, first, 1, 1.0e-9))

def freeIdxs : Gen (Nat × Nat) := return ((<- a.problem.int "Index0").toNat, (<- a.problem.int "Index1").toNat)

def writeTables (fixed : Nats) : Act := do
  let (first, second) <- a.freeIdxs
  let rows := a.sizes.getD 0 []
  let columns := a.sizes.getD 1 []
  let others := (range a.sizes.length).filter fun i => i != first && i != second
  let pointAt := fun i j => (range a.sizes.length).map fun d =>
    if d == first then i else if d == second then j else ((others.zip fixed).lookup d).getD 0
  let found <- rows.zipIdx.mapM fun (_, i) => columns.zipIdx.mapM fun (_, j) => do
    let speeds := a.speedsAt (pointAt i j)
    let (w, best, s, other) <- bestTwo speeds
    if other == 0 then throw .divisionByZero
    return (speeds, w, best, s, other)
  let head := .join (columns.map ("," ++ four ·)) ++ "\n"
  let table := fun (title : Text) (cell : List Float × Nat × Float × Nat × Float -> Text) =>
    title ++ head ++ .join ((rows.zip found).map fun (n, cells) =>
      four n ++ .join (cells.map ("," ++ cell ·)) ++ "\n") ++ "\n\n"
  let winners := insertAll [] (found.flatten.map (·.2.1))
  let names <- a.names
  let tiles <- a.tiles
  let list := .join (winners.map fun (w : Nat) => four w ++ ", " ++ tiles.getD w "" ++ ", " ++ names.getD w "" ++ "\n")
  let text := table "winner" (fun (_, w, _) => four w) ++ "Winners:\n" ++ list ++
    table "gflops" (fun (_, _, best, _) => six best) ++
    table "faster" (fun (_, _, best, _, other) => six (best / other)) ++
    table "second" (fun (_, _, _, s, _) => four s) ++
    .join ((range a.count).map fun s => table s!"Sol[{s}]" fun (speeds, _) => six (speeds.getD s 0))
  write ((<- workPath) / ("Winner2D" ++ String.join (fixed.map fun i => s!"_{i}") ++ ".csv")) text

def writeAllTables : Act := do
  let (first, second) <- a.freeIdxs
  let extents := a.extents
  let others := extents.zipIdx.filterMap fun (n, i) => if i != first && i != second then some n else none
  let total := others.foldl (· * ·) 1
  for j in range total do
    -- The digits behind the first are fractions, which have no place in a table.
    if others.length > 1 && extents.getD 0 0 != 0 && extents.getD 1 0 != 0 then throw .wrongKind
    a.writeTables (others.foldl (fun (j, digits) n => (j / n, digits ++ [j % n])) (j, [])).2

/-- The solutions of the analyzer with their speeds, the further solutions, and the positions of both. -/
def selectTiles (groups : List MeasuredGroup) (r : Naming.Required) : Gen (Analyzer × Solutions × Ints) := do
  let chosen <- if (<- setting NC).same 2 then
      readByCols a.problem (groups.map fun g => (g.selectionFile, g.solutions))
    else readByRows (groups.map fun g => (g.selectionFile, g.solutionsFile, g.solutions))
  let names <- a.solutions.mapM (·.name)
  let (own, further) := chosen.partition fun (c, _) => names.contains c.name
  let solutions := (a.solutions.zip names).map fun (s, n) =>
    match own.find? fun (c, _) => c.name == n with
    | some (_, speeds) => { s with state := s.state.set "Ideals" (.dict speeds) }
    | none => s
  let more <- further.mapM fun (c, speeds) => do
    let name <- c.solution.nameMin r
    return { c.solution with state := (c.solution.state.set "SolutionNameMin" name).set "Ideals" (.dict speeds) }
  let ids := (own.map fun (c, _) => names.findIdx (· == c.name)) ++
    (range more.length).map fun i => ((solutions.length + i : Nat) : Int)
  return ({ a with solutions }, more, listed ofInt ids)

end Analyzer

def analyze (p : ProblemType) (groups : List MeasuredGroup) (params : Table) : Gen Logic.Findings := do
  let rule := "".pushn '#' 80
  sayAt 2 rule
  sayAt 1 s!"# Analyzing: {<- p.name}"
  let selects <- p.flag TAS
  let mut naming : Naming.Required := []
  for g in groups do
    let r <- Solution.requiredNames g.solutions
    naming := r
    sayAt 1 s!"# Read: {g.solutionsFile}"
    sayAt 2 s!"# ProblemSizes: {g.sizes.describe}"
    sayAt 2 "# Solutions:"
    for (s, i) in g.solutions.zipIdx do
      let name <- s.nameMin r
      sayAt 2 s!"#  ({i}) {name}"
    sayAt 2 rule
  let groups := groups.modifyHead fun g => { g with solutions := g.solutions.modifyHead ({ · with shared := true }) }
  let a <- Analyzer.ofGroups p groups params
  let s <- a.removeInvalid
  Analyzer.stop s.fault
  let alg <- setting "SolutionSelectionAlg"
  let s <- if alg.same 0 then s.after.removeLeastImportant
    else if alg.same 1 then s.after.keepWinners
    else fatal ("Bad KeepLogic=" ++ (<- setting "KeepLogic").shown)
  Analyzer.stop s.fault
  -- A removal leaves copies.
  let same := alg.same 0 && s.after.count == a.count
  let a := s.after
  if (<- settingInt PL) >= 2 then
    let columns := max 1 (a.extents.getD 1 0)
    let count := a.count
    let line := fun row => .join ((range columns).map fun c =>
      .join ((range count).map fun s =>
        let text := fixed 0 (a.speeds.getD (s + count * (c + row * columns)) 0)
        padLeft ' ' 5 (if text.startsWith "-" then text else " " ++ text)) ++ "; ") ++ "\n"
    sayLine ("After Removals:\n" ++ .join ((range (a.total / columns)).map line))
  let solutions <- a.solutions.zipIdx.mapM fun (s, i) => do
    let name <- s.nameMin naming
    let full <- s.name
    let place := padLeft ' ' 2 (toString i)
    sayAt 1 s!"({place}) {name} : {full}"
    return { s with state := (s.state.set SI (.int i)).set "SolutionNameMin" (.str name)
                    shared := s.shared && same }
  let a := { a with solutions }
  let (a, more, ids) <- if selects then do
      let (a, more, ids) <- a.selectTiles groups naming
      pure (a, more, .ints ids)
    else pure (a, [], .null)
  a.writeAllTables
  let tree <- a.rules
  let shown := fun t => t.elim .null (·.toValue)
  sayAt 2 "# Final Range Logic:"
  sayAt 2 (shown tree).shown
  sayAt 2 s!"# Range Logic Complexity: {(Value.ints (a.complexity tree)).shown}"
  let score <- a.score tree
  sayAt 1 s!"\n# Score: {fixed 0 (score.getD 0 / 1000)} ms"
  let prepared := tree.map (a.prepare a.order)
  Analyzer.stop (prepared.bind (·.2))
  let exact := a.exactTable
  sayAt 1 "# Exact Logic:\n"
  sayAt 1 (Value.dict exact).shown
  let some metric := a.metric | throw .noField
  return { problem := p, solutions := a.solutions, indexOrder := Analyzer.places a.order, exact,
           range := shown (prepared.map (·.1)), tileSolutions := more, tileIdxs := ids, metric := metric }

end TensorForge
