import TensorForge.Library.Contraction
import TensorForge.Solution.Basic

/-!
# Master libraries

A master library holds solutions by index and a tree that refers to them by index.
-/

namespace TensorForge

structure LibEntry where
  name : Value := .null
  contraction : Contraction
  condition : Cond
  sizeMap : Table
  debugKernel : Value := false
  info : Table
  index : Option Int := none
  (ideals linearModel : Value := .dict [])
  solution : Solution

namespace LibEntry

open Cond Gen

variable (p : ProblemType) (t : Table)

def sizeConds (x : Contraction) : Gen (List Cond) := do
  if x.typeA.isInt8x4 then return []
  let least (tensor : Text) := do
    if <- p.flag s!"TLU{tensor}" then fetch t s!"GlobalLoadVectorWidth{tensor}" else pure 1
  return [withValue .problem "LeadingFree0SizesGreaterOrEqual" (<- least "A"),
          withValue .problem "LeadingFree1SizesGreaterOrEqual" (<- least "B")]

def kernelConds : Gen (List Cond) := do
  let mut cs := []
  if (<- items (<- fetch t "PackedC0IndicesX")).length > 1 then cs := cs ++ [bare .problem "CDStridesEqual"]
  if let some v := t.get? KL then cs := cs ++ [withValue .problem "KernelLanguageCompatible" v]
  if let some v := t.get? GSU then
    if (<- int v) > 1 && t.or GA != MB then
      cs := cs ++ [withValue .problem "DeterministicMode" false]
  if t.on PK then cs := cs ++ [bare .problem "PersistentKernelCheck"]
  let matrix := t.on MI || match t.or EMI with
      | .bool b => b
      | _ => false
  return cs ++ [withValue .problem "ArithmeticUnitCompatible" (if matrix then "MFMA" else "VALU")]

def shiftOf (tensor multiple : Text) : Gen Value := do
  if <- p.flag s!"TLU{tensor}" then
    let width <- fetch t s!"GlobalLoadVectorWidth{tensor}"
    if <- Value.less (<- fetch t multiple) width then return width
  return 0

def bufConds : Gen (List Cond) := do
  let mut cs := []
  if t.or "BufferLoad" == true then
    let shiftA <- shiftOf p t "A" AF0EM
    let shiftB <- shiftOf p t "B" AF1EM
    let side1 <- if <- p.flag "TLUB" then fetch t DU else fetch t MT1
    let side0 <- if <- p.flag "TLUA" then fetch t DU else fetch t MT0
    cs := cs ++ [withValue .problem "BufferLoadOffsetLimitCheck"
      (.record [("ShiftPtrElemB", shiftB), ("ShiftPtrElemA", shiftA), ("DUorMT1", side1), ("DUorMT0", side0)])]
  if t.or "BufferStore" == true then
    cs := cs ++ [withValue .problem "BufferStoreOffsetLimitCheck" (<- fetch t MT1)]
  if !(t.or GA).isNull then
    let least := (<- settingInt "MinKForGSU") * (<- int (<- fetch t GSU))
    cs := cs ++ [withValue .problem "GlobalSplitUCheckMinK" least]
  return cs

def paramConds : Result (List Cond) :=
  t.filterMapM fun (k, v) => match k with
    | .str key => ofParam key v
    | _ => .error .noField

def condOf (x : Contraction) : Gen Cond := do
  let types <- x.conditions true true
  let sizes <- sizeConds p t x
  let kernel <- kernelConds t
  let bufs <- bufConds p t
  return all .problem ((<- paramConds t) ++ types ++ sizes ++ kernel ++ bufs)

def mapOf : Gen Table := do
  let way <- fetch t GA
  let accum := if way == "SingleBuffer" then 1 else if way == MB then 2 else 0
  let group <- fetch t WG
  let macroTile := .list [<- fetch t MT0, <- fetch t MT1, 1]
  let tile <- fetch t TT
  let mapping <- fetch t WGM
  let depth <- fetch t DU
  let split <- fetch t GSU
  let lang <- fetch t KL
  let space <- fetch t WSPEC
  return (Value.record [("workGroup", group), ("macroTile", macroTile), ("threadTile", tile), ("depthU", depth),
     ("staggerU", t.or SU 0), ("globalSplitU", split), ("staggerStrideShift", t.or "_staggerStrideShift" 0),
     ("workGroupMapping", mapping), ("packSummationDims", t.or PSD 0), ("packBatchDims", t.or PBD 0),
     ("magicDivAlg", t.or "MagicDivAlg" 1), ("persistentKernel", t.or PK 0), ("persistentKernelAlongBatch",
     t.or PKAB false), ("sourceKernel", lang == "Source"), ("globalAccumulation", accum), ("workspaceSizePerElemC",
     space)]).entries

/-- The parameters are derived once more, from what was derived before. -/
def ofSolution (s : Solution) : Gen LibEntry := do
  let t := s.state
  let x <- Contraction.ofState s.problem.state
  let condition <- condOf s.problem t x
  let info : Table := t.map fun (k, v) => (k, v.shown)
  let sizeMap <- mapOf t
  let index <- match t.get? SI with
    | none | some .null => pure none
    | some v => some <$> int v
  let solution <- Solution.ofConfig (t.set PT (.dict s.problem.state))
  return { name := t.or "SolutionNameMin", contraction := x, condition, sizeMap,
           debugKernel := t.or DK false, info, index, ideals := t.or "Ideals" (.dict []),
           linearModel := t.or "LinearModel" (.dict []), solution }

def toValue (e : LibEntry) (withInfo : Bool) : Result Value := do
  return .record ([("name", written e.name), ("problemType", <- e.contraction.toValue),
      ("hardwarePredicate", (always .hardware).toValue), ("problemPredicate", e.condition.toValue),
      ("sizeMapping", written (.dict e.sizeMap)), ("debugKernel", written e.debugKernel)] ++
     opt withInfo [("info", .dict e.info)] ++ [("index", match e.index with
        | some n => n
        | none => .null),
      ("ideals", written e.ideals), ("linearModel", written e.linearModel)])

end LibEntry

/-! ## Libraries -/

structure MatchingRow where
  key : Values
  solution : Int
  speed : Value

inductive Library where
  | single (solution : Int)
  | grain (indices exact : Values)
  | matching (props : List Cond) (rows : List MatchingRow) (distance : Text)
  | byOp (property : Cond) (parts : List (Text × Library))
  | byCond (tag : Text) (rows : List (Cond × Library))

instance : Inhabited Library := ⟨.single 0⟩

namespace Library

def sortRows (rows : List MatchingRow) : Result (List MatchingRow) :=
  Sorting.stable (fun a b => Value.lessItems a.key b.key) rows

abbrev Rows := List (Cond × Library)
def sortConds (rows : Rows) : Result Rows := Sorting.stable (fun a b => a.1.before b.1) rows

variable (numbers : List (Int × Int))

def renumbered (n : Int) : Int := ((numbers.find? (·.1 == n)).map (·.2)).getD n

def renumberedValue (v : Value) : Value :=
  v.asInt?.elim v fun n => (numbers.find? (·.1 == n)).elim v (.int ·.2)

section

variable {α : Type} (leaf : Library -> α) (byOp : Cond -> List (Text × α) -> α) (byCond : Text -> List (Cond × α) -> α)

mutual

/-- Computes from the results for the libraries inside. -/
def fold : Library -> α
  | .byOp property parts => byOp property (foldParts parts)
  | .byCond tag rows => byCond tag (foldRows rows)
  | l => leaf l

def foldParts : List (Text × Library) -> List (Text × α)
  | [] => []
  | (k, l) :: rest => (k, fold l) :: foldParts rest

def foldRows : Rows -> List (Cond × α)
  | [] => []
  | (c, l) :: rest => (c, fold l) :: foldRows rest

end

end

def renumber : Library -> Library :=
  fold (fun
    | .single n => .single (renumbered numbers n)
    | .grain indices exact => .grain (indices.map (renumberedValue numbers)) exact
    | .matching props rows distance =>
      .matching props (rows.map fun r => { r with solution := renumbered numbers r.solution }) distance
    | l => l) .byOp .byCond

def lastRow? (rows : Rows) (c : Cond) : Option Nat :=
  rows.zipIdx.foldl (fun acc (r, i) => if Cond.same r.1 c then some i else acc) none

def depth : Library -> Nat :=
  let deepest := fun (ns : Nats) => ns.foldl max 0 + 1
  fold (fun _ => 1) (fun _ parts => deepest (parts.map (·.2))) fun _ rows => deepest (rows.map (·.2))

/-- An entry that has a place leads to the merged library. -/
def mergeEntries {κ : Type} (merge : Library -> Library -> Result Library) (place : List (κ × Library) -> κ -> Option Nat) :
    List (κ × Library) -> List (κ × Library) -> Result (List (κ × Library)) :=
  List.foldlM fun es (k, l) => match place es k with
    | none => .ok (es ++ [(k, l)])
    | some i => match es[i]? with
      | some (k', l') => return es.set i (k', <- merge l' l)
      | none => .error .outOfRange

def merge (fuel : Nat) (a b : Library) : Result Library :=
  match fuel with
  | 0 => .error .tooDeep
  | fuel + 1 =>
    match a, b with
    | .single _, _ => .error .noField
    | .grain i e, .grain j f =>
      if e.isEmpty && f.isEmpty then .ok (.grain (i ++ j).eraseDups []) else .error .wrongKind
    | .matching p rows d, .matching q more d' =>
      if Cond.sameAll p q && d == d' then return .matching p (<- sortRows (rows ++ more)) d else .error .unmet
    | .byOp p parts, .byOp q more =>
      if Cond.same p q then return .byOp p (<- mergeEntries (merge fuel) (fun es k => es.findIdx? (·.1 == k)) parts more) else .error .unmet
    | .byCond tag rows, .byCond tag' more =>
      if tag == tag' then do
        -- the rows before the merge have the places
        return .byCond tag (<- sortConds (<- mergeEntries (merge fuel) (fun _ => lastRow? rows) rows more))
      else .error .unmet
    | _, _ => .error .unmet

def rowValue (r : MatchingRow) : Value :=
  .record [("key", .list (Cond.writtenItems r.key)),
    ("value", .record [("type", "Single"), ("index", r.solution)]), ("speed", Cond.written r.speed)]

def toValue : Library -> Value :=
  fold (fun
    | .single n => .record [("type", "Single"), ("index", n)]
    | .grain indices exact =>
      .record [("type", "GranularitySelection"), ("indices", .list (Cond.writtenItems indices)),
        ("exact", .list (Cond.writtenItems exact))]
    | .matching props rows distance =>
      .record [("type", "Matching"), ("properties", .list (Cond.toValues props)),
        ("table", .list (rows.map rowValue)), ("distance", distance)]
    | _ => .null)
    (fun property parts =>
      .record [("type", "ProblemMap"), ("property", property.toValue), ("map", .record parts)])
    fun tag rows => .record [("type", tag), ("rows", .list (rows.map fun (c, v) =>
      .record [("predicate", c.toValue), ("library", v)]))]

end Library

open Cond Gen
structure Master where
  solutions : List LibEntry
  lib : Library
  version : Option Value := none

namespace Master

variable (indices : List (Option Int))

def largest : Int := (indices.filterMap id).max?.getD (-1)

/-- For every solution without a number and every repetition. -/
def fixFrom (next : Int) (seen : Ints) : List (Option Int) -> Ints
  | [] => []
  | none :: rest => next :: fixFrom (next + 1) seen rest
  | some n :: rest =>
    if seen.contains n then next :: fixFrom (next + 1) seen rest else n :: fixFrom next (n :: seen) rest

/-- All different: the first solution with a number keeps it. -/
def fixIdxs : Ints := fixFrom (largest indices + 1) [] indices

variable (entries : List LibEntry)

def numbered : List LibEntry :=
  entries.zipWith (fun e n => { e with index := some n }) (fixIdxs (entries.map (·.index)))

def sizeProperty? (v : Value) : Option Cond :=
  let named (s : Text) := some (.mk .property s 0 (.value .null))
  if v == 2 then named "FreeSizeA" else if v == 3 then named "FreeSizeB"
  else if v == 1 then named "BoundSize"
  else none

def exactRow (row : Value) : Gen (Values × Value × Values) := do
  let parts <- items row
  let target <- items (<- nth parts 1)
  let index <- nth target 0
  return (<- items (<- nth parts 0), index, target)

/-- The index is a position in the list of solutions. -/
def matchingRow (order : Nats) (row : Value) : Gen MatchingRow := do
  let (sizes, index, target) <- exactRow row
  let n <- int index
  let position := if n < 0 then n + entries.length else n
  if position < 0 then throw .outOfRange
  let some e := entries[position.toNat]? | throw .outOfRange
  let key <- order.mapM fun (i : Nat) => nth sizes i
  return { key, solution := e.index.getD 0, speed := <- nth target 1 }

def matchingLeaf (indices exact : Value) (entries : List LibEntry) : Gen Library := do
  let indices <- items indices
  let order := (indices.zipIdx.filter fun (v, _) => (sizeProperty? v).isSome).map (·.2)
  let rows <- (<- items exact).mapM (matchingRow entries order)
  return .matching (indices.filterMap sizeProperty?) (<- Library.sortRows rows) "Euclidean"

def grainLeaf (selection exact : Value) : Gen Library := do
  let selected <- match selection with
    | .dict es => fetch es "TileSelectionIndices"
    | _ => throw .wrongKind
  let rows <- (<- items exact).mapM fun row => do
    let (sizes, index, _) <- exactRow row
    return .record [("key", .list (sizes.take 4)), ("value", index)]
  return .grain (<- items selected) rows

def hardwareCond (device : Value) : Gen Cond := do
  let (part, units) <- match device with
    | .dict es => do
      let t : Table := es
      let some part := t.get? "Architecture" | throw (.violated "Invalid device section [1]")
      let some units := t.get? "CUCount" | throw (.violated "Invalid device section [1]")
      pure (part, units)
    | v => pure (v, .null)
  if part == "fallback" then return always .hardware
  match Isa.read (<- str part) with
  | .found isa => return ofArch isa.name units
  | .absent => throw .wrongKind
  | .malformed => throw .badValue

structure Parts where
  (device indexOrder exact selection metric : Value)
  contraction : Contraction
  entries : List LibEntry

def addLayer (p : Parts) (inner : Option Library) (layer : Text) : Gen Library := do
  let wrapped f := inner.elim (throw .unbound) fun l => pure (f l)
  match layer with
  | "Matching" => matchingLeaf p.indexOrder p.exact p.entries
  | "Granularity" => grainLeaf p.selection p.exact
  | "Hardware" => do
    let c <- hardwareCond p.device
    wrapped fun l => .byCond "Hardware" [(c, l)]
  | "Predicates" => do
    let cs <- p.contraction.conditions false true
    wrapped fun l => .byCond "Problem" [(all .problem cs, l)]
  | "OperationIdentifier" => do
    let id <- p.contraction.ident
    wrapped fun l => .byOp (bare .property "OperationIdentifier") [(id, l)]
  | "PerformanceMetric" =>
    let c := if p.metric == DE then always .plain else .mk .plain p.metric .null (.value .null)
    wrapped fun l => .byCond "Problem" [(c, l)]
  | _ => throw .badValue

def usualOrder : Texts := ["Hardware", "OperationIdentifier", PM, "Predicates", "Matching"]

/-- A selection by granularity has another leaf. -/
def layerOrder (order : Texts) (selection : Value) : Result Texts :=
  if selection.truthy then
    if order.getLast? == some "Matching" then .ok (order.dropLast ++ ["Granularity"])
    else if order.isEmpty then .error .outOfRange
    else .error .unmet
  else .ok order

def ofLogic (data : Values) (solutions : Solutions) (order : Texts) : Gen Master := do
  let field (i : Nat) := nth data i
  let contraction <- Contraction.ofState (<- table (<- field 4))
  let selection := data.getD 9 .null
  let order <- layerOrder order selection
  let entries := numbered (<- solutions.mapM LibEntry.ofSolution)
  let parts :=
    { device := <- field 2, indexOrder := <- field 6, exact := <- field 7, selection,
      metric := data.getD 10 DE, contraction, entries }
  let lib <- order.reverse.foldlM (fun inner layer => some <$> addLayer parts inner layer) none
  lib.elim (throw .unbound) fun lib => pure { solutions := entries, lib }

def ofSolutions (solutions : Solutions) : Gen Master := do
  let entries := numbered (<- solutions.mapM LibEntry.ofSolution)
  let rows := entries.map fun e => (e.condition, .single (e.index.getD 0))
  return { solutions := entries, lib := .byCond "Problem" rows }

/-- By the parameters in which solutions differ unless others are given. -/
def named (m : Master) (naming : Option Naming.Required) : Gen Master := do
  let r <- naming.getDM (Naming.required (m.solutions.map (·.solution.kernelState)))
  let solutions <- m.solutions.mapM fun e => return { e with name := <- e.solution.kernelName r }
  return { m with solutions }

def numbersBehind (next : Int) (entries : List LibEntry) : List (Int × Int) :=
  entries.zipIdx.map fun (e, i) => (e.index.getD 0, next + i)

def merge (a b : Master) : Result Master := do
  if a.solutions.isEmpty then .error .badValue
  let next := largest (a.solutions.map (·.index)) + 1
  let more := b.solutions.zipIdx.map fun (e, i) => { e with index := some (next + i) }
  let lib <- Library.merge (a.lib.depth + 1) a.lib (b.lib.renumber (numbersBehind next b.solutions))
  return { a with solutions := a.solutions ++ more, lib }

/-- `withInfo` asks for the parameters of every solution. -/
def toValue (m : Master) (withInfo : Bool) : Result Value := do
  let solutions <- m.solutions.mapM (·.toValue withInfo)
  return .record ([("solutions", .list solutions), ("library", m.lib.toValue)] ++
    m.version.elim [] fun v => [("version", v)])

end Master

end TensorForge
