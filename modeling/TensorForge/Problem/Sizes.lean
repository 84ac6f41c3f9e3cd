import TensorForge.Problem.Type

/-!
# Problems and lists of problems

A range of sizes has one entry for every index.
-/

namespace TensorForge

open Gen Value

structure Progression where
  (min stride growth max : Int)
  deriving DecidableEq

/-- A size of a progression and the stride to the next. -/
structure Wheel where
  progression : Progression
  (size stride : Int)
  deriving DecidableEq

namespace Wheel

def start (p : Progression) : Wheel := ⟨p, p.min, p.stride⟩
def advance (w : Wheel) : Wheel := { w with size := w.size + w.stride, stride := w.stride + w.progression.growth }

def sizes : Nat -> Wheel -> Ints
  | 0, _ => []
  | fuel + 1, w => opt (w.size <= w.progression.max) (w.size :: w.advance.sizes fuel)

/-- Advances the first wheel if `carry` is set. A wheel past its maximum starts again and advances the next one; the
last carry says that all sizes have been seen. -/
def turn (carry : Bool) : List Wheel -> List Wheel × Bool
  | [] => ([], carry)
  | w :: ws =>
    let w := if carry then w.advance else w
    if w.size > w.progression.max then
      let (rest, done) := turn true ws
      (start w.progression :: rest, done)
    else
      let (rest, done) := turn false ws
      (w :: rest, done)

end Wheel

namespace Progression

variable (p : Progression)

/-- At least the number of sizes, if they are finitely many: they fall while the stride is negative and then rise by
one at least. -/
def bound : Nat := (p.max - p.min).toNat + 2 * p.stride.natAbs + 4
def values : Ints := (Wheel.start p).sizes p.bound
def toList : Ints := [p.min, p.stride, p.growth, p.max]

end Progression

inductive RangeEntry where
  | sized (p : Progression)
  | mapped (index : Int)
  deriving DecidableEq

def pos? (length : Nat) (i : Int) : Option Nat :=
  let j := if i < 0 then i + length else i
  if j < 0 || j >= length then none else some j.toNat

def item {α : Type} (xs : List α) (i : Int) : Result α := ((pos? xs.length i).bind (xs[·]?)).getDM (throw .outOfRange)

namespace RangeEntry

variable (es : List RangeEntry)

def progressions : List Progression :=
  es.filterMap fun
    | .sized p => some p
    | .mapped _ => none

def targets : Ints :=
  es.filterMap fun
    | .sized _ => none
    | .mapped i => some i

/-- A mapped entry takes the maximum of the sized entry before it that its number counts to. -/
def maxima (before : List Progression) : List RangeEntry -> Option Ints
  | [] => some []
  | .sized p :: es => (maxima (before ++ [p]) es).map (p.max :: ·)
  | .mapped i :: es => return (<- before[<- pos? before.length i]?).max :: (<- maxima before es)

def count : RangeEntry -> Nat
  | .sized p => p.values.length
  | .mapped _ => 1

def fill (sizes : Ints) (i : Nat) : List RangeEntry -> List Wheel -> Option Ints
  | [], _ => some sizes
  | .sized _ :: es, w :: ws => fill (sizes.set i w.size) (i + 1) es ws
  | .sized _ :: _, [] => none
  | .mapped t :: es, ws => do fill (sizes.set i (<- sizes[<- pos? sizes.length t]?)) (i + 1) es ws

def enumerate (es : List RangeEntry) : Nat -> Ints -> List Wheel -> Option (List Ints)
  | 0, _, _ => some []
  | fuel + 1, sizes, wheels => do
    let sizes <- fill sizes 0 es wheels
    let (wheels, done) := Wheel.turn true wheels
    if done then return [sizes]
    return sizes :: (<- enumerate es fuel sizes wheels)

def bound : Nat := (progressions es).foldl (fun n p => n * .max 1 p.values.length) 1

def problems : Option (List Ints) :=
  match progressions es with
  | [] => none
  | ps => enumerate es (bound es) (.replicate es.length 0) (ps.map .start)

def describe : RangeEntry -> Text
  | .sized p => s!"[ {p.min}, {p.stride}, {p.growth}, {p.max} ]"
  | .mapped i => toString i

end RangeEntry

structure SizeRange where
  entries : List RangeEntry
  maxima : Ints
  maxElems : Ints
  problems : List Ints

namespace SizeRange

variable (r : SizeRange)

def counts : Nats := r.entries.map RangeEntry.count
def total : Nat := r.counts.foldl (· * ·) 1
def describe : Text := "[ " ++ listing (r.entries.map RangeEntry.describe) ++ " ]"

def elems (maxima indices : Ints) : Option Int :=
  indices.foldlM (fun n i => return n * (<- maxima[<- pos? maxima.length i]?)) 1

def ofEntries (es : List RangeEntry) (c a b : Ints) : Option SizeRange := do
  let maxima <- RangeEntry.maxima [] es
  let maxElems <- [c, a, b].mapM (elems maxima)
  return { entries := es, maxima, maxElems, problems := <- RangeEntry.problems es }

/-- Other kinds than lists and numbers are passed over. -/
def readEntry (i : Nat) (v : Value) : Gen (Option RangeEntry) :=
  match v with
  | .list [a] => return some (.sized ⟨<- int a, 1, 0, <- int a⟩)
  | .list [a, b] => return some (.sized ⟨<- int a, <- int a, 0, <- int b⟩)
  | .list [a, b, c] => return some (.sized ⟨<- int a, <- int b, 0, <- int c⟩)
  | .list [a, b, c, d] => return some (.sized ⟨<- int a, <- int b, <- int c, <- int d⟩)
  | .list xs => fatal s!"dimension[{i}] config ({v.shown}) has {xs.length} descriptors rather than 1-4."
  | .int n => pure (some (.mapped n))
  | .bool b => pure (some (.mapped (if b then 1 else 0)))
  | _ => pure none

variable (p : ProblemType)

def expected : Gen (Int × Nat) := do
  let some maxA := IdxRoles.maximum? (<- p.ints IAA) | throw .badValue
  return (1 + maxA, (1 + maxA + (<- p.int NILD)).toNat)

/-- Missing entries map to the first index, missing leading dimensions are 0. -/
def complete (config : Value) : Gen Values := do
  let (own, total) <- expected p
  let given <- items config
  return given ++ (List.range (total - given.length)).map fun i =>
    if (given.length + i : Nat) < own then .int 0 else .list [.int 0]

def read (config : Value) : Gen SizeRange := do
  let a <- p.ints IAA
  let (_, total) <- expected p
  let entries <- ((<- complete p config).take total).zipIdx.mapM fun (v, i) => readEntry i v
  let c := range 0 (<- p.int NIC)
  ((entries.mapM id).bind (ofEntries · c a (<- p.ints IAB))).getDM (throw .outOfRange)

end SizeRange

/-! ## Problems -/

inductive ProblemOrigin where
  | range
  | exactList
  | exactTable
  /-- The filled-in configuration and the entries it was given by. -/
  | convolution (config : Conv.Config) (input : Table)

/-- `null` where nothing is fixed. -/
structure Problem where
  origin : ProblemOrigin := .range
  (sizes stridesA stridesB stridesC stridesD zeroPadA zeroPadB count : Value := .null)

namespace Problem

variable (p : Problem)

def sizeList : Gen Ints := do (<- items p.sizes).mapM int

def describe : Gen Text := do
  let list := fun v => return (list (<- items v)).shown
  match p.origin with
  | .exactList => list p.sizes
  | _ =>
    let mut s := "\x7b sizes:" ++ (<- list p.sizes)
    for (name, v) in [("A", p.stridesA), ("B", p.stridesB), ("C", p.stridesC), ("D", p.stridesD)] do
      if v.truthy then s := s ++ s!", strides{name}:" ++ (<- list v)
    return s ++ " \x7d"

/-- What leading dimensions need of a problem type. -/
structure LeadIdxs where
  numC : Int
  (leading assignA assignB : Ints)

def fixedStride? (strides : Option Ints) : Result (Option Int) := return (<- strides.mapM (item · 1)).filter (· != -1)
def leadDim (fixed : Option Int) (x y : Result Int) : Result Int := fixed.getDM do return max (<- x) (<- y)

/-- A fixed stride is taken as it is, otherwise a leading dimension is at least the first size of its tensor. -/
def convertLeadDims (t : LeadIdxs) (sizes : Ints) (strideA strideB strideC strideD : Option Ints) : Result Ints := do
  let fixedD <- fixedStride? strideD
  let fixedC <- fixedStride? strideC
  let fixedA <- fixedStride? strideA
  let fixedB <- fixedStride? strideB
  let end_ := t.numC + 1
  let head := if end_ < 0 then sizes.take (sizes.length - end_.natAbs) else sizes.take end_.toNat
  let first := item sizes 0
  let old := fun k => do item sizes (<- item t.leading k)
  let size := fun assign => do item sizes (<- item assign 0)
  let d <- leadDim fixedD first (old 0)
  let c <- leadDim fixedC first (old 1)
  return head ++ [d, c, <- leadDim fixedA (old 2) (size t.assignA), <- leadDim fixedB (old 3) (size t.assignB)]

def leadIdxs (state : Table) : Gen LeadIdxs := do
  let ints := fun key => do (<- items (<- fetch state key)).mapM int
  return { numC := <- int (<- fetch state NIC),
           leading := <- ints IALD, assignA := <- ints IAA,
           assignB := <- ints IAB }

def readStrides (v : Value) : Gen (Option Ints) := do
  if v.isNull then return none
  return some (<- (<- items v).mapM int)

def ofList (xs : Values) (p : ProblemType) : Gen Problem := do
  let total <- p.int TI
  let leading <- p.int NILD
  let convert := fun xs => do
    let ns <- xs.mapM int
    let t <- leadIdxs p.state
    return (<- convertLeadDims t ns none none none none).map .int
  let sizes <- if xs.length == total then do
      if xs.any (· == .int (-1)) then fatal s!"ExactSize {(Value.list xs).shown} contains -1"
      if <- p.isGemm then convert (xs ++ .replicate 4 (.int (-1))) else pure xs
    else if xs.length == total + leading then convert xs
    else
      fatal (s!"ExactSize {(Value.list xs).shown} doesn't match indices of ProblemType " ++
        s!"{<- p.name}, totalIndices={total}")
  return { origin := .exactList, sizes := if sizes.isEmpty then .null else .tuple sizes,
           zeroPadA := <- p.fetch "ZeroPadA", zeroPadB := <- p.fetch "ZeroPadB" }

def tableFields : Texts :=
  Text.words "count sizes stridesA stridesB stridesC stridesD padStartA padEndA padStartB padEndB"

def fillPads (config : Table) (pads : List Values) (name : Text) (field : Nat) : Gen (List Values) := do
  let some given := config.get? name | return pads
  let xs <- match given with
    | .int _ | .bool _ | .null | .float _ => throw .wrongKind
    | v => items v
  let shownPads := (list (pads.map list)).shown
  if xs.length != pads.length then
    throw (.failure (s!"problem-specified {name}=={given.shown} does not match length of " ++
      s!"problem-type pad=={shownPads}."))
  (pads.zip xs).mapM fun (zp, x) => do
    let old <- nth zp field
    if !(old == .int (-1) || old == x) then
      throw (.failure s!"problem-specified {name}=={<- int x} does not match problem-type=={<- int old}.")
    return zp.set field x

def readPads (state config : Table) (tensor : Text) : Gen (List Values) := do
  let zps <- (<- items (<- fetch state s!"ZeroPad{tensor}")).mapM items
  fillPads config (<- fillPads config zps s!"padStart{tensor}" 2) s!"padEnd{tensor}" 3

def checkPads (pads : List Values) : Act := do
  for zp in pads do
    if (<- nth zp 2) == .int (-1) || (<- nth zp 3) == .int (-1) then
      let shown := (list (pads.map list)).shown
      throw (.failure (s!"padStart/padEnd for {shown} must be specified in problem-type or " ++
        "problem - can't be left -1/TBD"))

def checkCount (sizes : Value) (expected : Int) : Act := do
  let n <- sizes.len
  if n != expected then
    throw (.failure (s!"specified size={sizes.shown} does not have enough indices for problem " ++
      s!"(expected {expected}, got {n})"))

/-- `state` holds the entries of the problem type, if there is one. -/
def ofTable (config : Table) (state : Option Table) : Gen Problem := do
  for (k, _) in config do
    if !(tableFields.any (k == .str ·)) then
      throw (.failure s!"specified field '{k.shown}' is not a valid Exact dict field")
  let field := fun name => config.or name
  let p : Problem := { origin := .exactTable, sizes := field "sizes", stridesA := field "stridesA",
                       stridesB := field "stridesB", stridesC := field "stridesC",
                       stridesD := field "stridesD", count := field "count" }
  let some state := state.filter (!·.isEmpty) | return { p with zeroPadA := .list [], zeroPadB := .list [] }
  let gemm := (state.get? OT).any (same · "GEMM")
  let p <- if gemm then do
      let .list given := p.sizes | throw .wrongKind
      let ns <- (given ++ .replicate 4 (.int (-1))).mapM int
      let sizes <- convertLeadDims (<- leadIdxs state) ns
        (<- readStrides p.stridesA) (<- readStrides p.stridesB) (<- readStrides p.stridesC)
        (<- readStrides p.stridesD)
      pure { p with sizes := .tuple (sizes.map .int) }
    else pure p
  let padsA <- readPads state config "A"
  let padsB <- readPads state config "B"
  checkPads padsA
  checkPads padsB
  let p := { p with zeroPadA := .list (padsA.map .list), zeroPadB := .list (padsB.map .list) }
  let total <- int (<- fetch state TI)
  checkCount p.sizes (total + (<- if gemm then int (<- fetch state NILD) else pure 0))
  return p

def convFields : List (Text × Option Int) :=
  [("n", none), ("c", none), ("k", none)] ++
  (Text.words "d h w z y x # u v ^ l j $ p q $_ p_ q_").map (·, some (-1)) ++
  [("g", some 1), ("count", some (-1))]

def depthFields : Texts := ["d", "z", "#", "^", "$"]

def completeConv (input : Table) (skipped : Texts) : Gen Table := do
  for (k, _) in input do
    if !(convFields.any fun (f, _) => k == .str f) then
      throw (.failure s!"unknown ConvProblem field '{k.shown}'")
  let mut e := input
  for (k, d) in convFields do
    if !e.has k && !skipped.contains k then
      match d with
      | none => throw (.failure (s!"required ConvProblem field '{k}' not present in ConvProblem:" ++
          (dict e).shown))
      | some n => e := e.set k (.int n)
  return e

/-- `pads` are the zero paddings of the problem type. -/
def ofConv (config : Value) (c : Conv) (pads : Value) : Gen Problem := do
  let .dict input := config
    | throw (.failure "ConvProblem must be a dictionary, for example '\x7bn: 64, ...\x7d' not '[n: 64, ...]'")
  let skipped := opt (c.formatDims == 2) depthFields
  let e <- completeConv input skipped
  let fields := fun (names : Texts) => (names.filter (!skipped.contains ·)).mapM fun n => do int (<- fetch e n)
  let padStart <- fields ["q", "p", "$"]
  let padEnd := (padStart.zip (<- fields ["q_", "p_", "$_"])).map fun (s, e) => if e == -1 then s else e
  let cc : Conv.Config :=
    { filter := some (<- fields ["x", "y", "z"]), stride := some (<- fields ["v", "u", "#"]),
      dilation := some (<- fields ["j", "l", "^"]), spatial := some (<- fields ["w", "h", "d"]),
      padStart := some padStart, padEnd := some padEnd, groupCount := <- int (<- fetch e "g") }
  let (cc, fault) := cc.fillFrom c.config
  if let some f := fault then throw f
  if let some text := cc.openField? then throw (.failure text)
  let channels <- int (<- fetch e "c")
  let x <- c.extents (<- int (<- fetch e "n")) channels (<- int (<- fetch e "k")) cc
  let zps <- (<- items pads).mapM fun zp => do (<- items zp).mapM int
  let zps <- c.zeroPadsOf zps channels cc
  let tuple := fun (ns : Ints) => if ns.isEmpty then .null else .tuple (ns.map .int)
  return { origin := .convolution cc input, sizes := tuple x.sizes, stridesA := tuple x.stridesA,
           stridesB := tuple x.stridesB, zeroPadA := .list (zps.map .ints), count := <- fetch e "count" }

def toExact : Gen Table := do
  let zps <- (<- items p.zeroPadA).mapM items
  let starts <- zps.mapM (nth · 2)
  let ends <- zps.mapM (nth · 3)
  let base : Table := [("count", p.count), ("sizes", .list (<- items p.sizes)), ("stridesA", .list (<- items p.stridesA))]
  return if starts.isEmpty then base else base ++ [(.str "padStartA", .list starts), (.str "padEndA", .list ends)]

end Problem

structure ProblemSizes where
  ranges : List SizeRange := []
  exacts : List Problem := []
  minStrides : Ints := []
  problems : List Problem := []
  (maxD maxC maxA maxB : Int := 0)

namespace ProblemSizes

variable (p : ProblemType) (out : ProblemSizes) (s : ProblemSizes)

def readEntry (key value : Value) : Gen ProblemSizes := do
  match key with
  | .str "Range" => return { out with ranges := out.ranges ++ [<- SizeRange.read p value] }
  | .str "Exact" =>
    let e <- match value with
      | .list xs => Problem.ofList xs p
      | .dict t => Problem.ofTable t (some p.state)
      | v => fatal s!"Unsupported Exact type==<class '{v.kindName}'>"
    return { out with exacts := out.exacts ++ [e] }
  | .str "Conv" =>
    let some c := p.convolution | fatal "ConvProblem requires OperationType==Convolution*"
    return { out with exacts := out.exacts ++ [<- Problem.ofConv value c (<- p.fetch "ZeroPadA")] }
  | .str "MinStride" =>
    if (<- value.len) != (<- p.int TI) then
      fatal s!"MinStride {value.shown} doesn't match indices of ProblemType {<- p.name}"
    if !out.minStrides.isEmpty then
      let old := (tuple (out.minStrides.map int)).shown
      fatal ("Only one MinStride command is allowed in a ProblemsSizes definition.  " ++
        s!"Previous minStrides:{old}, New minstride:{value.shown}")
    return { out with minStrides := <- (<- items value).mapM int }
  | k => fatal s!"ProblemSize Type {k.shown} not supported"

/-- The leading dimension times the sizes of the other indices, none below the least stride. -/
def tensorSize (minStrides sizes : Ints) (leading first : Int) (others : Ints) : Result Int := do
  let start := max (<- item minStrides first) leading
  others.foldlM (fun n i => return n * max (<- item minStrides i) (<- item sizes i)) start

def measure : Gen ProblemSizes := do
  let gemm <- p.isGemm
  let t <- Problem.leadIdxs p.state
  let cOthers := range 1 t.numC
  let mut out := out
  for problem in out.problems do
    let sizes <- problem.sizeList
    let leading := fun (k : Nat) first => do if gemm then item sizes (<- item t.leading k) else item sizes first
    let firstA <- item t.assignA 0
    let firstB <- item t.assignB 0
    let size := fun k first others => .ofExcept do tensorSize out.minStrides sizes (<- leading k first) first others
    out := { out with
      maxD := max out.maxD (<- size 0 0 cOthers), maxC := max out.maxC (<- size 1 0 cOthers)
      maxA := max out.maxA (<- size 2 firstA (t.assignA.drop 1))
      maxB := max out.maxB (<- size 3 firstB (t.assignB.drop 1)) }
  return out

def sortProblems : List Problem -> Result (List Problem) := Sorting.stable fun p q => p.sizes.less q.sizes

def printConvolutions (ps : List Problem) : Act := do
  for p in ps do
    if let .convolution _ input := p.origin then
      let fields := (<- p.toExact).map fun (k, v) => s!"{k.shown}: {v.shown}"
      sayLine ((dict input).shown ++ " ->\n   " ++ listing fields)

/-- With all that may be left out: the last entries of a range, and the leading dimensions of exact sizes. -/
def completedEntry (key value : Value) : Gen Value := do
  match key, value with
  | .str "Range", v => return .list (<- SizeRange.complete p v)
  | .str "Exact", .list xs =>
    if (<- p.isGemm) && xs.length == (<- p.int TI) then
      return .list (xs ++ .replicate 4 (.int (-1)))
    return value
  | _, v => return v

def completed (config : Value) : Gen Value := do
  match config with
  | .list entries => return .list (<- entries.mapM fun e => do
      match e with
      | .dict es => return .dict (<- es.mapM fun (k, v) => return (k, <- completedEntry p k v))
      | v => return v)
  | v => return v

def read (config : Value) : Gen ProblemSizes := do
  let mut out := {}
  if config.truthy then
    for d in <- items config do
      match d with
      | .dict es => for (k, v) in es do out <- readEntry p out k v
      | v => for k in <- items v do
        if k.asStr?.any ["Range", "Exact", "Conv", "MinStride"].contains then throw .wrongKind
        out <- readEntry p out k .null
  if out.minStrides.isEmpty then out := { out with minStrides := .replicate (<- p.int TI).toNat 0 }
  if <- p.isGemm then
    let t <- Problem.leadIdxs p.state
    let ranges <- out.ranges.mapM fun r => do
      let problems <- r.problems.mapM fun s => Problem.convertLeadDims t s none none none none
      return { r with problems }
    out := { out with ranges }
  let pads <- p.fetch "ZeroPadA"
  let ranged := out.ranges.flatMap fun r => r.problems.map fun s =>
    ({ sizes := if s.isEmpty then .null else .tuple (s.map .int), zeroPadA := pads } : Problem)
  let problems := ranged ++ out.exacts
  let problems <- if <- flag "SortProblems" then sortProblems problems else pure problems
  out <- measure p { out with problems }
  if (<- settingInt "PrintConvolutionUsage") / 4 % 2 == 1 then printConvolutions out.problems
  return out

/-- Outputs in one buffer have the same leading dimension. -/
def checkOuts (p : ProblemType) (shared : Bool) : Act := do
  if shared && (<- p.isGemm) then
    let leading <- items (<- p.fetch IALD)
    for q in s.problems do
      let sizes <- items q.sizes
      let d <- nth sizes (<- int (<- nth leading 0))
      let c <- nth sizes (<- int (<- nth leading 1))
      if d != c then fatal s!"LDD({d.shown}) != LDC({c.shown}) causes unpredictable result when CEqualD(True)"

def describe : Text := "ProblemSizes\n" ++ .join (s.ranges.map ("  " ++ ·.describe))

end ProblemSizes

end TensorForge
