import TensorForge.Session

/-!
# Boxes of indices and measured performance

Problems on a grid are named by one index per dimension. A grid numbers its points with the first dimension varying
fastest.
-/

namespace TensorForge

open Gen List

abbrev Box := List (Nat × Nat)

namespace Box

def ofExtents (extents : Nats) : Box := extents.map fun n => (0, n)

/-- Counts up the first index; one that gets to its end starts again, and the next one counts up. -/
def next : Box -> Nats -> Option Nats
  | (lo, hi) :: b, x :: point => if x + 1 < hi then some ((x + 1) :: point) else (next b point).map (lo :: ·)
  | _, _ => none

def pointsFrom (b : Box) : Nat -> Nats -> List Nats
  | 0, _ => []
  | fuel + 1, point => point :: (b.next point).elim [] (b.pointsFrom fuel)

/-- Of a box with at least one dimension. -/
def points (b : Box) : List Nats :=
  if b.any fun r => r.1 == r.2 then [] else b.pointsFrom (b.foldr (fun r n => (r.2 - r.1) * n) 1) (b.map (·.1))

def narrow (b : Box) (i : Nat) (lo hi : Nat) : Box := b.set i (lo, hi)
def describe (b : Box) : Text := "[" ++ listing (b.map fun (lo, hi) => s!"[{lo}, {hi}]") ++ "]"

end Box

def gridPosition : (extents point : Nats) -> Nat
  | n :: extents, i :: point => i + n * gridPosition extents point
  | _, _ => 0

/-- Of solution `s` at a point, when `count` values are kept per point. -/
def serialPosition (count : Nat) (extents : Nats) (s : Nat) (point : Nats) : Nat :=
  s + count * gridPosition extents point

/-!
## Rules that pick solutions

A tree has one level per dimension. The first rule whose threshold is not below the index decides; a negative
threshold always decides. Going through the indices of a dimension, a rule is extended as long as the same choice
stays right.
-/

/-- A solution, or thresholds with what holds up to them. -/
inductive RuleTree where
  | pick (solution : Nat)
  | split (rules : List (Int × RuleTree))

namespace RuleTree

mutual
def same : RuleTree -> RuleTree -> Bool
  | .pick s, .pick s' => s == s'
  | .split rules, .split rules' => sameRules rules rules'
  | _, _ => false

def sameRules : List (Int × RuleTree) -> List (Int × RuleTree) -> Bool
  | [], [] => true
  | (i, t) :: rest, (i', t') :: rest' => i == i' && same t t' && sameRules rest rest'
  | _, _ => false
end

instance : BEq RuleTree := ⟨same⟩

def depth : RuleTree -> Nat
  | .pick _ => 0
  | .split [] => 1
  | .split ((_, t) :: _) => t.depth + 1

mutual
def toValue : RuleTree -> Value
  | .pick s => .int s
  | .split rules => .list (rulesValue rules)

def rulesValue : List (Int × RuleTree) -> Values
  | [] => []
  | (t, r) :: rest => .list [t, r.toValue] :: rulesValue rest
end

mutual
def complexity (levels : Nat) (counts : Ints) : RuleTree -> Ints
  | .pick _ => counts
  | .split rules => rulesComplexity levels (levels - (split rules).depth) counts rules

def rulesComplexity (levels level : Nat) (counts : Ints) : List (Int × RuleTree) -> Ints
  | [] => counts
  | (_, t) :: rest => rulesComplexity levels level (complexity levels (counts.modify level (· + 1)) t) rest
end

def decide? (i : Nat) (rules : List (Int × RuleTree)) : Option RuleTree :=
  (rules.find? fun r => r.1 < 0 || (i : Int) <= r.1).map (·.2)

/-- `levels` levels, with indices in the order of the tree. An index that no rule covers is tried again at the same
place. -/
def walk : Nat -> Nats -> RuleTree -> Result RuleTree
  | 0, _, t => .ok t
  | levels + 1, is, t =>
    match is with
    | [] => .error .outOfRange
    | i :: rest =>
      match t with
      | .pick _ => .error .wrongKind
      | .split rules => match decide? i rules with
        | some next => walk levels rest next
        | none => walk levels is t

def lift : Nat -> RuleTree -> RuleTree
  | 0, t => t
  | n + 1, t => lift n (.split [(-1, t)])

mutual
/-- Turns thresholds that are indices into sizes; the last rule of a level has no threshold. What was changed before a
fault stays changed. -/
def prepare (sizes : Nat -> Result Ints) : RuleTree -> RuleTree × Option Fault
  | .pick s => (.pick s, none)
  | .split rules =>
    match sizes (split rules).depth with
    | .error e => (.split rules, some e)
    | .ok own =>
      let (rules, e) := prepareRules sizes own rules
      (.split rules, e)

def prepareRules (sizes : Nat -> Result Ints) (own : Ints) : List (Int × RuleTree) -> List (Int × RuleTree) × Option Fault
  | [] => ([], none)
  | [(_, t)] =>
    let (t, e) := prepare sizes t
    ([(-1, t)], e)
  | (i, t) :: next :: rest =>
    let j := if i < 0 then i + own.length else i
    let size := if j < 0 then none else own[j.toNat]?
    match size with
    | none => ((i, t) :: next :: rest, some .outOfRange)
    | some size =>
      let (t, e) := prepare sizes t
      match e with
      | some e => ((size, t) :: next :: rest, some e)
      | none =>
        let (others, e) := prepareRules sizes own (next :: rest)
        ((size, t) :: others, e)
end

def extend (rules : List (Int × RuleTree)) (i : Nat) (choice : Option RuleTree) : List (Int × RuleTree) :=
  match rules.getLast?, choice with
  | some (_, last), some t => if t == last then rules.dropLast ++ [((i : Int), last)] else rules ++ [((i : Int), t)]
  | some (_, last), none => rules.dropLast ++ [((i : Int), last)]
  | none, _ => rules

def firstChoice {ε : Type} (choice : Nat -> Except ε (Option RuleTree)) : Nats -> Except ε (Option RuleTree)
  | [] => .ok none
  | i :: rest => do
    match <- choice i with
    | some t => return some t
    | none => firstChoice choice rest

def level (choice : Nat -> Result (Option RuleTree)) (lo hi : Nat) : Result (Option RuleTree) := do
  match <- firstChoice choice (range' lo (hi - lo)) with
  | none => return none
  | some t =>
    let rules <- (range' (lo + 1) (hi - (lo + 1))).foldlM (fun rules i => do
      return extend rules i (<- choice i)) [(lo, t)]
    return some (.split rules)

/-- `winner` is the best solution over a box, and `order` the dimensions from the outermost level on; with more
dimensions than levels the tree cannot be completed. -/
def build (winner : Box -> Option Nat) (complete : Bool) : Nats -> Box -> Result (Option RuleTree)
  | [], _ => .error .outOfRange
  | i :: rest, b =>
    let below := fun b => if rest.isEmpty && complete then .ok ((winner b).map .pick) else build winner complete rest b
    match b[i]? with
    | none => .error .outOfRange
    | some (lo, hi) =>
      if hi - lo == 1 then return (<- below b).map fun t => .split [(-1, t)]
      else level (fun j => below (b.narrow i j (j + 1))) lo hi

end RuleTree

inductive RuleNote where
  | enter (tab : Text) (box : Box)
  | detail (text : Text)
  | sign (text : Text)
  | warning (text : Text)

namespace RuleNote

def print (level : Int) : RuleNote -> Act
  | .enter tab box => do
    if level == 1 then say ("\n" ++ tab)
    if level >= 2 then sayLine s!"{tab}enRule({box.describe})"
  | .detail s => if level >= 2 then sayLine s else pure ()
  | .sign s => if level == 1 then say s else pure ()
  | .warning s => warn s

def tab (order : Nats) (depth : Nat) (b : Box) : Text :=
  if depth == 0 then "[] "
  else if depth <= 4 then
    "[" ++ ",".intercalate ((order.take depth).map fun i =>
      Text.padLeft ' ' 2 (toString (b[i]?.map (·.1) |>.getD 0))) ++ "] "
  else ""

def shown : Option RuleTree -> Text
  | some t => t.toValue.shown
  | none => "None"

/-- While the rules of the dimensions `order.drop depth` are built. -/
def trace (winner : Box -> Option Nat) (complete : Bool) (order : Nats) :
    (depth : Nat) -> Nats -> Box -> List RuleNote
  | _, [], _ => []
  | depth, i :: rest, b =>
    let tab := tab order depth b
    let last := rest.isEmpty && complete
    let below := fun b => if last then .ok ((winner b).map .pick) else RuleTree.build winner complete rest b
    let inner := fun b => if last then [] else trace winner complete order (depth + 1) rest b
    let kind := if last then "LastIndex" else "NotLastIndex"
    let lost := if last then "winnerIdx<0" else "nextRule==None"
    let (lo, hi) := b[i]?.getD (0, 0)
    enter tab b :: if hi - lo == 1 then
      [.detail s!"{tab}SingleProblem & {kind}"] ++ inner b ++ (match below b with
      | .error _ => []
      | .ok none => [.detail s!"{tab}SingleProblem & {kind} :: {lost}; returning"]
      | .ok (some t) => [.sign "%", .detail s!"{tab}Returning RuleList: {(RuleTree.split [(-1, t)]).toValue.shown}"])
    else
      let choices := (range' lo (hi - lo)).map fun j => (j, below (b.narrow i j (j + 1)))
      let skipped := choices.takeWhile fun c => match c.2 with
        | .ok none => true
        | _ => false
      let first := choices.drop skipped.length
      let tried := (skipped ++ first.take 1).flatMap fun c => inner (b.narrow i c.1 (c.1 + 1))
      let entered := detail s!"{tab}MultiProblem & {kind}" :: tried
      match first with
      | [] =>
        let text := s!"{tab}MultiProblem & {kind} :: {lost}; returning"
        entered ++ [if last then .detail text else .warning text]
      | (_, .error _) :: _ => entered
      | (_, .ok none) :: _ => entered
      | (_, .ok (some t)) :: _ =>
        let start := [((lo : Int), t)]
        let (notes, rules) := (choices.drop 1).foldl (fun (notes, rules) c =>
          let box := b.narrow i c.1 (c.1 + 1)
          match c.2 with
          | .error _ => (notes ++ inner box, rules)
          | .ok choice =>
            let winnerText := match choice with
              | some (.pick s) => toString s
              | _ => "-1"
            let seen := .detail (if last then
                s!"{tab}MultiProblem::ImproveRule[{c.1}]::LastIndex::WinnerIdx={winnerText} for {box.describe}"
              else
                s!"{tab}MultiProblem::ImproveRule[{c.1}]::NotLastIndex::NextRule={shown choice} " ++
                s!"for {depth + 1}; {box.describe}")
            let next := RuleTree.extend rules c.1 choice
            let outcome :=
              if choice.isNone then
                [.detail (if last then s!"{tab}Updating range b/c None" else s!"{tab}Updating b/c None"), .sign " "]
              else if next.length == rules.length then
                [.detail s!"{tab}CandidateRule==PriorRule; just updating prior", .sign " "]
              else
                [.detail s!"{tab}CandidateRule!=PriorRule; appending rule assuming its better",
                 .detail s!"{tab}Appending b/c Different", .sign "#"]
            (notes ++ inner box ++ [seen] ++ outcome, next)) ([], start)
        entered ++ [.detail s!"{tab}MultiProblem::InitialRuleList={(RuleTree.split start).toValue.shown}", .sign "#",
          .detail s!"{tab}MultiProblem::Improving Rule"] ++ notes ++
          [.detail s!"{tab}Returning RuleList: {(RuleTree.split rules).toValue.shown}"]

end RuleNote

/-! ## Performance -/

open Decimal

structure ExactWinner where
  solution : Int
  speed : Float

/-- How times are reckoned from speeds. -/
class Clock (ρ : Type) (τ : outParam Type) where
  /-- Without a positive speed there is no end. -/
  time : Int -> ρ -> τ
  less : τ -> τ -> Bool

instance zeroFloat : Zero Float := ⟨0⟩

instance : Clock Float Float where
  time operations x := if x > 0 then ofInt operations / x / 1000 else 1.0 / 0.0
  less x y := x < y

/-- Speeds are measured as floating-point numbers. -/
structure Performance (σ : Type) (ρ : Type := Float) where
  solutions : List σ
  /-- Of every dimension of the grid, ascending. -/
  sizes : List Ints
  /-- By solution and then by the position on the grid. -/
  speeds : Array ρ
  /-- Of single sizes, in the order in which they were met. -/
  exact : List (Ints × ExactWinner) := []

namespace Performance

variable {σ ρ τ : Type}

def count (p : Performance σ ρ) : Nat := p.solutions.length
def extents (p : Performance σ ρ) : Nats := p.sizes.map (·.length)

variable (p : Performance σ) (perStep : Int) (point : Nats) (small : Float -> Result Bool)

def total : Nat := p.extents.foldl (· * ·) 1
def box (p : Performance σ ρ) : Box := .ofExtents p.extents
def points (p : Performance σ ρ) : List Nats := p.box.points
def serial (p : Performance σ ρ) (s : Nat) (point : Nats) : Nat := serialPosition p.count p.extents s point
def speed [Zero ρ] (p : Performance σ ρ) (s : Nat) (point : Nats) : ρ := p.speeds.getD (p.serial s point) 0

def setSpeed (s : Nat) (point : Nats) (x : Float) : Performance σ :=
  { p with speeds := p.speeds.setIfInBounds (p.serial s point) x.toFloat32.toFloat }

def speedsAt : List Float := (range p.count).map (p.speed · point)
def sizesAt (p : Performance σ ρ) (point : Nats) : Ints := p.sizes.zipWith (fun sizes i => sizes.getD i 0) point
def operations (p : Performance σ ρ) (perStep : Int) (point : Nats) : Int := (p.sizesAt point).foldl (· * ·) perStep

/-- The positions of exact winners are left as they are. -/
def restrict (kept : Nats) : Performance σ :=
  { p with
    solutions := kept.filterMap (p.solutions[·]?)
    speeds := ((range p.total).flatMap fun place =>
      kept.map fun s => p.speeds.getD (place * p.count + s) 0).toArray }

def remove (s : Int) : Performance σ :=
  { p.restrict ((range p.count).filter fun i => i != s) with exact := p.exact.map fun (size, w) =>
      (size, if w.solution >= s then { w with solution := w.solution - 1 } else w) }

/-- The last that has no speed at some point, taking the first of each point. -/
def invalid? : Option Nat := p.points.reverse.findSome? fun point => (p.speedsAt point).findIdx? (· == 0)

structure Shrinking (σ α : Type) where
  removed : List (α × Performance σ)
  left : Performance σ
  fault : Option Fault := none

def shrink {α : Type} (index : α -> Nat) (pick : Performance σ -> Result (Option α)) : Nat -> Performance σ -> Shrinking σ α
  | 0, p => { removed := [], left := p }
  | fuel + 1, p =>
    match pick p with
    | .error e => { removed := [], left := p, fault := some e }
    | .ok none => { removed := [], left := p }
    | .ok (some a) =>
      let rest := shrink index pick fuel (p.remove (index a))
      { rest with removed := (a, p) :: rest.removed }

def removeInvalid : Shrinking σ Nat := shrink id (.ok ·.invalid?) p.count p

structure Importance where
  solution : Nat
  saved : Float := 0
  wins : Nat := 0
  time : Float := 0
  singular : Bool := false

structure Podium where
  winner : Option Nat := none
  best : Float := -1.0e6
  second : Float := -1.0e9

def Podium.add (d : Podium) (s : Nat) (x : Float) : Podium :=
  if x > d.best then { winner := some s, best := x, second := d.best }
  else if x > d.second then { d with second := x }
  else d

def podium : Podium := (p.speedsAt point).zipIdx.foldl (fun d (x, s) => d.add s x) {}

/-- With the totals of saved time, running time and wins. -/
structure Importances where
  items : List Importance
  (saved time : Float := 0)
  wins : Nat := 0

def timeAt (operations : Int) (speed : Float) : Result Float :=
  if speed == 0 then .error .divisionByZero else .ok (ofInt operations / speed / 1000000.0)

def Importances.add (t : Importances) (operations : Int) (d : Podium) : Result Importances := do
  let best <- timeAt operations d.best
  let second <- timeAt operations d.second
  let some w := d.winner | return t
  let ahead := d.best > 0 && d.second > 0
  let won := d.best > 0
  let gain := second - best
  let items := t.items.modify w fun i =>
    { i with
      saved := if ahead then i.saved + gain else i.saved
      wins := if won then i.wins + 1 else i.wins
      time := if won then i.time + best else i.time
      singular := i.singular || won && d.second <= 0 }
  return {
    items
    saved := if ahead then t.saved + gain else t.saved
    time := if won then t.time + best else t.time
    wins := if won then t.wins + 1 else t.wins }

def importances : Result Importances :=
  p.points.foldlM (fun t point => t.add (p.operations perStep point) (p.podium point))
    { items := (range p.count).map fun s => { solution := s } }

def isExactWinner (s : Nat) : Bool := p.exact.any (·.2.solution == s)

structure Spare where
  solution : Nat
  saved : Float
  /-- None when nothing won. -/
  wins : Option Float
  /-- None when nothing took time. -/
  time : Option Float

def leastImportant : Result (Option Spare) := do
  let t <- p.importances perStep
  let saved := if t.saved > 1 then t.saved else 1
  let order := t.items.mergeSort fun a b => !(b.saved < a.saved)
  return (order.find? fun i => !i.singular && !p.isExactWinner i.solution).map fun i =>
    { solution := i.solution, saved := i.saved / saved,
      wins := if t.wins > 0 then some (.ofNat i.wins / .ofNat t.wins) else none,
      time := if t.time > 0 then some (i.time / t.time) else none }

/-- One that saves less than a share of the time or wins nowhere, if there are two at least. -/
def unimportant? : Result (Option Spare) := do
  if p.count <= 1 then return none
  match <- p.leastImportant perStep with
  | none => return none
  | some s =>
    if (<- small s.saved) || s.wins.getD 0 == 0 then return some s
    return none

def removeLeastImportant : Shrinking σ Spare :=
  shrink (·.solution) (·.unimportant? perStep small) p.count p

def bestAt : Int :=
  match (p.podium point).winner with
  | some s => s
  | none => -1

def winners : Ints := p.points.map p.bestAt ++ p.exact.map (·.2.solution)

/-- Among those kept; negative positions count from the end. -/
def newPosition (count : Nat) (kept : Nats) (s : Int) : Result Int :=
  let j := if s < 0 then s + count else s
  if j < 0 || j >= count then .error .outOfRange
  else .ok (match kept.findIdx? fun (k : Nat) => k == j with
    | some i => i
    | none => -1)

def renumber (position : Int -> Result Int) : List (Ints × ExactWinner) -> List (Ints × ExactWinner) × Option Fault
  | [] => ([], none)
  | (size, w) :: rest =>
    match position w.solution with
    | .error e => ((size, w) :: rest, some e)
    | .ok s =>
      let (others, e) := renumber position rest
      ((size, { w with solution := s }) :: others, e)

def retained (wanted : Ints) : Nats := (range p.count).filter fun i => wanted.contains i

def keep (wanted : Ints) : Performance σ × Option Fault :=
  let (exact, e) := renumber (newPosition p.count (p.retained wanted)) p.exact
  ({ p.restrict (p.retained wanted) with exact }, e)

def slowest : Float := 1.0e-9

/-- With its speed, where no speed is below `slowest`. -/
def clampedWinner : Int × Float :=
  (p.speedsAt point).zipIdx.foldl (fun (w, best) (x, s) =>
    let x := if x > slowest then x else slowest
    if x > best then (s, x) else (w, best)) (-1, -1.0)

def time [Zero ρ] [Clock ρ τ] (p : Performance σ ρ) (perStep : Int) (point : Nats) (s : Nat) : τ :=
  Clock.time (p.operations perStep point) (p.speed s point)

def totals [Zero τ] [Add τ] (time : Nats -> Nat -> τ) (count : Nat) (points : List Nats) : List τ :=
  points.foldl (fun sums point => sums.zipWith (· + ·) ((range count).map (time point)))
    (replicate count 0)

def least? (less : τ -> τ -> Bool) : List τ -> Option Nat
  | [] => none
  | first :: rest =>
    let (w, _, found) := rest.zipIdx.foldl (fun (w, best, found) (x, i) =>
      if less x best then (i + 1, x, true) else (w, best, found || less best x)) (0, first, false)
    if found then some w else none

section

variable [Zero ρ] [Clock ρ τ] [Zero τ] [Add τ] (p : Performance σ ρ) (perStep : Int)

def scores (b : Box) : List τ := totals (p.time perStep) p.count b.points

/-- The solution with the least time over a box, if one stands out. -/
def winner? (b : Box) : Option Nat :=
  if p.count == 1 then some 0 else least? (Clock.less ρ) (p.scores perStep b)

def rules (order : Nats) : Result (Option RuleTree) :=
  RuleTree.build (p.winner? perStep) (order.length == p.sizes.length) order p.box

end

def ordered (order : Nats) (point : Nats) : Result Nats :=
  order.mapM fun i => match point[i]? with
    | some j => .ok j
    | none => .error .outOfRange

def lookUp (p : Performance σ ρ) (order : Nats) (t : RuleTree) (point : Nats) : Result RuleTree := do
  t.walk p.sizes.length (<- ordered order point)

/-- When a tree of rules picks the solutions. -/
def score (perStep : Int) (order : Nats) (t : RuleTree) : Result Float := do
  p.points.foldlM (fun sum point => do
    match <- p.lookUp order (t.lift (p.sizes.length - t.depth)) point with
    | .split _ => throw .wrongKind
    | .pick s =>
      let place := p.serial 0 point + s
      if place >= p.speeds.size then throw .outOfRange
      let x := p.speeds.getD place 0
      return sum + ofInt (p.operations perStep point) / (if x > slowest then x else slowest) / 1000) 0

def prepare (p : Performance σ) (order : Nats) (t : RuleTree) : RuleTree × Option Fault :=
  t.prepare fun depth =>
    match order[p.sizes.length - depth]? with
    | some i => match p.sizes[i]? with
      | some sizes => .ok sizes
      | none => .error .outOfRange
    | none => .error .outOfRange

def recordExact (size : Ints) (solution : Int) (speed : Float) : Performance σ :=
  let rec put : List (Ints × ExactWinner) -> List (Ints × ExactWinner)
    | [] => [(size, ⟨solution, speed⟩)]
    | (k, w) :: rest =>
      if k == size then (k, if speed > w.speed then ⟨solution, speed⟩ else w) :: rest
      else (k, w) :: put rest
  { p with exact := put p.exact }

def exactTable : Table := p.exact.map fun (size, w) => (.tuple (size.map .int), .list [w.solution, .float w.speed])

end Performance

end TensorForge
