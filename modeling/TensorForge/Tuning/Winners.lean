import TensorForge.Solution.Basic

/-! # Winning parameters -/

namespace TensorForge

open Gen Progress Table Value

structure WinnerEntry where
  name : Text
  fixed : Table
  /-- A place; several combinations can have one. -/
  values : Nat
  score : Value

structure Winners where
  entries : List WinnerEntry := []
  values : Array Table := #[]

namespace Winners

variable (w : Winners) (t : Table)

def valuesOf (e : WinnerEntry) : Table := w.values.getD e.values []

def nameOf : Gen Text := do
  let problem <- match t.get? PT with
    | some (.dict es) => do pure (some (<- (<- ProblemType.ofConfig es).name))
    | some v => pure (some v.shown)
    | none => pure none
  Naming.full problem t

def agrees (lookUp fixed : Table) : Bool := fixed.all fun (k, v) => (lookUp.find? k).elim true (·.same v)

/-- A single entry fits everything. When a tile is looked up, the tile of an entry is derived, which needs a problem
type. -/
def matching (lookUp : Table) : Gen (List WinnerEntry) := do
  match w.entries with
  | [e] => return [e]
  | es => es.filterM fun e => do
    if !agrees lookUp e.fixed then return false
    if lookUp.has MT0 then
      let rows <- fetch lookUp MT0
      let columns <- fetch lookUp MT1
      let union := e.fixed.update (w.valuesOf e)
      if !union.on APIDP then throw (.missingKey PT)
      return rows.same (<- fetch union MT0) && columns.same (<- fetch union MT1)
    return true

def put (e : WinnerEntry) : Winners :=
  let rec go : List WinnerEntry -> List WinnerEntry
    | [] => [e]
    | f :: rest =>
      if f.name == e.name && (dict f.fixed).same (.dict e.fixed) then { e with fixed := f.fixed } :: rest
      else f :: go rest
  { w with entries := go w.entries }

def start (fixed : Table) : Gen Winners := do
  let e := { name := <- nameOf fixed, fixed, values := w.values.size, score := .int (-1) }
  return { w with values := w.values.push [] }.put e

def fastest (es : List WinnerEntry) : Gen (Option WinnerEntry) := do
  let (best, _) <- es.foldlM (fun (best, score) e => do
    if <- less score e.score then return (some e, e.score) else return (best, score))
    (none, .int (-1))
  return best

def chosen : List WinnerEntry -> Gen (Option WinnerEntry)
  | [e] => return some e
  | es => fastest es

/-- Those that fit earlier ones take over their values. -/
def moveTo (combos : Tables) : Gen Winners := do
  let empty := { values := w.values }
  if w.entries.isEmpty then combos.foldlM start empty
  else
    sayAt 1 "# Updating Solution Database"
    let found <- counted combos fun t => do return (t, <- w.matching t)
    found.foldlM (fun out (t, es) => do
      if es.isEmpty then return out
      match <- chosen es with
      | some e =>
        let fixed := t.update e.fixed
        return out.put { e with name := <- nameOf fixed, fixed }
      | none => out.start t) empty

/-- With what it takes over from the entry that it follows. -/
def completed : Gen Table := do
  if w.entries.isEmpty then return t
  return (<- chosen (<- w.matching t)).elim t (t.update ·.fixed)

def combos : Tables := w.entries.map (·.fixed)

def lookUp? : Gen (Option Table) := do
  match <- w.matching t with
  | [e] => return some (w.valuesOf e)
  | [] => return none
  | _ => fatal "Didn't find exactly 1 match"

def largest (xs : Values) : Gen (Option Value) := do
  match xs with
  | [] => return none
  | x :: rest => return some (<- rest.foldlM (fun best y => do
      if <- best.less y then return y else return best) x)

def bestResult (results : List Values) : Gen (Int × Value) :=
  results.zipIdx.foldlM (fun (place, score) (xs, i) => do
    match <- largest xs with
    | none => return (place, score)
    | some x => if <- score.less x then return (i, x) else return (place, score))
    (-1, .int (-9999))

def addResult (fixed : Option Table) (perms : Tables) (own : Solutions) (found : List Values) : Gen Winners := do
  if found.isEmpty then return w
  let some fixed := fixed | throw .outOfRange
  let (place, score) <- bestResult found
  let some s := own[(if place < 0 then place + own.length else place).toNat]? | throw .outOfRange
  let values <- (<- first perms).mapM fun (k, _) => do return (k, <- fetchKey s.state k)
  match <- w.matching fixed with
  | [e] => return { w with
      values := w.values.modify e.values (update · values)
      entries := w.entries.map fun f =>
        if f.name == e.name && (dict f.fixed).same (.dict e.fixed) then { f with score } else f }
  | _ => fatal "Didn't find exactly 1 match"

def addResults (combos perms : Tables) (solutions : List Solutions) (results : List (List Values)) : Gen Winners := do
  sayAt 1 "# Adding Results to Solution Database"
  let w <- results.zipIdx.foldlM (fun w (found, i) => do
    let w <- w.addResult combos[i]? perms (solutions.getD i []) found
    say (turn i)
    return w) w
  say turned
  return w

def describe : Gen Text := do
  let lines <- w.entries.zipIdx.mapM fun (e, i) => do
    let values <- nameOf (w.valuesOf e)
    let score <- toFloat e.score
    return "  " ++ Text.padLeft ' ' 2 (toString i) ++ s!": {e.name} -> {values} " ++
      Decimal.fixed 6 score ++ " GFlop/s\n"
  return .join lines

end Winners

/-- Grouped by the fixed parameters. Solutions that cannot work or that were met before are left out. -/
def forkedSolutions (p : ProblemType) (combos perms : Tables) (winners : Option Winners)
    (initial : Table) : Gen (List Solutions) := do
  sayAt 1 "# Enumerating Solutions"
  let step := fun (seen : Texts) fixed => do
    let mut seen := seen
    let mut out : Solutions := []
    for t in perms do
      let config := (update [(PT, .dict p.state)] t).update fixed
      let won <- winners.elim (pure (some [])) (·.lookUp? fixed)
      if let some won := won then
        let config := config.update won
        let config := initial.foldl (fun c (k, v) => if (find? c k).isSome then c else c ++ [(k, v)]) config
        let s <- Solution.ofConfig config
        if s.isValid then
          let name <- s.name
          if !seen.contains name then
            seen := name :: seen
            out := out ++ [s]
        else if <- flag PSRR then
          if (<- settingInt PL) >= 1 then sayLine s!"rejecting solution {<- s.name}"
    return (seen, out)
  let total := combos.length
  let (_, _, _, groups) <- combos.foldlM (fun (done, ticks, seen, groups) fixed => do
    let (seen, out) <- step seen fixed
    let now := ticksAt (done + 1) total
    if now > ticks then say (bar (done + 1) total)
    return (done + 1, max ticks now, seen, groups ++ [out])) (0, 0, [], [])
  return groups

end TensorForge
