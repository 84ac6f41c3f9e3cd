import TensorForge.Yaml.Document

/-! # Splitting benchmark configurations -/

namespace TensorForge.Split

open Gen Table

def problemsKey : Text := BP

variable (config : Table)

def withProblems (problems : Value) : Table := config.set problemsKey problems

def byProblem : Gen Tables := do
  return (<- items (<- fetch config problemsKey)).map fun p => withProblems config (.list [p])

def onlyProblem : Gen Values := do
  let problems <- items (<- fetch config problemsKey)
  check (problems.length == 1) "Config file must have one BenchmarkProblems group"
  items (<- nth problems 0)

def isProblemType (v : Value) : Gen Bool := do
  match v with
  | .dict es => return has es OT
  | _ => throw .noField

def firstPlace (test : Value -> Gen Bool) : Values -> Nat -> Gen (Option Nat)
  | [], _ => return none
  | x :: xs, i => do if <- test x then return some i else firstPlace test xs (i + 1)

def byGroup : Gen Tables := do
  let parts <- onlyProblem config
  let some at' <- firstPlace isProblemType parts 0 | throw (.violated "Could not find problem type group")
  let problemType <- nth parts at'
  return (parts.eraseIdx at').map fun group => withProblems config (.list [.list [problemType, group]])

def lastPlaces : Values -> Nat -> Option Nat -> Option Nat -> Gen (Option Nat × Option Nat)
  | [], _, problem, group => return (problem, group)
  | .dict es :: more, i, problem, group =>
    if has es OT then lastPlaces more (i + 1) (some i) group
    else if has es BFP then lastPlaces more (i + 1) problem (some i)
    else lastPlaces more (i + 1) problem group
  | _ :: _, _, _, _ => throw .noField

def chunks (n : Int) (xs : Values) : List Values :=
  if n <= 0 then [] else
  let n := n.toNat
  (List.range ((xs.length + n - 1) / n)).map fun i => (xs.drop (i * n)).take n

def bySizes (count : Int) (config : Table) : Gen Tables := do
  let parts <- onlyProblem config
  let complaint := "Config file must have one ProblemType group and one Benchmark group"
  let (some problemAt, some groupAt) <- lastPlaces parts 0 none none | throw (.violated complaint)
  check (parts.length == 2) complaint
  let problemType <- nth parts problemAt
  let group <- table (<- nth parts groupAt)
  let final <- nth (<- items (<- fetch group BFP)) 0
  let emptySizes := "Benchmark group must have non-empty ProblemSizes"
  check (<- Value.isIn PS final) emptySizes
  let sizes <- fetch (<- table final) PS
  check ((<- sizes.len) != 0) emptySizes
  let sizes <- items sizes
  if count == 0 then throw .divisionByZero
  return (chunks count sizes).map fun run =>
    let group := group.set BFP (.list [.record [(PS, .list run)]])
    withProblems config (.list [.list [problemType, .dict group]])

def all (count : Int) (config : Table) : Gen Tables := do
  let groups := (<- (<- byProblem config).mapM byGroup).flatten
  return (<- groups.mapM (bySizes count)).flatten

/-- An optional zero, the width and an optional letter for decimals. -/
def fieldText (spec : Chars) (n : Nat) : Gen Text := do
  let body := match spec with
    | ':' :: cs => cs
    | cs => cs
  let body := if body.getLast? == some 'd' then body.dropLast else body
  if body.any fun c => !('0' <= c && c <= '9') then throw .badValue
  let width := body.foldl (fun w c => w * 10 + (c.toNat - '0'.toNat)) 0
  return .padLeft (if body.head? == some '0' then '0' else ' ') width (toString n)

/-- The field stands between braces; a brace that is text stands twice. -/
def fill (n : Nat) : Nat -> (used : Bool) -> Chars -> Gen Text
  | 0, _, _ => return ""
  | _, _, [] => return ""
  | fuel + 1, used, '\x7b' :: '\x7b' :: cs => return "\x7b" ++ (<- fill n fuel used cs)
  | fuel + 1, used, '\x7d' :: '\x7d' :: cs => return "\x7d" ++ (<- fill n fuel used cs)
  | fuel + 1, used, '\x7b' :: cs => do
    let spec := cs.takeWhile (· != '\x7d')
    if spec.length == cs.length then throw .badValue
    let (index, format) := (spec.takeWhile (· != ':'), spec.dropWhile (· != ':'))
    if index.isEmpty && used then throw .outOfRange
    if !index.isEmpty && index != ['0'] then
      throw (if index.all Char.isDigit then .outOfRange else .missingKey (String.ofList index))
    return (<- fieldText format n) ++ (<- fill n fuel true (cs.drop (spec.length + 1)))
  | _, _, '\x7d' :: _ => throw .badValue
  | fuel + 1, used, c :: cs => return c.toString ++ (<- fill n fuel used cs)

def partName (base sep format : Text) (n : Nat) : Gen Text := do
  let (root, ext) := Path.splitExt base
  let pattern := sep ++ format
  return root ++ (<- fill n (pattern.length + 1) false pattern.toList) ++ ext

def file (config out : Text) (count : Int) (name sep format : Text) : Act := do
  let name := if name == "" then Path.basename config else name
  let v <- Yaml.read (<- Files.read config)
  for (part, i) in (<- all count (<- table v)).zipIdx do
    Files.write (<- partName (out / name) sep format i) (Yaml.print { flow := .never } (.dict part))

end TensorForge.Split
