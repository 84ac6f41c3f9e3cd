import TensorForge.Problem.Sizes
import TensorForge.Solution.Naming

/-! # Plans of benchmarks -/

namespace TensorForge.Choices

open Gen Table

mutual
def mentions (name : Value) : Value -> Bool
  | .list xs => mentionsAny name xs
  | .dict es => es.any (·.1.same name)
  | v => name.same v

def mentionsAny (name : Value) : Values -> Bool
  | [] => false
  | v :: rest => mentions name v || mentionsAny name rest
end

mutual
def valuesOf (name : Value) : Value -> Gen (Option Value)
  | .list xs => firstValues name xs
  | .dict es => pure (find? es name)
  | v => fatal s!"structure {v.shown} is not list or dict"

def firstValues (name : Value) : Values -> Gen (Option Value)
  | [] => pure none
  | v :: rest => do
    match <- valuesOf name v with
    | some .null | none => firstValues name rest
    | some w => pure (some w)
end

def fork (bases updates : Tables) : Tables :=
  bases.flatMap fun base => updates.map (update (update [] base))

/-- Those that are not configured; sizes are always taken. -/
def missing (configured : Value) (defaults : Tables) : Tables :=
  defaults.flatMap fun t => t.filterMap fun (k, _) =>
    if !mentions k configured || k.same PS then some t else none

def valueAt (values : Value) (i : Nat) : Gen Value :=
  match values with
  | .dict es => fetchKey es (.int i)
  | v => do nth (<- items v) i

variable (choices : Tables)

def combos : Gen Nat := choices.foldlM (fun n t => t.foldlM (fun n (_, v) => return n * (<- v.len).toNat) n) 1

def combination (i : Nat) : Gen Table := do
  let (t, _) <- choices.foldlM (fun s t => t.foldlM (fun (out, i) (k, v) => do
    let n := (<- v.len).toNat
    return (put out k (<- valueAt v (i % n)), i / n)) s) ([], i)
  return t

def perms : Gen Tables := do (List.range (<- combos choices)).mapM (combination choices)

def settle (single : Table) (choices : Table) : Gen (Table × Table) :=
  choices.foldlM (fun (single, left) (k, v) => do
    if v.isNull then fatal s!"You must specify value for parameters \"{k.shown}\""
    if (<- v.len) < 2 && !k.same PS then return (put single k (<- valueAt v 0), left)
    return (single, left ++ [(k, v)])) (single, [])

/-- Choices that have one value; entries that become empty are dropped. -/
def settleAll (single : Table) (lists : List Tables) : Gen (Table × List Tables) :=
  lists.foldlM (fun (single, out) list => do
    let (single, left) <- list.foldlM (fun (single, left) t => do
      let (single, rest) <- settle single t
      return (single, if rest.isEmpty && !t.isEmpty then left else left ++ [rest])) (single, [])
    return (single, out ++ [left])) (single, [])

def common : Tables := Parameters.defaults.map fun (k, v) => [(.str k, .list [v])]

end TensorForge.Choices

namespace TensorForge

open Gen

structure BenchStep where
  position : Nat
  fixed : Tables
  choices : Table
  sizes : ProblemSizes

namespace BenchStep

variable (s : BenchStep)

def isFinal : Bool := s.choices.isEmpty
def number : Text := .zeroPadded 2 s.position

def named (f : Text -> Text) : Text :=
  s.number ++ if s.isFinal then "_Final" else .join (s.choices.map fun (k, _) => "_" ++ f k.shown)

def describe : Text := s.named id
def abbreviation : Text := s.named Naming.abbreviateName

end BenchStep

structure BenchPlan where
  problem : ProblemType
  /-- Values for everything that is not chosen. -/
  initial : Table
  (common fork benchFork benchJoin : Tables := [])
  (join final : Values := [])
  fixed : Tables := [[]]
  single : Table := []
  sumSizes : Value := .ints Parameters.sumSizes
  /-- Stand-in sizes, if the configuration gives none. -/
  (usualCommon usualFinal : Option Value := none)
  (forkInherits joinInherits : Bool := true)
  steps : List BenchStep := []

namespace BenchPlan

def squares (side : Ints) (batched : Bool) : Value :=
  .list [.record [("Range", .list ([.ints side, 0] ++ if batched then [.ints [1], 0] else [0]))]]

def usualSizes : Bool -> Value := squares [2880]
def usualFinalSizes : Bool -> Value := squares [64, 64, 64, 512]

variable (sizes : Value)

def standIn : Gen Value := return (((<- get).completedSizes.find? (·.1.same sizes)).map (·.2)).getD sizes

def keepStandIn (sizes completed : Value) : Act :=
  modify fun st => { st with
    completedSizes := (sizes, completed) :: st.completedSizes.filter fun e => !e.1.same sizes }

def sizesOnly : Table := [(PS, sizes)]
def detail (s : Text) : Act := sayAt 2 s
def rule : Text := "".pushn '#' 68

def announce (title : Text) : Act := do
  detail ("\n" ++ rule)
  sayAt 1 ("# " ++ title)

def banner (title : Text) : Act := do
  announce title
  detail (rule ++ "\n")

def entryAt (entry key : Value) : Gen Value := do
  let .dict es := entry | throw .wrongKind
  fetchKey es key

def initParams (config group : Table) : Gen Table := do
  let start := .update [(PT, .dict config)] Parameters.defaultSolution
  match group.get? "InitialSolutionParameters" with
  | none =>
    detail "No InitialSolutionParameters; using defaults."
    return start
  | some .null => return start
  | some v => (<- items v).foldlM (fun out entry => do
      (<- items entry).foldlM (fun out k => do
        let value <- entryAt entry k
        match value with
        | .list xs =>
          if xs.length != 1 then warn s!"InitialSolutionParameters must have length=1: {k.shown}:{value.shown}"
          return .put out k (<- nth xs 0)
        | v => return .put out k v) out) start

def supportedIsas : Gen Values := do items (<- setting SISA)

def checkValue (name : Text) (v : Value) : Act := do
  if let some d := (Parameters.domains.lookup name).join then
    let supported <- supportedIsas
    if !d.allows supported v then
      let more := opt (d.hasMore supported) " (only first 32 combos printed)\nRefer to Common.py for more info"
      fatal (s!"Invalid parameter value: {name} = {v.shown}\nValid values for {name} are " ++
        s!"{d.firstValues supported}{more}.")

def readChoices (v : Value) : Gen (Option Tables) := do
  if v.isNull then return none
  let known := Naming.sortTexts (Parameters.domains.map (·.1))
  return some (<- (<- items v).mapM fun entry => do
    (<- items entry).foldlM (fun (t : Table) k => do
      if k.same PS then return .put t k (<- entryAt entry k)
      let some name := k.asStr?.filter Parameters.isParameter
        | fatal s!"Invalid parameter name: {k.shown}\nValid parameters are {(Value.strs known).shown}."
      let values <- entryAt entry k
      for value in <- items values do checkValue name value
      return .put t k values) [])

def takeSizes (choices : Option Tables) : Option Tables × Option Value :=
  match choices with
  | some (first :: rest) => (first.get? PS).elim (choices, none) fun v => (some rest, some v)
  | _ => (choices, none)

def shownChoices (ts : Tables) : Value := .list (ts.map .dict)

def shownOptional : Option Tables -> Value
  | some ts => shownChoices ts
  | none => .null

variable (plan : BenchPlan)

def complete (batched : Bool) (group : Table) : Gen BenchPlan := do
  banner "Filling in Parameters With Defaults"
  let field := fun key => group.or key (.list [])
  let usual <- standIn (usualSizes batched)
  let finalConfig := group.or BFP
  let finalGiven <- if finalConfig.isNull then pure false else pure ((<- finalConfig.len) > 0)
  let final <- if finalGiven then items finalConfig
    else pure [.dict (sizesOnly (<- standIn (usualFinalSizes batched)))]
  let common <- readChoices (field "BenchmarkCommonParameters")
  let fork <- readChoices (field FP)
  let benchFork <- readChoices (field "BenchmarkForkParameters")
  let benchJoin <- readChoices (field "BenchmarkJoinParameters")
  let joinValue := field "JoinParameters"
  let join <- if joinValue.isNull then pure [] else items joinValue
  let (common, commonSizes) := takeSizes common
  let sizes := commonSizes.getD usual
  let all := .list [shownOptional common, shownOptional fork, shownOptional benchFork, joinValue,
    shownOptional benchJoin]
  let commonList := common.elim [sizesOnly sizes] fun ts =>
      sizesOnly sizes :: (Choices.missing all Choices.common ++ ts)
  let (benchFork, forkSizes) := takeSizes benchFork
  let sizes := forkSizes.getD sizes
  let benchForkList := sizesOnly sizes :: benchFork.getD []
  let (benchJoin, joinSizes) := takeSizes benchJoin
  let benchJoinList := sizesOnly (joinSizes.getD sizes) :: benchJoin.getD []
  let (single, lists) <- Choices.settleAll [] [commonList, fork.getD [], benchForkList, benchJoinList]
  let list := fun i => lists.getD i []
  let benchForkList := list 2
  let marks := !(list 1).isEmpty && !join.isEmpty && (benchForkList.isEmpty ||
    benchForkList.length == 1 && Choices.mentions PS (shownChoices benchForkList))
  let benchForkList := benchForkList ++ opt marks [[(.str "BenchmarkFork", .ints [0])]]
  return { plan with
    common := list 0, fork := list 1, benchFork := benchForkList, join, benchJoin := list 3, final
    usualCommon := if commonSizes.isNone then some (usualSizes batched) else none
    usualFinal := if finalGiven then none else some (usualFinalSizes batched)
    forkInherits := forkSizes.isNone, joinInherits := joinSizes.isNone
    fixed := [single], single := single.map fun (k, v) => (k, .list [v]), initial := plan.initial.update single }

def printChoices : Act := do
  detail "HardcodedParameters:"
  for (k, v) in plan.fixed.headD [] do detail s!"    {k.shown}: {v.shown}"
  for (title, vs) in [("BenchmarkCommon", plan.common.map .dict), ("Fork", plan.fork.map .dict),
      ("BenchmarkFork", plan.benchFork.map .dict), ("Join", plan.join),
      ("BenchmarkJoin", plan.benchJoin.map .dict), ("BenchmarkFinal", plan.final)] do
    detail (title ++ "Parameters:")
    for v in vs do detail s!"    {v.shown}"

def addStep (choices : Table) (sizes : ProblemSizes) : Gen BenchPlan := do
  sizes.checkOuts plan.problem (<- flag "CEqualD")
  detail s!"# Creating BenchmarkStep [BP]={choices.length} [HCP]={plan.fixed.length} [P]={sizes.problems.length}"
  return { plan with steps := plan.steps ++ [{ position := plan.steps.length, fixed := plan.fixed, choices, sizes }] }

variable (list : Tables) (tiles : List Ints)

def addSteps (sizes : ProblemSizes) : Gen (BenchPlan × ProblemSizes) := do
  detail s!"# AddStepsForParameters: {(shownChoices list).shown}"
  list.foldlM (fun (plan, sizes) t => do
    match t.get? PS with
    | some v => return (plan, <- ProblemSizes.read plan.problem v)
    | none =>
      let name <- plan.problem.name
      for (k, v) in t do
        if !v.isList then fatal s!"Parameter \"{k.shown}\" for ProblemType {name} must be formatted as a list but isn't"
      if t.isEmpty then return (plan, sizes)
      detail s!"Adding BenchmarkStep for {(Value.dict t).shown}"
      return (<- plan.addStep t sizes, sizes)) (plan, sizes)

def completedChoices : Gen Tables :=
  list.mapM fun t => do
    (t.get? PS).elim (pure t) fun v => do
        return t.set PS (<- ProblemSizes.completed plan.problem v)

def firstSizes : Value := (list.headD []).or PS

def withSizes : Tables -> Tables
  | [] => []
  | t :: ts => t.set PS sizes :: ts

def macroTiles : Gen (List Ints) := do
  detail "JoinParam: MacroTile"
  detail s!"currentForkParameters = {(shownChoices plan.fork).shown}"
  let places := [shownChoices plan.common, shownChoices plan.fork, shownChoices plan.benchFork,
    shownChoices plan.benchJoin, .dict plan.single]
  let find := fun name => places.foldlM (fun (found : Values) place => do
    if Choices.mentions name place then (<- Choices.valuesOf name place).elim (throw .wrongKind) items
    else pure found) []
  let tiles <- find TT
  let groups <- find WG
  detail s!"# Total JoinMacroTile Permutations: {groups.length * tiles.length}"
  let sides <- tiles.flatMap (fun t => groups.map fun g => (g, t)) |>.mapM fun (g, t) => do
    let gs <- items g
    let ts <- items t
    let side := fun (i : Nat) => return (<- int (<- nth gs i)) * (<- int (<- nth ts i))
    return [<- side 0, <- side 1]
  let listed := HashOrder.listed HashOrder.ofInts sides
  let shown := listing (listed.map fun t => (Value.tuple (t.map .int)).shown)
  let shown := if listed.isEmpty then "set()" else "\x7b" ++ shown ++ "\x7d"
  detail s!"JoinMacroTileSet({listed.length}): {shown}"
  return listed

/-- With the tiles that the plan can reach as far as they are known. -/
def joinCount (name : Value) : Gen (Nat × List Ints) := do
  if Choices.mentions name (.dict plan.single) then return (1, tiles)
  if Choices.mentions name (shownChoices plan.fork) then
    let count <- plan.fork.foldlM (fun n t => t.foldlM (fun n (k, v) => do
      if k.same name then
        let count := (<- v.len).toNat
        detail s!"JoinParameter {name.shown} has {count} possibilities"
        return n * count
      return n) n) 1
    return (count, tiles)
  else if name.same MT then
    let tiles <- plan.macroTiles
    return (tiles.length, tiles)
  else
    let names := .str MT :: plan.fork.flatMap fun t => t.map (·.1)
    fatal s!"JoinParameter \"{name.shown}\" not in {(Value.list names).shown}"

def joinCombination (i : Nat) : Gen Table := do
  let (t, _) <- plan.join.foldlM (fun (out, i) name => do
    if Choices.mentions name (shownChoices plan.fork) then
      match plan.fork.findSome? fun t => t.find? name with
      | none => return (out, i)
      | some v =>
        let n := (<- v.len).toNat
        return (Table.put out name (<- Choices.valueAt v (i % n)), i / n)
    else if name.same MT then
      let sides := tiles.getD (i % tiles.length) []
      return ((Table.set out MT0 (sides.getD 0 0)).set MT1 (sides.getD 1 0), i / tiles.length)
    else return (out, i)) ([], i)
  return t

def joinFixed : Gen BenchPlan := do
  if plan.join.isEmpty then return plan
  let (total, tiles) <- plan.join.foldlM (fun (n, tiles) name => do
    let (count, tiles) <- plan.joinCount tiles name
    return (n * count, tiles)) (1, [])
  detail s!"# TotalJoinPermutations = {total}"
  let joined <- (List.range total).mapM (plan.joinCombination tiles)
  return if joined.isEmpty then plan else { plan with fixed := joined }

def addFinal : Gen BenchPlan :=
  plan.final.foldlM (fun plan entry => do
    if <- (Value.str "SolutionSummationSizes").isIn entry then
      return { plan with sumSizes := <- entryAt entry "SolutionSummationSizes" }
    let given <- entryAt entry PS
    let sizes <- ProblemSizes.read plan.problem given
    if let some usual := plan.usualFinal then keepStandIn usual (<- ProblemSizes.completed plan.problem given)
    plan.addStep [] sizes) plan

def addAllSteps : Gen BenchPlan := do
  banner "Convert Parameters to Steps"
  announce "Benchmark Common Parameters"
  let (plan, sizes) <- plan.addSteps plan.common {}
  let common <- plan.completedChoices plan.common
  let known := firstSizes common
  if let some usual := plan.usualCommon then keepStandIn usual known
  let plan := { plan with
    common, benchFork := if plan.forkInherits then withSizes known plan.benchFork else plan.benchFork }
  announce "Fork Parameters"
  detail (shownChoices plan.fork).shown
  let forked <- Choices.perms plan.fork
  let plan := if forked.isEmpty then plan else { plan with fixed := Choices.fork plan.fixed forked }
  announce "Benchmark Fork Parameters"
  let (plan, sizes) <- plan.addSteps plan.benchFork sizes
  let benchFork <- plan.completedChoices plan.benchFork
  let plan := { plan with
    benchFork
    benchJoin := if plan.joinInherits then withSizes (firstSizes benchFork) plan.benchJoin else plan.benchJoin }
  announce "Join Parameters"
  let plan <- plan.joinFixed
  announce "Benchmark Join Parameters"
  let (plan, _) <- plan.addSteps plan.benchJoin sizes
  let benchJoin <- plan.completedChoices plan.benchJoin
  announce "Benchmark Final"
  { plan with benchJoin }.addFinal

def ofConfig (config group : Table) : Gen BenchPlan := do
  let problem <- ProblemType.ofConfig config
  detail s!"# BenchmarkProcess beginning {<- problem.name}"
  let initial <- initParams config group
  detail s!"# InitialSolutionParameters: {(Value.dict initial).shown}"
  let plan <- ({ problem, initial } : BenchPlan).complete (config.on "Batched") group
  plan.printChoices
  plan.addAllSteps

def describe (plan : BenchPlan) : Text := "BenchmarkProcess:\n" ++ .join (plan.steps.map (·.describe))

end BenchPlan

def assignParams (config : Table) (common fork : Value) : Gen (ProblemType × Tables × Table) := do
  let problem <- ProblemType.ofConfig config
  let tables := fun v => do (<- items v).mapM table
  let defaults := Choices.missing (.list [common, fork]) Choices.common
  let given <- if common.isNull then pure [] else tables common
  let (single, lists) <- Choices.settleAll [] [defaults ++ given, <- tables fork]
  let initial := (Table.update [(PT, .dict config)] Parameters.defaultSolution).update single
  let forked <- Choices.perms (lists.getD 1 [])
  return (problem, opt (!forked.isEmpty) (Choices.fork [initial] forked), initial)

end TensorForge
