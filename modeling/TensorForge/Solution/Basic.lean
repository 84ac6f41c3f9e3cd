import TensorForge.Kernel.Helper
import TensorForge.Solution.Storage
import TensorForge.Solution.Naming

/-! # Solutions -/

namespace TensorForge

open Naming Parameters Gen

structure Solution where
  problem : ProblemType
  state : Table
  helpers : List Helper := []
  /-- The findings hold this problem type itself, not a copy. -/
  shared : Bool := false

abbrev Solutions := List Solution

namespace Solution

variable (p : ProblemType)

def helperKernels (state : Table) : Gen (List Helper) := do
  if (<- int (<- fetch state GSU)) > 1 then
    let accum <- fetch state GA
    let scale <- Helper.ofProblem .scale p accum
    if accum.truthy then return [scale, <- Helper.ofProblem .convert p accum]
    return [scale]
  return []

variable (config : Table)

def isaOf : Gen Value := do
  match config.get? "ISA" with
  | some v => pure v
  | none =>
    if (<- fetch config KL) == "Assembly" then
      return .list (<- items (<- setting CISA))
    else return .ints [0, 0, 0]

def initState : Gen Table := do
  let mut state : Table := defaultSolution.map fun (k, v) =>
    match k with
    | .str key => (k, config.or key v)
    | _ => (k, v)
  if !state.has "ISA" then state := state.set "ISA" (<- isaOf config)
  if !state.has COV then
    state := state.set COV (<- (config.get? COV).getDM (setting COV))
  for (k, v) in config do if k != PT && (state.find? k).isNone then state := state.put k v
  state := state.set "Valid" true
  for key in [APIDP, ADP] do
    if !state.has key then state := state.set key false
  p.convolution.elim (pure state) fun c => pure (state.update c.assertions)

def ofProblem : Gen Solution := do
  let state <- initState p config
  let (_, d) <- Derive.derivation.run.run { problem := p, state }
  return { problem := p, state := d.state, helpers := <- helperKernels p d.state }

def ofConfig (config : Table) : Gen Solution := do
  let p <- (config.get? PT).elim (ProblemType.ofConfig defaultProblemType) fun v => do
      ProblemType.ofConfig (<- table v)
  ofProblem p config

variable (s : Solution)

def fetch (key : Text) : Gen Value := .fetch s.state key

def flag (key : Text) : Gen Bool := return (<- s.fetch key).truthy
def int (key : Text) : Gen Int := do .int (<- s.fetch key)
def isValid : Bool := s.state.on "Valid"
def name : Gen Text := do full (some (<- s.problem.name)) s.state
variable (r : Naming.Required)

def nameMin : Gen Text := do minimal (some (<- s.problem.name)) s.state r
def kernelState : Table := s.state.set "Kernel" true
def kernelName : Gen Text := do minimal (some (<- s.problem.name)) s.kernelState r
def requiredNames (ss : Solutions) : Gen Required := required (ss.map (·.state))

def indented (indent : Text) : Gen Text := do
  let name <- s.problem.name
  let lines <- (sortTexts (PT :: s.state.names)).mapM fun key => do
    let text <- if key == PT then pure name else do pure (<- .fetch s.state key).shown
    return indent ++ key ++ s!": {text}\n"
  return indent ++ "ProblemType: " ++ name ++ "\n" ++ .join lines

def packing : Gen Packing.Scheme := do
  return { free := <- s.problem.ints IF, batch := <- s.problem.ints IB,
           packFree := <- s.fetch "PackFreeDims", packBatch := <- s.int PBD }

end Solution

end TensorForge
