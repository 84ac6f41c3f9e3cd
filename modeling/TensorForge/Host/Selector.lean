import TensorForge.Host.Launch
import TensorForge.Library.Logic

/-! # Choosing solutions on the host -/

namespace TensorForge

open Gen

structure Schedule where
  name : Text
  devices : Texts
  solutions : Solutions
  (indexOrder exact : Values)
  hasRange : Bool

namespace Schedule

def ofLogic (l : Logic) : Gen Schedule := do
  return { name := l.schedule.shown, devices := (<- items l.devices).map (·.shown), solutions := l.solutions
           indexOrder := <- items l.indexOrder, exact := <- items l.exact, hasRange := !l.range.isNull }

end Schedule

structure Selection extends LaunchShape where
  problem : ProblemType
  name : Text
  schedules : List Schedule

namespace Selection

def collect (logics : List Logic) : Gen (List Selection) :=
  logics.foldlM (fun all l => do
    let s <- Schedule.ofLogic l
    if all.any fun x => x.problem.same l.problem then
      return all.map fun x => if x.problem.same l.problem then { x with schedules := x.schedules ++ [s] } else x
    else return all ++ [{ (<- LaunchShape.ofProblem l.problem) with
                          problem := l.problem, name := <- l.problem.name, schedules := [s] }]) []

def stars : Text := "".pushn '*' 79

variable (naming : LaunchNaming)

def solutionTable (full : Text) (s : Schedule) : Gen Text := do
  let rows <- s.solutions.zipIdx.mapM fun (x, i) => do
    let name <- x.nameMin naming.required
    let numbers <- Parameters.asserted.mapM fun key => do (<- x.fetch key).wholeText
    let packed <- x.fetch PBD
    let comma := opt (i + 1 < s.solutions.length) ","
    return s!"  \x7b(void*){name}, \"{name}\", \x7b{listing numbers}, 0, {(packed == 2).toNat}, {(packed == 1).toNat}\x7d \x7d" ++
      s!"{comma} // {i}\n"
  return s!"// solution table - function, name, assertion requirements
static const SolutionInfo solutionTable_{full}[] = \x7b\n{String.join rows}\x7d;\n\n"

variable (x : Selection)

def exactTable (full : Text) (s : Schedule) : Gen Text := do
  let rows <- s.exact.zipIdx.mapM fun (rule, i) => do
    let rule <- items rule
    let sizes <- items (<- nth rule 0)
    let choice <- items (<- nth rule 1)
    let shown := listing (<- (sizes.take x.allDims.toNat).mapM (·.wholeText))
    let speed <- (<- nth choice 1).toFloat
    let end_ := if i + 1 < s.exact.length then "," else " "
    return s!" \x7b \x7b{shown}\x7d, {<- (<- nth choice 0).wholeText}\x7d{end_} // {Decimal.fixed 0 speed} GFlop/s\n"
  return s!"// table of exact problem dims and selected solutionIdx
static const std::pair<const ProblemKey_{x.name}, int> embeddedExactTable_{full}[] = \x7b\n{String.join rows}\x7d;\n\n"

def tables (x : Selection) (s : Schedule) : Gen Text := do
  let full := s!"{s.name}_{x.name}"
  return s!"namespace \x7b // Start schedule '{s.name}'\n{<- solutionTable naming full s}{<- exactTable x full s}" ++
    s!"// The solution master constructor here adds device to the master solution mapper
// The entrypoint to find a solution for this problem is through the master solution master
static SolutionMapper_{x.name} solutionMapper_{full}(
  \"{full}\", // schedule+problem name
  solutionTable_{full}, {s.solutions.length},
  embeddedExactTable_{full}, {s.exact.length},
  &problemType_{x.name});\n\x7d // end anonymous namespace\n"

def paramLines (args : List LaunchArg) (defaults : Bool) (last : Text) : Text :=
  ",\n".intercalate (args.map fun a => s!"    {a.type} {a.name}" ++ opt defaults (" = " ++ a.default.shown)) ++ last

def sizeArgs : List LaunchArg :=
  x.arguments { lock := false, data := false, events := false, stream := false, workspace := true }

def callArgs : List LaunchArg := x.arguments { lock := false, workspace := true }

def declarations : Gen Text := do
  let n := x.name
  if x.firstOut == 0 then throw .unmet
  let sizes := paramLines (sizeArgs x) false ");\n\n"
  let call := paramLines (callArgs x) true ");\n\n"
  return s!"
void tensileInitialize();


// enqueue solution
TensileStatus tensile_{n}(
{call}typedef ProblemKey<{x.allDims}> ProblemKey_{n};
typedef ProblemDims<{x.dimensions}> ProblemDims_{n};
typedef SolutionMapper<ProblemDims_{n}, ProblemKey_{n}> SolutionMapper_{n};

// get solution pointer
SolutionMapper_{n}::SolutionRuntime *
tensileGetSolutionPointer_{n}(
{sizes}// get solution name
const char * tensileGetSolutionName_{n}(
{sizes}"

def lookup (order : Values) (tail : Text) : Text :=
  let n := x.name
  let all := listing (x.strides ++ order.mapIdx fun i _ => x.size i)
  s!"  /* exact mappings */
  ProblemDims_{n} pdims({all});
  auto solutionMapper = reinterpret_cast<SolutionMapper_{n} *> (masterSolutionMapper_{n}.mapper());
  return solutionMapper->getSolutionWithFallback(pdims,&masterSolutionMapper_{n}){tail};\n\n"

def functions (x : Selection) : Gen Text := do
  let n := x.name
  let lists := listing (((<- [IF, IS, IB].mapM x.problem.ints) ++
    [x.a, x.b]).map Launch.braces)
  let scheduled <- x.schedules.mapM fun s => do return "\n\n" ++ (<- tables naming x s)
  let last := x.schedules.getLast?
  if last.any (·.hasRange) then
    sayLine ("** warning: ignored ranges in logic file, these should have been expanded with " ++
      "ExpandRanges=1 during Tensile phase 3")
  let order := last.elim [] (·.indexOrder)
  let sizes := paramLines (sizeArgs x) false ") \x7b\n\n"
  let names := fun args => args.map (·.name)
  let pointer := "TensileSolutionPointer_" ++ n
  let found := ", \n".intercalate ((names (sizeArgs x)).map ("        " ++ ·))
  let passed := listing (names (x.arguments { workspace := true }))
  let call := paramLines (callArgs x) false ") \x7b\n"
  let exact := lookup x order ""
  let byName := lookup x order "->_info->_name"
  return s!"
/{stars}
* Per-Problem Functions for {n}
{stars}/
// Problem type include the index assignments for free, summation, batch:
static const ProblemType problemType_{n}( {lists});

// Master solution mapper is the entry point for problem->solution mapping
// There is one master solution mapper per problem type
// The master solution mapper contains pointers to the solution mappers for each device
static MasterSolutionMapper<ProblemDims_{n}> masterSolutionMapper_{n};
 \n/{stars}
 * Per-Schedule Functions
 {stars}/{String.join scheduled}
// problem dims -> solution logic
SolutionMapper_{n}::SolutionRuntime *
tensileGetSolutionPointer_{n}(
{sizes}{exact}  return nullptr;

\x7d

// get solution name for problem dims
const char * tensileGetSolutionName_{n}(
{sizes}{byName}\x7d
/{stars}
 * Per-ProblemType Functions
 {stars}/
// main call to solution; enqueues a kernel
TensileStatus tensile_{n}(
{call}    auto solution = tensileGetSolutionPointer_{n}(
{found});
    if (solution) \x7b
      {pointer} f = reinterpret_cast<{pointer}> (solution->_info->_functionPtr);
      auto solutionLock = &solution->_lock;
      return f({passed});
    \x7d else \x7b
      return tensileStatusFailure; // no solution found
    \x7d
\x7d\n"

def initialization (all : List Selection) : Text :=
  let parts := all.map fun x =>
    s!"  masterSolutionMapper_{x.name}.initialize();\n" ++ .join (x.schedules.map fun s =>
      let devices := listing (s.devices.map fun d => s!"\"{d}\"")
      s!"  solutionMapper_{s.name}_{x.name}.initializeMappers(\x7b{devices}\x7d,&masterSolutionMapper_{x.name});\n")
  s!"/{stars}\n* Tensilze initializer\n{stars}/\nvoid tensileInitialize() \x7b\n" ++ .join parts ++ "\x7d"

def write (outPath : Text) (all : List Selection) (naming : LaunchNaming) : Act := do
  sayAt 1 "# Writing Library Logic"
  let merged <- flag MF
  if !merged then let _ <- Settings.ensurePath (outPath / "Logic")
  let includes := .join (["Solutions", "Tensile", "TensileInternal", "SolutionMapper"].map (s!"#include \"{·}.h\"\n"))
  let parts <- Progress.counted all fun x => do
    let h <- declarations x
    let own <- x.schedules.foldlM (fun seen s => s.solutions.foldlM (fun seen y => do
      let full <- y.name
      return if seen.contains full then seen else seen ++ [full]) seen) []
    let solutions := x.schedules.flatMap (·.solutions)
    let names <- own.mapM fun full => do
      (<- solutions.findM? fun y => do return (<- y.name) == full).elim (pure "") fun y => y.nameMin naming.required
    let body <- functions naming x
    if !merged then
      let own := .join (names.map fun n => s!"#include \"{n}.h\"\n")
      Files.write (outPath / "Logic" / s!"Tensile_{x.name}.cpp") (includes ++ own ++ body)
    return (h, body)
  if merged then
    Files.write (outPath / "Tensile.cpp")
      (includes ++ .join (parts.map (·.2)) ++ "\n" ++ initialization all)
  Files.write (outPath / "Tensile.h") ("#pragma once\n#include \"TensileTypes.h\"\n" ++
    "#include \"SolutionHelper.h\"\n#include \"SolutionMapper.h\"\n" ++ .join (parts.map (·.1)))
  Files.write (outPath / "TensileInternal.h") "#include \"Tensile.h\"\n"

def callText (name : Text) (s : LaunchShape) : Text :=
  s!"{name}( " ++ listing (["dataD", "dataC", "dataA", "dataB", "alpha"] ++ opt s.useBeta ["beta"] ++ ["offsetC",
    "offsetA", "offsetB"] ++ s.strides ++ s.sizes ++ ["stream", "numInputEvents", "inputEvents", "outputEvent"]) ++ " )"

end Selection

end TensorForge
