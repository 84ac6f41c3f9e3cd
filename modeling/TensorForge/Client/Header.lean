import TensorForge.Host.Launch
import TensorForge.Problem.Sizes

/-! # Parameters compiled into the older client -/

namespace TensorForge.Client

open Gen Launch Paper Text

structure HeaderType extends LaunchShape where
  problem : ProblemType
  name : Text
  (free summation batch leading : Ints)
  numLead : Int
  (conjA conjB highPrec : Bool)
  (fixedA fixedB : List (Int × Value))

namespace HeaderType

def pairs (v : Value) : Gen (List (Int × Value)) := do
  (<- items v).mapM fun p => do
    let p <- items p
    return (<- int (<- nth p 0), <- nth p 1)

def ofProblem (p : ProblemType) : Gen HeaderType := do
  return { (<- LaunchShape.ofProblem p) with
           problem := p, name := <- p.name
           free := <- p.ints IF, summation := <- p.ints IS
           batch := <- p.ints IB, leading := <- p.ints IALD
           numLead := <- p.int NILD, conjA := <- p.flag "ComplexConjugateA"
           conjB := <- p.flag "ComplexConjugateB", highPrec := <- p.flag HPA
           fixedA := <- pairs (<- p.fetch "SetConstStrideA"), fixedB := <- pairs (<- p.fetch "SetConstStrideB") }

variable (t : HeaderType)

def idxLists : Text := listing ([t.free, t.summation, t.batch, t.a, t.b].map braces)

def passedStrides : Texts :=
  let out := fun tc => (span t.firstInput t.dimsC).map fun i => s!"stride{tc}{i}{t.char i}"
  out "D" ++ out "C" ++ t.inputStrides "A" t.a ++ t.inputStrides "B" t.b

end HeaderType

structure Family where
  type : HeaderType
  schedules : Texts

/-- The problem types of one element type, with the types of outputs and factors of the first. -/
structure TypeGroup where
  (elem dest compute : DataType)
  families : List Family

def fixedStride? (strides : List (Int × Value)) (i : Int) : Option Value :=
  (strides.filter (·.1 == i)).getLast?.map (·.2)

def sortedBy {α : Type} (key : α -> Text) (xs : List α) : List α := xs.mergeSort fun a b => !(key b < key a)

def addTo {α : Type} (same : α -> Bool) (change : α -> α) (new : α) (xs : List α) : List α :=
  if xs.any same then xs.map fun x => if same x then change x else x else xs ++ [new]

variable (functions : List (Text × HeaderType))

def groupFunctions : List TypeGroup :=
  let groups := functions.foldl (fun (gs : List TypeGroup) (schedule, t) =>
    let e := t.dataType
    let family : Family := { type := t, schedules := [schedule] }
    let grown f := { f with schedules := f.schedules ++ [schedule] }
    addTo (·.elem.code == e.code)
      (fun g => { g with families := addTo (·.type.problem.same t.problem) grown family g.families })
      { elem := e, dest := t.destType, compute := t.computeType, families := [family] } gs) []
  (groups.mergeSort fun a b => a.elem.code <= b.elem.code).map fun g =>
    { g with families := (sortedBy (·.type.name) g.families).map fun f => { f with schedules := sortedBy id f.schedules } }

def separated (rows : Texts) : Sheet := commas rows.dropLast *> lines rows.getLast?.toList

def array (type name count : Text) (entries : Texts) : Sheet :=
  line (s!"{type} {name}[{count}] = \x7b " ++ listing entries ++ " \x7d;")

def preamble : Sheet := do
  let number := fun key => return hexDigits (<- (<- setting key).toInt).toNat
  block "typedef enum \x7b
    enum_float,
    enum_double,
    enum_TensileComplexFloat,
    enum_TensileComplexDouble\n#ifdef Tensile_ENABLE_HALF
    ,enum_TensileHalf\n#endif
    ,enum_TensileInt8x4
    ,enum_TensileInt32
    ,enum_tensile_bfloat16
\x7d DataTypeEnum;

// Debug Params"
  for t in ["A", "B", "C", "D"] do
    let shown <- number ("PrintTensor" ++ t)
    line s!"const unsigned printTensor{t}={shown};"
  let winners <- flag "PrintWinnersOnly"
  line s!"const bool printWinnersOnly={winners};"
  let letters <- Helper.idxLetters
  let all := String.join letters
  block s!"
const char indexChars[{letters.length + 1}] = \"{all}\";
unsigned int functionIdx;
unsigned int dataTypeIdx;
unsigned int problemTypeIdx;\n"

def elemTypes (types : List DataType) : Sheet := do
  block s!"/* data types */\nconst unsigned int numDataTypes = {types.length};"
  array "const DataTypeEnum" "dataTypeEnums" "numDataTypes" (types.map ("enum_" ++ ·.traits.host))
  let array := array "const unsigned int"
  array "bytesPerElement" "numDataTypes" (types.map (toString ·.bytes))
  let flops := fun (t : DataType) first =>
    if first && t.isInt8x4 then if t.isReal then "8" else "32" else if t.isReal then "2" else "8"
  array "numFlopsPerMac" "numDataTypes" (types.zipIdx.map fun (t, i) => flops t (i == 0))
  for t in types do line s!"#define Tensile_DATA_TYPE_{t.traits.host.map Char.toUpper}"

variable (types : List HeaderType)

def problemTypes (first last : HeaderType) : Sheet := do
  let each := fun type name f => array type name "numProblemTypes" (types.map f)
  let longest := fun f => types.foldl (fun n t => max n (f t).length) 0
  let rows := fun name f => do
    line s!"const unsigned int indexAssignments{name}[numProblemTypes][maxNumIndices{name}] = \x7b"
    separated (types.map fun t => "  \x7b " ++ listing ((List.range (longest f)).map fun j =>
      (f t)[j]?.elim "static_cast<unsigned int>(-1)" toString) ++ " \x7d")
    line "\x7d;"
  block s!"/* problem types */\nconst unsigned int numProblemTypes = {types.length};"
  let number := each "const unsigned int"
  number "numIndicesC" (toString ·.dimsC)
  number "numIndicesA" (toString ·.a.length)
  line s!"const unsigned int maxNumIndicesA = {longest (·.a)};"
  number "numIndicesB" (toString ·.b.length)
  line s!"const unsigned int maxNumIndicesB = {longest (·.b)};"
  rows "A" (·.a)
  rows "B" (·.b)
  line s!"const unsigned int numIndicesLD = {last.numLead};"
  let leading := opt (last.numLead > 0) (" " ++ listing (last.leading.map toString))
  line ("const unsigned int indexAssignmentsLD[numIndicesLD] = \x7b" ++ leading ++ "\x7d;")
  each "bool" "useBeta" (toString ·.useBeta)
  each "const bool" "complexConjugateA" fun _ => toString first.conjA
  each "const bool" "complexConjugateB" fun _ => toString first.conjB
  line ""

def idxCounts (most : Int) : Sheet := do
  line s!"const unsigned int maxNumIndices = {most};"
  array "const unsigned int" "totalIndices" "numProblemTypes" (types.map (toString ·.allDims))

def runtime (hip highPrec : Bool) : Sheet := do
  let streams := if hip then "hipStream_t stream;" else "cl_platform_id platform;
cl_device_id device;
cl_context context;
cl_command_queue stream;"
  block s!"/* runtime structures */
TensileStatus status;
{streams}

void *deviceWS;
void *deviceD;
void *deviceC;
void *deviceA;
void *deviceB;

/* benchmarking parameters */
size_t validationStride;
static bool useHighPrecisionAccumulate = {highPrec};\n"

def strideNames : Texts := ["lda", "ldb", "ldc", "ldd", "stride_a", "stride_b", "stride_c", "stride_d"]

def reference : Sheet := do
  block "/* generated call to reference */
template<typename DataType, typename DestDataType, typename ComputeDataType>
TensileStatus generatedCallToReferenceCPU(
    const unsigned int *sizes,
    const unsigned int *minStrides,
    DestDataType *referenceD,
    DestDataType *referenceC,
    DataType *initialA,
    DataType *initialB,"
  lines (strideNames.map fun s => s!"    const unsigned int {s},")
  block "    ComputeDataType alpha,
    ComputeDataType beta,
    bool useHighPrecisionAccumulate) \x7b
  return tensileReferenceCPU("
  lines ((["referenceD", "referenceC", "initialA", "initialB"] ++ strideNames ++ ["alpha", "beta",
    "totalIndices[problemTypeIdx]", "sizes", "minStrides"] ++
    ["numIndicesC", "numIndicesA", "numIndicesB", "indexAssignmentsA", "indexAssignmentsB", "complexConjugateA",
     "complexConjugateB"].map (· ++ "[problemTypeIdx]") ++ ["validationStride"]).map fun a => s!"      {a},")
  block "      useHighPrecisionAccumulate);\n\x7d;\n"

def given (x : Text) : Text := s!"{x} != std::numeric_limits<unsigned int>::max()"

def eventParams (hip : Bool) (dflt tail : Text) : Text :=
  if hip then s!"    hipEvent_t *startEvent{dflt},\n    hipEvent_t *stopEvent{dflt} ){tail}"
  else s!"    cl_event *event_wait_list{dflt},\n    cl_event *outputEvent{dflt} ){tail}"

structure Benchmark where
  solutions : Solutions
  naming : LaunchNaming
  sizes : ProblemSizes
  sums : Values
  (step baseDir : Text)

variable (s : Solution)

def tileOf : Gen (Int × Int) := do
  let wg <- items (<- s.fetch WG)
  let tt <- items (<- s.fetch TT)
  let product := fun (i : Nat) => return (<- int (<- nth wg i)) * (<- int (<- nth tt i))
  return (<- product 0, <- product 1)

def largestTiles (tiles : List (Int × Int)) (sums : Values) : Gen (Int × Int × Value) := do
  let some first := sums.head? | throw .badValue
  let most <- sums.tail.foldlM (fun m v => return if <- m.less v then v else m) first
  return (tiles.foldl (fun m t => max m t.1) 0, tiles.foldl (fun m t => max m t.2) 0, most)

variable (b : Benchmark) (t : HeaderType)

def benchProblems : Sheet := do
  let problems := b.sizes.problems
  let width := (t.allDims + t.numLead).toNat
  line s!"const unsigned int numProblems = {problems.length};"
  line s!"const unsigned int problemSizes[numProblems][{width}] = \x7b"
  let rows <- problems.mapM fun p => do
    let sizes <- items p.sizes
    let cells <- (List.range (max width 1)).mapM fun (i : Nat) => do
      return padLeft ' ' 5 (toString (<- int (<- nth sizes i)))
    return "  \x7b" ++ ",".intercalate cells ++ " \x7d"
  raw (",".intercalate rows)
  line "\x7d;"
  line (s!"const unsigned int minStrides[{t.allDims}] = \x7b" ++ listing (b.sizes.minStrides.map toString) ++ "\x7d;")

def benchBufs : Sheet := do
  let (mt0, mt1, most) <- largestTiles (<- b.solutions.mapM fun s => tileOf s) b.sums
  let k <- int most
  let mn := 1296 * mt0 * mt1
  let sizes := [("D", max b.sizes.maxD mn), ("C", max b.sizes.maxC mn), ("A", max b.sizes.maxA (36 * mt0 * k)),
    ("B", max b.sizes.maxB (36 * mt1 * k)), ("W", max (b.sizes.maxD * 32) mn)]
  line "/* problem sizes */"
  for (tc, n) in sizes do line s!"size_t maxSize{tc} = {n};"
  line ""

def requirements : Gen Ints := do
  Parameters.asserted.mapM fun key => do (<- s.fetch key).toInt

def batchPacking : Gen (Nat × Nat) := do
  let v <- s.fetch PBD
  return (if v == 2 then 1 else 0, if v == 1 then 1 else 0)

def solutionRow (s : Solution) : Gen Text := do
  let name <- s.nameMin b.naming.required
  let shown := listing ((<- requirements s).map toString)
  let (p, q) <- batchPacking s
  return s!"  \x7b(void*){name}, \"{name}\", \x7b{shown}, false, {p}, {q}\x7d \x7d"

def shapeRow (transp : Ints) : Gen Text := do
  let ints := fun key => do (<- items (<- s.fetch key)).mapM int
  let wg <- ints WG
  let tt <- ints TT
  let (mt0, mt1) <- tileOf s
  let all := [mt0, mt1, tt.getD 0 0, tt.getD 1 0, wg.getD 0 0, wg.getD 1 0] ++ transp ++
    [<- s.int GSU, wg.getD 2 0]
  return "  \x7b" ++ listing (all.map toString) ++ "\x7d"

def benchSolutions : Sheet := do
  block s!"/* solutions */
const unsigned int maxNumSolutions = {b.solutions.length};
float solutionPerf[numProblems][maxNumSolutions]; // milliseconds

static const SolutionInfo solutions[maxNumSolutions] = \x7b"
  separated (<- b.solutions.mapM (solutionRow b ·))
  block s!" \x7d;\n\nconst unsigned int numSummations = {b.sums.length};"
  let sums <- b.sums.mapM fun v => return toString (<- v.toInt)
  line ("const unsigned int summations[numSummations] = \x7b" ++ listing sums ++ "\x7d;")
  let transp <- ["TransposeA", "TransposeB"].mapM fun key => do int (<- t.problem.fetch key)
  line "const unsigned int solutionMetaData[maxNumSolutions][10] = \x7b"
  separated (<- b.solutions.mapM (shapeRow · transp))
  block " \x7d;\n"

def packedStrides (tc lead blank : Text) (assigns : Ints) (fixed : List (Int × Value) := []) : Sheet := do
  for (a, i) in assigns.zipIdx do
    let name := s!"stride{tc}{i}{t.char a}"
    match fixedStride? fixed a with
    | some v =>
      let n <- v.toInt
      line s!"  unsigned int {name} = {n}; //SetConstStride{tc}"
    | none =>
      let factors := (assigns.take i).zipIdx.map fun (b, j) =>
        let open_ := opt (j == 0) s!"({given lead}) ? {lead} : "
        s!" * ({open_}std::max(minStrides[{b}], sizes[{b}]))"
      line s!"  unsigned int {name} = 1{blank}{String.join factors};"

def givenStride (lead param tc : Text) (assigns : Ints) : Sheet := do
  let last := assigns.length - 1
  line s!"{lead}if ({given param})  stride{tc}{last}{t.char (assigns.getLastD 0)} = {param};"

def solutionCall (hip : Bool) : Sheet := do
  block "/* generated call to solution */
template<typename ComputeDataType, class SolutionInfoType>
TensileStatus generatedCallToSolution(
    const SolutionInfoType &solution,
    SolutionLock *solutionLock,
    const unsigned int *sizes,
    const unsigned int *minStrides,"
  lines (strideNames.map fun x => s!"    const unsigned int {x},")
  block ("    ComputeDataType alpha,\n    ComputeDataType beta,\n    unsigned int numEvents = 0,\n" ++
    eventParams hip " = NULL" " \x7b" ++ "\n  // calculate parameters assuming packed data")
  let outs := upTo t.dimsC
  packedStrides t "D" "ldd" "" outs
  givenStride t "  " "stride_d" "D" outs
  packedStrides t "C" "ldc" " " outs
  givenStride t "  " "stride_c" "C" outs
  packedStrides t "A" "lda" "" t.a t.fixedA
  if (fixedStride? t.fixedA (t.a.getLastD 0)).isNone then givenStride t "  " "stride_a" "A" t.a
  packedStrides t "B" "ldb" "" t.b t.fixedB
  givenStride t "  " "stride_b" "B" t.b
  for (name, i) in t.sizes.zipIdx do line s!"  unsigned int {name} = sizes[{i}];"
  block "\n  // Check assertions,"
  if t.firstOut == 0 then throw .unmet
  let all := listing (t.passedStrides ++ t.sizes)
  let pointer := "TensileSolutionPointer_" ++ t.name
  block s!"  typedef ProblemDims<{t.dimensions}> ProblemDims_{t.name};
  static const ProblemType problemType( {t.idxLists});
  ProblemDims_{t.name} pdims({all});
  if (!ProblemProperties(pdims,&problemType).validForSolution(solution._assertionRequirements))
    return tensileStatusAssertFailure;  // problem dims did not meet requirements for solution

  // call solution function
  {pointer} f = reinterpret_cast<{pointer}> (solution._functionPtr);"
  if hip then
    let cast := fun type x => s!"      static_cast<{type.traits.host} *>({x}),"
    lines ["  return f(solutionLock,", cast t.destType "deviceD", cast t.destType "deviceC", cast t.dataType "deviceA",
      cast t.dataType "deviceB"]
  else
    line ("  return f(solutionLock, " ++ listing (["deviceD", "deviceC", "deviceA", "deviceB"].map
      fun x => s!"static_cast<cl_mem>({x})") ++ ",")
  line "      alpha,"
  if t.useBeta then line "      beta,"
  lines ((t.passedStrides ++ t.sizes ++ ["stream"]).map fun x => s!"      {x},")
  block ((if hip then "      numEvents,
      startEvent,
      stopEvent,
      static_cast<float *>(deviceWS)); // events"
    else "      numEvents, event_wait_list, outputEvent ); // events") ++ "\n\x7d;\n")

def benchPage : Sheet := do
  let t <- HeaderType.ofProblem (<- first b.solutions).problem
  let hip := (<- setting RL) != "OCL"
  if <- flag MF then line "#include \"Solutions.h\""
  else
    for s in b.solutions do
      let name <- s.nameMin b.naming.required
      block s!"#include \"{name}.h\"\n#include \"Solutions.h\""
  block "#include \"ReferenceCPU.h\"\n"
  preamble
  elemTypes [t.dataType]
  problemTypes [t] t t
  idxCounts [t] t.allDims
  benchProblems b t
  benchBufs b
  block "/* current problem size */\n"
  benchSolutions b t
  runtime hip t.highPrec
  reference
  solutionCall t hip
  let file := fun suffix => replace (b.baseDir / "../Data" / (b.step ++ suffix ++ ".csv")) "\\" "\\\\"
  line "/* results file name */"
  for (name, suffix) in [("results", ""), ("granularity", "_Granularity")] do
    line (s!"const char *{name}FileName = \"" ++ file suffix ++ "\";")

def plainStrides (tc : Text) (assigns : Ints) : Sheet := do
  for (a, i) in assigns.zipIdx do
    let factors := (assigns.take i).map fun b => s!"*sizes[{b}]"
    line s!"    unsigned int stride{tc}{i}{t.char a} = 1{String.join factors};"
  givenStride t "    " ("stride" ++ tc) tc assigns

def fnBranch (name : Text) (enqueue hip : Bool) (g : TypeGroup) : Sheet := do
  if t.firstOut == 0 then throw .unmet
  for tc in ["D", "C"] do plainStrides t tc (upTo t.dimsC)
  plainStrides t "A" t.a
  plainStrides t "B" t.b
  for (size, i) in t.sizes.zipIdx do line s!"    unsigned int {size} = sizes[{i}];"
  block s!"    // call solution function\n    return {name}_{t.name}("
  if enqueue then
    let cast := fun type x =>
      if hip then s!"        static_cast<{type.traits.host} *>({x})," else s!"        static_cast<cl_mem>({x}),"
    lines [cast g.dest "deviceD", cast g.dest "deviceC", cast g.elem "deviceA", cast g.elem "deviceB", "        alpha,"]
    if t.useBeta then line "        beta,"
  lines (t.passedStrides.map fun x => s!"        {x},")
  separated (t.sizes.map ("        " ++ ·))
  let events := if hip then ", stream, numEvents, startEvent, stopEvent, static_cast<float *>(deviceWS)"
    else ", stream, numEvents, event_wait_list, outputEvent"
  raw (opt enqueue events ++ ");\n")

variable (groups : List TypeGroup)

def fnCalls (enqueue hip : Bool) : Sheet := do
  let name := if enqueue then "tensile" else "tensileGetSolutionName"
  let result := if enqueue then "TensileStatus" else "const char *"
  let numbers := ["lda", "ldb", "ldc", "ldd", "strideA", "strideB", "strideC", "strideD"]
  let params := fun factor => s!"    unsigned int *sizes,
    unsigned int *minStrides,
    {factor} alpha,
    {factor} beta,\n" ++ .join (numbers.map fun n => s!"    unsigned int {n},\n")
  block (s!"/* generated call to function */
template<typename DataType, typename DestDataType, typename ComputeDataType>
{result} generatedCallTo_{name}(\n" ++ params "ComputeDataType" ++ "    unsigned int numEvents = 0,\n" ++
    eventParams hip " = NULL" ";" ++ "\n")
  for g in groups do
    let types := listing ([g.elem, g.dest, g.compute].map (·.traits.host))
    block (s!"template<>\ninline {result} generatedCallTo_{name}<{types}>(\n" ++ params g.compute.traits.host ++
      "    unsigned int numEvents, \n" ++ eventParams hip "" " \x7b" ++
      "\n\n    unsigned int functionIdxForDataType = functionInfo[functionIdx][4];")
    let functions := g.families.flatMap fun f => f.schedules.map fun _ => f.type
    let count := functions.length
    for (t, i) in functions.zipIdx do
      if count > 1 then
        line (if i == 0 then s!"  if (functionIdxForDataType == {i}) \x7b"
          else if i + 1 == count then "  \x7d else \x7b"
          else s!"  \x7d else if (functionIdxForDataType == {i}) \x7b")
      fnBranch t name enqueue hip g
    if count > 1 then line "  \x7d"
    line "\x7d;"

/-- For every function: its element type, its problem type there and overall, and itself overall, in its element type
and in its problem type. -/
def fnNumbers : List Nats :=
  let families := groups.zipIdx.flatMap fun (g, i) => g.families.zipIdx.map fun (f, j) => (i, j, f)
  let all := families.zipIdx.flatMap fun ((i, j, f), n) => f.schedules.zipIdx.map fun (_, m) => (i, j, n, m)
  all.zipIdx.map fun ((i, j, n, m), serial) => [i, j, n, serial, (((all.take serial).filter (·.1 == i)).length), m]

def libPage : Sheet := do
  let hip := (<- setting RL) != "OCL"
  block "#include \"Solutions.h\"\n#include \"Tensile.h\""
  preamble
  let groups := groupFunctions functions
  let families := groups.flatMap (·.families)
  let types := families.map (·.type)
  let numbers := fnNumbers groups
  line s!"const unsigned int numFunctions = {numbers.length};"
  let first <- first types
  let last := types.getLastD first
  elemTypes (groups.map (·.elem))
  problemTypes types first last
  line ("// dataTypeIdxSerial, problemTypeIdxForDataType, problemTypeIdxSerial, functionIdxSerial, " ++
    "functionIdxForDataType, functionIdxForProblemType")
  line "const unsigned int functionInfo[numFunctions][6] = \x7b"
  raw (",\n".intercalate (numbers.map fun ns => "  \x7b " ++ listing (ns.map toString) ++ " \x7d"))
  line " \x7d;"
  let most := types.foldl (fun n t => max n t.allDims) first.allDims
  idxCounts types most
  let zeros := listing (.replicate most.toNat "0")
  block s!"unsigned int userSizes[maxNumIndices];\nunsigned int minStrides[{most}] = \x7b{zeros}\x7d;"
  lines (["D", "C", "A", "B", "W"].map fun tc => s!"size_t maxSize{tc};")
  block "\n/* current problem size */\n\nconst char *functionNames[numFunctions] = \x7b"
  separated (families.flatMap fun f => f.schedules.map fun _ => s!"    \"tensile_{f.type.name}\"")
  line " \x7d;"
  runtime hip last.highPrec
  reference
  fnCalls groups true hip
  fnCalls groups false hip

def writeHeader (page : Sheet) : Act := do
  let text <- textOf page
  Files.write ((<- workPath) / "ClientParameters.h") (Banner.cpp ++ text)

def writeBenchHeader : Act := writeHeader (benchPage b)

def writeLibHeader (functions : List (Text × ProblemType)) : Act := do
  writeHeader (libPage (<- functions.mapM fun (s, p) => return (s, <- HeaderType.ofProblem p)))

end TensorForge.Client
