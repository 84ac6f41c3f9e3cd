import TensorForge.Kernel.File

/-!
# Host code that launches a kernel

For each solution a function computes the grid and the arguments of its kernel and launches it, with the helper
kernels that scale the output before and add up partial sums after.
-/

namespace TensorForge

/-- Text and the depth of the next line, in columns. -/
structure Page where
  text : Text := ""
  depth : Nat := 0

abbrev Paper := StateT Page Gen
abbrev Sheet := Paper Unit

namespace Paper

variable (s : Text)

def raw : Sheet := modify fun p => { p with text := p.text ++ s }
def line : Sheet := modify fun p => { p with text := p.text ++ "".pushn ' ' p.depth ++ s ++ "\n" }
def gapLine : Sheet := modify fun p => { p with text := p.text ++ "\n" ++ "".pushn ' ' p.depth ++ s ++ "\n" }
def lines (ss : Texts) : Sheet := ss.forM line
def block (text : Text) : Sheet := lines (text.splitOn "\n")
/-- One for each tile dimension. -/
def both (f : Text -> Text) : Sheet := lines (["0", "1"].map f)
def deeper : Sheet := modify fun p => { p with depth := p.depth + 2 }
def higher : Sheet := modify fun p => { p with depth := p.depth - 2 }

def textOf (x : Sheet) : Gen Text := do
  let (_, p) <- StateT.run x {}
  return p.text

end Paper

structure LaunchArg where
  (type name : Text)
  default : Value

structure LaunchParts where
  (lock data events stream : Bool := true)
  (workspace partialSums : Bool := false)

structure LaunchShape where
  (dataType destType computeType : DataType)
  useBeta : Bool
  (firstInput firstOut dimsC allDims : Int)
  (a b : Ints)
  chars : Texts
  hip : Bool

namespace LaunchShape

def ofProblem (p : ProblemType) : Gen LaunchShape := do
  let first := fun key => return if <- p.flag key then 0 else 1
  return { dataType := <- p.dataType DT, destType := <- p.dataType DDT
           computeType := <- p.dataType CDT, useBeta := <- p.flag "UseBeta"
           firstInput := <- first UISAB, firstOut := <- first UISCD
           dimsC := <- p.int NIC, allDims := <- p.int TI
           a := <- p.ints IAA, b := <- p.ints IAB
           chars := <- Helper.idxLetters
           hip := (<- .settingStr RL) == "HIP" }

variable (s : LaunchShape)

def char (i : Int) : Text := s.chars.getD i.toNat ""
def outStrides (tc : Text) : Texts := (span s.firstOut s.dimsC).map fun i => s!"stride{tc}{i}{s.char i}"

def inputStrides (tc : Text) (assigns : Ints) : Texts :=
  (span s.firstInput assigns.length).map fun i => s!"stride{tc}{i}{s.char (assigns.getD i.toNat 0)}"

def strides : Texts := s.outStrides "D" ++ s.outStrides "C" ++ s.inputStrides "A" s.a ++ s.inputStrides "B" s.b
def dimensions : Text := s!"{s.firstInput},{s.dimsC},{s.dimsC},{s.a.length},{s.b.length},{s.allDims}"
def size (i : Int) : Text := "size" ++ s.char i
def sizes : Texts := (upTo s.allDims).map s.size
def outSizes : Texts := (upTo s.dimsC).map s.size

def arguments (parts : LaunchParts) : List LaunchArg :=
  let null (type name : Text) := ⟨type, name, "nullptr"⟩
  let number name := ⟨"unsigned int", name, 0⟩
  let host := fun t => t.traits.host
  let out := if parts.partialSums then "float" else host s.destType
  let bufs := if s.hip then
      [null s!"{out} *" "dataD", null s!"const {out} *" "dataC"] ++
        ["dataA", "dataB"].map (null s!"const {host s.dataType} *")
    else ["dataD", "dataC", "dataA", "dataB"].map (null "cl_mem")
  let factor (name : Text) := ⟨host s.computeType, name, host s.computeType ++ "()"⟩
  let event := if s.hip then "hipEvent_t *" else "cl_event *"
  opt parts.lock [null "SolutionLock *" "solutionLock"] ++
  (if parts.data then bufs ++ factor "alpha" :: opt s.useBeta [factor "beta"] else []) ++
  (s.strides ++ s.sizes).map number ++
  opt parts.stream [null (if s.hip then "hipStream_t" else "cl_command_queue") "stream"] ++
  opt parts.events [number "numInputEvents", null event "inputEvents", null event "outputEvent"] ++
  opt (parts.data && s.hip && parts.workspace) [null "float *" "workspace"]

end LaunchShape

namespace Launch

def braces (ns : Ints) : Text := "\x7b" ++ ",".intercalate (ns.map toString) ++ "\x7d"

structure Site extends LaunchShape where
  k : KernelSpec
  (name kernel : Text)
  launched : Text
  helpers : List Helper

namespace Site

variable (s : Site)

def numOutStrides : Nat := (s.dimsC - s.firstOut).toNat
def sumStrides : Texts := (span s.firstOut s.dimsC).map ("strideW" ++ s.char ·)
def sums : Bool := s.k.accum.isSome
def buf (name : Text) : Text := if s.sums then "workspace" else name

def passedStrides : Texts :=
  if s.sums then s.sumStrides ++ s.sumStrides ++ s.strides.drop (2 * s.numOutStrides) else s.strides

def sig (inHeader : Bool := false) : Text :=
  let shown := (s.arguments { workspace := true }).map fun a =>
    "    " ++ a.type ++ " " ++ a.name ++ opt inHeader (" = " ++ a.default.shown)
  s!"TensileStatus {s.name}(\n" ++ ",\n".intercalate shown ++ ")"


end Site

open Formula Gen Paper

variable (s : Site)

def extents : Texts := ["tensor2dSizeC", "tensor2dSizeA", "tensor2dSizeB"]
def argStructure : Sheet := do
  raw "\n"
  line "/* module function args */"
  line "struct \x7b"
  deeper
  if <- flag DK then line "unsigned int *debugBuffer;"
  line "// Size of Tensor's packed dims, in elements"
  for x in extents do line s!"uint64_t {x};"
  for a in s.arguments { lock := false, events := false, stream := false, partialSums := s.sums } do
    line (if a.type == "TensileHalf" then s!"{a.type} {a.name}[2];" else s!"{a.type} {a.name};")
  for c in s.k.dividedSizes do block s!"unsigned magicNumberSize{c};\nunsigned magicShiftSize{c};"
  line "int staggerUIter;"
  for x in ["problemNumGroupTiles0", "problemNumGroupTiles1", "magicNumberProblemNumGroupTiles0", "gridNumWorkGroups0",
      "numFullBlocks", "wgmRemainder1", "magicNumberWgmRemainder1", "pad"] do line s!"unsigned int {x};"
  higher
  block ("\x7d hipFunctionArgs;\nsize_t hipFunctionArgsSize = sizeof(hipFunctionArgs);\n" ++
    "void *hipLaunchParams[] = \x7bHIP_LAUNCH_PARAM_BUFFER_POINTER, &hipFunctionArgs, " ++
    "HIP_LAUNCH_PARAM_BUFFER_SIZE, &hipFunctionArgsSize, HIP_LAUNCH_PARAM_END\x7d;")

def findKernel : Sheet := do
  gapLine "/* kernels */"
  line "const unsigned int numKernels = 1; // 1 or 4"
  if s.k.lang == "Source" && !s.hip then
    block s!"const char *kernelSources[numKernels] = \x7b
  {s.kernel}_src
\x7d;
cl_kernel kernels[numKernels];
const char *buildOptions = \"-cl-std=cl2.0\";
for (unsigned int i = 0; i < numKernels; i++) \x7b
  tensileGetCompiledOpenCLKernel(
      &kernels[i],
      kernelSources[i],
      stream,
      buildOptions);
\x7d"
    if s.k.splits && s.helpers.any (·.kind == .scale) then throw .wrongKind
  else if s.k.lang == "Assembly" then
    let code := if <- flag CFF then "nullptr" else s.kernel ++ "_coba"
    block (s!"hipFunction_t hipFunction;\nstatus = solutionLock->getFunction(&hipFunction, deviceId, \"{s.kernel}\", {code});;" ++
      "\nif (status) return status;")

def magicNumber (c : Text) : Sheet := do
  let number := s!"magicNumberSize{c} = (1L<<magicShiftSize{c}) / size{c} + 1;"
  block s!"unsigned magicShiftSize{c} = 33; // bozo, review\nuint64_t {number}"
  line s!"if (magicNumberSize{c} >> 32) \x7b magicShiftSize{c}=31; {number}\x7d"

/-- How blocks of `n` rows of work groups divide a grid. -/
def blockValues (n : Nat) : List Assignment :=
  let tiles := var "problemNumGroupTiles1"
  let rest := var "wgmRemainder1"
  let power := op (.num 1 true) .shift (.var "smallNumMagicShift") true
  [{ name := "numFullBlocks", value := .op tiles .div (.num n), gap := "  " },
   { name := "wgmRemainder1", value := .op tiles .mod (.num n), gap := "  " },
   { name := "wgmRemainder1", value := .num n, guard := some (.op rest .same (.num 0)) },
   { name := "magicNumberWgmRemainder1", value := .paren (.op (.op (.paren power) .div rest) .add (.num 1)) }]

def edgeNote : Text := "// b/c single kernel, add extra work-group here if edge needed"

/-- To a power of two that both dimensions share. -/
def roundsGrid (k : KernelSpec) : Bool := k.mapType == "Z" && k.workGroupMapping.natAbs == 2

def grid (s : Site) : Sheet := do
  let k := s.k
  let threads := Text.padLeft ' ' 3 (toString k.numThreads)
  gapLine "/* num kernels */"
  line "unsigned int numEnqueues[numKernels] = \x7b 1 \x7d;"
  gapLine "/* grid sizes */"
  block s!"const unsigned int workDim = 3;
const unsigned int threadTile[2] = \x7b {k.threadTile0}, {k.threadTile1} \x7d;
const unsigned int groupSize[2] = \x7b {k.subGroup0}, {k.subGroup1} \x7d;
size_t localWorkSize[3] = \x7b {threads}, 1, 1 \x7d;
size_t globalWorkSize[numKernels][3];
globalWorkSize[0][2] = 1;"
  for i in upTo k.problem.dimsC do
    if i != k.problem.idx0 && i != k.problem.index1 && !k.isPacked i then line s!"globalWorkSize[0][2] *= {s.size i};"
  let product := fun cs => " * ".intercalate (cs.map ("size" ++ ·))
  line s!"unsigned int sizeOfC0 = {product k.packedChars0};"
  line s!"unsigned int sizeOfC1 = {product k.packedChars1};"
  s.k.dividedSizes.forM magicNumber
  both fun i => s!"unsigned int macroTile{i} = static_cast<unsigned int>(groupSize[{i}] * threadTile[{i}]);"
  both fun i => s!"unsigned int totalWorkGroups{i} = sizeOfC{i} / macroTile{i};"
  if k.edge != "None" then
    line edgeNote
    both fun i => s!"if (totalWorkGroups{i}*macroTile{i} < sizeOfC{i}) \x7b totalWorkGroups{i}++; \x7d"
  if roundsGrid k then
    let power := "totalWorkGroupsPow2"
    line s!"unsigned int {power} = totalWorkGroups0 > totalWorkGroups1 ? totalWorkGroups0 : totalWorkGroups1;"
    lines ([power ++ "--;"] ++ SourceContext.smears.map (fun n => s!"{power} |= {power} >> {n};") ++ [power ++ "++;"])
    both fun i => s!"totalWorkGroups{i} = {power};"
  both fun i => s!"unsigned int problemNumGroupTiles{i} = totalWorkGroups{i};"
  block ("const unsigned smallNumMagicShift = 31; // bozo, review\nunsigned magicNumberProblemNumGroupTiles0 = " ++
    "(1L<<smallNumMagicShift) / problemNumGroupTiles0 + 1; // bozo, review")
  if k.workGroupMapping > 0 then
    let declared := (blockValues k.workGroupMapping.toNat).map fun a => match a.guard with
      | some f => s!"if ({f.text}) {a.text}"
      | none => "unsigned " ++ a.text
    lines (declared.modifyHead (· ++ " // divide by WorkGroupMapping"))
  else
    block "unsigned numFullBlocks =  problemNumGroupTiles1; // divide by WorkGroupMapping
unsigned wgmRemainder1 =  0;
unsigned magicNumberWgmRemainder1 = 0;"
  if k.splits then line s!"totalWorkGroups1 *= {k.globalSplitU}; // GlobalSplitU"
  if k.persist then
    let groups := s!"deviceProperties.multiProcessorCount * {k.persistKernel}"
    block s!"hipDeviceProp_t deviceProperties;
hipGetDeviceProperties( &deviceProperties, deviceId );
unsigned int numGroups = totalWorkGroups0 * totalWorkGroups1;
globalWorkSize[0][0] = ({groups} < numGroups) ? ({groups}) : numGroups;
globalWorkSize[0][1] = 1;"
  else
    let (first, second) := if k.workGroupMapping >= 0 then (0, 1) else (1, 0)
    let times := fun n => opt (!s.hip) s!"*localWorkSize[{n}]"
    line s!"globalWorkSize[0][0] = totalWorkGroups{first}{times 0};"
    line s!"globalWorkSize[0][1] = totalWorkGroups{second}{times 1};"

def extent (t : Input) (packed : Ints) : Sheet := do
  let name := s!"tensor2dSize{t.char}"
  block s!"uint64_t {name} = 1;\nuint64_t {name}Stride = 0;\nuint64_t {name}Offset = 0;"
  for (i, n) in t.assigns.zipIdx do
    if packed.contains i || s.k.problem.summation.contains i then
      let size := s.size i
      match t.assigns[n + 1]? with
      | some next =>
        block s!"{name}Stride = std::max({name}*{size}, (uint64_t)stride{t.char}{n + 1}{s.char next});
{name}Offset += {name}Stride - {name}*{size};
{name} = {name}Stride;"
      | none => line s!"{name} = {name} * {size};"
  line s!"{name} -= {name}Offset;"
  raw "\n"

def sizes (s : Site) : Sheet := do
  let p := s.k.problem
  gapLine "/* index sizes */"
  line s!"unsigned int sizes[numKernels][1][{p.allDims}];"
  for i in upTo (p.free.length + p.batch.length : Nat) ++ span p.dimsC p.allDims do
    line s!"sizes[0][0][{i}] = {s.size i};"
  let factors := (upTo p.dimsC).filterMap fun i =>
    if !p.free.contains i then none
    else if i + 1 < p.dimsC then some s!" * std::max({s.size i}, strideC{i + 1}{s.char (i + 1)})"
    else some s!" * {s.size i}"
  let first := if p.initStridesCD then "strideC0" ++ s.char 0 else "1"
  line s!"uint64_t tensor2dSizeC = {first}{String.join factors};"
  extent s s.k.a s.k.packedC0
  extent s s.k.b s.k.packedC1
  let shift := Nat.pow 2 s.k.staggerStrideShift.toNat
  raw s!"  unsigned int staggerUIter = {s.k.staggerU}; // how many stride-sized clicks to stagger start offset
  int unrollLoopIters = {s.size p.idxUnroll}/{s.k.depthU}/{s.k.globalSplitU}; // /DepthU/GSU
  while (staggerUIter>1) \x7b
    if (unrollLoopIters >= (staggerUIter*{shift})) \x7b
      break;\x7d
    staggerUIter /= 2; // step down to smaller stagger
  \x7d
  if (staggerUIter>=1) staggerUIter -= 1;\n\n"
  line "int kernelsLaunched=0;"
  if s.sums then
    let product := fun i => "1" ++ .join ((upTo i).map ("*" ++ s.size ·))
    for i in span (if p.initStridesCD then 0 else 1) p.dimsC do
      line s!"unsigned int strideW{s.char i} = {product i};"
  if s.k.splits then
    line "size_t sizeOfC = sizeOfC0 * sizeOfC1;"
    for i in upTo p.dimsC do if i != p.idx0 && i != p.index1 then line s!"sizeOfC *= {s.size i};"

def caught (depth : Text) : Sheet := do
  line "\x7d catch (const std::exception& e) \x7b"
  raw "#ifdef DEBUG\n"
  line s!"{depth}std::cerr << e.what() << std::endl;"
  raw "#endif\n"
  lines [depth ++ "return tensileStatusFailure;", "\x7d"]

def commas (xs : Texts) : Sheet := lines (xs.map (· ++ ","))

def launchKernel (name grid block : Text) (args : Texts) : Sheet := do
  lines ["kernelsLaunched++;", "hipLaunchKernelGGL("]
  deeper
  let dim := fun x => s!"dim3({x}[0], {x}[1], {x}[2])"
  commas [s!"HIP_KERNEL_NAME({name})", dim grid, dim block]
  line "0, // groupMemBytes"
  commas ("stream" :: args)

def setArg (kernel : Text) (i : Nat) (type name : Text) : Text :=
  s!"status = clSetKernelArg( {kernel}, {i}, sizeof({type}), &{name} ); tensileStatusCheck(status);"

def enqueueKernel (kernel grid block event : Text) : Sheet := do
  line "status = clEnqueueNDRangeKernel("
  deeper
  commas ["stream", kernel, "workDim"]
  line "NULL, // globalWorkOffset"
  commas [grid, block, "numInputEvents", "inputEvents"]
  line (event ++ " );")

def helperGrid (name step : Text) : Sheet :=
  block s!"size_t localWorkSize{name}[3] = \x7b 256, 1, 1\x7d;
size_t globalWorkSize{name}[3] = \x7b 1, 1, 1\x7d;
globalWorkSize{name}[0] = (sizeOfC + {step} - 1) / {step};
{edgeNote}"

def record (event : Text) (i : Text) : Sheet :=
  block s!"if( {event} != NULL )\n  hipEventRecord({event}[{i}], stream );"

def scaleOut : Sheet := do
  let p := s.k.problem
  let names := (s.helpers.filter (·.kind == .scale)).map (·.name)
  let type := p.dataType.traits.host
  line "// enqueue Beta-Only kernel"
  helperGrid "BetaOnly" "globalWorkSizeBetaOnly[0]"
  if p.useBeta then line s!"bool betaZero = beta == ({type})0;"
  let first <- first names
  let n := s.numOutStrides
  if !s.hip then
    if p.useBeta then
      let some second := names[1]? | throw .outOfRange
      line s!"cl_kernel kernelBetaOnly = betaZero ? kernel_{first} : kernel_{second};"
    else line s!"cl_kernel kernelBetaOnly = kernel_{first};"
    let set := setArg "kernelBetaOnly"
    line (set 0 "cl_mem" "dataC")
    let numbers := s.strides.take n ++ s.outSizes
    for (name, i) in numbers.zipIdx do line (set (i + 1) "unsigned int" name)
    if p.useBeta then
      let last := set (numbers.length + 1) type "beta"
      block s!"if (!betaZero) \x7b\n  {last}\n\x7d"
    line "cl_event kernelEventBetaOnly;"
    enqueueKernel "kernelBetaOnly" "globalWorkSizeBetaOnly" "localWorkSizeBetaOnly" "&kernelEventBetaOnly"
    higher
    line "tensileStatusCheck(status);"
    if p.useBeta then line ("beta = " ++ p.dataType.zero "OCL" 1 ++ ";")
    lines ["status = clFinish(stream);", "tensileStatusCheck(status);"]
  else
    line "try \x7b"
    deeper
    record "inputEvents" "0"
    launchKernel first "globalWorkSizeBetaOnly" "localWorkSizeBetaOnly"
      ([s.buf "dataD", "dataC"] ++ (if s.sums then s.sumStrides else s.strides.take n) ++
        (s.strides.drop n).take n ++ s.outSizes)
    line (if p.useBeta then "beta);" else "0.0f);")
    higher
    higher
    caught "    "

def axes : Texts := ["0", "1", "2"]

def trace : Sheet := do
  let cast := fun x => s!"static_cast<unsigned int>({x})"
  let values := listing ((["globalWorkSize[kernelIdx]", "localWorkSize"].flatMap fun a =>
    axes.map fun i => cast s!"{a}[{i}]"))
  line s!"printf(\"{s.launched}: g\x7b %u, %u, %u \x7d l\x7b %u, %u, %u\x7d\\n\", {values} );"
  for x in s.strides do line s!"printf(\"  {x} = %u\\n\", {x});"
  for i in upTo s.k.problem.allDims do
    let x := s!"sizes[kernelIdx][enqueueIdx][{i}]"
    line s!"printf(\"  {x} = %u\\n\", {x} );"
  line "printf(\"  staggerUIter == %u\\n\", staggerUIter );"
  for (x, form) in ["problemNumGroupTiles0", "problemNumGroupTiles1"].map (·, "u") ++ extents.map (·, "lu") do
    line s!"printf(\"  {x}== %{form}\\n\", {x} );"
  let magic := fun form c =>
    line (s!"printf(\"  magicNumberSize{c}== 0x%{form}, magicShiftSize{c}== %u)\\n\",  " ++
      s!"magicNumberSize{c}, magicShiftSize{c});")
  s.k.packedChars0.dropLast.forM (magic "lx")
  s.k.packedChars1.dropLast.forM (magic "x")
  line "printf(\"  magicNumberProblemNumGroupTiles0==%u\\n\", magicNumberProblemNumGroupTiles0);"

def launchSrc : Sheet := do
  let p := s.k.problem
  launchKernel s.launched "globalWorkSize[kernelIdx]" "localWorkSize"
    ([s.buf "dataD", s.buf "dataC", "dataA", "dataB", "alpha", if p.useBeta then "beta" else "//beta"] ++
      s.passedStrides)
  for i in upTo p.allDims do line (s!"sizes[kernelIdx][enqueueIdx][{i}]" ++ opt (i != p.allDims - 1) ",")
  for c in s.k.dividedSizes do lines [s!",static_cast<uint32_t>(magicNumberSize{c})", s!",magicShiftSize{c}"]
  lines [",staggerUIter", ",problemNumGroupTiles0", ",problemNumGroupTiles1", ",magicNumberProblemNumGroupTiles0", ");"]
  higher

def passArgs : Sheet := do
  let k := s.k
  let set := fun name value => line s!"hipFunctionArgs.{name} = {value};"
  for x in extents do set x x
  set "dataD" (s.buf "dataD")
  set "dataC" (s.buf "dataC")
  set "dataA" "dataA"
  set "dataB" "dataB"
  for x in "alpha" :: opt k.problem.useBeta ["beta"] do
    if k.problem.computeType.isHalf then
      set s!"{x}[0]" x
      set s!"{x}[1]" x
    else set x x
  for (x, v) in s.strides.zip s.passedStrides do set x v
  for i in upTo k.problem.allDims do set (s.size i) s!"sizes[kernelIdx][enqueueIdx][{i}]"
  for x in extents ++ ["staggerUIter"] do set x x
  raw "\n"
  for x in ["problemNumGroupTiles0", "problemNumGroupTiles1", "magicNumberProblemNumGroupTiles0"] do set x x
  set "gridNumWorkGroups0" "globalWorkSize[kernelIdx][0]"
  for x in ["numFullBlocks", "wgmRemainder1", "magicNumberWgmRemainder1"] do set x x
  for c in s.k.dividedSizes do
    set s!"magicNumberSize{c}" s!"static_cast<uint32_t>(magicNumberSize{c})"
    set s!"magicShiftSize{c}" s!"magicShiftSize{c}"

def debugBuf : Text :=
  "const unsigned int debugBufferElementsPerThread = 16;
unsigned int debugBufferNumElem = debugBufferElementsPerThread;\n" ++
  String.join (axes.map (s!"debugBufferNumElem *= max(1,globalWorkSize[kernelIdx][{·}]);\n") ++
    axes.map (s!"debugBufferNumElem *= localWorkSize[{·}];\n")) ++
  "  printf(\"debugBufferNumElem: %04i: \\n\", debugBufferNumElem);
size_t debugBufferSize = debugBufferNumElem * sizeof(unsigned int);
hipDevice_t device;
hipDeviceGet(&device, 0);
hipMalloc(&(hipFunctionArgs.debugBuffer), debugBufferSize);
unsigned int *debugBufferHostPtr = new unsigned int[debugBufferNumElem];
memset(debugBufferHostPtr,0,debugBufferSize);
hipMemcpyHtoD(hipFunctionArgs.debugBuffer, debugBufferHostPtr, debugBufferSize);
memset(debugBufferHostPtr,1,debugBufferSize);"

def printDebugBuf : Text :=
  "hipMemcpyDtoH(debugBufferHostPtr, hipFunctionArgs.debugBuffer, debugBufferSize);
for(unsigned int i = 0; i < debugBufferNumElem/debugBufferElementsPerThread; i++) \x7b
  printf(\"%04i\", i);
  char u[debugBufferElementsPerThread] = \x7b1,1,1,1,1,1,1,1,1,1,1,1,1,1,1,1\x7d;
  for(unsigned int j = 0; j < debugBufferElementsPerThread; j++) \x7b
 if (u[j]) printf(\",%4u\", debugBufferHostPtr[i*debugBufferElementsPerThread+j]);
 else printf(\",%4.0f\", ((float *)debugBufferHostPtr)[i*debugBufferElementsPerThread+j]);
  \x7d
  printf(\"\\n\");
\x7d"

def printBytes : Text :=
  "
            std::vector<char> tmp(hipFunctionArgsSize);
            memcpy(tmp.data(), &hipFunctionArgs, hipFunctionArgsSize);
            for(int i = 0; i < hipFunctionArgsSize; i++)
            \x7b
                if(i % 8 == 0) printf(\"\\n\");

                printf(\"%02hhx\", tmp[i]);
            \x7d
            printf(\"\\n\");
            "

def launchAsm : Sheet := do
  let debug <- flag DK
  if debug then block debugBuf
  passArgs s
  if <- flag LPD then raw printBytes
  lines ["kernelsLaunched++;", "hipExtModuleLaunchKernel("]
  deeper
  line "hipFunction,"
  for i in axes do line s!"globalWorkSize[kernelIdx][{i}]*localWorkSize[{i}],"
  for i in axes do line s!"localWorkSize[{i}],"
  lines ["0, // groupMemBytes", "stream,", "NULL,", "(void**)hipLaunchParams"]
  if <- flag "PreciseKernelTime" then
    line (if s.k.splits && !s.k.manyBufs then ",nullptr" else ",inputEvents ? inputEvents[enqueueIdx]:nullptr")
    line (if s.sums then ",nullptr" else ",outputEvent ? outputEvent[enqueueIdx]:nullptr")
  line ");"
  higher
  if debug then block printDebugBuf

def setArgs : Sheet := do
  let p := s.k.problem
  let type := p.dataType.traits.host
  let set := setArg "kernels[kernelIdx]"
  line "// kernel args same for all enqueues"
  for (name, i) in ["dataD", "dataC", "dataA", "dataB"].zipIdx do line (set i "cl_mem" name)
  line (set 4 type "alpha")
  line (opt (!p.useBeta) "//" ++ set 5 type "beta")
  let start := if p.useBeta then 6 else 5
  for (x, i) in s.strides.zipIdx do line (set (start + i) "unsigned int" x)
  let start := start + s.strides.length
  for i in List.range p.allDims.toNat do
    if !([p.idx0, p.index1, p.idxUnroll].contains i) then line (set (start + i) "unsigned int" (s.size i))
  line (set (start + p.allDims.toNat) "staggerUIter" "staggerUIter")

def enqueue : Sheet := do
  let p := s.k.problem
  let start := (if p.useBeta then 6 else 5) + s.strides.length
  for i in List.range p.allDims.toNat do
    if [p.idx0, p.index1, p.idxUnroll].contains i then
      line (setArg "kernels[kernelIdx]" (start + i) "unsigned int" (s.size i))
  enqueueKernel "kernels[kernelIdx]" "globalWorkSize[kernelIdx]" "localWorkSize" "outputEvent"
  line "tensileStatusCheck(status);"
  higher
  line "\x7d"

def launch : Sheet := do
  gapLine s!"/* kernel 0: {s.launched} */"
  line "unsigned int kernelIdx = 0;"
  if !s.hip then setArgs s
  line "for (unsigned int enqueueIdx = 0; enqueueIdx < numEnqueues[0]; enqueueIdx++) \x7b"
  deeper
  if <- flag LPD then trace s
  if !s.hip then enqueue s
  else
    let src := s.k.lang == "Source"
    let records := src || !(<- flag "PreciseKernelTime")
    if records then
      record "inputEvents" "enqueueIdx"
      deeper
    line "try \x7b"
    deeper
    if src then launchSrc s else launchAsm s
    higher
    caught "  "
    if records then record "outputEvent" "enqueueIdx"
    raw "  \x7d\n"
    higher

def addSums (helper : Text) : Sheet := do
  let n := s.numOutStrides
  let all := s.k.manyBufs
  line "// enqueue GSU third kernel"
  helperGrid "GlobalAccum" "localWorkSizeGlobalAccum[0]"
  line "try \x7b"
  deeper
  launchKernel helper "globalWorkSizeGlobalAccum" "localWorkSizeGlobalAccum"
    (["dataD", "workspace", "dataC", if all then "alpha" else "1",
      if all && s.k.problem.useBeta then "beta" else "0"] ++
      s.strides.take n ++ s.sumStrides ++ (s.strides.drop n).take n ++ s.outSizes)
  line s!"{if all then s.k.globalSplitU else 1});"
  higher
  record "outputEvent" "0"
  higher
  caught "  "

/-- `broken` says that the kernel was not built, and `params` shows those of the solution. -/
def function (broken : Bool) (params : Text) : Sheet := do
  if !(<- flag MF) then raw s!"#include \"{s.name}.h\"\n\n"
  raw (s.sig ++ " \x7b\n")
  if broken then
    let names := (Value.list [s.kernel]).shown
    line s!"  return tensileStatusFailure; // One or more kernels had build failures ({names})"
    line "\x7d"
    return
  deeper
  line "TensileStatus status;"
  if s.k.lang == "Assembly" then argStructure s
  if s.hip then lines ["int deviceId;", "hipGetDevice(&deviceId);"]
  findKernel s
  grid s
  sizes s
  if s.k.splits && !s.k.manyBufs then scaleOut s
  launch s
  if s.sums then for h in s.helpers do if h.kind == .convert then addSums s h.name
  raw s!"\n  return tensileStatusSuccess;\n\x7d\n\n/* Solution Parameters\n{params}*/\n\n"

def header : Sheet := do
  if !(<- flag MF) then
    raw "#pragma once\n\n#include \"TensileTypes.h\"\n#include \"SolutionHelper.h\"\n#include \"Tools.h\"\n\n"
    for name in s.kernel :: s.helpers.map (·.name) do raw s!"#include \"{name}.h\"\n"
    raw "\n"
  raw (s.sig true ++ ";\n\n\n")

end Launch

structure LaunchNaming where
  required : Naming.Required
  kernels : KernelNaming

namespace LaunchNaming

def ofSolutions (ss : Solutions) : Gen LaunchNaming := do
  return { required := <- Solution.requiredNames ss, kernels := <- KernelNaming.ofSolutions ss }

def site (n : LaunchNaming) (s : Solution) : Gen Launch.Site := do
  let k <- KernelSpec.ofSolution s
  let launched := if k.lang == "Source" then
    { s with state := s.state.set "ISA" (.list [0, 0, 0]) } else s
  return { (<- LaunchShape.ofProblem s.problem) with
           k, name := <- s.nameMin n.required
           kernel := <- n.kernels.name s, launched := <- n.kernels.name launched, helpers := s.helpers }

end LaunchNaming

end TensorForge
