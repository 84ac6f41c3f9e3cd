import TensorForge.Kernel.Source.Prelude
import TensorForge.Text.Formula

/-! # The head of a source kernel and its addresses -/

namespace TensorForge.SourceContext

variable (k : KernelSpec)

def strideNames : Texts :=
  let firstAB := if k.initStridesAB then 0 else 1
  let outs := ((upTo k.dimsC).drop (if k.initStridesCD then 0 else 1)).map k.idxChar
  outs.map ("strideD" ++ ·) ++ outs.map ("strideC" ++ ·) ++
    k.inputs.flatMap fun i => (i.assigns.drop firstAB).map ("stride" ++ i.char ++ k.idxChar ·)

def divParams : Texts :=
  let sums := k.dividedSums.flatMap fun x =>
    let both := fun suffix note =>
      [s!"unsigned magicNumberNumIter{x}{suffix} /*PSD{note}*/",
       s!"unsigned magicShiftNumIter{x}{suffix} /*PSD{note}*/"]
    both "" "" ++ opt (k.splits && x == k.unrollChar) (both "_GsuRemainder" " ")
  sums ++ k.dividedSizes.flatMap fun x => [s!"unsigned magicNumberSize{x}", s!"unsigned magicShiftSize{x}"]

def padParams : Texts :=
  k.summation.flatMap fun sum => k.inputs.flatMap fun i => i.zeroPad.flatMap fun z =>
    let name := i.char ++ k.plainChar z.free ++ k.idxChar z.sum
    opt (z.sum == sum) [s!"int padStart{name}", s!"int padEnd{name}"]

variable (c : SourceContext)

def sig : Text :=
  let k := c.spec
  let head :=
    if c.isOcl then c.lines ["__attribute__((reqd_work_group_size(NUM_THREADS,1,1)))"] ++ "__kernel "
    else "extern \"C\"\n__global__ "
  let space := opt (!c.isHip) "__global "
  let strided := k.stridedBatched || k.usesBufs
  let output := (if k.usesBufs then "float" else k.destType.device c.runtime) ++ opt (!strided) "*"
  let outBatch := opt (!strided) "Batch"
  let input := k.dataType.device c.runtime ++ opt (!k.stridedBatched) "*"
  let inputBatch := opt (!k.stridedBatched) "Batch"
  let compute := k.computeType.device c.runtime
  let params := [s!"{space}{output} *{outBatch}D", s!"{space}{output} const * {outBatch}C",
      s!"{space}{input} const * {inputBatch}A", s!"{space}{input} const * {inputBatch}B", s!"{compute} const alpha"] ++
    opt k.useBeta [s!"{compute} const beta"] ++ (strideNames k).map ("unsigned int const " ++ ·) ++
    (upTo k.allDims).map ("unsigned int size" ++ k.idxChar ·) ++ divParams k ++ padParams k ++
    ["unsigned int staggerUIterParm", "unsigned int problemNumGroupTiles0", "unsigned int problemNumGroupTiles1",
     "unsigned int offsetD", "unsigned int offsetC", "unsigned int offsetA", "unsigned int offsetB"]
  let list := ("," ++ c.eol).intercalate (params.map ("  " ++ ·))
  head ++ "void\n__launch_bounds__(256)\n" ++ c.name ++ "(" ++ c.eol ++ list ++ " )"

def header (banner : Text) : Text :=
  let head :=
    if c.mergeFiles then ""
    else banner ++ "#pragma once\n\n" ++
      if c.isHip then "#include <hip/hip_runtime.h>\n#include <hip/hip_fp16.h>\n#include <KernelHeader.h>\n\n"
      else "#include <string>\n"
  head ++ if c.isOcl then s!"extern const char * const {c.name}_src;\n" else c.sig ++ ";\n"

def beforeSig : Text :=
  opt c.isHip
      (c.lines ["#pragma clang diagnostic push", "#pragma clang diagnostic ignored \"-Wunused-parameter\""])

def afterSig : Text := opt c.isHip (c.lines ["", "#pragma clang diagnostic pop"])

def zeroDefs : Text :=
  let zero :=
    if c.dataType.isHalf && c.vecWidth > 1 && (c.loopTail || c.edge == "Branch") then "0"
    else if c.destType.isBFloat16 then "0.0f"
    else c.dataType.zero c.runtime 1
  let outside := if c.highPrec && c.dataType.isBFloat16 then "static_cast<tensile_bfloat16>(0.0f)" else "SCALAR_ZERO"
  c.lines ["#define SCALAR_ZERO " ++ zero, "#define SCALAR_OOB_DATA " ++ outside]

def regs (c : SourceContext) : Text :=
  let sum := if c.highPrec && c.dataType.isNarrow then "float" else "DEST_DATA_TYPE"
  let twice := opt (c.prefetchLocalRead != 0) "*2"
  let loads := fun i => (LoadSite.components i).map fun l => s!"  DATA_TYPE {i.lower}{l.suffix};"
  c.lines (["  /* registers for MAC's */", s!"  {sum} rC[TT{c.t0}*TT{c.t1}];",
      s!"  DATA_TYPE rA[TT{c.a.tileChar}{twice}];", s!"  DATA_TYPE rB[TT{c.b.tileChar}{twice}];",
      "", "  /* registers for global->local */"] ++ loads c.a ++ loads c.b ++
    opt c.dataType.isHalf ["", "  /* allocate tensile_half2 memory */", "  tensile_half2 a_pk_fma;",
        "  tensile_half2 b_pk_fma;", "  tensile_half2 c_pk_fma;"])

def ptrs : Text :=
  let batches :=
    if c.stridedBatched then []
    else ["", s!"  unsigned int wg = {c.groupId}(2);"] ++ (if c.usesBufs then []
       else ["  DEST_DATA_TYPE      * D = BatchD[wg];", "  DEST_DATA_TYPE const* C = BatchC[wg];"]) ++
      ["  DATA_TYPE      const* A = BatchA[wg];", "  DATA_TYPE      const* B = BatchB[wg];"]
  c.lines (["", "  /* allocate local memory */",
      s!"  {c.sharedDecl}DATA_TYPE localMemory[LDS_NUM_ELEMENTS];"] ++ batches ++ [""] ++
    opt (!c.usesBufs) ["  D = D + offsetD;", "  C = C + offsetC;"] ++
    ["  A = A + offsetA;", "  B = B + offsetB;"])

def divStructs : Text :=
  let k := c.spec
  let sums := k.dividedSums.map fun x => ("magicStruct" ++ x, "NumIter" ++ x)
  let remainder := opt (k.packSum && k.splits && !sums.isEmpty)
      [(s!"magicStruct{c.u}_GsuRemainder", s!"NumIter{c.u}_GsuRemainder")]
  let sizes := k.dividedSizes.map fun x => ("magicStruct" ++ x, "Size" ++ x)
  c.lines (["", "  typedef struct MagicStruct \x7bunsigned M; int a; int s;\x7d MagicStruct;",
      "  const unsigned MAGIC_STRUCT_A = 0x80000000; // for extracting a-bit from shift kernarg",
      "#define MAGIC_DIV2(dividend, magic) " ++
        "(((((uint64_t)(dividend) * magic.M) >> 32) + dividend*magic.a) >> magic.s)"] ++
    (sums ++ remainder ++ sizes).flatMap fun (struct, name) =>
      ["", s!"  MagicStruct {struct};", s!"  {struct}.M = magicNumber{name};",
       s!"  {struct}.a = (magicShift{name} & MAGIC_STRUCT_A) ? 1:0;",
       s!"  {struct}.s = magicShift{name} & (~MAGIC_STRUCT_A);"])

def resources : Text :=
  c.lines [s!"  unsigned int serial = {c.localId}(0);", s!"  unsigned int sgId = serial / (SG{c.t0}*SG{c.t1});"] ++
    c.zeroDefs ++ c.regs ++ c.ptrs ++ opt (c.magicDivAlg == 2) c.divStructs

/-! ## Addresses -/

open LoadSite

def openPersistLoop : Text :=
  if c.persistKernel == 0 then "" else
  let along := opt c.alongBatch "\n  unsigned int wgKSerial;\n  unsigned int wgIJSerial;"
  c.block s!"  {c.uint64} serialWgIter = {c.groupId}(0);
  unsigned int nwg{c.t0} = problemNumGroupTiles0;
  unsigned int nwg{c.t1} = problemNumGroupTiles1;
  unsigned int wg{c.t0};
  unsigned int wg{c.t1};{along}

while (1) \x7b // persistent loop "

def persistGroup : Text :=
  let place := fun serial =>
    s!"\n  wg{c.t0}  = {serial} % problemNumGroupTiles0;\n  wg{c.t1}  = {serial} / problemNumGroupTiles0;"
  "  unsigned int numWGIJ = problemNumGroupTiles0*problemNumGroupTiles1;\n" ++
  if c.alongBatch then
    "  if (serialWgIter >= numWGIJ * sizeK) break; // persistent loop
  wgKSerial  = serialWgIter / numWGIJ;
  wgIJSerial  = serialWgIter % numWGIJ;" ++ place "wgIJSerial" ++
    if c.stridedBatched then ""
    else opt (!c.usesBufs) "\n  D = BatchD[wgKSerial] + offsetD;\n  C = BatchC[wgKSerial] + offsetC;" ++
      "\n  A = BatchA[wgKSerial] + offsetA;\n  B = BatchB[wgKSerial] + offsetB;"
  else
    "  if (serialWgIter >= numWGIJ" ++ opt c.splits " * GLOBAL_SPLITU" ++ ") break; // persistent loop" ++ place "serialWgIter"

def plainGroup : Text :=
  let n0 := if c.workGroupMapping >= 0 then 0 else 1
  let n1 := 1 - n0
  s!"  unsigned int wg{c.t0} = {c.groupId}({n0});
  unsigned int wg{c.t1} = {c.groupId}({n1});
  unsigned int nwg{c.t0} = {c.numGroups}({n0});
  unsigned int nwg{c.t1} = {c.numGroups}({n1});" ++ opt c.splits s!"\n  nwg{c.t1} /= GLOBAL_SPLITU;"

def splitGroup : Text :=
  let wg1 := "wg" ++ c.t1
  opt c.splits ("\n  unsigned int gsuSumIdx;\n  " ++
    if c.splitMapRoundRobin then s!"gsuSumIdx = {wg1} / n{wg1};\n  {wg1} = {wg1} % n{wg1};"
    else s!"gsuSumIdx = {wg1} % GLOBAL_SPLITU;\n  {wg1} = {wg1} / GLOBAL_SPLITU;")

def groupMapping : Formula := .var "WORK_GROUP_MAPPING"

/-- The number of a work group in its block, the block, and the groups in its rows if it is cut. -/
def blockParts : List Assignment :=
  let wg1 := .var ("wg" ++ c.t1)
  let nwg1 := .var ("nwg" ++ c.t1)
  let cut := .op nwg1 .mod groupMapping
  [{ name := "wgSerial", wide := true
     value := .op (.var ("wg" ++ c.t0)) .add (.op (.paren (.op wg1 .mod groupMapping)) .mul (.var ("nwg" ++ c.t0))) },
   { name := "block", value := .op wg1 .div groupMapping },
   { name := "blockRemainder"
     value := .choice (.paren (.op wg1 .less (.op nwg1 .sub (.paren cut) true)) " )") (.num 0) cut }]

/-- If the rows have `r` groups or, for 0, all. -/
def blockCase (r : Nat) : Option Formula × List Assignment :=
  let width := c.workGroupMapping.natAbs
  let serial := .var "wgSerial" true
  let w := .num (if r == 0 then width else r)
  (if r + 1 < width then some (.op (.var "blockRemainder") .same (.num r)) else none,
   [{ name := "wg" ++ c.t0, value := .op serial .div w },
    { name := "wg" ++ c.t1, value := .op (.op serial .mod w) .add (.op (.var "block") .mul groupMapping true) }])

def blockCases : List (Option Formula × List Assignment) := (List.range c.workGroupMapping.natAbs).map c.blockCase

def blockMapping : Text :=
  let declared := c.blockParts.map fun a =>
    let type := if a.wide then c.uint64 else "unsigned int"
    s!"  {type} {a.text}" ++ opt a.wide "// within block"
  let cases := c.blockCases.map fun (test, set) =>
    (test.map fun f => s!"if ( {f.text}) ").getD "" ++ c.lines ("\x7b" :: set.map ("    " ++ ·.text)) ++ "  \x7d"
  c.lines ("" :: declared) ++ "  " ++ " else ".intercalate cases ++ c.eol

def curveMap : Gen Text := do
  let wg0 := "wg" ++ c.t0
  let wg1 := "wg" ++ c.t1
  let size := fun n t => s!"  unsigned int nwg{n} = (size{t} + MT{t} - 1) / MT{t};\n"
  let sizes := size 0 c.t0 ++ size 1 c.t1
  match c.workGroupMapping.natAbs with
  | 1 => return c.block s!"{sizes}  generalized_z_order(&{wg0}, &{wg1}, {wg0}, {wg1}, 0, nwg0, nwg1);"
  | 2 =>
    let n := if c.workGroupMapping >= 0 then wg0 else wg1
    return c.block s!"{sizes}  unsigned int wgSerial = {wg0} + {wg1} * n{n};
  z_order(&{wg0}, &{wg1}, wgSerial);
  if ({wg0} >= nwg0 || {wg1} >= nwg1) return; // wg mapped out of bounds after z-ordering"
  | _ => .fatal s!"WorkGroupMappingType=Z and WorkGroupMapping={c.workGroupMapping} not supported"

def groups : Gen Text := do
  let mapping <-
    if c.mapType == "B" && c.workGroupMapping.natAbs > 1 then pure c.blockMapping
    else if c.mapType == "Z" then c.curveMap
    else pure ""
  return c.block ((if c.persist then c.persistGroup else c.plainGroup) ++ c.splitGroup) ++ mapping

variable (i : Input)

def threadPart (along : Bool) : Text :=
  let op := if (i.coalesceGroup == i.tlu) == along then "%" else "/"
  let wide := opt ((i.coalesceVec == i.tlu) == along) ("*GLOBAL_LOAD_VECTOR_WIDTH_" ++ i.char)
  s!"(serial{op}{i.divisorName}){wide}"

def tileAssign : Text :=
  let part := threadPart i true
  let t := i.tileChar
  c.lines [s!"  unsigned int {i.offset}{t} = {part} + (wg{t})*MT{t};"]

def mirrorsUnroll : Bool := i.mirrored.contains (c.sumIdx c.unrollIdx)

def unrollAssign : Text :=
  let mirror := opt (c.mirrorsUnroll i) s!"size{c.u} - 1 - "
  let part := threadPart i false
  let split := opt c.splits
      ((if c.splitRoundRobin then " + LOCAL_DEPTHU*" else s!" + (size{c.u}/GLOBAL_SPLITU)*") ++ "gsuSumIdx")
  c.lines [s!"  unsigned int {i.offset}{c.u} = {mirror}{part}{split};"]

def otherFreeAssigns : Text :=
  if c.persist && c.alongBatch then c.lines ["  unsigned int wgK = wgKSerial % sizeK;"]
  else
    let others := (upTo c.dimsC).filter fun i => i != c.idx0 && i != c.index1
    c.lines (others.zipIdx.filterMap fun (index, n) =>
      if c.isPacked index then none else
      let later := (others.drop (n + 1)).reverse.map (" / size" ++ c.idxChar ·)
      let x := c.idxChar index
      some (s!"  unsigned int wg{x} = ( {c.groupId}(2)" ++ String.join later ++ s!" ) % size{x};"))

def otherSumAssigns : Text :=
  c.lines ((upTo c.otherSums).flatMap fun n => c.inputs.map fun i =>
    let index := n + c.dimsC
    let x := c.idxChar index
    if i.mirrored.contains index then s!"unsigned int {i.offset}{x} = size{x} - 1;"
    else s!"#define {i.offset}{x} 0")

def magicQuotient (src : Text) (last : Int) : Text :=
  let plain := c.plainChar last
  if c.magicDivAlg == 1 then s!"MAGIC_DIV1({src}, magicNumberSize{plain}, magicShiftSize{plain});"
  else s!"MAGIC_DIV2({src}, magicStruct{plain});"

/-- With the one before it, from which it is taken. -/
def inTurn (packed : Ints) (f : Int -> Option Int -> Texts) : Texts :=
  (packed.zip (none :: packed.map some)).flatMap fun (x, last) => f x last

def extractIdx (target src : Text) (last : Int) : Texts :=
  let x := c.idxChar last
  if c.magicDivAlg == 0 then
    [s!"  unsigned int {target} = {src} / size{x}; // extract packed index", s!"  {src} %= size{x};"]
  else
    opt ([1, 2].contains c.magicDivAlg) [s!"  unsigned int {target} = {c.magicQuotient src last}"] ++
      [s!"  {src} -= ({target}*size{x});"]

def packedOffs (flat suffix : Text) : Texts :=
  let name := fun x => s!"{i.offset}{c.idxChar x}{suffix}"
  inTurn (i.assigns.filter fun x => x < c.dimsC && c.isPacked x i.packBatch) fun x last =>
    last.elim [s!"  unsigned int {name x} = {flat};"] fun l => c.extractIdx (name x) (name l) l

def tileSizes : Texts := i.packedIdxs.map ("size" ++ c.idxChar ·)

def tileSites : List (Int × Int) :=
  (upTo i.readsTile).flatMap fun l => (upTo (if i.contig then 1 else i.readsTileVec)).map fun s => (l, s)

def tileOffs : Text :=
  let size := " * ".intercalate (c.tileSizes i)
  let stride := (if i.tlu then "LSC" else "LSP") ++ i.char
  c.lines ((tileSites i).flatMap fun (l, s) =>
    let suffix := s!"_{l}_{s}"
    let flat := s!"flattenedOffset{i.char}{suffix}"
    [s!"  unsigned int {flat} = {i.offset}{i.tileChar} + {s} + {l}*{stride};",
     s!"  {flat} = ({flat} > ({size}-1)) ? ({size}-1):{flat};"] ++ c.packedOffs i flat suffix)

def unrollOffs : Text :=
  let sign := if c.mirrorsUnroll i then "-" else "+"
  let stride := (if i.tlu then "LSP" else "LSC") ++ i.char
  let name := s!"{i.offset}{c.u}"
  c.lines ((upTo i.readsUnroll).flatMap fun l =>
    (upTo (if i.contig then 1 else c.vecWidth)).map fun s =>
      s!"  unsigned int {name}_{l}_{s} = {name} + {s} {sign} {l}*{stride};")

def boundsChecks : Text :=
  let vector := opt i.readTileParts " + (VECTOR_WIDTH-1)"
  c.lines ((upTo i.readsTile).map fun l =>
    s!"  bool inBounds{i.char}_{l} = ({i.offset}{i.tileChar}_{l}_0{vector}) < size{i.tileChar};")

def shiftOffs : Text :=
  c.lines ((tileSites i).map fun (l, s) =>
    let name := s!"{i.offset}{i.tileChar}_{l}_{s}"
    let limit := s!"size{i.tileChar}-" ++ if i.readTileVec then s!"GLOBAL_LOAD_VECTOR_WIDTH_{i.char}+{s}" else "1"
    s!"  {name} = (  {name} > {limit}) ? {limit} : {name};")

def idxPos (l : LoadSite) (index : Int) : Text :=
  let x := c.idxChar index
  let tile := l.tileSuffix i
  if index < c.dimsC then
    if index == i.tileIdx then s!"({i.offset}{i.tileChar}{tile})"
    else if c.isPacked index then
      if c.batch.contains index && i.packBatch == 0 then "0" else s!"({i.offset}{x}{tile})"
    else if c.stridedBatched then "wg" ++ x
    else "0"
  else if index == c.idxUnroll then
    let unroll := l.unrollSuffix i
    s!"({i.offset}{c.u}{unroll})"
  else s!"({i.offset}{x})"

def padOff (l : LoadSite) (name : Text) (z : ZeroPad) : Texts :=
  let free := c.idxChar z.free
  let sum := c.idxChar z.sum
  let plain := c.plainChar z.free
  let pad := s!"padStart{i.char}{plain}{sum}"
  let tile := l.tileSuffix i
  let freeOff := s!"{i.offset}{free}{tile}"
  let sumOff := s!"{i.offset}{sum}" ++ opt (z.sum == c.idxUnroll) (l.unrollSuffix i)
  [s!"{c.indent}{name} -= {pad};",
   s!"{c.indent}unsigned {name}_ZP{plain}{sum} =  {freeOff}*stride{i.char}{free} + " ++
     s!"{sumOff}*stride{i.char}{sum} - {pad};"]

def finalOffs : Text :=
  c.lines ((addressed i).flatMap fun l =>
    let name := s!"{i.offset}{l.suffix}"
    let positions := listing (i.assigns.map (c.idxPos i l))
    s!"  {c.int64} {name} = GLOBAL_OFFSET_{i.char}( {positions} );" ::
      i.zeroPad.flatMap (c.padOff i l name))

def addrs : Text :=
  c.lines ((addressed i).map fun l =>
    s!"  {c.globalPtr}DATA_TYPE const *globalRead{i.char}{l.suffix} = {i.char} + {i.offset}{l.suffix};")

def splitIters (src target : Text) (hidden : Bool) : Text :=
  opt hidden (c.row "\x7b") ++
    (if hidden then c.deeper else c).rows [s!"unsigned int numIterMyWg = {src} / GLOBAL_SPLITU;",
      s!"unsigned int numIterPerWgRemainder = {src} % GLOBAL_SPLITU;",
      "if (gsuSumIdx < numIterPerWgRemainder) \x7b", "  numIterMyWg ++;", "\x7d", target ++ " = numIterMyWg;"] ++
    opt hidden (c.row "\x7d")

def increments (loop : Int) (i : Input) : Text :=
  let x := c.sumChar loop
  let wide := c.int64
  let sign := opt (i.mirrored.contains (c.sumIdx loop)) "-"
  let decl := s!"{c.indent}{wide} globalReadInc{i.char}{x} = {sign}({wide})stride{i.char}{x}"
  let next := c.sumChar (loop + 1)
  let back := if i.mirrored.contains (c.sumIdx (loop + 1)) then "+" else "-"
  let text :=
    if loop == c.unrollIdx then
      decl ++ opt (!c.packSum) "*LOCAL_DEPTHU" ++ opt (c.splits && c.splitRoundRobin) "*GLOBAL_SPLITU"
    else if c.packSum then decl
    else if loop + 1 == c.unrollIdx then
      if c.splits then
        let count := s!"incNumIter{c.u}_{i.char}"
        c.row s!"unsigned int {count} = size{next}/LOCAL_DEPTHU;" ++ c.splitIters count count true ++ decl ++
          s!" {back} stride{i.char}{next}*({count}*GLOBAL_SPLITU)*LOCAL_DEPTHU"
      else decl ++ s!" {back} stride{i.char}{next}*(size{next}/LOCAL_DEPTHU)*LOCAL_DEPTHU"
    else decl ++ s!" {back} stride{i.char}{next}*(size{next})"
  text ++ ";" ++ c.eol

def writeTileAssign : Text :=
  let part := threadPart i true
  c.comment s!"local write addresses: tile assignment {i.char}" ++
    c.lines [s!"  unsigned int lw{i.char}{i.tileChar} = {part};"]

def writeUnrollAssign : Text :=
  let part := threadPart i false
  c.comment s!"local write addresses: unroll assignment {i.char}" ++
    c.lines [s!"  unsigned int lw{i.char}{c.u} = {part};"]

def localBase : Text := opt (!i.isA) " + LDS_OFFSET_B"

def writeFirstOff : Text :=
  let base := localBase i
  let x := i.char
  let t := i.tileChar
  c.lines [s!"  unsigned int localWriteFirstOffset{x} = lw{x}{t} + lw{x}{c.u}*(MT{t}+PAD){base};"]

def writeFinalOffs : Text :=
  let x := i.char
  let row := s!"*(MT{i.tileChar}+PAD)"
  c.comment s!"local write addresses: final offsets {x}" ++ c.lines ((stores i).map fun l =>
      let (first, second) := l.inMemory i
      s!"  unsigned int localWriteOffset{x}{l.suffix} = localWriteFirstOffset{x} + " ++
        s!"({first} + {l.para}*LSC{x})" ++ opt (!i.tlu) row ++
        s!" + ({second} + {l.perp}*LSP{x})" ++ opt i.tlu row ++ ";")

def writeAddrs : Text :=
  c.comment s!"local write addresses: declare addresses {i.char}" ++ c.lines ((stores i).map fun l =>
      s!"  {c.sharedPtr}DATA_TYPE *localWrite{i.char}{l.suffix};")

def readTileAssign : Text :=
  c.lines [s!"  unsigned int lr{c.side0.tileChar} = (serial % SG{c.t0});",
    s!"  unsigned int lr{c.side1.tileChar} = (serial / SG{c.t0}) % SG{c.t1};"]

def readFinalOff : Text :=
  let base := localBase i
  let t := i.tileChar
  c.lines [s!"  unsigned int localReadOffset{i.char} = lr{t}*VECTOR_WIDTH + sgId*(MT{t}+PAD){base};"]

def readAddr : Text := c.lines [s!"  {c.sharedPtr}DATA_TYPE *localRead{i.char};"]

end TensorForge.SourceContext
