import TensorForge.Kernel.Spec

/-! # Dialects of the kernel language and the definitions before a source kernel -/

namespace TensorForge

open Text

structure Dialect where
  (runtime eol : Text)
  /-- What ends a line of a definition that goes on. -/
  (continued groupId numGroups localId sharedDecl sharedPtr globalPtr barrier fence int64 : Text)
  (uint64 atomicCas volatile deviceFn : Text)

namespace Dialect

def ocl : Dialect where
  runtime := "OCL"
  eol := "\\n\"\n\""
  continued := "\\\\\\n\"\n\""
  groupId := "get_group_id"
  numGroups := "get_num_groups"
  localId := "get_local_id"
  sharedDecl := "__local "
  sharedPtr := "__local "
  globalPtr := "__global "
  barrier := "barrier(CLK_LOCAL_MEM_FENCE);"
  fence := "mem_fence(CLK_LOCAL_MEM_FENCE);"
  int64 := "long"
  uint64 := "unsigned long"
  atomicCas := "atomic_cmpxchg"
  volatile := "volatile "
  deviceFn := ""

def hip : Dialect where
  runtime := "HIP"
  eol := "\n"
  continued := "\\\n"
  groupId := "hc_get_group_id"
  numGroups := "hc_get_num_groups"
  localId := "hc_get_workitem_id"
  sharedDecl := "__shared__ "
  sharedPtr := ""
  globalPtr := ""
  barrier := "__syncthreads();"
  fence := "__syncthreads();"
  int64 := "int64_t"
  uint64 := "uint64_t"
  atomicCas := "atomicCAS"
  volatile := ""
  deviceFn := "__device__ "

def ofLang (runtime : Text) : Dialect := if runtime == "OCL" then ocl else { hip with runtime }
def isOcl (d : Dialect) : Bool := d.runtime == "OCL"
def isHip (d : Dialect) : Bool := d.runtime == "HIP"

end Dialect

/-!
## Writing kernels as source text

`SourceContext` holds what every piece of a kernel needs to know, the pieces so far, and what later pieces depend on:
the indentation, the iterators that have been declared and the size expressions of the two tile dimensions.
-/

structure SourceContext extends spec : KernelSpec, dialect : Dialect where
  (name fileBase : Text)
  (mergeFiles nativeAtomics : Bool)
  indent : Text := "  "
  declared : Texts := []
  (sizesA sizesB : Option Texts := none)
  pieces : Array Text := #[]
  stringIdx : Nat := 0

abbrev SrcWriter := StateT SourceContext Gen
abbrev SrcCode := SrcWriter Unit

namespace SourceContext

variable (c : SourceContext)

def lines (ls : Texts) : Text := ls.foldl (fun acc l => acc ++ l ++ c.eol) ""
def block (text : Text) : Text := c.lines (text.splitOn "\n")
def rows (ls : Texts) : Text := c.lines (ls.map (c.indent ++ ·))
def row (l : Text) : Text := c.rows [l]

variable (text : Text)

def comment1 : Text := c.indent ++ "/* " ++ text ++ " */" ++ c.eol
def comment : Text := c.eol ++ c.comment1 text

def comment3 : Text :=
  let rule := c.indent ++ "/******************************************/" ++ c.eol
  let rows := (text.splitOn "\n").map (c.indent ++ "/* " ++ padRight 38 · ++ " */" ++ c.eol)
  c.eol ++ rule ++ .join rows ++ rule

def deeper : SourceContext := { c with indent := c.indent ++ "  " }
def shallower : SourceContext := { c with indent := drop 2 c.indent }
def t0 : Text := c.tileChar0
def t1 : Text := c.tileChar1
def u : Text := c.unrollChar

end SourceContext

namespace SrcWriter

def put (f : SourceContext -> Text) : SrcCode := modify fun c => { c with pieces := c.pieces.push (f c) }
def comment (text : Text) : SrcCode := put (·.comment text)
def comment3 (text : Text) : SrcCode := put (·.comment3 text)

end SrcWriter

/-- Position and component along the coalesced dimension and across it. -/
structure LoadSite where
  (para sPara perp sPerp : Int)

namespace LoadSite

variable (l : LoadSite)

def suffix : Text := s!"_{l.para}_{l.sPara}_{l.perp}_{l.sPerp}"

variable (i : Input)

def all (perpVec paraVec : Int) : List LoadSite :=
  (upTo i.loadsPerp).flatMap fun perp =>
    (upTo perpVec).flatMap fun sPerp =>
      (upTo i.loadsCoal).flatMap fun para => (upTo paraVec).map fun sPara => ⟨para, sPara, perp, sPerp⟩

def addressed : List LoadSite := all i i.readsPerpVec i.addressedVec
def components : List LoadSite := all i i.readsPerpVec i.readsCoalVec
def stores : List LoadSite := all i i.writesPerpVec 1
def tileSuffix : Text := if i.tlu then s!"_{l.para}_{l.sPara}" else s!"_{l.perp}_{l.sPerp}"
def unrollSuffix : Text := if i.tlu then s!"_{l.perp}_{l.sPerp}" else s!"_{l.para}_{l.sPara}"
def inMemory (i : Input) : Int × Int := if i.tlu then (l.sPara, l.sPerp) else (l.sPerp, l.sPara)

end LoadSite

/-! ## Definitions -/

namespace SourceContext

variable (c : SourceContext)

def tileDefs : Text :=
  let t0 := c.t0
  let t1 := c.t1
  let threads := padLeft ' ' 3 (toString c.numThreads)
  let define := fun (text : Text) => c.lines ((text.splitOn "\n").map ("#define " ++ ·))
  let split := opt c.splits s!"\nGLOBAL_SPLITU {c.globalSplitU}"
  let sizes := fun (i : Input) =>
    let x := i.char
    let tile := "MT" ++ i.tileChar
    let unroll := "LOCAL_DEPTHU"
    let (coal, perp) := if i.tlu then (tile, unroll) else (unroll, tile)
    s!"LSC{x} ({coal}/NLC{x})\nLSP{x} ({perp}/NLP{x})\n"
  let block := c.a.ldsOffBlk.elim "" fun n => opt c.prefetches s!"\nLDS_OFFSET_BLK {n}"
  c.block "\n\n/* tile parameters */" ++ define s!"NUM_THREADS {threads}
SG{t0} {c.subGroup0}
SG{t1} {c.subGroup1}
TT{t0} {c.threadTile0}
TT{t1} {c.threadTile1}
MT{t0} (SG{t0}*TT{t0})
MT{t1} (SG{t1}*TT{t1})
VECTOR_WIDTH {c.vecWidth}
GLOBAL_LOAD_VECTOR_WIDTH_A {c.a.loadWidth}
GLOBAL_LOAD_VECTOR_WIDTH_B {c.b.loadWidth}
GLOBAL_WRITE_VECTOR_WIDTH {c.writeVecWidth}" ++
    c.block "\n/* DepthU parameters*/" ++ define s!"CPSV (NUM_THREADS / MT{t0} * VECTOR_WIDTH)
LOCAL_SPLITU {c.localSplitU}
UNROLL {c.loopUnroll}
LOCAL_DEPTHU (LOCAL_SPLITU*UNROLL){split}" ++
    c.block "\n/* other */" ++ define s!"PAD {c.a.ldsPad}\nWORK_GROUP_MAPPING {c.workGroupMapping.natAbs}" ++
    c.block "\n/* num loads parallel and perpendicular to coalesced */" ++ define s!"NLCA {c.a.loadsCoal}
NLCB {c.b.loadsCoal}
NLPA {c.a.loadsPerp}
NLPB {c.b.loadsPerp}" ++
    c.block "\n/* load sizes parallel and perpendicular to coalesced */" ++
    define (sizes c.a ++ sizes c.b ++ s!"LVCA (LSCA/GLOBAL_LOAD_VECTOR_WIDTH_A)
LVCB (LSCB/GLOBAL_LOAD_VECTOR_WIDTH_B)
LVPA (LSPA/GLOBAL_LOAD_VECTOR_WIDTH_A)
LVPB (LSPB/GLOBAL_LOAD_VECTOR_WIDTH_B)
LDS_OFFSET_B {c.b.ldsOff}
LDS_NUM_ELEMENTS {c.ldsNumElems}{block}")

/-- Each moves half of the kept bits next to the other half. -/
def zSteps : List (Nat × Nat) :=
  [(0, 0x55555555), (1, 0x33333333), (2, 0x0f0f0f0f), (4, 0x00ff00ff), (8, 0x0000ffff)]

/-- Together they copy the highest bit to all below it. -/
def smears : Nats := [1, 2, 4, 8, 16]

/-- A line with an `@` stands for two, one for each coordinate. -/
def zOrderFunctions : Text :=
  let device := c.deviceFn
  let both := fun s => if s.contains "@" then ["0", "1"].map (replace s "@" ·) else [s]
  let step := fun (n, mask) =>
    opt (n != 0) s!"  *z@ |= ( (*z@) >> {n} );\n" ++ "  *z@ &= 0x" ++ padLeft '0' 8 (hexDigits mask) ++ ";\n"
  let smear := fun n => s!"  pow2 = pow2 | (pow2 >> {n});\n"
  let text := s!"\n#ifndef Z_ORDER_FUNCTIONS\n#define Z_ORDER_FUNCTIONS\n{device}void z_order(
    unsigned int *z@, // 16-bits output
    unsigned int serial ) \x7b // 32-bits input
  *z0 = serial;
  *z1 = (serial >> 1);
{String.join (zSteps.map step)}\x7d

{device}unsigned int round_down_power_of_2( unsigned int d0, unsigned int d1) \x7b
  unsigned int pow2 = min(d0, d1);
{String.join (smears.map smear)}  pow2 = pow2 - (pow2 >> 1);
  return pow2;
\x7d

{device}void generalized_z_order(
    unsigned int *z@,
    unsigned int d@,
    unsigned int maxPow2,
    unsigned int max0,
    unsigned int max1 ) \x7b
  if (! maxPow2) maxPow2 = round_down_power_of_2( max0, max1 );
  // determine which tile wg is in and relative coord in tile
  unsigned int offset@ = 0; // coord of tile
  unsigned int start@ = 0;
  unsigned int tile = maxPow2;
  unsigned int tilem1 = tile - 1;
  for ( unsigned int i = 0; i < 16; i++ ) \x7b
    start@ = d@ & ~tilem1; // (d@ / tile) * tile;
    offset0 |= start0; // +=
    offset1 |= start1;
    d0 &= ~start0; // -=
    d1 &= ~start1;
    unsigned int end0 = start0 + tile; // cant be | b/c evals to 0+4->4 or 4+4->8
    unsigned int end1 = start1 + tile;
    if ( end0 <= max0 && end1 <= max1 ) break; // both end and max can be non-pow2
    max0 -= start0; // cant be &~ b/c max0 doesnt necessarily have multiple of start0 to turn off
    max1 -= start1;
    tile >>= 1;
    tilem1 >>= 1;
  \x7d
  // d0, d1 is relative coord within tile

  // z-order relative coord
  unsigned int serial = d0 + d1 * tile;
  z_order( z0, z1, serial );
  // add tile offset onto z-ordered index
  *z@ |= offset@;
\x7d\n#endif"
  let odd := "  *z0 &= 0x0f0f0f0f;"
  c.lines (((text.splitOn "\n").flatMap both).map fun s => if s == odd then odd ++ " " else s)

def offDef (name tensor : Text) (chars : Texts) (more : Text) : Text :=
  let params := listing (chars.map ("IDX" ++ ·))
  let terms := " + ".intercalate (chars.map fun x => s!"(IDX{x})*stride{tensor}{x}")
  c.lines [s!"#define {name}({params}) (( {terms}{more} ))"]

def offDefs : Text :=
  let outs := (upTo c.dimsC).map c.idxChar
  let buf := opt c.manyBufs " + (gsuSumIdx)*strideW"
  c.lines ["", "/* global memory indices */"] ++ c.offDef "GLOBAL_D" "D" outs buf ++
    c.offDef "GLOBAL_C" "C" outs "" ++
    c.offDef "GLOBAL_OFFSET_A" "A" (c.a.assigns.map c.idxChar) "" ++
    c.offDef "GLOBAL_OFFSET_B" "B" (c.b.assigns.map c.idxChar) ""

def typeDefs : Text :=
  let device := fun t => t.device c.runtime
  c.lines (["", "/* data types */", "#define DATA_TYPE " ++ device c.dataType,
    "#define DEST_DATA_TYPE " ++ device c.destType, "#define COMPUTE_DATA_TYPE " ++ device c.computeType] ++
    opt (c.isHip && c.dataType.isComplex) ["#define s0 x", "#define s1 y"])

def nativeAtomic (type : Text) : Text :=
  s!"__device__ inline {type} atomicAddType({type} *fPtr, {type} operand)\n\x7b\n  return atomicAdd(fPtr,operand);\n\x7d\n"

def atomicFunctions : Text :=
  let ptr := c.volatile ++ c.globalPtr
  let body :=
    if c.isOcl then
      s!"typedef union \x7b
  unsigned int ui;
  float f;
\x7d AtomicFloat;

void atomicAddType({ptr}float *fPtr, float operand) \x7b
  AtomicFloat newVal;
  AtomicFloat prevVal;
  {ptr}unsigned int *uPtr = ({ptr}unsigned int *)fPtr;
  unsigned int prevReturn = *uPtr;
  do \x7b
    prevVal.ui = prevReturn;
    newVal.f = prevVal.f + operand;
    prevReturn = {c.atomicCas}(uPtr, prevVal.ui, newVal.ui);
  \x7d while (prevVal.ui != prevReturn);
\x7d"
    else if c.nativeAtomics then
      "\n" ++ "\n".intercalate (["int", "unsigned int", "unsigned long long int", "float", "double"].map nativeAtomic)
    else
      s!"
template <typename T>
__device__ inline void atomicAddType({ptr}T *fPtr, T operand) \x7b
  std::atomic<T> *aPtr = reinterpret_cast<std::atomic<T>*>(fPtr);
  T oldValue, newValue;
  oldValue = aPtr->load(std::memory_order_relaxed);
  do \x7b
    newValue = oldValue + operand;
  \x7d while ( !std::atomic_compare_exchange_weak_explicit(aPtr, &oldValue, newValue, " ++
        "std::memory_order_relaxed, std::memory_order_release) );\n\x7d"
  c.comment "atomic add float" ++
    c.block s!"#ifndef ATOMIC_FLOAT_FUNCTION\n#define ATOMIC_FLOAT_FUNCTION\n{body}\n#endif"

def scalarMac : Text :=
  let body :=
    if c.isOcl then "mad(A,B,DST)"
    else if c.highPrec && c.dataType.isHalf then "DST += static_cast<float>(A) * static_cast<float>(B)"
    else if c.highPrec && c.dataType.isInt8x4 then
      "DST = GenDot4(static_cast<int>(A), static_cast<int>(B), static_cast<int>(DST))"
    else if c.highPrec && c.dataType.isBFloat16 then "DST += static_cast<float>(A) * static_cast<float>(B);"
    else "DST += A*B"
  c.lines ["", "/* MAC's */", "#define MAC(A,B,DST) " ++ body]

def realMac : Text :=
  let pp := c.continued
  let mac :=
    if c.a.ownThreadTile % 2 == 0 && c.dataType.isHalf then
      let head := "#define TYPE_MAC(MULA0,MULB0,DST0,MULA1,MULB1,DST1) " ++ pp
      if c.highPrec then
        head ++ " DST0 = MAC(MULA0,MULB0,DST0);" ++ pp ++ " DST1 = MAC(MULA1,MULB1,DST1);" ++ pp ++ c.eol
      else
        let rows := ["  a_pk_fma[0] = MULA0;", " a_pk_fma[1] = MULA1;", " b_pk_fma[0] = MULB0;",
          " b_pk_fma[1] = MULB1;", " c_pk_fma[0] = DST0;", " c_pk_fma[1] = DST1;",
          " c_pk_fma = tensile_fmadd_half2(a_pk_fma, b_pk_fma, c_pk_fma);", " DST0 = c_pk_fma[0];",
          " DST1 = c_pk_fma[1];"]
        head ++ .join (rows.map (· ++ s!" {pp} ")) ++ c.eol
    else c.lines ["#define TYPE_MAC(MULA,MULB,DST) DST = MAC(MULA,MULB,DST);"]
  let write :=
    if c.splits then if c.manyBufs then "DST = (REG);" ++ c.eol else "atomicAddType(&(DST), (ALPHA)*(REG));"
    else if !c.useBeta then "DST = (ALPHA)*(REG);" ++ c.eol
    else if c.highPrec && c.dataType.isBFloat16 && c.destType.isBFloat16 then
      "DST = 0 != (BETA) ? static_cast<tensile_bfloat16>((ALPHA)*(REG) + (BETA) * static_cast<float>(SRC)) : " ++
        "static_cast<tensile_bfloat16>((ALPHA)*(REG));" ++ c.eol
    else "DST = 0 != (BETA) ? (ALPHA)*(REG) + (BETA)*(SRC) : (ALPHA)*(REG);" ++ c.eol
  mac ++ "#define TYPE_MAC_WRITE" ++ (if c.useBeta then "(DST,SRC,ALPHA,REG,BETA) " else "(DST,ALPHA,REG) ") ++ write

def complexProduct : Text :=
  let (plain, turned) := if c.a.conj then (" ", "-") else ("-", " ")
  let rows := [(0, " ", 0, 0), (0, plain, 1, 1), (1, " ", 0, 1), (1, turned, 1, 0)].map fun (d, minus, i, j) =>
    let sign := if !c.b.conj then "" else if j == 1 then "-" else " "
    s!"  DST.s{d} = MAC( {minus}MULA.s{i}, {sign}MULB.s{j}, DST.s{d} );"
  (" " ++ c.continued).intercalate ("#define TYPE_MAC(MULA,MULB,DST)" :: rows) ++ c.eol

def complexMac : Text :=
  let scale := ["  /* (1) */ ", "  type_mac_tmp = REG.s0; ", "  REG.s0 *= ALPHA.s0; ",
    "  REG.s0 = MAC( -ALPHA.s1, REG.s1, REG.s0 ); ", "  REG.s1 *= ALPHA.s0; ",
    "  REG.s1 = MAC(  ALPHA.s1, type_mac_tmp, REG.s1 ); "]
  let add := ["  /* (2) */ ", "  if(BETA.s0 != 0) \x7b ", "  REG.s0 = MAC(  BETA.s0, SRC.s0, REG.s0 ); ",
    "  REG.s1 = MAC(  BETA.s0, SRC.s1, REG.s1 ); ", "  \x7d ", "  if (BETA.s1 != 0) \x7b ",
    "  REG.s0 = MAC( -BETA.s1, SRC.s1, REG.s0 ); ", "  REG.s1 = MAC(  BETA.s1, SRC.s0, REG.s1 ); ", "  \x7d "]
  let store := ["  /* (3) */ ", "  DST = REG;"]
  let write :=
    if c.splits then
      "#define TYPE_MAC_WRITE" ++ (if c.useBeta then "(DST,SRC,ALPHA,REG,BETA)" else "(DST,ALPHA,REG)") ++
        " atomicAddType(&(DST), (ALPHA)*(REG));"
    else
      let rows := if c.useBeta then "#define TYPE_MAC_WRITE( DST, SRC, ALPHA, REG, BETA ) " :: (scale ++ add ++ store)
        else "#define TYPE_MAC_WRITE( DST, ALPHA, REG ) " :: (scale ++ store)
      c.continued.intercalate rows ++ c.eol
  c.complexProduct ++ write

variable (k : KernelSpec)

def tileMacName (second : Bool) : Text := s!"MAC_{k.threadTile0}x{k.threadTile1}" ++ opt second "_BLK"
def macSets : List Bool := if k.prefetchLocalRead != 0 then [false, true] else [false]

def tileMac (second : Bool) : Text :=
  let k := c.spec
  let pp := c.continued
  let paired := k.threadTile0 % 2 == 0 && k.dataType.isHalf
  let swapped := k.b.tile01 != 0
  let off := fun i => opt second ("+TT" ++ i.tileChar)
  let offA := off k.a
  let offB := off k.b
  let rows := (upTo k.threadTile1).flatMap fun i1 => (upTo k.threadTile0).map fun i0 =>
    let ia := if swapped then i0 else i1
    let ib := if swapped then i1 else i0
    let operands := s!"rA[{ia}{offA}],rB[{ib}{offB}],rC[{i0}+{i1}*TT{c.t0}]"
    if paired then if i0 % 2 == 0 then s!"  TYPE_MAC({operands} , " else s!"{operands}); {pp}"
    else s!"  TYPE_MAC({operands}); {pp}"
  "#define " ++ tileMacName k second ++ pp ++ .join rows ++ opt k.unrollMemFence ("  " ++ c.fence) ++ c.eol

def unitStrides : Texts :=
  opt (!k.initStridesCD) ["strideD" ++ k.idxChar 0, "strideC" ++ k.idxChar 0] ++ if k.initStridesAB then []
     else k.inputs.map fun i => "stride" ++ i.char ++ k.idxChar (i.assigns.headD 0)

def prelude : Text :=
  let k := c.spec
  let tile := c.lines ["", s!"/* {k.threadTile0}x{k.threadTile1} micro-tile */"]
  let notes := opt (!k.initStridesCD) ["/* hard-coded initial strides CD*/"] ++
    opt (!k.initStridesAB) ["/* hard-coded initial strides AB */"]
  c.tileDefs ++ opt (k.mapType == "Z") c.zOrderFunctions ++ c.offDefs ++ c.typeDefs ++
    opt (k.splits && !k.manyBufs) c.atomicFunctions ++
    c.lines ["#define MAGIC_DIV1(dividend, magicNumber, magicShift) " ++
      "((uint64_t)(dividend) * magicNumber >> magicShift)"] ++
    c.scalarMac ++ (if k.dataType.isReal then c.realMac else c.complexMac) ++ tile ++
    .join ((macSets k).map c.tileMac) ++ c.lines (notes ++ (unitStrides k).map ("#define " ++ · ++ " 1"))

end SourceContext

end TensorForge
