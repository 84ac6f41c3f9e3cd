import TensorForge.Kernel.Assembly.Layout
import TensorForge.Kernel.Assembly.Macros

/-! # The head of a kernel -/

namespace TensorForge.Assembly.Sig

open Asm Emit Macros

structure Arg where
  name : Text
  size : Int
  buf : Bool
  kind : Text

structure Kinds where
  (src dest compute : Text)
  computeBytes : Int

def kinds (p : ProblemSpec) : Emit Kinds := do
  let d := p.dataType
  let plainHalf := d.isHalf && !p.highPrec
  let (s, t, c) <- ([("f16", "Struct", "Struct", "F16"), ("i8", "I8", "I32", "I32"), ("f32", "F32", "F32", "F32"),
    ("f64", "F64", "F64", "F64"), ("f32c", "F64", "F64", "F64"), ("f64c", "F64", "F64", "Struct"),
    ("bf16", "Struct", "Struct", "F32")].lookup d.traits.abbreviation).getDM
      (throw (.missingKey d.traits.abbreviation))
  return {
    src := if plainHalf then "F16" else s, dest := if plainHalf then "F16" else t, compute := c
    computeBytes := if plainHalf then 2 else if d.isDouble || d.isSingleComplex then 8
      else if d.isDoubleComplex then 16 else 4 }

def arguments : Emit (List Arg) := do
  let k <- spec
  let l <- layout
  let t <- kinds k.problem
  let arg := fun size buf kind name => ({ name, size, buf, kind } : Arg)
  let word := arg 4 false "U32"
  let size := arg 8 false "I64"
  let address := fun name kind => arg 8 true kind name
  let words := fun name n => (upTo n).map fun i => word s!"{name}{i}"
  let factor := arg (max 4 t.computeBytes) false t.compute
  return opt (<- flag DK) [address "AddressDbg" "Struct"] ++
    [size "sizeC", size "sizeA", size "sizeB", address "D" t.dest, address "C" t.dest,
     address "A" t.src, address "B" t.src, factor "alpha"] ++
    opt k.useBeta [factor "beta"] ++ words "strideD" l.numStridesOut ++ words "strideC" l.numStridesOut ++
    words "strideA" (<- side true).numSgprStrides ++ words "strideB" (<- side false).numSgprStrides ++
    words "SizesFree" k.dimsC ++ words "SizesSum" k.numSum ++
    (sizeArgs k l.magicSums).map word ++ { word "OrigStaggerUIter" with kind := "I32" } ::
    (groupArgs k ++ lastArgs ++ ["padding"]).map word

def Arg.second (a : Arg) : Text :=
  let kind := if a.buf then "GlobalBuffer" else "ByValue"
  s!"      - Name:            {a.name}
        Size:            {a.size}
        Align:           {a.size}
        ValueKind:       {kind}
        ValueType:       {a.kind}\n" ++ opt a.buf "        AddrSpaceQual:   Generic\n"

def Arg.third (a : Arg) (off : Int) : Text :=
  let kind := if a.buf then "global_buffer" else "by_value"
  let type := if a.kind == "I64" then "u64" else a.kind.toLower
  s!"      - .name:            {a.name}
        .size:            {a.size}
        .offset:          {off}
        .value_kind:      {kind}
        .value_type:      {type}\n" ++ opt a.buf "        .address_space:   generic\n"

variable (k : KernelSpec)

def localBytes (bpe : Int) : Int :=
  if k.perfMode >= 2 && k.dataType.isDouble && k.threadTile0 == 4 &&
      k.threadTile1 == 4 && k.workGroup == [16, 16, 1] then 32768
  else k.ldsNumElems * bpe

def argRegs (l : Layout) (debug : Bool) : Int :=
  6 + max 1 (l.bytesAB / 4) + (if k.useBeta then max 1 (l.bytesOut / 4) else 0) + 3 * k.dimsC +
    k.a.assigns.length + k.b.assigns.length - (if k.initStridesAB then 0 else 2) -
    (if k.initStridesCD then 0 else 2) + k.numSum + if debug then 2 else 0

def remarks : Text :=
  let shown := fun (b : Bool) => if b then "True" else "False"
  comment3 "Optimizations and Config:" ++ comment1 s!"ThreadTile= {k.threadTile0} x {k.threadTile1}" ++
  comment1 s!"SubGroup= {k.subGroup0} x {k.subGroup1}" ++ comment1 s!"VectorWidth={k.vecWidth}" ++
  comment1 s!"GlobalLoadVectorWidthA={k.a.loadWidth}, GlobalLoadVectorWidthB={k.b.loadWidth}" ++
  comment1 ("DirectToLdsA=" ++ shown k.a.toLds) ++ comment1 ("DirectToLdsB=" ++ shown k.b.toLds) ++
  comment1 s!"UseSgprForGRO={k.scalarOffsText}"

def symbol (name : Text) : Text := s!".text\n.protected {name}\n.globl {name}\n.p2align 8\n.type {name},@function"

def waveLine (narrow wide : Text) : Emit Text := do
  if !(<- archCap "HasWave32") then return ""
  return if (<- spec).waveSize == 32 then s!"  {narrow} // 32-thread wavefronts\n" else s!"  {wide} // 64-thread wavefronts\n"

def second (args : List Arg) : Emit Text := do
  let st <- get
  let k := st.k
  let l := st.layout
  let name := st.name
  let number <- (<- Gen.settingStr COV).toList[1]?.elim (throw .outOfRange) fun c => pure c.toString
  let v := st.vectors.size
  let s := st.scalars.size
  let bytes := localBytes k l.bytesAB
  let argBytes := argRegs k l (<- flag DK) * 4
  let wave <- waveLine "wavefront_size = 5" "wavefront_size = 6"
  let z := opt (k.dimsC > 2) "  compute_pgm_rsrc2_tgid_z_en = 1 // wg.z\n"
  let total := args.foldl (fun n a => n + a.size) 0
  return s!"// Component.Signature.SignatureCOV2
.hsa_code_object_version {number},0
.hsa_code_object_isa {st.isa.major}, {st.isa.minor}, {st.isa.step}, \"AMD\", \"AMDGPU\" \n{symbol name}
.amdgpu_hsa_kernel {name}
{name}:
.amd_kernel_code_t
  is_ptr64 = 1
  enable_sgpr_kernarg_segment_ptr = 1
  kernarg_segment_byte_size = {argBytes} // bytes of kern args
  workitem_vgpr_count = {v} // vgprs
  wavefront_sgpr_count = {s} // sgprs
  compute_pgm_rsrc1_vgprs = {Int.fdiv (v - 1) 4} // floor(({v}-1)/4)
  compute_pgm_rsrc1_sgprs = {1 + Int.fdiv (s - 1) 8} // floor(({s}-1)/8)
  compute_pgm_rsrc2_tidig_comp_cnt = 0 // 1D wg
  compute_pgm_rsrc2_tgid_x_en = 1 // wg.x
  compute_pgm_rsrc2_tgid_y_en = 1 // wg.y
{z}  workgroup_group_segment_byte_size = {bytes} // lds bytes
{wave}  compute_pgm_rsrc2_user_sgpr = 2 // vcc
  kernarg_segment_alignment = 4
  group_segment_alignment = 4
  private_segment_alignment = 4
.end_amd_kernel_code_t
{remarks k}.amd_amdgpu_hsa_metadata
Version: [ 1, 0 ]
Kernels:
  - Name: {name}
    SymbolName: '{name}@kd'
    Language: OpenCL C
    LanguageVersion: [ 2, 0 ]
    Args:
{String.join (args.map Arg.second)}    CodeProps:
      KernargSegmentSize: {total}
      GroupSegmentFixedSize: {bytes}
      PrivateSegmentFixedSize: 0
      KernargSegmentAlign:  8
      WavefrontSize:        {k.waveSize}
      NumSGPRs:             {s}
      NumVGPRs:             {v}
      MaxFlatWorkGroupSize: {k.subGroup0 * k.subGroup1 * k.localSplitU}
.end_amd_amdgpu_hsa_metadata\n"

def placed : List Arg -> Int -> Text × Int
  | [], off => ("", off)
  | a :: as, off =>
    let (rest, total) := placed as (off + a.size)
    (a.third off ++ rest, total)

def third (args : List Arg) : Emit Text := do
  let st <- get
  let k := st.k
  let name := st.name
  let v : Int := st.vectors.size
  let s := st.scalars.size
  let accs : Int := st.accumulators.size
  let up := fun n => (v + n - 1) / n * n
  let start := if accs != 0 then up 8 else up 4
  let separate := st.isa == ⟨9, 0, 10⟩
  let count := if separate && accs != 0 then start + accs else v
  let bytes := localBytes k st.layout.bytesAB
  let wave <- waveLine ".amdhsa_wavefront_size32 1" ".amdhsa_wavefront_size32 0"
  let z := if k.dimsC > 2 then "1" else "0"
  let accum := opt separate s!"  .amdhsa_accum_offset {start} // accvgpr offset\n"
  let (table, total) := placed args 0
  return s!"// Component.Signature.SignatureCOV3
.amdgcn_target \"amdgcn-amd-amdhsa--{st.isa.name}\"
{symbol name}
.section .rodata,#alloc
.p2align 6
.amdhsa_kernel {name}
  .amdhsa_user_sgpr_kernarg_segment_ptr 1
{accum}  .amdhsa_next_free_vgpr {count} // vgprs
  .amdhsa_next_free_sgpr {s} // sgprs
  .amdhsa_group_segment_fixed_size {bytes} // lds bytes
{wave}  .amdhsa_private_segment_fixed_size 0
  .amdhsa_system_sgpr_workgroup_id_x 1
  .amdhsa_system_sgpr_workgroup_id_y 1
  .amdhsa_system_sgpr_workgroup_id_z {z}
  .amdhsa_system_vgpr_workitem_id 0
.end_amdhsa_kernel
.text
{remarks k}.amdgpu_metadata\n---\namdhsa.version:
  - 1
  - 0
amdhsa.kernels:
  - .name: {name}
    .symbol: '{name}.kd'
    .language:                   OpenCL C
    .language_version:
      - 2
      - 0
    .args:
{table}    .group_segment_fixed_size:   {bytes}
    .kernarg_segment_align:      8
    .kernarg_segment_size:       {(total + 7) / 8 * 8}
    .max_flat_workgroup_size:    {k.subGroup0 * k.subGroup1 * k.localSplitU}
    .private_segment_fixed_size: 0
    .sgpr_count:                 {s}
    .sgpr_spill_count:           0
    .vgpr_count:                 {v}
    .vgpr_spill_count:           0
    .wavefront_size:             {k.waveSize}
...
.end_amdgpu_metadata
{name}:\n"

def vecSymbols : Code := do
  let st <- get
  let k := st.k
  let l := st.layout
  let overlap := opt l.overlapC "overlapValuC enabled"
  let serialized := opt l.serialStore "serializedStore enabled"
  raw (comment3 "VGPR Assignments")
  remark s!"ValuC range: [0-{l.numValuC}), {overlap}, {serialized}"
  define "vgprValuC" "0"
  remark "ValuA/B   Xn=PLR buffer idx,  In=InnerUnroll idx"
  for t in [st.a, st.b] do
    for i in upTo (min k.prefetchLocalRead (k.loopIters - 1) + 1) do
      for u in upTo k.innerUnroll do
        define s!"vgprValu{t.char}_X{i}_I{u}" (t.valu + (i * k.innerUnroll + u) * t.valuPerBlock)
    if !t.toLds || st.parts.on "KeepDirectToLdsAlloc" then define s!"vgprG2L{t.char}" t.g2l
  for t in [st.a, st.b] do
    if !t.writeUseSgpr then
      define s!"vgprLocalWriteAddr{t.char}" t.writeAddr
      if t.numWriteAddrs > 1 then define s!"vgprLocalWriteAddrOverhang{t.char}" (t.writeAddr + 1 : Int)
  for t in [st.a, st.b] do
    define ((if k.bufferLoad then "vgprGlobalReadOffset" else "vgprGlobalReadAddr") ++ t.char) t.readOff
  for t in [st.a, st.b] do for r in t.pads do define ("vgpr" ++ r.name) r.vr
  if !k.bufferLoad then for t in [st.a, st.b] do define s!"vgprGlobalReadIncs{t.char}" t.increments
  for t in [st.a, st.b] do define s!"vgprLocalReadAddr{t.char}" t.readAddr
  define "vgprSerial" l.serial
  if <- flag DK then define "vgprAddressDbg" l.addrDbg
  remark s!"Num VGPR={st.vectors.size}"
  remark s!"Num AccVGPR={st.accumulators.size}"

def scalarSymbols : Code := do
  let st <- get
  let k := st.k
  raw (comment3 "SGPR Assignments")
  for (name, i) in st.named do define ("sgpr" ++ name) (i : Int)
  remark s!"max SGPR={st.scalars.size}"
  raw "\n"
  remark "Size Assignments"
  for i in upTo ((k.a.assigns ++ k.b.assigns).foldl max 0 + 1) do
    let size := s!"sgprSize{k.plainChar i}"
    if k.free.contains i || k.batch.contains i then define size s!"sgprSizesFree+{i}"
    else if k.summation.contains i then define size s!"sgprSizesSum+{i - k.dimsC}"
    else throw .badValue
  raw "\n"
  remark "Stride Assignments"
  let strides := fun tc initial dims => do
    for (d, i) in dims.zipIdx do
      if i == 0 && !initial then define s!"constStride{tc}{k.idxChar d}" "1"
      else define s!"sgprStride{tc}{k.idxChar d}" s!"sgprStrides{tc}+{if initial then i else i - 1}"
  strides "D" k.initStridesCD (upTo k.dimsC)
  strides "C" k.initStridesCD (upTo k.dimsC)
  strides "A" k.initStridesAB k.a.assigns
  strides "B" k.initStridesAB k.b.assigns

def constantSymbols : Code := do
  let st <- get
  let k := st.k
  let bpe := st.layout.bytesAB
  raw "\n"
  define "MT0" k.macroTile0
  define "MT1" k.macroTile1
  define DU k.depthU
  define "GSU" k.globalSplitU
  for c in ["A", "B"] do
    define s!"Bpe{c}" bpe
    define s!"Bpe{c}Log2" (roundLog2 bpe.toNat : Int)
  remark "Number of elements to shift-left SRD"
  define "SrdShiftLeftA" k.a.loadWidth
  define "SrdShiftLeftB" k.b.loadWidth
  if k.bufferLoad || k.bufStore then
    remark "2GB limit - set offsets to -1 to exceed this and clamp"
    define "BufferLimit" "0x80000000"
    define "BufferOOB" "0x80000000"
    let upper := descUpper st.isa.major
    raw (comment3 ("Bits 127:96 of SRD.\n" ++ upper.describe))
    define "Srd127_96" upper.literal

def shortage (n : Int) : Text :=
  match n with
  | 1 => "too many vgprs"
  | 2 => "too many sgprs"
  | 3 => "half store requires at lesat two elements per batch"
  | 4 => "Occupancy limit"
  | 5 => "reading and writing LDS at same time require 2 LDS buffer"
  | 6 => "SIA2 better with occupancy 2"
  | _ => "unknown"

def write : Code := do
  let k <- spec
  let signature <- match k.codeObjectVersion with
    | .str "V2" => pure second
    | .str "V3" => pure third
    | _ => throw .wrongKind
  raw (<- signature (<- arguments))
  features
  raw (magicDiv k)
  vecSymbols
  scalarSymbols
  constantSymbols
  globalOffs
  dynamicDiv
  if !k.hasMatrix then
    Mul.defs k.innerUnroll
    if k.innerUnroll > 1 then Mul.defs 1
  let st <- get
  if st.overflowed != 0 then
    Gen.sayLine ""
    Gen.warn (s!"{st.name} overflowed resources.  errorCode={st.overflowed}, " ++
      s!"msg=\"{shortage st.overflowed}\", vgprs={st.vectors.size}, sgprs={st.scalars.size}")
    raw "s_endpgm // overflowed resources\n.if 0\n"

end TensorForge.Assembly.Sig
