import TensorForge.Arch

/-! # Tunable parameters -/

namespace TensorForge.Parameters

open Decimal List

/-- Rows, columns, depth and blocks by element type. -/
def matrixShapes : List (Text × List Ints) :=
  let half := [[32, 32, 4, 2], [32, 32, 8, 1], [16, 16, 4, 4], [16, 16, 16, 1], [4, 4, 4, 16]]
  let single := [[32, 32, 1, 2], [32, 32, 2, 1], [16, 16, 1, 4], [16, 16, 4, 1], [4, 4, 1, 16]]
  let brain := [[32, 32, 2, 2], [32, 32, 4, 1], [16, 16, 2, 4], [16, 16, 8, 1], [4, 4, 2, 16]]
  [("H", half), ("S", single), ("B", brain), ("4xi8", half), ("D", [[16, 16, 4, 1], [4, 4, 4, 4]]),
   ("B1k", half), ("C", single), ("I8", half)]

def shapesOf (type : Text) : List Ints := ((matrixShapes.find? (·.1 == type)).map (·.2)).getD []
def longFormShapes : List Ints := shapesOf "H" ++ shapesOf "S" ++ shapesOf "B" ++ shapesOf "4xi8"

/-- A shape, a split of its blocks, a wave tile up to 16 by 16 and one, two or four waves in each direction. -/
def isLongForm (ns : Ints) : Bool :=
  match ns with
  | [m, n, k, b, bm, t0, t1, w0, w1] =>
    longFormShapes.contains [m, n, k, b] && [1, 2, 4, 8, 16].contains bm && bm <= b &&
    1 <= t0 && t0 <= 16 && 1 <= t1 && t1 <= 16 && [1, 2, 4].contains w0 && [1, 2, 4].contains w1
  | _ => false

def shortForms : List Ints :=
  [[], [-1]] ++ shapesOf "H" ++ shapesOf "S" ++ shapesOf "B" ++ shapesOf "4xi8" ++ shapesOf "D" ++ shapesOf "B1k"

/-- Two sides and a number of sub-groups whose product is a multiple of 64. -/
def workGroups : List Ints :=
  (range 16).flatMap fun t =>
    let threads := 64 * (t + 1)
    [1, 2, 4, 8, 16, 32, 64, 96, 128, 256].flatMap fun groups =>
      (range (threads / groups)).filterMap fun s =>
        let s0 := s + 1
        let s1 := threads / groups / s0
        if s0 * s1 * groups == threads then some [s0, s1, groups] else none

def threadTileSides : Ints :=
  (range 16).map (fun (i : Nat) => (i : Int) + 1) ++ (range 59).map fun (i : Nat) => 20 + 4 * (i : Int)

def macroTileSides : Ints := [1, 2, 4, 8, 16, 32, 64, 128, 256, 512, 1024, 6, 12, 24, 48, 96, 192, 384, 768]
def pairs (xs : Ints) : List Ints := xs.flatMap fun x => xs.map fun y => [x, y]

inductive Domain where
  | oneOf (values : Values)
  | between (low high : Int)
  | persist
  | workGroup
  | threadTile
  | macroTile
  | matrixInstr
  | isa
  | depthU

namespace Domain

def asInts? (v : Value) : Option Ints :=
  match v with
  | .list xs => xs.mapM fun
    | .float x => if x == .floor x then some (truncate x) else none
    | w => w.asInt?
  | _ => none

def inRange (low high : Int) (v : Value) : Bool :=
  match v with
  | .float x => x == .floor x && low <= truncate x && truncate x <= high
  | v => v.asInt?.elim false fun n => low <= n && n <= high

variable (supported : Values)

def isas : Values := Isa.none.toValue :: supported

variable (d : Domain)

def allows (v : Value) : Bool :=
  match d with
  | .oneOf values => values.any v.same
  | .between low high => inRange low high v
  | .persist => inRange (-1) 512 v
  | .workGroup => match asInts? v with
    | some [a, b, c] =>
      [1, 2, 4, 8, 16, 32, 64, 96, 128, 256].contains c && 1 <= a && 1 <= b && a * b * c % 64 == 0 && a * b * c <= 1024
    | _ => false
  | .threadTile => match asInts? v with
    | some [a, b] => threadTileSides.contains a && threadTileSides.contains b
    | _ => false
  | .macroTile => match asInts? v with
    | some [a, b] => macroTileSides.contains a && macroTileSides.contains b
    | _ => false
  | .matrixInstr => (asInts? v).elim false fun ns => shortForms.contains ns || isLongForm ns
  | .isa => (isas supported).any v.same
  | .depthU => inRange (-16) (-1) v || inRange 2 512 v

def firstValues : Text :=
  let ints := fun low high => Value.ints ((range (min 32 (high + 1 - low).toNat)).map fun (i : Nat) => low + i)
  let lists := fun xs => Value.list ((xs.take 32).map .ints)
  match d with
  | .oneOf values => (Value.list (values.take 32)).quoted
  | .between low high => (ints low high).quoted
  | .persist => "range(-1, 31)"
  | .workGroup => (lists workGroups).quoted
  | .threadTile => (lists (pairs threadTileSides)).quoted
  | .macroTile => (lists (pairs macroTileSides)).quoted
  | .matrixInstr => (lists (shortForms ++ [1, 2, 4].map fun w => [32, 32, 4, 2, 1, 1, 1, 1, w])).quoted
  | .isa => (Value.list ((isas supported).take 32)).quoted
  | .depthU => (Value.ints ((range 32).map fun (i : Nat) => if i < 16 then i - 16 else i - 14)).quoted

def hasMore : Bool :=
  match d with
  | .oneOf values => values.length > 32
  | .between low high => high + 1 - low > 32
  | .isa => supported.length + 1 > 32
  | _ => true

end Domain

def oneOf {α : Type} (value : α -> Value) (values : List α) : Option Domain := some (.oneOf (values.map value))
def ints : Ints -> Option Domain := oneOf .int
def within (low high : Int) : Option Domain := some (.between low high)
def flag : Option Domain := oneOf .bool [false, true]

/-- Each parameter with its default and its domain. A parameter without a domain takes any value. -/
def solution : List (Text × Value × Option Domain) := flatten
  [[("LoopDoWhile", false, flag), (LT, true, flag), (ET, "Branch", oneOf .str ["Branch", "ShiftPtr", "None"]),
    (IU, 1, ints [1, 2, 4, 8, 16, 32, 64]), (LDL, 1, ints [1, 2, 4, 8]), ("AggressivePerfMode", 1, ints [0, 1, 2]),
    (KL, "Source", oneOf .str ["Assembly", "Source"]), ("LdsPadA", 0, ints [-1, 0, 1, 2, 3, 4, 8, 16]),
    ("LdsPadB", 0, ints [-1, 0, 1, 2, 3, 4, 8, 16]), (LBSPP, 0, ints [-1, 0, 64, 128, 256, 512]),
    (TLDS, 0, ints [-1, 1, 0]), ("MaxOccupancy", 40, within 1 40), (VW, .int (-1), ints [-1, 1, 2, 3, 4, 6, 8]),
    ("VectorStore", .int (-1), ints [-1, 0, 1]), (SVW, .int (-1), ints [-1, 1, 2, 3, 4, 6, 8]),
    (GRVW, .int (-1), ints [-1, 1, 2, 3, 4, 6, 8, 16]), (LRVW, .int (-1), ints [-1, 1, 2, 4, 8, 16]),
    ("GlobalReadCoalesceVectorA", true, oneOf .bool [true]), ("GlobalReadCoalesceVectorB", true, oneOf .bool [true]),
    ("WaveSeparateGlobalReadA", 0, ints [0, 1]), ("WaveSeparateGlobalReadB", 0, ints [0, 1]),
    ("GlobalReadCoalesceGroupA", true, flag), ("GlobalReadCoalesceGroupB", true, flag), (PGR, 1, ints [0, 1, 2]),
    (PLR, 1, within 0 128), ("UnrollMemFence", false, flag)], [("GlobalRead2A", true, flag), ("GlobalRead2B", true,
    flag), ("LocalWrite2A", true, flag), ("LocalWrite2B", true, flag), ("LocalRead2A", true, flag),
    ("LocalRead2B", true, flag), (SNLL, false, flag), (EPS, true, flag), ("ScheduleGlobalRead", 1, ints [0, 1]),
    ("ScheduleLocalWrite", 1, ints [0, 1]), (SIA, 1, ints [0, 1, 2, 3]), ("OptPreLoopVmcnt", true, flag),
    ("LdcEqualsLdd", false, flag), ("InterleaveAlpha", 0, ints [0, 1]), ("OptNoLoadLoop", 1, ints [0, 1, 2]),
    (PAP, 0, ints [0, 1]), ("BufferLoad", true, flag), ("BufferStore", true, flag), (DTL, false, flag),
    ("UseSgprForGRO", .int (-1), ints [-1, 0, 1]), ("UseInstOffsetForGRO", 0, ints [-1, 0, 1]),
    (ASEM, 1, ints [1, 2, 4, 8]), (AF0EM, 1, ints [1, 2, 4, 8]), (AF1EM, 1, ints [1, 2, 4, 8]),
    ("AssertMinApproxSize", .int (-1), ints [0, 1, 2]), ("AssertStrideAEqual", .dict [], none)],
    [("AssertStrideBEqual", .dict [], none), ("AssertStrideCEqual", .dict [], none), ("AssertStrideDEqual", .dict [],
    none), ("AssertSizeEqual", .dict [], none), ("CheckTensorDimAsserts", false, flag), ("CheckDimOverflow", 0, ints [0,
    1, 2]), (SU, 32, ints [0, 2, 4, 8, 16, 32, 64]), ("StaggerUStride", 256, ints [16, 32, 64, 128, 256, 512, 1024]),
    ("StaggerUMapping", 0, ints [0, 1, 2, 3, 4]), ("MagicDivAlg", 2, ints [0, 1, 2]), (GSU, 1, within 1 1024),
    ("GlobalSplitUAlgorithm", MB, oneOf .str ["SingleBuffer", MB]), (GSUSARR, true, flag),
    ("GlobalSplitUWorkGroupMappingRoundRobin", false, flag), ("MacroTileShapeMin", 1, within 1 256),
    ("MacroTileShapeMax", 64, within 1 256), (PK, 0, some .persist), (PKAB, false, flag), (PBD, 0, ints [0, 1, 2]),
    ("PackFreeDims", 1, flag), (PSD, 0, ints [0, 1]), ("UnrollIncIsDepthU", 0, ints [0, 1]),
    ("PackGranularity", 2, ints [2]), (FL, 0, ints [0, 1, 2]), ("Use64bShadowLimit", 1, oneOf .bool [true, false]),
    (VAW, .int (-1), ints [-1, 1, 2])], [("NumLoadsCoalescedA", 1, within (-1) 64), ("NumLoadsCoalescedB", 1,
    within (-1) 64), (WG, .list [16, 16, 1], some .workGroup), ("WorkGroupMappingType", "B", oneOf .str ["B", "Z"]),
    (WGM, 8, within 0 1024), (TT, .list [4, 4], some .threadTile), ("MACInstruction", "", oneOf .str ["MAD", "FMA"]),
    (WS, 64, ints [32, 64]), (MI, .list [], some .matrixInstr), (DVO, false, flag), (LDSB, 0, ints [-1, 0, 1]),
    ("DisableAtomicFail", 0, flag), ("DisableKernelPieces", 0, within (-9) 9), (DU, .int (-1), some .depthU),
    (DULD, 1, ints [1, 2]), ("PerformanceSyncLocation", .int (-1), within (-1) 256), ("PerformanceWaitLocation",
    .int (-1), within (-1) 256), ("PerformanceWaitCount", .int (-1), within (-1) 15), ("NonTemporalC", 0, within 0 3),
    ("NonTemporalA", 0, within 0 3), ("NonTemporalB", 0, within 0 3), ("ReplacementKernel", false, flag),
    ("MinVgprNumber", 0, within 0 255), ("MaxVgprNumber", 256, within 0 256), (SRVW, 0, ints [-1, 0, 1, 2, 4, 8]),
    ("SourceSwap", false, flag)]]

def domains : List (Text × Option Domain) :=
  [(MT, some .macroTile), ("ISA", some .isa)] ++ solution.map fun (name, _, d) => (name, d)

def isParameter (name : Text) : Bool := domains.any (·.1 == name)

def defaults : List (Text × Value) := solution.map fun (name, v, _) => (name, v)

def asserted : Texts :=
  Text.words "AssertSummationElementMultiple AssertFree0ElementMultiple AssertFree1ElementMultiple AssertMinApproxSize"

def defaultSolution : Table := defaults.map fun (k, v) => (k, v)

def defaultProblemType : Table :=
  Value.entries <| .record [(OT, "GEMM"), ("ConvolutionConfig", .list []), (DT, 0), (DDT, 0), (CDT, 0),
   ("UseBeta", true), (HPA, false), ("SilentHighPrecisionAccumulate", false), ("ComplexConjugateA", false),
   ("ComplexConjugateB", false), ("TransposeA", false), ("TransposeB", true), ("Batched", false), (SB, true),
   (IAA, .list [0, 2]), (IAB, .list [1, 2]), (NIC, 2), (UISAB, false), (UISCD, false), ("AllowNoFreeDims", false),
   ("SetConstStrideA", .list []), ("SetConstStrideB", .list []), ("ZeroPadA", .list []), ("ZeroPadB", .list []),
   ("MirrorDimsA", .list []), ("MirrorDimsB", .list []), (NILD, 4), (IALD, .list [3, 4, 5, 6]),
   (TAS, false)]

def activationFormats : Texts := ["NCHW", "NHWC", "CNHW", "NCDHW", "NDHWC", "CNDHW"]
def weightFormats : Texts := ["KCYX", "KYXC", "CKYX", "CYXK", "KCZYX", "CKZYX", "CZYXK"]

def convEntries : Texts :=
  Text.words "TensorAFormat TensorBFormat TensorDFormat Filter Stride Dilation PadStart PadEnd GroupCount
    PackedSpatialDims PackedFilterDims UnrollOnChannel Spatial"

def gemmTypes : List (Text × Text × Text) :=
  [("D", "D", "D"), ("S", "S", "S"), ("Z", "Z", "Z"), ("C", "C", "C"), ("H", "H", "H"),
   ("H", "H", "S"), ("H", "S", "S"), ("B", "B", "S"), ("B", "S", "S"), ("4xi8", "I", "I"), ("I8", "I", "I")]

def spelledOutTypes : List (Text × Text × Text) :=
  [("H", "H", "S"), ("H", "S", "S"), ("B", "S", "S"), ("I8", "I", "I")]

def sumSizes : Ints := [32, 64, 96, 128, 256, 512, 1024, 2048, 4096, 8192, 16192]

end TensorForge.Parameters
