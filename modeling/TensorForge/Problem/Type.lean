import TensorForge.Problem.Convolution

/-! # Problem types -/

namespace TensorForge

inductive IdxFault where
  | empty
  | unused (i : Int)
  /-- An index beyond the output is not in both inputs. -/
  | notSummed (i : Int)
  /-- An input names an index twice. -/
  | duplicate (name : Text) (indices : Ints)
  | fewFree (free : Ints)
  /-- There is no summation index, or an input has no tile index. -/
  | noIdx
  deriving DecidableEq

structure IdxRoles where
  total : Int
  (free batch summation : Ints)
  deriving DecidableEq

/-- Which indices are tiled and unrolled, and where in the inputs. -/
structure IdxOrder where
  unroll : Int
  (unrollA unrollB : Nat)
  (tileA tileB : Int)
  /-- Whether the tile index is faster than the unrolled one. -/
  (tileFirstA tileFirstB : Bool)
  (posA posB : Nat)
  deriving DecidableEq

namespace IdxRoles

def maximum? : Ints -> Option Int
  | [] => none
  | n :: ns => some (ns.foldl max n)

def splitOut (a b : Ints) : Ints -> Except IdxFault (Ints × Ints)
  | [] => .ok ([], [])
  | i :: is =>
    if !a.contains i && !b.contains i then .error (.unused i)
    else do
      let (free, batch) <- splitOut a b is
      if a.contains i && b.contains i then return (free, i :: batch) else return (i :: free, batch)

def checkSummed (a b : Ints) : Ints -> Except IdxFault Unit
  | [] => .ok ()
  | i :: is => if a.contains i && b.contains i then checkSummed a b is else .error (.notSummed i)

def ofAssigns (numC : Int) (a b : Ints) : Except IdxFault IdxRoles := do
  let some maxA := maximum? a | throw .empty
  let some maxB := maximum? b | throw .empty
  let total := max (maxA + 1) (maxB + 1)
  let (free, batch) <- splitOut a b (Value.range 0 numC)
  let summation := Value.range numC total
  checkSummed a b summation
  return { total, free, batch, summation }

def tileable (r : IdxRoles) (allowNoFree : Bool) : Ints := if allowNoFree then r.free ++ r.batch else r.free

end IdxRoles

namespace IdxOrder

def position (i : Int) (is : Ints) : Nat := is.idxOf i

/-- Indices are not repeated and enough of them are free. -/
def ofRoles (r : IdxRoles) (a b : Ints) (allowNoFree : Bool) : Except IdxFault IdxOrder := do
  if !a.Nodup then throw (.duplicate IAA a)
  if !b.Nodup then throw (.duplicate IAB b)
  if !allowNoFree && r.free.length < 2 then throw (.fewFree r.free)
  let some unroll := r.summation.getLast? | throw .noIdx
  let tiles := r.tileable allowNoFree
  let some tileA := a.find? tiles.contains | throw .noIdx
  let some tileB := b.find? tiles.contains | throw .noIdx
  let unrollA := position unroll a
  let unrollB := position unroll b
  let posA := position tileA a
  let posB := position tileB b
  return { unroll, unrollA, unrollB, tileA, tileB, posA, posB,
           tileFirstA := posA < unrollA, tileFirstB := posB < unrollB }

end IdxOrder

namespace IdxFault

def raise {α : Type} : IdxFault -> Gen α
  | .empty => throw .badValue
  | .unused i => .fatal s!"invalid index {i} (inC but not (inA or inB))"
  | .notSummed i => .fatal s!"invalid index {i} (expected summation but not (inA and inB))"
  | .duplicate name is => .fatal s!"duplicate index in {name}={(Value.ints is).shown}"
  | .fewFree free =>
    .fatal s!"Tensile requires >= 2 free indices or set AllowNoFreeDims; FreeIndices={(Value.ints free).shown}."
  | .noIdx => throw .outOfRange

def lift {α : Type} : Except IdxFault α -> Gen α
  | .ok a => pure a
  | .error e => e.raise

end IdxFault

open Gen Parameters
structure ProblemType where
  state : Table
  convolution : Option Conv := none

variable (p : ProblemType) (key : Text)

namespace ProblemType

def fetch : Gen Value := .fetch p.state key

def flag : Gen Bool := return (<- p.fetch key).truthy
def int : Gen Int := do .int (<- p.fetch key)
def ints : Gen Ints := do (<- items (<- p.fetch key)).mapM .int
def dataType : Gen DataType := do (<- p.fetch key).asDataType
def set (v : Value) : ProblemType := { p with state := p.state.set key v }
def same (q : ProblemType) : Bool := Value.same (.dict p.state) (.dict q.state)
instance : BEq ProblemType := ⟨same⟩
def isGemm : Gen Bool := return (<- p.fetch OT) == "GEMM"
def canBeProduct : Bool := p.convolution.elim false (·.isProduct)

def idxChar (chars : Chars) (i : Int) : Gen Char := do
  let j := if i < 0 then i + chars.length else i
  if j < 0 then throw .outOfRange
  chars[j.toNat]?.getDM (throw .outOfRange)

def typeChars : Gen (Text × Text × Text) := do
  return ((<- p.dataType DT).char, (<- p.dataType DDT).char, (<- p.dataType CDT).char)

def inputName (chars : Chars) (tensor : Text) : Gen Text := do
  let mut s := ""
  let mirrored <- p.fetch s!"MirrorDims{tensor}"
  for v in <- items (<- p.fetch s!"IndexAssignments{tensor}") do
    let c <- idxChar chars (<- .int v)
    s := s.push (if <- v.isIn mirrored then c else c.toLower)
  if <- p.flag s!"ComplexConjugate{tensor}" then s := s ++ "C"
  return s

def name : Gen Text := do
  let chars := (<- settingStr "IndexChars").toList
  let mut s := "C"
  for i in Value.range 0 (<- p.int NIC) do s := s.push (<- idxChar chars i).toLower
  s := s ++ "_A" ++ (<- inputName p chars "A") ++ "_B" ++ (<- inputName p chars "B") ++ "_"
  let types <- p.typeChars
  s := s ++ types.1
  if spelledOutTypes.contains types then s := s ++ types.2.1 ++ types.2.2 ++ "_"
  if <- p.flag "UseBeta" then s := s ++ "B"
  if <- p.flag HPA then if !(<- p.flag "SilentHighPrecisionAccumulate") then s := s ++ "H"
  if <- p.flag UISAB then s := s ++ "I"
  if <- p.flag UISCD then s := s ++ "Ic"
  if !(<- p.flag SB) then s := s ++ "_GB"
  return s

def assignRoles : Gen (ProblemType × IdxRoles) := do
  let a <- p.ints IAA
  let b <- p.ints IAB
  let numC <- p.int NIC
  let roles <- IdxFault.lift (IdxRoles.ofAssigns numC a b)
  let p := p.set TI roles.total
  let p := p.set IF (.ints roles.free)
  if <- .flag "PrintIndexAssignments" then
    sayLine s!"IndicesFree:  {(Value.ints roles.free).shown}"
    sayLine s!"IndicesBatch: {(Value.ints roles.batch).shown}"
    sayLine s!"IndicesSum:   {(Value.ints roles.summation).shown}"
    sayLine s!"IndexAssignmentsA:   {(Value.ints a).shown}"
    sayLine s!"IndexAssignmentsB:   {(Value.ints b).shown}"
    sayLine s!"NumIndicesC:  {numC}"
  return ((p.set IB (.ints roles.batch)).set IS (.ints roles.summation), roles)

def derive : Gen ProblemType := do
  if let some v := p.state.get? ADP then if v.truthy then return p
  let p := p.set ADP false
  let (p, roles) <- p.assignRoles
  let a <- p.ints IAA
  let o <- IdxFault.lift (IdxOrder.ofRoles roles a (<- p.ints IAB) (<- p.flag "AllowNoFreeDims"))
  let one := if o.tileA < o.tileB then 0 else 1
  let entries :=
    [("NumIndicesFree", .int roles.free.length), ("NumIndicesBatch", .int roles.batch.length),
     ("NumIndicesSummation", .int roles.summation.length), ("IndexUnroll", .int o.unroll),
     ("IndexUnrollA", .int o.unrollA), ("IndexUnrollB", .int o.unrollB), ("Index01A", .int o.tileA),
     ("Index01B", .int o.tileB), ("Index0", .int (min o.tileA o.tileB)), ("Index1", .int (max o.tileA o.tileB)),
     ("Tensor0", .int one), ("Tensor1", .int (1 - one)), ("TileA", .int one), ("TileB", .int (1 - one)),
     ("TLUA", .bool o.tileFirstA), ("TLUB", .bool o.tileFirstB)]
  if <- .flag "PrintIndexAssignments" then
    sayLine s!"TLUA:  {(Value.bool o.tileFirstA).shown} (stridePosA({o.posA}) <? unrollIdxA({o.unrollA})"
    sayLine s!"TLUB:  {(Value.bool o.tileFirstB).shown} (stridePosB({o.posB}) <? unrollIdxB({o.unrollB})"
    sayLine s!"Index01A:  {o.tileA}"
    sayLine s!"Index01B:  {o.tileB}"
  return (entries.foldl (fun p (k, v) => p.set k v) p).set ADP true

variable (config : Table)

/-- The output type defaults to the input type and the compute type to the output type. -/
def readTypes (p : ProblemType) : Gen ProblemType := do
  let some t := config.get? DT | fatal "NO data type specified"
  let p := p.set DT (.dataType (<- t.toDataType))
  let d := config.or DDT t
  let p := p.set DDT (.dataType (<- d.toDataType))
  return p.set CDT (.dataType (<- (config.or CDT d).toDataType))

def assignProduct : Gen ProblemType := do
  let types <- p.typeChars
  if !gemmTypes.contains types then
    fatal s!"This typed-GEMM (Ti, To, Tc) = ({types.1}, {types.2.1}, {types.2.2}) is not supported yet."
  let batched <- p.flag "Batched"
  let sum := if batched then 3 else 2
  let last := opt batched [2]
  let a := if <- p.flag "TransposeA" then [sum, 0] else [0, sum]
  let b := if <- p.flag "TransposeB" then [1, sum] else [sum, 1]
  let p := p.set IAA (.ints (a ++ last))
  let p := p.set IAB (.ints (b ++ last))
  let p := p.set NIC (.int sum)
  let p := p.set NILD 4
  let leading <- items (<- p.fetch IALD)
  if leading.isEmpty then throw .outOfRange
  return p.set IALD (.ints ((List.range leading.length).map fun (i : Nat) => sum + 1 + i))

def convConfig (kind : Text) : Gen Table := do
  let some v := config.get? "ConvolutionConfig"
    | throw (.failure s!"OperationType {kind} must include ConvolutioConfig section in ProblemType")
  if v.isNull then return []
  (<- items v).foldlM (fun out d => return out.update (<- table d)) []

def assignConv (kind : Text) (p : ProblemType) : Gen ProblemType := do
  let (c, state) <- Conv.build p.state kind (<- convConfig config kind)
  let p : ProblemType := { state, convolution := some c }
  let p := p.set NILD 0
  return p.set "UseBeta" (.bool (((config.get? "UseBeta").elim false (· == true)) && p.canBeProduct))

def checkZeroPads (tensor : Text) : Act := do
  let name := s!"ZeroPad{tensor}"
  let mut free : Table := []
  let mut sums : Table := []
  for zp in <- items (<- p.fetch name) do
    let [f, s, _, _] <- items zp | throw .badValue
    if !(<- f.isIn (<- p.fetch IF)) then fatal s!"{name}={zp.shown} dim={<- Gen.int f} is not a free index"
    if !(<- f.isIn (<- p.fetch s!"IndexAssignments{tensor}")) then
      fatal s!"{name}={zp.shown} dim={<- Gen.int f} is not in IndexAssignments{tensor}"
    if !(<- s.isIn (<- p.fetch IS)) then
      fatal s!"{name}={zp.shown} dim={<- Gen.int s} is not a summation index"
    if let some old := free.find? f then
      fatal s!"{name}={zp.shown} freeDim={<- Gen.int f} occurs in more than one tuple (prev:{old.shown})"
    free := free.put f zp
    if (sums.find? s).isSome then fatal s!"{name}={zp.shown} sumDim={<- Gen.int s} occurs in more than one tuple"
    sums := sums.put s zp

def checkConstStrides (tensor : Text) : Act := do
  let name := s!"SetConstStride{tensor}"
  for sc in <- items (<- p.fetch name) do
    let xs <- match sc with
      | .dict _ => throw .wrongKind
      | v => items v
    let [anchor, _] := xs.take 2 | throw .badValue
    if !(<- anchor.isIn (<- p.fetch s!"IndexAssignments{tensor}")) then
      fatal s!"{name}={sc.shown} anchorDim={<- Gen.int anchor} is not in IndexAssignments{tensor}"

def convKinds : Texts := ["ConvolutionForward", "ConvolutionBackwardData", "ConvolutionBackwardWeights"]

def ofConfig : Gen ProblemType := do
  let state : Table := defaultProblemType.map fun (k, v) => (k, (config.find? k).getD v)
  let p <- readTypes config { state }
  let p <- match <- p.fetch OT with
    | .str "GEMM" => assignProduct p
    | .str "TensorContraction" => pure (p.set NILD 0)
    | .str kind =>
      if convKinds.contains kind then assignConv config kind p
      else fatal s!"Unsupported OperationType = {kind}"
    | v => fatal s!"Unsupported OperationType = {v.shown}"
  let p <- (p.set ADP (.bool false)).derive
  if let some c := p.convolution then
    let usage <- settingInt "PrintConvolutionUsage"
    if usage % 4 != 0 then
      sayLine ""
      c.printUsage (some p.state) (usage / 2 % 2 == 1)
      sayLine ""
    c.checkRoles (<- p.ints IF) (<- p.ints IB)
      (<- p.ints IS)
  for t in ["A", "B"] do p.checkZeroPads t
  for t in ["A", "B"] do p.checkConstStrides t
  return p

end ProblemType

end TensorForge
