import TensorForge.Problem.Type

/-! # Conditions and contractions -/

namespace TensorForge

/-- A property only names something and has no order. -/
inductive Family where
  | property
  | plain
  | hardware
  | problem
  deriving DecidableEq

mutual

inductive Cond where
  | mk (family : Family) (tag index : Value) (operand : Arg)

inductive Arg where
  | value (v : Value)
  | one (c : Cond)
  | all (cs : List Cond)

end

instance : Inhabited Arg := ⟨.value .null⟩
instance : Inhabited Cond := ⟨.mk .plain .null .null (.value .null)⟩

namespace Cond

def family : Cond -> Family
  | .mk f _ _ _ => f

def tag : Cond -> Value
  | .mk _ t _ _ => t

def index : Cond -> Value
  | .mk _ _ i _ => i

def operand : Cond -> Arg
  | .mk _ _ _ o => o

variable (f : Family) (tag : Text)

def bare : Cond := .mk f tag .null (.value .null)
def withValue (v : Value) : Cond := .mk f tag .null (.value v)
def indexed (index v : Value) : Cond := .mk f tag index (.value v)
def always : Cond := bare f "TruePred"
def isAlways (c : Cond) : Bool := c.tag == "TruePred"

def combine (word : Text) : List Cond -> Cond
  | [] => always f
  | [c] => c
  | cs => .mk f word .null (.all cs)

variable (cs : List Cond)

def all : Cond := combine f "And" cs
def any : Cond := combine f "Or" cs

mutual

def same : Cond -> Cond -> Bool
  | .mk f t i o, .mk f' t' i' o' => f == f' && t == t' && sameOperand o o' && i == i'

def sameOperand : Arg -> Arg -> Bool
  | .value v, .value w => v == w
  | .one c, .one d => same c d
  | .all cs, .all ds => sameAll cs ds
  | .value v, .all cs => emptyPair v cs
  | .all cs, .value v => emptyPair v cs
  | _, _ => false

def sameAll : List Cond -> List Cond -> Bool
  | [], [] => true
  | c :: cs, d :: ds => same c d && sameAll cs ds
  | _, _ => false

def emptyPair : Value -> List Cond -> Bool
  | .tuple [], [] => true
  | _, _ => false

end

instance : BEq Cond := ⟨same⟩

/-- None counts as zero. -/
def unitsOf : Arg := (cs.find? (·.tag == .str "CUCount")).elim (.value (.int 0)) (·.operand)

def demand (c : Cond) : Result (Option Cond × Arg) :=
  match c.operand with
  | .one d =>
    if d.tag == "And" then
      match d.operand with
      | .all cs => .ok (cs.find? (·.tag == "Processor"), unitsOf cs)
      | .value (.list []) => .ok (none, .value 0)
      | .value (.list _) => .error .noField
      | _ => .error .wrongKind
    else .ok (some d, .value 0)
  | _ => .error .noField

def isZero : Arg -> Bool
  | .value v => v == .int 0
  | _ => false

mutual

/-- Tag, index and operand decide, in this order. -/
def lessParts : Nat -> Cond -> Cond -> Result Bool
  | 0, _, _ => .error .tooDeep
  | fuel + 1, c, d =>
    if c.tag != d.tag then c.tag.less d.tag else if c.index != d.index then c.index.less d.index
    else if sameOperand c.operand d.operand then .ok false
    else lessOperand fuel c.operand d.operand

def lessOperand : Nat -> Arg -> Arg -> Result Bool
  | 0, _, _ => .error .tooDeep
  | _ + 1, .value v, .value w => v.less w
  | fuel + 1, .one c, .one d => less fuel c d
  | _ + 1, .one _, _ => .error .noField
  | fuel + 1, .all cs, .all ds => lessAll fuel cs ds
  | _ + 1, _, _ => .error .wrongKind

def lessAll : Nat -> List Cond -> List Cond -> Result Bool
  | 0, _, _ => .error .tooDeep
  | _ + 1, [], [] => .ok false
  | _ + 1, [], _ :: _ => .ok true
  | _ + 1, _ :: _, [] => .ok false
  | fuel + 1, c :: cs, d :: ds => if same c d then lessAll fuel cs ds else less fuel c d

def less : Nat -> Cond -> Cond -> Result Bool
  | 0, _, _ => .error .tooDeep
  | fuel + 1, c, d =>
    if c.family == .property then .error .wrongKind else if d.isAlways then .ok !c.isAlways
    else if c.isAlways then .ok false
    else if c.family == .hardware then lessHardware fuel c d
    else lessParts fuel c d

/-- More compute units come first; without any the processors decide. -/
def lessHardware : Nat -> Cond -> Cond -> Result Bool
  | 0, _, _ => .error .tooDeep
  | fuel + 1, c, d => do
    let (mine, units) <- demand c
    let (theirs, others) <- demand d
    if isZero units && isZero others then
      match mine, theirs with
      | some p, some q =>
        if p.tag == "Processor" && q.tag == "Processor" then lessParts fuel p q
        else .error (.violated "Invalid processor predicate")
      | _, _ => .error (.violated "Missing processor predicate")
    else lessOperand fuel others units

end

mutual

def weight : Cond -> Nat
  | .mk _ _ _ o => operandWeight o + 1

def operandWeight : Arg -> Nat
  | .value _ => 0
  | .one c => weight c
  | .all cs => allWeight cs

def allWeight : List Cond -> Nat
  | [] => 0
  | c :: cs => weight c + allWeight cs + 1

end

def before (c d : Cond) : Result Bool := less (4 * (c.weight + d.weight) + 8) c d

mutual

/-- Element types are written by their names. -/
def written : Value -> Value
  | .dataType t => t.traits.enum
  | .list xs => .list (writtenItems xs)
  | .tuple xs => .list (writtenItems xs)
  | .dict es => .dict (writtenEntries es)
  | v => v

def writtenItems : Values -> Values
  | [] => []
  | x :: xs => written x :: writtenItems xs

def writtenEntries : Table -> Table
  | [] => []
  | (k, v) :: es => (k, written v) :: writtenEntries es

end

mutual

def toValue : Cond -> Value
  | .mk _ tag index o =>
    .record ([("type", tag)] ++ opt (!index.isNull) [("index", written index)] ++ operandFields o)

def operandFields : Arg -> List (Text × Value)
  | .value v => opt (!v.isNull) [("value", written v)]
  | .one c => [("value", toValue c)]
  | .all cs => [("value", .list (toValues cs))]

def toValues : List Cond -> Values
  | [] => []
  | c :: cs => toValue c :: toValues cs

end

def ofArch (name : Text) (units : Value) : Cond :=
  let processor := withValue .hardware "Processor" name
  let operand := if units.isNull then processor else all .hardware [processor, withValue .hardware "CUCount" units]
  .mk .hardware "AMDGPU" .null (.one operand)

def ofPositions (name : Text) (v : Value) : Result (Option Cond) :=
  match v with
  | .dict es =>
    let cs := es.filterMap fun (pos, val) => if val == .int (-1) then none else some (indexed .problem name pos val)
    .ok (if cs.isEmpty then none else some (all .problem cs))
  | _ => .error .noField

variable (key : Text)

def ofMultiple (v : Value) : Result (Option Cond) :=
  if v == .int 1 then .ok none
  else if key == AF0EM then .ok (some (indexed .problem "Free0SizeMultiple" 0 v))
  else if key == AF1EM then .ok (some (indexed .problem "Free1SizeMultiple" 0 v))
  else if key == ASEM then .ok (some (indexed .problem "BoundSizeMultiple" (.int (-1)) v))
  else .error (.failure s!"Unknown Multiple Value: {key}")

def ofParam (v : Value) : Result (Option Cond) :=
  match key with
  | "AssertStrideAEqual" => ofPositions "StrideAEqual" v
  | "AssertStrideBEqual" => ofPositions "StrideBEqual" v
  | "AssertStrideCEqual" => ofPositions "StrideCEqual" v
  | "AssertStrideDEqual" => ofPositions "StrideDEqual" v
  | "AssertSizeEqual" => ofPositions "SizeEqual" v
  | "AssertMinApproxSize" => .ok none
  | key =>
    if key.endsWith "Multiple" then ofMultiple key v
    else if key == WSPEC then do
      if <- Value.less 0 v then return some (indexed .problem "WorkspaceCheck" 0 v)
      return none
    else if key.startsWith "Assert" then .error (.failure s!"Unknown assertion key: {key}")
    else .ok none

end Cond

/-!
## Contractions

Every index is free, batch or bound, and the operation is named by an identifier in which indices are renamed in a
canonical way.
-/

structure FreeIdx where
  ofA : Bool
  (input output : Nat)
  deriving DecidableEq

structure BatchIdx where
  (a b output : Nat)
  deriving DecidableEq

structure BoundIdx where
  (a b : Nat)
  (mirroredA mirroredB : Bool)
  deriving DecidableEq

structure Contraction.Idxs where
  (total outs : Nat)
  (assignsA assignsB free batch bound mirroredA mirroredB : Ints)

structure Contraction where
  indices : Contraction.Idxs
  free : List FreeIdx
  batch : List BatchIdx
  bound : List BoundIdx
  (dimsA dimsB dimsC : Nat)
  (conjA conjB : Bool)
  (typeA typeB typeC typeD : DataType)
  (highPrec initStridesAB initStridesCD stridedBatched useBeta : Value)
  typeFactor : DataType
  (fixedStridesA fixedStridesB : Value)

namespace Contraction

open Cond Gen List

def lastPos? (assigns : Ints) (i : Int) : Option Nat :=
  assigns.zipIdx.foldl (fun acc (j, n) => if j == i then some n else acc) none

def sharedPos (assigns : Ints) (i : Int) : Result Nat := (lastPos? assigns i).getDM (.error .unmet)

variable (x : Idxs)

def Idxs.freeIdxs : Result (List FreeIdx) :=
  (range x.outs).filterMapM fun (n : Nat) =>
    let i : Int := n
    if x.batch.contains i then .ok none else if !x.free.contains i then .error .unmet
    else match x.assignsA.idxOf? i, x.assignsB.idxOf? i with
      | some p, _ => .ok (some ⟨true, p, n⟩)
      | none, some p => .ok (some ⟨false, p, n⟩)
      | none, none => .error (.failure s!"free index {n} not in ia or ib")

def Idxs.batchIdxs : Result (List BatchIdx) :=
  (range x.outs).filterMapM fun (n : Nat) =>
    let i : Int := n
    if x.batch.contains i then do return some ⟨<- sharedPos x.assignsA i, <- sharedPos x.assignsB i, n⟩
    else .ok none

def Idxs.boundIdxs : Result (List BoundIdx) :=
  x.bound.mapM fun i => do
    return ⟨<- sharedPos x.assignsA i, <- sharedPos x.assignsB i, x.mirroredA.contains i, x.mirroredB.contains i⟩

/-- Every index has a role and every assigned index exists. -/
def Idxs.covered : Bool :=
  (range x.total).all (fun n => n < x.outs || x.bound.contains n) &&
  (x.assignsA ++ x.assignsB).all fun i => 0 <= i && i < x.total

variable (t : Table)

def intsOr (key : Text) : Gen Ints := do
  (t.get? key).elim (pure []) fun v => do (<- items v).filterMapM (pure ·.asInt?)

def readIdxs : Gen Idxs := do
  let nat (key : Text) := do return (<- int (<- fetch t key)).toNat
  let ints (key : Text) := do (<- items (<- fetch t key)).mapM int
  return { total := <- nat TI, bound := <- ints IS,
           outs := <- nat NIC, batch := <- ints IB,
           free := <- ints IF, assignsA := <- ints IAA,
           assignsB := <- ints IAB, mirroredA := <- intsOr t "MirrorDimsA",
           mirroredB := <- intsOr t "MirrorDimsB" }

def ofState : Gen Contraction := do
  let x <- readIdxs t
  let free <- x.freeIdxs
  if !x.covered then throw .unmet
  let batch <- x.batchIdxs
  let bound <- x.boundIdxs
  let conjA <- fetch t "ComplexConjugateA"
  let conjB <- fetch t "ComplexConjugateB"
  let src <- (<- fetch t DT).toDataType
  let dest <- (t.get? DDT).elim (pure src) (.ofExcept ·.toDataType)
  let factor <- (t.get? CDT).elim (pure dest) (.ofExcept ·.toDataType)
  discard (fetch t "Batched")
  return { indices := x, free, batch, bound, dimsA := x.assignsA.length, dimsB := x.assignsB.length,
           dimsC := x.outs, conjA := conjA.truthy, conjB := conjB.truthy,
           typeA := src, typeB := src, typeC := dest, typeD := dest,
           highPrec := t.or HPA false, initStridesAB := t.or UISAB false,
           initStridesCD := t.or UISCD false, stridedBatched := t.or SB true,
           useBeta := t.or "UseBeta" true, typeFactor := factor, fixedStridesA := t.or "SetConstStrideA" (.list []),
           fixedStridesB := t.or "SetConstStrideB" (.list []) }

def letters : Chars := "ijklmnopqrstuvwxyz".toList

structure Names where
  (a b c d sum : Text)
  deriving DecidableEq

def place (names : Chars) (i : Nat) (c : Char) : Chars := names.set i c
def outLetter (i : Nat) : Char := letters.getD i '_'

variable (x : Contraction)

def sumLetter (k : Nat) : Char := letters.getD (x.dimsC + k) '_'

def inputLetters (ofA : Bool) : Chars :=
  let blank := replicate (if ofA then x.dimsA else x.dimsB) '_'
  let withFree := x.free.foldl (fun names f =>
    if f.ofA == ofA then place names f.input (outLetter f.output) else names) blank
  let withBatch := x.batch.foldl (fun names i =>
    place names (if ofA then i.a else i.b) (outLetter i.output)) withFree
  x.bound.zipIdx.foldl (fun names (i, k) =>
    let c := x.sumLetter k
    if ofA then place names i.a (if i.mirroredA then c.toUpper else c)
    else place names i.b (if i.mirroredB then c.toUpper else c)) withBatch

def outLetters : Chars :=
  let withFree := x.free.foldl (fun names f => place names f.output (outLetter f.output))
    (replicate x.dimsC '_')
  x.batch.foldl (fun names i => place names i.output (outLetter i.output)) withFree

def names : Result Names :=
  if x.dimsC + x.bound.length > letters.length then .error .outOfRange
  else .ok
    { a := .ofList (x.inputLetters true), b := .ofList (x.inputLetters false),
      c := .ofList x.outLetters, d := .ofList (letters.take x.dimsC),
      sum := .ofList ((letters.drop x.dimsC).take x.bound.length) }

def ident : Result Text := do
  let n <- x.names
  let mark (b : Bool) : Text := opt b "C"
  return "_".intercalate ["Contraction", n.sum, "A" ++ n.a ++ mark x.conjA,
    "B" ++ n.b ++ mark x.conjB, "C" ++ n.c, "D" ++ n.d]

def conditions (operation types : Bool) : Result (List Cond) := do
  let first <- if operation then do
      pure ([withValue .problem "OperationIdentifierEqual" (<- x.ident)] ++
        opt (!x.useBeta.truthy) [bare .problem "BetaZero"] ++
        [withValue .problem SB x.stridedBatched])
    else pure []
  let second := opt types [withValue .problem "TypesEqual" (.tuple [.dataType x.typeA, .dataType x.typeB,
      .dataType x.typeC, .dataType x.typeD]), withValue .problem HPA x.highPrec]
  return first ++ second

def toValue : Result Value := do
  return .record [("operationIdentifier", <- x.ident), ("aType", x.typeA.traits.enum), ("bType", x.typeB.traits.enum),
     ("cType", x.typeC.traits.enum), ("dType", x.typeD.traits.enum), ("useBeta", written x.useBeta),
     ("highPrecisionAccumulate", written x.highPrec), ("useInitialStridesAB", written x.initStridesAB),
     ("useInitialStridesCD", written x.initStridesCD), ("stridedBatched", written x.stridedBatched)]

end Contraction

end TensorForge
