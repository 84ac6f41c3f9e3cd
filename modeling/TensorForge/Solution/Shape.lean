import TensorForge.Problem.Type
import TensorForge.Solution.LocalMemory

/-! # Solutions in the making -/

namespace TensorForge

open Gen Parameters Tile

structure Draft where
  problem : ProblemType
  state : Table
  bufferLoad : Value := false
  (packed0 packed1 : Bool := false)
  bytes : Int := 4
  (vecsA vecsB acrossA acrossB localElems alignedA sizeB : Int := 0)

/-- Ends where a rule refuses the solution. -/
abbrev Derive := OptionT (StateT Draft Gen)
abbrev Rule := Derive Unit

namespace Derive

variable (key : Text) {α : Type}

def pure? (x : Result α) : Derive α := .ofExcept x
def fail (f : Fault) : Derive α := (throw f : Gen α)
def fetch : Derive Value := do Gen.fetch (<- get).state key
def int : Derive Int := do Gen.int (<- fetch key)
def flag : Derive Bool := return (<- fetch key).truthy
def isText (key text : Text) : Derive Bool := return (<- fetch key) == text
def items : Derive Values := do Gen.items (<- fetch key)

def nth (i : Int) : Derive Int := do Gen.int (<- Gen.nth (<- items key) i)

def has : Derive Bool := return (<- get).state.has key
def set (v : Value) : Rule := modify fun d => { d with state := d.state.set key v }
def setInts (ns : Ints) : Rule := set key (.ints ns)

def setItem (i : Nat) (n : Int) : Rule := do
  let xs <- items key
  if i < xs.length then set key (.list (xs.set i n)) else fail .outOfRange

def putInto (k v : Value) : Rule := do
  match <- fetch key with
  | .dict es => set key (.dict (Table.put es k v))
  | _ => fail .wrongKind

def problem : Derive Value := do (<- get).problem.fetch key
def problemFlag : Derive Bool := return (<- problem key).truthy
def problemInt : Derive Int := do (<- get).problem.int key
def problemInts : Derive Ints := do (<- get).problem.ints key
def typeOf : Derive DataType := do (<- get).problem.dataType key
def dataType : Derive DataType := typeOf DT
def hasMatrix : Derive Bool := flag EMI
def loadWidth (tc : Text) : Derive Int := int ("GlobalLoadVectorWidth" ++ tc)

def printReason (text : Text) (more : Act) : Act := do
  if <- .flag PSRR then
    say "\nreject: "
    sayLine text
    more

def warnOfLib (d : Draft) : Act := do
  match d.state.get? SI with
  | none => pure ()
  | some v =>
    if v != .int (-1) then
      let name <- match d.state.get? "SolutionNameMin" with
        | none | some .null => d.problem.name
        | some n => pure n.shown
      sayLine ("!! Warning: Any rejection of a LibraryLogic is not expected, please check. " ++
        s!"        SolutionIndex: {<- Gen.int v} (or SolutionName/ProblemType: {name})")

variable (text : Text)

def reject : Rule := do
  printReason text (warnOfLib (<- get))
  set "Valid" false

def refuse : Derive α := do
  reject text
  failure

/-- The solution may still find another choice. -/
def complain : Rule := printReason text (pure ())
def rejectIf (b : Bool) (text : Text) : Rule := if b then reject text else pure ()
def note : Rule := sayAt 2 text
def quot (a b : Int) : Derive Int := Value.floorDiv a b
def rem (a b : Int) : Derive Int := Value.floorMod a b

/-! ## Work groups and thread tiles -/

def cap (table : Text) (isa : Value) (name : Text) : Gen Value := do
  let caps <- .table (<- .setting table)
  .fetch (<- .table (<- .fetchKey caps isa)) name

def protectsHalves : Derive Bool := do
  return (<- cap "ArchCaps" (<- .setting CISA) "HasEccHalf").truthy

variable (ns : Ints)

def expandLongForm : Rule := do
  match longForm (<- int WS) ns with
  | none => return ()
  | some l =>
    let l <- pure? l
    setItem TT 0 l.tile0
    setItem TT 1 l.tile1
    setItem WG 0 l.group0
    setItem WG 1 l.group1

def checkInstr : Rule := do
  set "MFMA_BF16_1K" false
  let t <- dataType
  if !(shapesOf t.char).contains ns then
    if t.isBFloat16 && (shapesOf "B1k").contains ns then set "MFMA_BF16_1K" true
    else reject s!"MatrixInstruction {(Value.ints ns).shown} not valid for DataType {t.char}"

def arrangeBlocks (m n k b : Int) : Rule := do
  checkInstr ns
  let tile1 <- nth TT 1
  if (<- rem tile1 m) != 0 then reject s!"invalide ThreadTile1 {tile1} for MatrixInstM {m}"
  set EMI true
  let w <- pure? (arrange m n k b (<- nth WG 0) (<- nth WG 1) (<- nth TT 0) tile1 (<- int WS))
  setInts "MIBlock" w.block.toList
  setInts MIWG [w.group0, w.group1]
  setInts MIWT [w.tile0, w.tile1]
  set MIIPT w.inputs

/-- Without one the kernel multiplies element by element. -/
def readInstr : Rule := do
  let xs <- match <- fetch MI with
    | .list xs => pure xs
    | .tuple xs => pure xs
    | _ => fail .wrongKind
  let ns <- (xs.mapM .int : Gen Ints)
  if ns.length == 9 then expandLongForm ns
  match ns with
  | [] => set EMI false
  | m :: n :: k :: b :: _ =>
    setInts MI [m, n, k, b]
    arrangeBlocks [m, n, k, b] m n k b
  | _ => fail .outOfRange

def hasLen (key : Text) (n : Int) : Derive Bool := do
  if !(<- has key) then return false
  return (<- (<- fetch key).len) == n

/-- `none` when nothing says so. -/
def usesMatrix : Derive Value := do
  let given := (<- get).state.or EMI
  if !given.isNull then return given
  if <- hasLen "MIBlock" 6 then
    if <- hasLen MIWG 2 then if <- hasLen MIWT 2 then return true
  if <- hasLen WG 3 then if <- hasLen TT 2 then return false
  reject "EnableMatrixInstruction undetermined"
  return .null

def matrixShape : Rule := do
  let names := [MIM, MIN, MIK, MIB, "MatrixInstBM", "MatrixInstBN"]
  for (i, name) in names.mapIdx fun i n => (i, n) do set name (<- nth "MIBlock" i)
  set LSU 1
  let double := (<- dataType).isDouble
  let m <- int MIM
  let outs := outputsOf m double
  set MIOVW outs
  set "MIRegPerOut" (if double then 2 else 1)
  if double then
    if (<- fetch SVW) != 1 then reject "DGEMM MFMA currently requires StoreVectorWidth=1"
  set "MIUseAccVgpr" true
  let block :=
    ⟨m, <- int MIN, <- int MIK, <- int MIB, <- int "MatrixInstBM", <- int "MatrixInstBN"⟩
  let wavefront <- if m == 4 then pure 64 else int WS
  let l <- pure? (threadLayout block (<- nth MIWG 0) (<- nth MIWG 1)
    (<- nth MIWT 0) (<- nth MIWT 1) wavefront outs)
  set TT0 l.tile0
  set TT1 l.tile1
  set "SubGroup0" l.group0
  set "SubGroup1" l.group1

def plainShape : Rule := do
  set TT0 (<- nth TT 0)
  set TT1 (<- nth TT 1)
  set "SubGroup0" (<- nth WG 0)
  set "SubGroup1" (<- nth WG 1)
  set LSU (<- nth WG 2)

def macroTile : Rule := do
  if (<- has "SubGroup0") && (<- has "SubGroup1") && (<- has LSU) then
    set NT ((<- int "SubGroup0") * (<- int "SubGroup1") * (<- int LSU))
  if (<- has "SubGroup0") && (<- has TT0) then set MT0 ((<- int "SubGroup0") * (<- int TT0))
  if (<- has "SubGroup1") && (<- has TT1) then set MT1 ((<- int "SubGroup1") * (<- int TT1))
  if <- has MT then
    if (<- int MT0) != (<- nth MT 0) then reject "MacroTile mismatch"
    else if (<- int MT1) != (<- nth MT 1) then reject "MacroTile mismatch"

def checkShape : Rule := do
  if (<- flag "Valid") && (<- has "MacroTileShapeMax") && (<- has "MacroTileShapeMin") then
    let t0 <- int MT0
    let t1 <- int MT1
    let shape := max (<- quot t0 t1) (<- quot t1 t0)
    let most <- int "MacroTileShapeMax"
    let least <- int "MacroTileShapeMin"
    if shape > most || shape < least then reject s!"rejecting MacroTile Shape {t0}:{t1} for Min:Max {least}:{most}"
  if <- has "WorkGroupMappingType" then
    if <- isText "WorkGroupMappingType" "Z" then
      if (<- int WGM).natAbs > 2 then reject "WorkGroupMappingType=Z only supports WorkGroupMapping=1, 2"

def assignShape : Rule := do
  if let some v := (<- get).state.get? APIDP then if v.truthy then return ()
  set APIDP false
  if !(<- has "Valid") then set "Valid" true
  if !(<- problemFlag SB) then
    if !(<- problemFlag "Batched") then reject "General Batched GEMM only support Batched Problem"
  if !(<- problemFlag SB) then
    if (<- problem OT) != "GEMM" then reject "General Batched GEMM only support GEMM OperationType"
  let matrix <- usesMatrix
  if matrix == true then matrixShape else if matrix == false then plainShape
  macroTile
  checkShape
  set APIDP true

end Derive

end TensorForge
