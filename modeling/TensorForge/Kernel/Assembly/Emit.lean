import TensorForge.Asm.Constant
import TensorForge.Asm.RegisterPool
import TensorForge.Asm.Tree
import TensorForge.Kernel.Spec

/-! # Emitting assembly kernels -/

namespace TensorForge.Assembly

open Gen RegisterPool Text

/-- Numbers stand in instructions as decimals. -/
scoped instance decimal : Coe Int Text := ⟨toString⟩

/-- Parts of a kernel that can be left out, or checks and other help in finding faults, by name. -/
structure Switches where
  given : List (Text × Value) := []

namespace Switches

variable (s : Switches) (name : Text)

def set (v : Value) : Switches := ⟨(name, v) :: s.given⟩
def value : Value := (s.given.lookup name).getD 0
def on : Bool := (s.value name).truthy
def num : Int := (s.value name).asInt?.getD 0
def bits : Nat := (s.num name).toNat

/-- Places at which the kernel waits for everything, one bit each. -/
def waitsAt (places : Nat) : Bool := s.bits "ConservativeWaitCnt" &&& places != 0

def allParts : Switches :=
  ⟨["PreLoop", "GlobalReadA", "GlobalReadB", "GlobalInc", "LocalWrite", "LocalReadA", "LocalReadB", "Wait", "Sync",
    "MAC", "PostLoop", "ApplyAlpha", "GlobalWrite", "EdgeWrite"].map (·, true)⟩

/-- No limit on the items and no store check are negative. -/
def ofSettings : Gen Switches := do
  return ⟨[("EnableAsserts", <- setting "EnableAsserts"), ("CheckValue1A", <- setting "EnableDebugA"),
    ("CheckValue1B", <- setting "EnableDebugB"), ("CheckValueC", <- setting "EnableDebugC"),
    ("ValueCExpectedValue", <- setting "ExpectedValueC"), ("ForceExpectedValue", <- setting "ForceCExpectedValue"),
    ("DebugKernelMaxItems", 16), ("ForceValueA", .float 1.0), ("ForceValueB", .float 1.0), ("CheckStoreC", .int (-1))]⟩

end Switches

open Asm
inductive PadStage where
  | allocated | defined | computed
  deriving BEq

/-- Holds the offset of a load within a padded dimension. -/
structure PadReg where
  pad : ZeroPad
  name : Text
  (vr perp sPerp para sPara : Int)
  stage : PadStage := .allocated

structure Side extends Input where
  (globalRead localWrite localRead : MemInstr := default)
  (perRead perWrite : Int := 1)
  /-- The first register that is multiplied, and how many make a block. -/
  (valu valuPerBlock : Int := 0)
  (g2l numG2l writeAddr numWriteAddrs : Int := 0)
  /-- The first register of offsets, or of addresses, of global reads. -/
  (readOff numReadOffs increments readAddr : Int := 0)
  pads : List PadReg := []
  /-- Local reads for the elements of a vector, and for an iteration. -/
  (readsPerVector readsPerIter numSgprIncs numSgprStrides : Int := 0)
  /-- Where the next local read starts, and the buffers of reads and writes. -/
  (localReadOff readSwap writeSwap readCount : Int := 0)
  savedRead : Int × Int := (0, 0)
  roles : List (Text × Int) := []
  tileOffs : Int := 0
  packedOffs : Option Int := none
  /-- Elements that a local read brings along the summation, and inner iterations at once. -/
  (readWidth joined : Int := 1)
  /-- Local addresses that the rest of the summation replaces. -/
  (keptRead keptWrite : Option Int := none)

instance : Coe Side Input := ⟨Side.toInput⟩

structure Layout where
  /-- Bytes of an element: inputs, output in memory, output in registers. -/
  (bytesAB bytesOut bytesAcc : Int := 4)
  numValuC : Int := 0
  overlapC : Bool := false
  /-- Whether stores wait until the inputs' registers are free. -/
  serialStore : Bool := false
  (lastValuAB lastForReads addrDbg serial reuse totalVecs totalAccs : Int := 0)
  accMult : Int := 1
  mixInstr : Text := "NOT_SUPPORTED"
  matrixLatency : Int := 0
  (wideLimits tileRel useAtomicAdd : Bool := false)
  /-- The first initialised scalar register, and the last that the part after the loop needs. -/
  (firstInitScalar lastPostLoopScalar numLoaded argOffs : Int := 0)
  /-- The numbers to divide by packed summation indices. -/
  magicSums : Texts := []
  numStridesOut : Int := 0

/-- What a persistent kernel did before its next round. -/
inductive Round where
  | none | first | shortStores | stores | betaStores
  deriving BEq

/-- Memory operations that can be outstanding when a round begins. -/
structure RoundCounts where
  loads : Nat := 0
  (shortStores stores : Nat := 0)

structure RemapRegs where
  (write read coord0 coord1 : Int)
  column : Int
  /-- Between two reads of a thread: elements of local memory, columns of the tile. -/
  (stride columns : Int)

structure OutRegs where
  (coord0 coord1 : Int := 0)
  (rowC rowD : Option Int := none)
  (addrC addrD : Int := -1)
  remap : Option RemapRegs := none

structure State where
  session : Session
  k : KernelSpec
  name : Text
  (parts probes : Switches := {})
  isa : Isa := Isa.none
  (asmCaps archCaps : Table := [])
  (a b : Side)
  layout : Layout := {}
  (vectors scalars accumulators : RegisterPool := default)
  (savedVecs savedScalars : Option RegisterPool := none)
  named : List (Text × Nat) := []
  labels : Table := []
  out : Text := ""
  /-- The resource that ran out; zero when none did. -/
  overflowed : Int := 0
  inTail : Bool := false
  /-- Whether address computations are only followed. -/
  silent : Bool := false
  sharedRead : Option Int := none
  asserts : Nat := 0
  accReads : Texts := []
  /-- Whether writes wait for their loads one by one, and how many did. -/
  waitsSingly : Bool := false
  waited : Nat := 0
  round : Round := .none
  counts : RoundCounts := {}
  argOff : Option Int := none
  /-- Set up during the first loads: nothing, the addresses of the output, or the output as well. -/
  shadow : Nat := 0
  output : OutRegs := {}
  /-- What an instruction without text prints when put to paper, and why the kernel stops. -/
  unwritable : Option (Text × Fault) := none

abbrev Emit := EStateM Fault State
abbrev Code := Emit Unit

namespace Emit

instance : MonadLift Gen Emit where
  monadLift x := fun st =>
    match x st.session with
    | .ok r s => .ok r { st with session := s }
    | .error e s => .error e { st with session := s }

variable {α : Type}

def ofExcept : Result α -> Emit α
  | .ok a => pure a
  | .error e => throw e
def raw (s : Text) : Code := modify fun st => { st with out := st.out ++ s }
def emit (params : Texts) (comment : Text) : Code := raw (inst params comment)
def vMov (d x : Text) : Text -> Code := emit ["v_mov_b32", d, x]
def sMov (d x : Text) : Text -> Code := emit ["s_mov_b32", d, x]
def sSame (x y : Text) : Text -> Code := emit ["s_cmp_eq_u32", x, y]
def sWait (what : Text) : Text -> Code := emit ["s_waitcnt", what]
def vSelect (d x y mask : Text) : Text -> Code := emit ["v_cndmask_b32", d, x, y, mask]
def vAddShift (d x y n : Text) : Text -> Code := emit ["_v_add_lshl_u32", d, x, y, n]

section

variable (d x y : Text)

def vMul : Text -> Code := emit ["v_mul_lo_u32", d, x, y]
def sMul : Text -> Code := emit ["s_mul_i32", d, x, y]
def vAdd : Text -> Code := emit ["_v_add_u32", d, x, y]
def sAdd : Text -> Code := emit ["s_add_u32", d, x, y]
def sAddC : Text -> Code := emit ["s_addc_u32", d, x, y]
def vSub : Text -> Code := emit ["_v_sub_u32", d, x, y]
def sSub : Text -> Code := emit ["s_sub_u32", d, x, y]
def vAnd : Text -> Code := emit ["v_and_b32", d, x, y]
def vShift : Text -> Code := emit ["v_lshlrev_b32", d, x, y]
def sShift : Text -> Code := emit ["s_lshl_b32", d, x, y]

/-- Both halves of a wide sum or difference. -/
def sAddWide (lo hi x y comment : Text) : Code := do
  sAdd lo lo x comment
  sAddC hi hi y comment

def sSubWide (lo hi x y comment : Text) : Code := do
  sSub lo lo x comment
  emit ["s_subb_u32", hi, hi, y] comment

end

def capturing (x : Emit α) : Emit (Text × α) := do
  let before := (<- get).out
  modify ({ · with out := "" })
  let r <- x
  let text := (<- get).out
  modify ({ · with out := before })
  return (text, r)

def captured (x : Code) : Emit Text := return (<- capturing x).1

/-- Drops the text while address computations are only followed. -/
def unlessSilent (x : Code) : Code := do
  let text <- captured x
  if !(<- get).silent then raw text

def consts (xs : Result Instrs) : Code := for x in <- ofExcept xs do raw x.render

def vDiv (q r d : Reg) (divisor : Int) (tmpV tmpS : Reg) (remainder : Bool) (text : Text := "") : Code :=
  consts (divideVector q r d divisor tmpV tmpS remainder text)

def vRem (q r d : Reg) (divisor : Int) (tmpV tmpS : Reg) (text : Text := "") : Code :=
  consts (remainderVector q r d divisor tmpV tmpS text)

def vScale (r : Reg) (factor tmp : Int) (text : Text := "") : Code :=
  consts (mulVec (vr r) (vr r) factor (sr tmp) text)

end Emit

variable (text : Text) (n : Int) (i : Int)

def comment1 : Text := s!"/* {text} */\n"
def comment : Text := "\n" ++ comment1 text
def Emit.remark : Code := raw (comment1 text)
def Emit.heading : Code := raw (comment text)

def comment3 : Text :=
  let rule := "/******************************************/\n"
  "\n" ++ rule ++ .join ((text.splitOn "\n").map ("/* " ++ padRight 38 · ++ " */\n")) ++ rule

def hexLog : Text := hex (roundLog2 n.toNat)

variable (name : Text)

namespace Emit

def spec : Emit KernelSpec := return (<- get).k
def parts : Emit Switches := return (<- get).parts
def probes : Emit Switches := return (<- get).probes
def enabled : Emit Bool := return (<- parts).on name
def probing : Emit Bool := return (<- probes).on name
def asserting : Emit Bool := probing "EnableAsserts"
def layout : Emit Layout := return (<- get).layout
def bytesAB : Emit Int := return (<- layout).bytesAB
def onLayout (f : Layout -> Layout) : Code := modify fun st => { st with layout := f st.layout }
def quotient (a b : Int) : Emit Int := if b == 0 then throw .divisionByZero else pure (a.fdiv b)

variable (isA : Bool) (f : Side -> Side)

def side : Emit Side := do
  let st <- get
  return if isA then st.a else st.b

def onSide : Code :=
  modify fun st => if isA then { st with a := f st.a } else { st with b := f st.b }

def sides : Emit (List Side) := return [<- side true, <- side false]
def onSides : Code := modify fun st => { st with a := f st.a, b := f st.b }
def output : Emit OutRegs := return (<- get).output
def onOut (f : OutRegs -> OutRegs) : Code := modify fun st => { st with output := f st.output }

def rowOf (tc : Text) : Emit Int := do
  let o <- output
  (if tc == "C" then o.rowC else o.rowD).getDM (throw .noField)

variable (start size : Int)

def cap : Emit Bool := return (<- fetch (<- get).asmCaps name).truthy
def archCap : Emit Bool := return (<- fetch (<- get).archCaps name).truthy
def limit : Emit Int := do int (<- fetch (<- get).asmCaps name)
def awaitWrites : Code := do if <- archCap SV then emit ["s_waitcnt_vscnt", "null", "0"] "writes"
def flag : Emit Bool := Gen.flag name
def lacks (op : Text) : Emit α := do
  throw (.failure s!"{op} instruction specified but not supported on {(<- spec).isa.shown}")

def check (b : Bool) (text : Text := "") : Code := if b then pure () else throw (.violated text)

def readsLocal (t : Input) : Emit Bool := enabled s!"LocalRead{t.char}"

def swapBytes : Emit Int := do
  return (<- (<- spec).a.ldsOffBlk.getDM (throw (.missingKey "LdsOffsetA_Blk"))) * (<- layout).bytesAB

/-- The label that a name has; a new name gets one with the number of labels so far. -/
def labelled (make : Nat -> Value) : Emit Value := do
  let ls := (<- get).labels
  (ls.get? name).getDM do
    let v := make ls.length
    modify ({ · with labels := ls ++ [(.str name, v)] })
    return v

def numbered : Emit Value := labelled name (.int ·)
def named : Emit Value := labelled name fun n => s!"{name}_{n}"
def labelNum : Emit Nat := return (<- int (<- numbered name)).toNat
def label : Emit Text := return "label_" ++ zeroPadded 4 (<- labelNum name)
def namedLabel : Emit Text := return (<- named name).shown

def freshLabel : Emit Text := do
  let ls := (<- get).labels
  let key := s!"{name}_{ls.length}"
  modify ({ · with labels := ls.set key key })
  return key

def freshNum : Emit Value := do numbered s!"uniq_label_{(<- get).labels.length}"
def placeLabel (comment : Text := "") : Code := do raw s!"{<- label name}: // {name} {comment}\n"
def placeNamed (comment : Text := "") : Code := do raw s!"{<- namedLabel name}: // {comment}\n"

def takeVec (size : Int) (tag : Text := "_untagged_") (align : Int := 1) (prevent : Option Bool := none) :
    Emit Int := do
  let (i, p) <- checkOutReported (<- get).vectors size align tag prevent
  modify ({ · with vectors := p })
  return i

variable (tag : Text)

def takeOne : Emit Int := takeVec 1 tag
def takePair : Emit Int := takeVec 2 "tmpVgpr" 2

def giveVec : Code := do
  modify ({ · with vectors := <- checkInReported (<- get).vectors i.toNat })

def giveVecs (is : Ints) : Code := is.forM giveVec

def takeScalar (size : Int) (tag : Text) (align : Int := 1) (prevent : Option Bool := none) : Emit Int := do
  let (i, p) <- checkOutReported (<- get).scalars size align tag prevent
  modify ({ · with scalars := p })
  return i

def giveScalar : Code := do
  modify ({ · with scalars := <- checkInReported (<- get).scalars i.toNat })

def removeVecs : Code := do
  let (p, fault?) <- removeReported (<- get).vectors start.toNat size.toNat tag
  modify ({ · with vectors := p })
  if let some f := fault? then throw f

def addVecs : Code := do
  modify ({ · with vectors := <- addReported (<- get).vectors start.toNat size.toNat tag })

def maxScalars : Int := 102
def maxVecs : Int := 256

/-- The caller gives the registers back. -/
def takeTmp (align : Option Int := none) : Emit Int := do
  let i <- takeScalar n s!"getTmpSgpr({n})" (align.getD (if n == 1 then 1 else 2)) (some false)
  if i + n > maxScalars then
    modify ({ · with overflowed := 2 })
    if <- probing "AssertOnSgprOverflow" then throw .unmet
  return i

@[inline] def withTmp (f : Int -> Emit α) (align : Option Int := none) : Emit α := do
  let i <- takeTmp n align
  let r <- f i
  giveScalar i
  return r

/-- Registers that are free now; the next to be taken may overwrite them. -/
def glimpseTmp (align : Option Int := none) : Emit Int := withTmp n pure align
def glimpseScalar : Emit Text := return sr (<- glimpseTmp 1)

def defScalar (n : Int := 1) (align : Int := 1) : Code := do
  if n != 0 then
    let i <- takeScalar n name align (some false)
    modify fun st =>
      let i := i.toNat
      { st with named :=
          if st.named.any (·.1 == name) then st.named.map fun e => if e.1 == name then (name, i) else e
          else st.named ++ [(name, i)] }

def defScalars (names : Texts) (n : Int := 1) (align : Int := 1) : Code := for name in names do defScalar name n align

def scalarNamed : Emit Int := do
  match (<- get).named.find? (·.1 == name) with
  | some (_, i) => return i
  | none => throw (.missingKey name)

def undefScalar : Emit Text := do
  giveScalar (<- scalarNamed name)
  return s!".set {name}, UNDEF\n"

def roleOf (t : Side) (role : Text) : Emit Int := (t.roles.lookup role).getDM (throw (.missingKey role))

variable (role : Text)

def setRole (i : Int) : Code := onSide isA fun t => { t with roles := (role, i) :: t.roles.filter (·.1 != role) }
def clearRole : Code := onSide isA fun t => { t with roles := t.roles.filter (·.1 != role) }

def releaseRole : Code := do
  giveVec (<- roleOf (<- side isA) role)
  clearRole isA role

def byLanes (wide narrow : α) : Emit α := return if (<- spec).waveSize == 64 then wide else narrow
def vcc : Emit Text := byLanes "vcc" "vcc_lo"
def vAddCo (d x y comment : Text) : Code := do emit ["_v_add_co_u32", d, <- vcc, x, y] comment
def exec : Emit Text := byLanes "exec" "exec_lo"
def laneRegs : Emit Int := byLanes 2 1

end Emit

variable (k : KernelSpec)

def sizeRef (i : Int) : Text := sr s!"Size{k.plainChar i}"

variable (loop : Int)

def loopChar : Text := k.plainChar (k.sumIdx loop)
def loopSizeRef : Text := sizeRef k (k.sumIdx loop)
def loopCounterName : Text := "LoopCounter" ++ loopChar k loop
def loopCounter : Text := sr (loopCounterName k loop)
def isConstStride (stride : Text) : Bool := stride.startsWith "const"

def strideRef (t : Input) (dim : Int) : Text :=
  if !k.initStridesAB && t.assigns.head? == some dim then s!"constStride{t.char}{k.idxChar dim}"
  else sr s!"Stride{t.char}{k.idxChar dim}"

def outStrideRef (tc : Text) (dim : Int) : Text :=
  if !k.initStridesCD && dim == 0 then s!"constStride{tc}{k.idxChar dim}" else sr s!"Stride{tc}{k.idxChar dim}"

def lastIterTest (comment : Text := "at last iteration?") : Text :=
  if k.countsElems then inst ["s_cmp_gt_u32", DU, sr "UnrollLoopLastIter"] comment
  else inst ["s_cmp_eq_u32", loopCounter k k.unrollIdx, "0"] comment

def Emit.define (name value : Text) : Code := raw s!".set {name}, {value}\n"

end TensorForge.Assembly
