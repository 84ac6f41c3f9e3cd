import TensorForge.Asm.Constant
import TensorForge.Config.Arithmetic
import TensorForge.Report.Solution

/-! # Reports on functions and libraries -/

namespace TensorForge.Report

open Asm Cond Decimal Gen Master Table Value

instance : Readable Isa := ⟨fun v => do
  let some i := Isa.ofValue? (.tuple (<- items v)) | throw .outOfRange
  return i⟩

def archText (isa : Values) : Gen Text := do
  return "gfx" ++ (<- nth isa 0).shown ++ (<- nth isa 1).shown ++ Isa.hexText (<- int (<- nth isa 2))

def versionFits : Value -> Gen Bool
  | .str s => Settings.isCompatible s
  | _ => throw .noField

variable (a b : Value) (v : Value)

def ratioUp : Gen Int := do
  let x <- a.toFloat
  let y <- b.toFloat
  if y == 0 then throw .divisionByZero
  (float (x / y)).ceil

/-- By shifting and exclusive or; anything but numbers comes back as it is. -/
def combineHashes (args : Values) (shift : Value) : Gen Value := do
  let whole := match args with
    | [x] => x
    | xs => .tuple xs
  let items? : Option Values := match whole with
    | .dict es => some (es.map (·.1))
    | .str s => some (s.toList.map fun c => String.singleton c)
    | v => v.items?
  match items? with
  | none => return whole
  | some [] => return 0
  | some [x] => return x
  | some (x :: xs) =>
    match x.asInt?, shift.asInt?, xs.mapM asInt? with
    | some n, some s, some ns =>
      if s < 0 then throw .badValue
      return .int (ns.foldl (fun acc v => Arith.bitwise (· != ·) (acc * .pow 2 s.toNat) v) n)
    | _, _, _ => return whole

def quotientUp : Gen Int := do
  let neg := fun v => match v with
    | .float x => pure (x < 0)
    | v => return (<- int v) < 0
  if (<- neg a) || (<- neg b) then
    sayLine "ERROR: Can't have a negative register value"
    return 0
  if b == 0 then
    sayLine "ERROR: Divide by 0"
    return 0
  match a.asInt?, b.asInt? with
  | some n, some d => return .fdiv (n + d - 1) d
  | _, _ =>
    let x <- a.toFloat
    let y <- b.toFloat
    (float ((x + y - 1) / y).floor).toInt

def nextMultiple : Gen Int := return (<- quotientUp a b) * (<- b.toInt)

def logarithm : Gen Int := do
  match v.asInt? with
  | some n =>
    if n <= 0 then throw .badValue
    if n <= .pow 2 53 then return roundLog2 n.toNat
    return truncate (.log (ofInt n) / .log 2 + 0.5)
  | none =>
    let .float x := v | throw .wrongKind
    if x <= 0 then throw .badValue
    (float (.log x / .log 2 + 0.5)).toInt

def initializer (xs : List Shown) : Text := "\x7b" ++ ",".intercalate (xs.map (·.text)) ++ "\x7d"
def inSome (x : Value) (ls : Values) : Gen Bool := ls.anyM x.isIn
def inSomeOfSome (x : Value) (ls : Values) : Gen Bool := ls.anyM fun l => do inSome x (<- items l)

def assignWithDefault (target : Table) (key src : Value) (defaults : Table) : Gen Table := do
  return target.put key (<- fetchKey (if <- key.isIn src then src.entries else defaults) key)

def assignRequired (target : Table) (key src : Value) : Gen Table := do
  if <- key.isIn src then return target.put key (<- fetchKey src.entries key)
  fatal s!"Parameter \"{key.shown}\" must be defined in dictionary {src.shown}"

def partialMatch (fuel : Nat) (pattern object : Value) (debug : Bool) (level : Nat) : Gen Bool := do
  let indent := "".pushn ' ' (4 * level)
  if debug && level == 0 then sayLine ""
  match fuel, pattern, object with
  | 0, _, _ => throw .tooDeep
  | fuel + 1, .dict ps, .dict os =>
    for (k, v) in ps do
      match find? os k with
      | none =>
        if debug then sayLine s!"{indent}{k.shown} not in object."
        return false
      | some o =>
        if debug then sayLine s!"{indent} recursing into {k.shown}"
        if !(<- partialMatch fuel v o debug (level + 1)) then return false
  | _, p, o =>
    if p != o then
      if debug then sayLine s!"{indent}{p.shown} != {o.shown}"
      return false
  if debug then sayLine s!"{indent}: True"
  return true

def matchesPattern (pattern object : Value) (debug : Bool) (level : Option Int) : Gen Bool :=
  partialMatch depthBound pattern object debug (level.getD 0).toNat

def fieldText (state : Table) (field : Text) : Gen Text := return field ++ "=" ++ (<- fetch state field).shown

variable (args : Values) (q r d : Reg)

def instrLine : Reply := do
  let some comment := args.getLast? | throw .outOfRange
  let params := args.dropLast
  let params := if args.length > 2 && params.getLast? == some "" then params.dropLast else params
  if params.isEmpty then throw .wrongKind
  return line (joinOperands (params.map shown)) comment.shown

def textOr (default : Text) (v : Option Shown) : Text := (v.map (·.text)).getD default
def commentOnly (comment : Option Shown) : Text := commentLine (textOr "" comment)

instance : Readable Reg := ⟨fun v => match v, v.asInt? with
  | .str s, _ => pure (.named s)
  | _, some n => pure (.num n)
  | _, none => throw .wrongKind⟩

def regText (file : Text) (args : Values) : Reply := do
  let r <- first args
  if r.asInt?.isNone && r.asStr?.isNone then return .null
  match args with
  | [_] => return regs file (<- decode r) 1
  | [_, n] => return regs file (<- decode r) (<- int n)
  | _ => return .null

open Asm

instance : Reportable Instrs := ⟨fun is => renderAll is⟩

def vecDiv (n : Int) (v s : Reg) (remainder : Option Bool) (comment : Option Shown) : Result Instrs :=
  divideVector q r d n v s (remainder.getD true) (textOr "" comment)

def vecQuot (q d : Reg) (n : Int) (v s : Reg) (comment : Option Shown) : Result Instrs :=
  divideVector q (.num (-1)) d n v s false (textOr "" comment)

def vecRem (n : Int) (v s : Reg) (comment : Option Shown) : Result Instrs :=
  remainderVector q r d n v s (textOr "" comment)

def scalarDiv (n : Int) (tmp : Reg) (mode : Option Value) : Result Instrs :=
  let mode := mode.getD 1
  divideScalar q r d n tmp (mode.asInt?.getD (if mode.truthy then 1 else 0))

def vecProduct (a b : Shown) (n : Int) (tmp comment : Option Shown) : Result Instrs :=
  mulVec a.text b.text n (textOr "None" tmp) (textOr "" comment)

def scalarProduct (a b : Shown) (n : Int) (_ comment : Option Shown) : Result Instrs :=
  mulScalar a.text b.text n (textOr "" comment)

def elemType : Reply := do
  let t <- v.toDataType
  let e := t.traits
  let number : Value := match v with
    | .bool b => b
    | _ => t.code
  let bytes : Int := t.bytes
  let words : Value := if bytes % 4 == 0 then .int (bytes / 4) else .float (ofInt bytes / 4)
  return .record <| .flatten [
    [("toChar", t.char), ("toName", e.name), ("toNameAbbrev", e.abbreviation), ("toEnum", e.enum),
     ("toOpenCL", e.ocl), ("toHIP", e.hip), ("toCpp", e.host), ("getLibString", "tensileDataType" ++ e.enum),
     ("isReal", t.isReal), ("isComplex", t.isComplex), ("isDoubleComplex", t.isDoubleComplex),
     ("isSingleComplex", t.isSingleComplex), ("isDouble", t.isDouble), ("isSingle", t.isSingle),
     ("isHalf", t.isHalf), ("isInt32", t.isInt32), ("isInt8x4", t.isInt8x4), ("isInt8", t.isInt8)],
    [("isBFloat16", t.isBFloat16), ("isNone", false), ("numRegisters", words), ("numBytes", bytes),
     ("MIOutputTypeNameAbbrev", e.accumulator), ("flopsPerMac", t.flopsPerMac), ("state", e.enum),
     ("value", number), ("str", t.char), ("repr", t.char), ("attrs", [number]), ("ocl", t.device "OCL"),
     ("hip", t.device "HIP"), ("zeros", ["OCL", "HIP"].flatMap fun l => [t.zero l 1, t.zero l 4]), ("same", true)]]

variable (req : Table)

def elemTypes : Reply := do
  return <- each req "values" fun v => Answer.attempt (elemType v)

def cmpElems : Reply := do
  let a <- (<- fetch req "a").toDataType
  let given <- fetch req "b"
  let b <- if req.on "raw" then pure none else some <$> given.toDataType
  let same := (b.map (·.code)) == some a.code
  let order := fun (f : Int -> Int -> Bool) => Answer.attemptTo do
    let some b := b | throw .wrongKind
    return f a.code b.code
  return .record
    [("eq", same), ("ne", !same), ("lt", <- order (· < ·)), ("le", <- order (· <= ·)), ("gt", <- order (· > ·)),
     ("ge", <- order (· >= ·))]

/-! ## Libraries -/

open Answer

def familyOf (t : Table) : Gen Family := do
  match t.get? "cls" with
  | none | some "p" => return .plain
  | some "hw" => return .hardware
  | some "problem" => return .problem
  | some "property" => return .property
  | some v => throw (.missingKey v)

def readCond (fuel : Nat) (v : Value) : Gen (Option Cond) := do
  match fuel with
  | 0 => throw .tooDeep
  | fuel + 1 =>
    let t <- table v
    let family <- familyOf t
    let several (key : Text) := do List.filterMapM (readCond fuel) (<- ask t key)
    if t.has "isa" then return some (ofArch (<- archText (<- ask t "isa")) (t.or "cu"))
    else if t.has "And" then return some (.all family (<- several "And"))
    else if t.has "Or" then return some (any family (<- several "Or"))
    else if t.has "pair" then
      let [k, w] <- items (<- ask t "pair") | throw .badValue
      let .str key := k | throw .noField
      ofParam key w
    else
      let operand <- match t.or "value" with
        | .dict es =>
          if has es "tag" then pure (((<- readCond fuel (.dict es)).map .one).getD (.value .null))
          else pure (.value (.dict es))
        | w => pure (.value w)
      return some (.mk family (t.or "tag") (t.or "index") operand)

def condDepth : Nat := 100

def optionBefore : Option Cond -> Option Cond -> Result Bool
  | some c, some d => c.before d
  | some c, none => .error (if c.family == .property then .wrongKind else .noField)
  | none, _ => .error .wrongKind

def optionValue : Option Cond -> Value
  | some c => c.toValue
  | none => .null

def conjunction (cs : List (Option Cond)) : Gen Value :=
  match cs with
  | [] => throw .outOfRange
  | none :: _ => throw .noField
  | some c :: rest =>
    if c.family == .property then throw .noField else if rest.isEmpty then pure c.toValue
    else pure (.record [("type", "And"), ("value", .list (cs.map optionValue))])

def conditions : Reply := do
  let built <- each req "items" fun v => observing (readCond condDepth v)
  let cs := built.filterMap (·.toOption)
  let less <- attemptTo (cs.mapM fun a => cs.mapM fun b => optionBefore a b)
  let sorted <- attemptTo do return (<- Sorting.stable optionBefore cs).map optionValue
  return .record [("items", built.map fun r => outcome (r.map (optionValue ·)) ""),
    ("eq", cs.map fun a => cs.map (a == ·)), ("lt", less), ("sorted", sorted),
    ("and", <- attemptTo (conjunction cs))]

def contractionReport (p : ProblemType) : Reply := do
  let x <- Contraction.ofState p.state
  let n <- x.names
  let all <- x.conditions true true
  let types <- x.conditions false true
  return .record [("state", <- x.toValue), ("names", [n.a, n.b, n.c, n.d, n.sum]),
    ("preds", toValues all), ("some", toValues types)]

def logicData (t : Table) : Gen Values := do
  let config <- ask t "problemType"
  let p <- ProblemType.ofConfig config
  let fields := if p.convolution.isSome then config else Logic.problemFields p
  let solutions := (<- ask t "solutions" : Tables).map fun s =>
    .dict (if s.has PT then s else s.set PT (.dict fields))
  let field key := ask t key
  let extra := (<- ask? t "extra").getD []
  return [.record [(MRV, t.or "version" Settings.version)], <- field "schedule", <- field "arch", <- field "devices",
    .dict fields, .list solutions, <- field "indexOrder", <- field "exact", t.or "range"] ++ extra

def libValue (m : Master) : Gen Value := m.toValue false

def logicReport (l : Logic) (whole : Bool) : Reply := do
  let lib <- if whole then libValue l.lib else pure .null
  return .record [("schedule", l.schedule), ("devices", l.devices), ("pt", <- l.problem.name),
     ("names", <- l.solutions.mapM (·.name)), ("indexOrder", l.indexOrder), ("exact", l.exact), ("range", l.range),
     ("arch", l.architecture), ("library", lib), ("cpp", ["SolutionLibrary<ContractionProblem, ContractionSolution>",
     "MasterSolutionLibrary<ContractionProblem, ContractionSolution>"])]

def lib : Reply := do
  let read <- each req "logics" fun t => do
    let r <- observing do
      let l <- Logic.read (<- logicData t) "logic.yaml"
      return (l.lib, <- logicReport l (req.or "each" true).truthy)
    let printed := (<- get).log
    forget
    return (r.toOption.map (·.1), outcome (r.map (·.2)) printed)
  let parsed := read.filterMap (·.1)
  let mut named := parsed
  let mut extra : List (Text × Answer) := []
  if req.on "naming" then
    let tried <- parsed.mapM fun m => observing (m.named none)
    named := (tried.zip parsed).map fun (r, m) => r.toOption.getD m
    extra := [("naming", tried.map fun r => outcome (r.map fun m => answer (m.solutions.map (·.name))) "")]
  if req.on "merge" then
    let all := named
    let merged <- attemptTo do
      let m :: ms := all | throw .outOfRange
      libValue (<- ms.foldlM (fun a b => merge a b) m)
    extra := extra ++ [("merged", merged)]
  return .record (entry "logics" (read.map (·.2)) :: extra)

def layeredLib : Reply := do
  let data <- logicData (<- ask req "logic")
  let order <- ask req "order"
  return <- libValue (<- ofLogic data (<- decode (data.getD 5 .null)) order)

def measuredLib : Reply := do
  let m <- ofSolutions (<- readSolutions req)
  return <- libValue (<- if req.on "naming" then m.named none else pure m)

def fixedIdxs : Reply := return fixIdxs (<- ask req "indices")

def sortedProblem : Value :=
  match v with
  | .dict es =>
    match get? es PT with
    | some (.dict p) => .dict (set es PT (.strs (Naming.sortTexts (names p))))
    | _ => v
  | v => v

def logicRoundTrip : Reply := do
  let field key := req.or key
  let solutions : Solutions := (<- ask? req "solutions").getD []
  let tileSolutions := (<- ask? req "tileSolutions").getD []
  let first <- first solutions
  let exact <- each req "exact" fun row => return (.tuple (<- items (<- nth row 0)), <- nth row 1)
  let data <- Logic.create (field "schedule") (field "arch") (field "devices")
    { problem := first.problem, solutions, indexOrder := field "indexOrder", exact,
      range := field "range", tileSolutions, tileIdxs := field "tileIndices", metric := field "metric" }
  let shown := data.mapIdx fun i v => if i == 5 then .list (v.items.map sortedProblem) else v
  return .record [("data", shown), ("raw", [Value.int 10, .list (data.drop 9)])]

def solutionFile : Reply := do
  let solutions <- readSolutions req
  let first <- first solutions
  let sizes <- match req.or "sizes" with
    | .null | .list [] => pure none
    | v => some <$> ProblemSizes.read first.problem v
  forget
  let patch := (req.or "patch").entries
  let data : Values := (<- SolutionFile.data sizes solutions).mapIdx fun i v => patch.or (toString i) v
  let data := data.take ((req.or "keep").asInt?.getD data.length).toNat
  let (sizes, solutions) <- Logic.readSolutions data "s.yaml"
  let keys := names (Logic.underived (data.getD 2 .null).entries)
  return .record [("sizes", sizes.describe), ("problems", sizes.problems.map (·.sizes)),
    ("names", <- solutions.mapM (·.name)), ("valid", solutions.map (·.isValid)), ("keys", Naming.sortTexts keys)]

end TensorForge.Report
