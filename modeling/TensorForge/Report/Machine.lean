import TensorForge.Asm.Tree
import TensorForge.Asm.RegisterPool
import TensorForge.Checksum
import TensorForge.Value.Operations

/-! # Answers and reports on machine code -/

namespace TensorForge

inductive Answer where
  | value (v : Value)
  | list (xs : List Answer)
  | record (fields : List (Text × Answer))
  /-- A step that came to its end, and what it printed. -/
  | done (a : Answer) (printed : Text)
  | stopped (f : Fault) (printed : Text)
  | extended (a : Answer) (fields : List (Text × Answer))

abbrev Reply := Gen Answer

class Reportable (α : Type) where
  answer : α -> Answer

export Reportable (answer)

section

variable {α : Type} [Reportable α]

instance : Reportable Answer := ⟨id⟩
instance : Reportable Value := ⟨.value⟩
instance : Reportable Int := ⟨fun n => .value n⟩
instance : Reportable Nat := ⟨fun n => .value (n : Int)⟩
instance : Reportable Bool := ⟨fun b => .value b⟩
instance : Reportable Float := ⟨fun x => .value (.float x)⟩
instance : Reportable Text := ⟨fun s => .value s⟩
instance : Reportable Unit := ⟨fun _ => .value .null⟩
instance : Reportable (List α) := ⟨fun xs => .list (xs.map answer)⟩
instance : Reportable Table := ⟨fun t => .value (.dict t)⟩
instance : Reportable (List (Text × Answer)) := ⟨.record⟩
instance : Reportable (Option α) := ⟨fun
  | some x => answer x
  | none => .value .null⟩

instance (n : Nat) : OfNat Answer n := ⟨.value (OfNat.ofNat n)⟩
instance (x : α) : CoeT α x Answer := ⟨answer x⟩

end

namespace Answer

def null : Answer := .value .null
def entry {α : Type} [Reportable α] (name : Text) (x : α) : Text × Answer := (name, answer x)

def outcome (r : Result Answer) (printed : Text) : Answer :=
  match r with
  | .ok a => .done a printed
  | .error f => .stopped f printed

def forget : Act := modify ({ · with log := "" })

/-- Everything printed since the last such step goes with it. -/
def attempt (x : Reply) : Reply := do
  let r <- observing x
  let printed := (<- get).log
  forget
  return outcome r printed

def lastWords? (log : Text) : Option Text :=
  let mark := "Tensile::FATAL: "
  if Text.contains log mark then some (mark ++ (log.splitOn mark).getLastD "") else none

def onlyLastWords (x : Reply) : Reply := do
  try
    let a <- x
    forget
    return a
  catch e =>
    modify fun st => { st with log := (lastWords? st.log).getD "" }
    throw e

def attemptTo {α : Type} [Reportable α] (x : Gen α) : Reply := attempt (answer <$> x)

end Answer

/-- Long texts: whole, or as checksums of blocks of lines. -/
inductive View where
  | text
  | blocks (lines : Nat)

namespace View

/-- Nothing asks for the whole text. -/
def read (v : Option Value) : View :=
  match v with
  | some (.dict es) => match Table.get? es "crc" with
    | some (.int n) => .blocks n.toNat
    | _ => .text
  | _ => .text

def checksums (lines : Texts) (n : Nat) : Ints := go lines.length lines
where
  go : Nat -> Texts -> Ints
    | 0, _ => []
    | fuel + 1, ls =>
      if ls.isEmpty then [] else (Checksum.crc32 (String.join (ls.take n)).toUTF8).toNat :: go fuel (ls.drop n)

def apply (view : View) (s : Text) : Answer :=
  match view with
  | .text => s
  | .blocks n =>
    let lines := Text.linesKept s.toList |>.map .ofList
    .record [("lines", lines.length), ("crc", checksums lines (max n 1))]

end View

namespace Report

class Readable (α : Type) where
  decode : Value -> Gen α

/-- Functions that can be applied to a list of values. -/
class Callable (φ : Type) where
  call : φ -> Values -> Reply

structure Shown where
  text : Text

export Readable (decode)
export Callable (call)

section

variable {α β φ : Type} [Readable α]

instance : Readable Value := ⟨pure⟩
instance : Readable Bool := ⟨fun v => pure v.truthy⟩
instance : Readable Int := ⟨.int⟩
instance : Readable Text := ⟨.str⟩
instance : Readable Shown := ⟨fun v => pure ⟨v.shown⟩⟩
instance : Readable (List α) := ⟨fun v => do (<- .items v).mapM decode⟩
instance : Readable Table := ⟨.table⟩
instance : Readable (Option α) := ⟨fun v => if v.isNull then pure none else some <$> decode v⟩

variable (req : Table) (key : Text)

def ask : Gen α := do decode (<- .fetch req key)
def ask? : Gen (Option α) := decode (req.or key)
def each (f : α -> Gen β) : Gen (List β) := do List.mapM f (<- ask req key)
def arg (args : Values) (i : Nat) : Gen α := args[i]?.elim (throw .wrongKind) decode

variable [Reportable β] [Callable φ]

instance : Callable (Gen β) := ⟨fun x _ => answer <$> x⟩
instance : Callable (Result β) := ⟨fun x _ => answer <$> .ofExcept x⟩
instance (priority := low) : Callable β := ⟨fun x _ => pure (answer x)⟩
instance : Callable (α -> φ) := ⟨fun f args => do call (f (<- arg args 0)) args.tail⟩
instance : Callable (Option α -> φ) := ⟨fun f args => do call (f (<- args.head?.mapM decode)) args.tail⟩
instance : Callable (Bool -> φ) := ⟨fun f args => call (f (args.headD .null).truthy) args.tail⟩

end

/-! ## Machine code -/

open Asm Gen Item

def readInst (kind : InstKind) (args : Values) : Gen Item := do
  let some comment := args.getLast? | throw .outOfRange
  let .str comment := comment | throw .unmet
  let params := args.dropLast
  if params.isEmpty then throw .wrongKind
  return instOf kind (params.map Value.shown) comment

def readTimed (kind : Int -> InstKind) (args : Values) : Gen Item := do
  match args with
  | [] => throw .wrongKind
  | l :: rest => readInst (kind (l.asInt?.getD 0)) rest

def readWait (args : Values) : Gen Item := do
  if args.length > 4 then throw .wrongKind
  let isa <- arg args 0
  let lgkmcnt <- int (args.getD 1 (.int (-1)))
  let vmcnt <- int (args.getD 2 (.int (-1)))
  let comment <- str (args.getD 3 "")
  let major <- if lgkmcnt == -1 then pure 0 else do int (<- nth (<- items isa) 0)
  return waitCount major lgkmcnt vmcnt comment

def readSite (spec : Table) : Gen Accumulate.Site := do
  let kernel <- ask spec "kernel"
  let t <- (<- fetch kernel DT).toDataType
  let problem : Table := [(DT, .dataType t), (HPA, kernel.or "HPA" false)]
  let kernel := ((kernel.erase DT).erase "HPA").set PT (.dict problem)
  let [a, b, buf, unroll] : Ints <- ask spec "args" | throw .wrongKind
  return { isa := <- setting CISA, kernel, a, b, buf, unroll }

def readLeaf (node : Table) : Gen Item := do
  if let some v := node.get? "label" then
    let [n, c] <- items v | throw .wrongKind
    return .label (<- int n) (opt c.truthy c.shown)
  if let some v := node.get? "text" then
    let .str s := v | throw .unmet
    return .text s
  for (key, read) in [("inst", readInst .plain), ("gread", readInst .globalRead), ("lwrite", readTimed .localWrite),
      ("lread", readTimed .localRead), ("waitcnt", readWait)] do
    if let some v := node.get? key then return <- read (<- items v)
  if let some v := node.get? "mac" then return .inst .mac (<- Accumulate.macText (<- readSite (<- table v)))
  if let some v := node.get? "mfma" then
    let site <- readSite (<- table v)
    let text <- Accumulate.matrixText site
    return .inst (.matrix (<- Accumulate.matrixLatency site.kernel)) text
  throw (.missingKey "node")

/-- The description; `fuel` bounds the depth. -/
def readItem (fuel : Nat) (v : Value) : Gen Item := do
  match fuel, v with
  | 0, _ => throw .tooDeep
  | fuel + 1, .dict entries =>
    let node : Table := entries
    let readItems := fun v => do (<- items (v.getD (.list []))).mapM (readItem fuel)
    if let some name := node.get? "module" then return .module .plain name.shown (<- readItems (node.get? "items"))
    if let some name := node.get? "structured" then
      let parts <- table (node.or "items" (.dict []))
      let part := fun (key : Text) => do return modul key (<- readItems (parts.get? key))
      return .module .structured name.shown [<- part "header", <- part "middle", <- part "footer"]
    readLeaf node
  | _, .str s => return .text s
  | _, v => throw (.violated s!"unknown item type (<class '{v.kindName}'>) for Module.addCode. item={v.shown}")

def depthBound : Nat := 900

def countedClasses : Texts :=
  ["Item", "Module", "Inst", "TextBlock", "Label", "GlobalReadInst", "LocalReadInst", "LocalWriteInst", "WaitCnt"]

def findNamed (name : Value) : Items -> Gen Text
  | [] => pure "None"
  | .text s :: rest => if .str s == name then pure s else findNamed name rest
  | .module k n items :: rest => if .str n == name then pure (render (.module k n items)) else findNamed name rest
  | _ :: _ => throw .noField

variable (req : Table)

def codeTree : Reply := do
  let names := req.on "printModuleNames"
  let indent <- str (req.or "indent" "")
  let item <- readItem depthBound (<- ask req "tree")
  let text := item.render names
  let base : List (Text × Answer) :=
    [("str", text), ("toStr", text), ("pretty", item.outline indent),
     ("countType", .record (countedClasses.map fun c => (c, item.countClass c)))]
  match item with
  | .module _ _ items =>
    let found <- (req.get? "find").elim (pure []) fun name => do
        pure [("found", <- Answer.attemptTo (findNamed name items))]
    let more : List (Text × Answer) :=
      [("count", item.count), ("flat", item.leaves.map (·.render names)), ("items", items.map className),
       ("countTypeList", (item.countClasses ["GlobalReadInst", "LocalReadInst"]).1),
       ("after", (item.append [comment0 "c0", comment1 "c1", plain ["s_nop", "0"] "end", .text "tail\n"]).render names)]
    return .record (base ++ more ++ found)
  | .inst (.matrix latency) _ => return .record (base ++ [("latency", <- Answer.attemptTo (pure latency))])
  | _ => return .record base

def printItems : Reply := do
  let tag := (req.get? "tag").elim "__unnamed__" fun v => (v.items.head?.map Value.shown).getD "__unnamed__"
  let rule := "".pushn '=' 40
  let items <- each req "items" fun
    | Value.list xs => xs.mapM (readItem depthBound)
    | v => do return [<- readItem depthBound v]
  sayLine s!"{rule}\nbegin list {tag}\n{rule}"
  for (i, group) in items.mapIdx fun i g => (i, g) do
    sayLine (s!"list[{i}] " ++ "".pushn '-' 30)
    for item in group do
      let text := item.outline ""
      sayLine (if text.endsWith "\n" then .dropRight 1 text else text)
  sayLine s!"{rule}\nend list {tag}\n{rule}"
  return .null

def bufDesc : Reply := do
  let mut w := descUpper (<- int (<- nth (<- ask req "isa") 0))
  let shown := fun w => Answer.record [("str", w.literal), ("desc", w.describe), ("value", w.word)]
  let mut out := [shown w]
  for step in ((<- ask? req "set").getD [] : List Values) do
    let [field, value] := step | throw .badValue
    let name <- str field
    let n <- int value
    w := if name == "value" then w.setWord n else w.set name n
    out := out ++ [shown w]
  return .list out

def poolStep (p : RegisterPool) (method : Text) (args : Values) : Gen (RegisterPool × Result Value) := do
  let ok := fun v => (p, Except.ok v)
  let taken := fun align i tag => do
    let (start, q) <- p.checkOutReported (<- arg args 0) align (args.getD i (.str tag)).shown
      ((args[i + 1]?.filter (· != .int (-1))).map Value.truthy)
    return (q, .ok (.int start))
  match method with
  | "add" | "addRange" =>
    let start : Int <- arg args 0
    let second <- arg args 1
    let size := if method == "add" then second else second - start + 1
    let q <- p.addReported start.toNat size.toNat (args.getD 2 "").shown
    let shown := if method == "add" then .null
      else if start == second then .str (toString start) else .str s!"{start}-{second}"
    return (q, .ok shown)
  | "remove" =>
    let start : Int <- arg args 0
    let size : Int <- arg args 1
    let (q, fault) <- p.removeReported start.toNat size.toNat (args.getD 2 "").shown
    return (q, fault.elim (.ok .null) .error)
  | "checkOut" => taken 1 1 "_untagged_"
  | "checkOutAligned" => taken (<- arg args 1) 2 "_untagged_aligned_"
  | "initTmps" =>
    return ok (.str (<- p.initTmps (<- arg args 0) (<- int (args.getD 1 0)) (<- int (args.getD 2 (.int (-1))))))
  | "checkIn" =>
    let start : Int <- arg args 0
    if start < 0 then
      let i := start + p.size
      if i < 0 then throw .outOfRange
      warn s!"RegisterPool::checkIn('{p.tag i.toNat}',{start}) but it was never checked out"
      return ok .null
    return (<- p.checkInReported start.toNat, .ok .null)
  | "size" => return ok (.int p.size)
  | "available" => return ok (.int p.available)
  | "availableBlock" => return ok (.int (p.availableBlock (<- arg args 0 : Int).toNat))
  | "availableBlockAtEnd" => return ok (.int p.availableAtEnd)
  | "checkFinalState" =>
    p.checkFinalState
    return ok .null
  | "state" => return ok (.str p.picture)
  | _ => throw .noField

def regPool : Reply := do
  let mut pool := .ofSize (<- ask req "size" : Int).toNat (<- str (req.or "type" "v"))
    (req.on "prevent") (req.on "print")
  let mut out := []
  for step in (<- ask req "steps" : List Values) do
    let method :: args := step | throw .outOfRange
    let before := pool
    let (q, result) <- try poolStep before method.shown args catch e => pure (before, .error e)
    pool := q
    let a <- Answer.attemptTo result
    let tags := if pool.size > 24 then none else some (pool.regs.toList.map (·.tag))
    out := out ++ [.extended a [("state", pool.marks), ("tags", tags)]]
  return .list out

/-- In bytes; a block width that is no whole number stays a fraction. -/
def totalWidth (width : Value) (blocks : Int) : Value :=
  match width with
  | .float x => .float (x * Decimal.ofInt blocks)
  | v => .int (v.asInt?.getD 0 * blocks)

def memInstr : Reply := do
  let [name, addrs, offs, _, width, template] : Values <- ask req "init" | throw .wrongKind
  let m : MemInstr :=
    { name := <- str name, numAddrs := <- int addrs, numOffs := <- int offs, blockBytes := 4
      template := <- str template }
  let out <- each req "uses" fun (use : Values) => do
    let [params, comment, nonTemporal, high] := use | throw .badValue
    let params := (<- items params).map Value.shown
    let nt <- int nonTemporal
    let a <- Answer.attemptTo (m.render params comment.shown nt high.truthy)
    return Answer.list [a, <- Answer.attemptTo (m.padded params nt high.truthy)]
  return .record [("str", m.name), ("blocks", m.numBlocks), ("width", totalWidth width m.numBlocks),
    ("latency", m.latency), ("out", out)]

end Report

end TensorForge
