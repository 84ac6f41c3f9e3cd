import TensorForge.Config.Arithmetic

/-! # Configuration trees and expressions over them -/

namespace TensorForge

inductive Node where
  | plain (v : Value)
  | section (entries : List (Text × Node))
  | param (name : Value) (value default : Node) (desc : Value)

namespace Node

abbrev Entries := List (Text × Node)

mutual
def toValue : Node -> Value
  | .plain v => v
  | .section es => .dict (entriesValue es)
  | .param _ v _ _ => v.toValue

def entriesValue : Entries -> Table
  | [] => []
  | (k, n) :: rest => (k, n.toValue) :: entriesValue rest
end

def empty : Node := .section []

def content : Node -> Node
  | .param _ v _ _ => v
  | n => n

def find? (key : Text) (es : Entries) : Option Node := es.lookup key

def put (key : Text) (n : Node) : Entries -> Entries
  | [] => [(key, n)]
  | (k, m) :: rest => if k == key then (k, n) :: rest else (k, m) :: put key n rest

variable (n : Node) (key : Text)

def raw : Result Node :=
  match n with
  | .section es => (find? key es).getDM (.error (.missingKey key))
  | .param name value default desc =>
    match key with
    | "name" => .ok (.plain name)
    | "value" => .ok value
    | "defaultValue" => .ok default
    | "description" => .ok (.plain desc)
    | _ => .error (.missingKey key)
  | .plain _ => .error .noField

def step : Result Node :=
  match n with
  | .section _ => content <$> n.raw key
  | .param .. => n.raw key
  | .plain (.dict es) => .plain <$> (Table.get? es key).getDM (.error (.missingKey key))
  | .plain _ => .error .wrongKind

def follow : Texts -> Node -> Result Node
  | [], n => .ok n
  | k :: rest, n => do follow rest (<- n.step k)

def levels : Texts := (Text.parts '.' key.toList).map .ofList

/-- A path that cannot be followed is looked up as it stands. -/
def read : Result Node :=
  match n with
  | .section _ =>
    match levels key with
    | [_] => n.step key
    | path => follow path n <|> n.step key
  | n => n.step key

variable (v : Node)

/-- A parameter keeps everything but its value. -/
def writeEntry (es : Entries) : Entries :=
  put key (match find? key es with
    | some (.param name _ default desc) => .param name v default desc
    | _ => v) es

def assign : Result Node :=
  match n with
  | .section es => .ok (.section (writeEntry key v es))
  | .param name value default desc =>
    match key with
    | "name" => .ok (.param v.toValue value default desc)
    | "value" =>
      if v.toValue.kindName == value.toValue.kindName then .ok (.param name v default desc)
      else .error .noField
    | "defaultValue" => .ok (.param name value v desc)
    | "description" => .ok (.param name value default v.toValue)
    | _ => .error .noField
  | .plain _ => .error .noField

def change (f : Node -> Result Node) : Texts -> Node -> Result Node
  | [], n => f n
  | k :: rest, n =>
    match n with
    | .section es =>
      (find? k es).elim (.error (.missingKey k)) fun m => do
        return .section (writeEntry k (<- change f rest m.content) es)
    | .param name value default desc =>
      match k with
      | "value" => do return .param name (<- change f rest value) default desc
      | "defaultValue" => do return .param name value (<- change f rest default) desc
      | _ => .error (.missingKey k)
    | .plain _ => .error .wrongKind

/-- A path that cannot be followed becomes a key as it stands. -/
def write : Result Node :=
  match n with
  | .section _ =>
    match levels key with
    | [_] => n.assign key v
    | path => change (·.assign (path.getLast?.getD "") v) path.dropLast n <|> n.assign key v
  | n => n.assign key v

def container : Result Node :=
  match levels key with
  | [_] => n.raw key
  | path => (do (<- follow path.dropLast n).raw (path.getLast?.getD "")) <|> n.raw key

def create (name : Text) (value default : Node) (desc : Value) : Result Node :=
  n.write name (.param name value default desc)

def createSection (name : Text) : Result Node := n.create name empty (.plain .null) ""

def reset : Node -> Node
  | .section es => .section (es.map fun (k, n) => (k, match n with
      | .param name _ default desc => .param name default default desc
      | n => n))
  | n => n

def ownKeys : Texts := ["_readTransformFunc", "_writeTransformFunc"]

mutual
def flatKeys (sep : Text) : Node -> Result Texts
  | .section es => do return ownKeys ++ (<- flatEntries sep es)
  | .param _ value _ _ => do
    return ["type", "name"] ++ (<- flatEntry sep "value" value) ++ ["defaultValue", "description", "_writeTransformFunc"]
  | .plain _ => throw .noField

def flatEntry (sep key : Text) : Node -> Result Texts
  | .param _ value _ _ => flatInner sep key value
  | .section _ => throw (.missingKey "value")
  | .plain (.dict _) => throw .noField
  | .plain _ => .ok [key]

def flatInner (sep key : Text) : Node -> Result Texts
  | .plain (.dict _) => throw .noField
  | .plain _ => .ok [key]
  | n => do return (<- flatKeys sep n).map (key ++ sep ++ ·)

def flatEntries (sep : Text) : Entries -> Result Texts
  | [] => .ok []
  | (k, n) :: rest => do return (<- flatEntry sep k n) ++ (<- flatEntries sep rest)
end

def flatten (start sep : Text) : Result Texts := do
  return (<- n.flatKeys sep).map fun s => if start.isEmpty then s else start ++ sep ++ s

def contains (n : Node) (key : Text) : Result Bool := do
  if let .section es := n then if ownKeys.contains key || (find? key es).isSome then return true
  return (<- n.flatten "" ".").contains key

end Node

/-! ## Expressions -/

open Node

/-- Operators have names, which need not be known. -/
inductive Expr where
  | block (body : List Expr)
  | statement (e : Expr)
  | binary (op : Text) (left right : Expr)
  | junction (op : Text) (operands : List Expr)
  | comparison (left : Expr) (ops : Texts) (others : List Expr)
  | unary (op : Text) (e : Expr)
  | call (function : Expr) (args : List Expr)
  | assign (targets : List Expr) (value : Expr)
  | name (id : Text)
  | attribute (e : Expr) (name : Text) (isTarget : Bool)
  | conditional (test yes no : Expr)
  | number (v : Value)
  | text (v : Value)
  | other (kind : Text)
  | absent

inductive Evaluated where
  | given (n : Node)
  | computed (n : Node)

namespace Evaluated

def node : Evaluated -> Node
  | .given n => n
  | .computed n => n

def toValue (o : Evaluated) : Value := o.node.toValue

def opened : Evaluated -> Node
  | .given n => n.content
  | .computed n => n

end Evaluated

structure Evaluation where
  ctx : Node
  printed : Text := ""

/-- Evaluation that can fail; changes of the context stay. -/
abbrev Eval := EStateM Fault Evaluation

namespace Expr

def check (b : Bool) (text : Text) : Eval Unit := if b then pure () else throw (.violated text)

variable {α : Type}

def lift : Result α -> Eval α
  | .ok a => pure a
  | .error e => throw e

def pick? (op : BinaryOp) (a b : Evaluated) : Option Node :=
  let second r := (if r then b else a).node
  match op with
  | .both => some (second a.toValue.truthy)
  | .either => some (second !a.toValue.truthy)
  | .smaller => (b.toValue.less a.toValue).toOption.map second
  | .larger => (a.toValue.less b.toValue).toOption.map second
  | _ => none

variable (op : Text)

def known (f : Option α) : Eval α :=
  f.getDM (throw (.violated s!"Missing operation in funcMap: {op}"))

def applyBinary (a b : Evaluated) : Eval Evaluated := do
  let f <- known op (BinaryOp.ofName? op)
  match pick? f a b, Arith.binary f a.toValue b.toValue with
  | some n, _ => return .computed n
  | none, .ok v => return .computed (.plain v)
  | none, .error _ => throw .badOp

def applyUnary (a : Evaluated) : Eval Evaluated := do
  let f <- known op (UnaryOp.ofName? op)
  match Arith.unary f a.toValue with
  | .ok v => return .computed (if f == .same then a.node else .plain v)
  | .error _ => throw .badOp

def applyFn (f : Evaluated) (args : List Evaluated) : Eval Evaluated := do
  match f, args with
  | .given (.plain (.str op)), [a, b] => applyBinary op a b
  | .given (.plain (.str op)), [a] => applyUnary op a
  | _, _ => throw .badOp

def hasField (o : Evaluated) (name : Text) : Eval Bool :=
  match o.node with
  | .section es => pure (find? name es).isSome
  | .plain (.dict es) => pure (Table.has es name)
  | .plain (.list xs) => pure (xs.any (Value.same name))
  | .plain (.str s) => pure (Text.contains s name)
  | .plain _ => throw .wrongKind
  | n => pure ((n.raw name).isOk || name == "type" || ownKeys.contains name)

def field (o : Evaluated) (name : Text) : Eval Evaluated :=
  match o.node with
  | .section es => .given <$> (find? name es).getDM (throw (.missingKey name))
  | n => do return .given (<- lift (n.step name))

def inCtx (c : Node) (x : Eval α) : Eval α := do
  let before := (<- get).ctx
  modify ({ · with ctx := c })
  let r <- try Except.ok <$> x catch e => pure (.error e)
  modify ({ · with ctx := before })
  lift r

def lookUp (id : Text) : Eval Evaluated := do
  if let .section es := (<- get).ctx then if let some n := find? id es then return .given n
  modify fun s => { s with printed := s.printed ++ s!"No context for named variable: {id}\n" }
  return .given (.plain id)

def path? : Expr -> Option Texts
  | .name id => some [id]
  | .attribute e part _ => do return (<- path? e) ++ [part]
  | _ => none

def setAt (v : Node) : Texts -> Node -> Result Node
  | [], n => .ok n
  | [k], n => match n with
    | .section es => .ok (.section (put k v es))
    | .plain (.dict es) => .ok (.plain (.dict (Table.set es k v.toValue)))
    | .param .. => n.assign k v
    | .plain _ => .error .wrongKind
  | k :: rest, n => match n with
    | .section es => match find? k es with
      | some m => do return .section (put k (<- setAt v rest m) es)
      | none => .error (.missingKey k)
    | _ => .error .wrongKind

def store (target : Expr) (v : Node) : Eval Unit := do
  if let some path := path? target then
    modify ({ · with ctx := <- lift (setAt v path (<- get).ctx) })

mutual
def eval : Expr -> Eval Evaluated
  | .block body => match body with
    | [e] => eval e
    | _ => throw (.violated "Expecting only one expression")
  | .statement e => do return .given (<- eval e).opened
  | .binary op left right => do applyBinary op (<- eval left) (<- eval right)
  | .junction op operands => match operands with
    | a :: b :: _ => do applyBinary op (<- eval a) (<- eval b)
    | [a] => do
      let _ <- eval a
      throw .outOfRange
    | [] => throw .outOfRange
  | .comparison left ops others => do evalChain (<- eval left) ops others
  | .unary op e => do applyUnary op (<- eval e)
  | .call function args => match args with
    | [a, b] => do
      let a <- eval a
      let b <- eval b
      applyFn (<- inCtx empty (eval function)) [a, b]
    | [a] => do
      let a <- eval a
      applyFn (<- inCtx empty (eval function)) [a]
    | args => throw (.violated s!"Unknown function call with {args.length} parameters")
  | .assign targets value => do
    let v := (<- eval value).opened
    assignAll v targets
    return .given v
  | .name id => lookUp id
  | .attribute e part isTarget => do
    let o <- eval e
    check (<- hasField o part) s!"No attribute for named variable: {part}"
    if isTarget then return o else field o part
  | .conditional test yes no => do
    let t <- eval test
    let a <- eval yes
    let b <- eval no
    match t with
    | .computed n => return if n.toValue.truthy then a else b
    | .given _ => throw .wrongKind
  | .number v | .text v => pure (.given (.plain v))
  | .other _ => throw (.violated "Unknown node type")
  | .absent => throw .noField

def evalChain (left : Evaluated) (ops : Texts) : List Expr -> Eval Evaluated
  | [] => if ops.isEmpty then pure left else throw .outOfRange
  | e :: rest => match ops with
    | [] => pure left
    | op :: ops => do evalChain (<- applyBinary op left (<- eval e)) ops rest

def assignAll (v : Node) : List Expr -> Eval Unit
  | [] => pure ()
  | t :: rest => do
    match t with
    | .name _ => store t v
    | .attribute .. => do
      let _ <- eval t
      store t v
    | .other kind => throw (.violated s!"Don't know how to handle target node type: {kind}")
    | _ => throw (.violated "Don't know how to handle target node type: Expr")
    assignAll v rest
end

def run (e : Expr) (ctx : Node) : Result Node × Evaluation :=
  match (eval e).run { ctx } with
  | .ok o s => (.ok o.node, s)
  | .error f s => (.error f, s)

end Expr

end TensorForge
