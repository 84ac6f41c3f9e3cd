import TensorForge.Yaml.Token

/-! # Reading documents -/

namespace TensorForge.Yaml

open Value

/-- Tokens left, and values that have been named. -/
structure Reading where
  tokens : List Token
  anchors : List (Text × Value) := []

abbrev Reader := StateT Reading Result

/-- With a mark for the key that takes over other entries. -/
structure Node where
  value : Value
  merges : Bool := false

instance : Coe Value Node := ⟨({ value := · })⟩

namespace Reader

def misplaced {α : Type} : Reader α := throw (.badDoc "ParserError")
def meaningless {α : Type} : Reader α := throw (.badDoc "ConstructorError")
def peek : Reader (Option Token) := return (<- get).tokens.head?
def skip : Reader Unit := modify fun r => { r with tokens := r.tokens.drop 1 }

def accept (t : Token) : Reader Bool := do
  if (<- peek) == some t then skip; return true
  return false

def at' (ts : List Token) : Reader Bool := return (<- peek).any ts.contains

def ofScalar (text : Text) (isPlain : Bool) : Reader Node := do
  if !isPlain then return str text
  match Meaning.ofPlain text with
  | .value v => return v
  | .merge => return ⟨text, true⟩
  | .reserved => meaningless
  | .time | .text => return str text

def ofTagged (tag text : Text) : Reader Node := do
  if tag == "!" || tag == "tag:yaml.org,2002:str" then return str text
  let v := match Meaning.ofPlain text with
    | .value v => v
    | _ => text
  if !tag.startsWith "tag:yaml.org,2002:" then meaningless
  match Text.drop 18 tag, v with
  | "null", _ => return null
  | "bool", .bool _ | "int", .int _ | "float", .float _ => return v
  | "bool", _ => throw (.missingKey text)
  | "float", .int n => return float (Decimal.ofInt n)
  | "int", _ | "float", _ => throw .badValue
  | _, _ => meaningless

def isHashable : Value -> Bool
  | .list _ | .dict _ => false
  | _ => true

def dict : Value -> Reader Table
  | .dict es => return es
  | _ => meaningless

def taken : Value -> Reader Table
  | .list xs => do return (<- xs.mapM dict).reverse.foldl .update []
  | v => dict v

/-- Entries that are taken over come first. -/
def mapping (es : List (Node × Value)) : Reader Node := do
  let own := es.filter (!·.1.merges)
  let others <- (es.filter (·.1.merges)).mapM (taken ·.2)
  if own.any fun e => !isHashable e.1.value then meaningless
  return Value.dict (own.foldl (fun (t : Table) (k, v) => t.put k.value v) (others.foldl Table.update []))

def blockStops : List Token := [.key, .value, .blockEnd]
def absent : Node := null
def orAbsent (stops : List Token) (x : Reader Node) : Reader Node := do if <- at' stops then return absent else x

def anchor? : Reader (Option Text) := do
  let some (.anchor a) <- peek | return none
  skip
  return some a

def tag? : Reader (Option Text) := do
  let some (.tag t) <- peek | return none
  skip
  return some t

def props : Reader (Option Text × Option Text) := do
  let a <- anchor?
  let t <- tag?
  let a <- if a.isNone && t.isSome then anchor? else pure a
  return (a, t)

mutual

/-- `isBlock` admits block form, and `bare` a sequence at the indentation of its mapping. -/
def node (isBlock bare : Bool) : Nat -> Reader Node
  | 0 => misplaced
  | fuel + 1 => do
    match <- peek with
    | some (.alias name) =>
      skip
      return <- ((<- get).anchors.lookup name).getDM (throw (.badDoc "ComposerError"))
    | _ =>
      let (anchor, tag) <- props
      let n <- content isBlock bare (anchor.isSome || tag.isSome) tag fuel
      if let some name := anchor then
        if (<- get).anchors.any fun a => a.1 == name then throw (.badDoc "ComposerError")
        modify fun r => { r with anchors := (name, n.value) :: r.anchors }
      return n

def content (isBlock bare marked : Bool) (tag : Option Text) : Nat -> Reader Node
  | 0 => misplaced
  | fuel + 1 => do
    let collection (n : Node) := do
      match tag with
      | none | some "!" | some "tag:yaml.org,2002:seq" | some "tag:yaml.org,2002:map" => return n
      | some _ => meaningless
    match <- peek with
    | some (.scalar text isPlain) =>
      skip
      tag.elim (ofScalar text isPlain) (ofTagged · text)
    | some .openBracket =>
      skip
      collection (list (<- flowItems true fuel))
    | some .openBrace =>
      skip
      collection (<- mapping (<- flowEntries true fuel))
    | next =>
      if bare && next == some .entry then collection (list (<- items false fuel))
      else if isBlock && next == some .sequenceStart then
        skip
        let xs <- items true fuel
        if !(<- accept .blockEnd) then misplaced
        collection (list xs)
      else if isBlock && next == some .mapStart then
        skip
        let es <- entries fuel
        if !(<- accept .blockEnd) then misplaced
        collection (<- mapping es)
      else if marked then tag.elim (pure absent) (ofTagged · "")
      else misplaced

def items (closed : Bool) : Nat -> Reader Values
  | 0 => misplaced
  | fuel + 1 => do
    if !(<- accept .entry) then return []
    let stops := if closed then [.entry, .blockEnd] else .entry :: blockStops
    let x <- if (<- at' stops) || (<- peek).isNone then pure absent else node true false fuel
    return x.value :: (<- items closed fuel)

def entries : Nat -> Reader (List (Node × Value))
  | 0 => misplaced
  | fuel + 1 => do
    if !(<- accept .key) then return []
    let k <- orAbsent blockStops (node true true fuel)
    let v <- if <- accept .value then orAbsent blockStops (node true true fuel) else pure absent
    return (k, v.value) :: (<- entries fuel)

def flowPair (close : Token) : Nat -> Reader (Node × Value)
  | 0 => misplaced
  | fuel + 1 => do
    let k <- orAbsent [.value, .comma, close] (node false false fuel)
    let v <- if <- accept .value then orAbsent [.comma, close] (node false false fuel) else pure absent
    return (k, v.value)

def flowItems (first : Bool) : Nat -> Reader Values
  | 0 => misplaced
  | fuel + 1 => do
    if <- accept .closeBracket then return []
    if !first then if !(<- accept .comma) then misplaced
    if <- accept .closeBracket then return []
    let x <- if <- accept .key then mapping [<- flowPair .closeBracket fuel] else node false false fuel
    return x.value :: (<- flowItems false fuel)

def flowEntries (first : Bool) : Nat -> Reader (List (Node × Value))
  | 0 => misplaced
  | fuel + 1 => do
    if <- accept .closeBrace then return []
    if !first then if !(<- accept .comma) then misplaced
    if <- accept .closeBrace then return []
    let e <- if <- accept .key then flowPair .closeBrace fuel else do pure (<- node false false fuel, .null)
    return e :: (<- flowEntries false fuel)

end

def directives : Nat -> Reader Bool
  | 0 => return false
  | fuel + 1 => do
    if !(<- accept .directive) then return false
    let _ <- directives fuel
    return true

def document (fuel : Nat) : Reader Value := do
  if (<- peek).isNone then return .null
  let marked := (<- directives fuel) || (<- peek) == some .docStart
  if marked then if !(<- accept .docStart) then misplaced
  let empty := marked && ((<- peek).isNone || (<- at' [.directive, .docStart, .docEnd]))
  let v <- if empty then pure absent else node true false fuel
  modify fun r => { r with tokens := r.tokens.dropWhile (· == .docEnd) }
  if (<- peek).isNone then return v.value
  let _ <- directives fuel
  if (<- peek) == some .docStart then throw (.badDoc "ComposerError")
  misplaced

end Reader

def read (text : Text) : Result Value := do
  let tokens <- tokensOf text
  let (v, _) <- (Reader.document (8 * tokens.length + 8)).run { tokens }
  return v

end TensorForge.Yaml
