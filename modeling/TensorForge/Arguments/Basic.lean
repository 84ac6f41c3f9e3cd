import TensorForge.Config.Literal

/-! # Arguments of commands -/

namespace TensorForge.Args

open Gen String Text

inductive Kind where
  | text | whole | real | yesNo
  /-- A name, an equals sign and an expression; `title` stands in complaints. -/
  | assignment (title : Text)
  deriving DecidableEq

def yesWords : Texts := ["y", "yes", "t", "true", "on", "1"]
def noWords : Texts := ["n", "no", "f", "false", "off", "0"]

inductive Arity where
  | one | optional | several | many
  deriving DecidableEq

inductive Effect where
  | store
  | constant (v : Value)
  | append
  | help
  | version (text : Text)

structure Param where
  /-- Without flags a parameter is matched by its place. -/
  flags : Texts := []
  name : Text
  effect : Effect := .store
  arity : Arity := .one
  kind : Kind := .text
  choices : Texts := []
  default : Value := .null
  label : Option Text := none
  required : Bool := false

namespace Param

instance : Coe Text Param := ⟨({ name := · })⟩

section

variable (flags : Texts) (name : Text)

def flagged (default : Value := .null) (choices : Texts := []) : Param := { flags, name, default, choices }
def number (default : Value := .null) : Param := { flags, name, default, kind := .whole }

/-- `value` where a flag stands, else the opposite. -/
def switch (value : Bool := true) : Param := { flags, name, effect := .constant value, default := !value }

end

def assigns (flag name : Text) : Param :=
  { flags := [flag], name, arity := .several, kind := .assignment "splitExtraParameters", default := .list [] }

variable (p : Param)

def isPlaced : Bool := p.flags.isEmpty

def isSwitch : Bool :=
  match p.effect with
  | .store | .append => false
  | _ => true

def title : Text := if p.isPlaced then p.label.getD p.name else "/".intercalate p.flags

def least : Nat :=
  if p.isSwitch then 0 else match p.arity with
    | .one | .several => 1
    | .optional | .many => 0

def most (n : Nat) : Nat :=
  if p.isSwitch then 0 else match p.arity with
    | .one | .optional => min n 1
    | .several | .many => n

end Param

structure Cmd where
  name : Text
  params : List Param

def helpParam : Param := { flags := ["-h", "--help"], name := "help", effect := .help }

variable (c : Cmd)

def Cmd.all : List Param := helpParam :: c.params

inductive Refusal where
  | misfit (text : Text)
  | help
  | version (text : Text)
  | fault (f : Fault)

inductive Role where
  | plain
  | flag (p : Param) (flag : Text) (attached : Option Text)
  /-- Looks like a flag that the command does not have. -/
  | unknown

structure Item where
  text : Text
  role : Role

def Item.isPlain (i : Item) : Bool :=
  match i.role with
  | .plain => true
  | _ => false

def Cmd.ofFlag? (flag : Text) : Option Param := c.all.find? (·.flags.contains flag)
def Cmd.flags (c : Cmd) : List (Text × Param) := c.all.flatMap fun p => p.flags.map fun f => (f, p)

variable (s : Text)

def splitEquals : Text × Option Text :=
  let cs := s.toList
  let head := cs.takeWhile (· != '=')
  if head.length == cs.length then (s, none) else (ofList head, some (ofList (cs.drop (head.length + 1))))

/-- Flags that a text cuts short, or that it runs into its argument. -/
def Cmd.candidates : List (Param × Text × Option Text) :=
  if s.startsWith "--" then
    let (head, attached) := splitEquals s
    c.flags.filterMap fun (f, p) => if f.startsWith head then some (p, f, attached) else none
  else
    c.flags.filterMap fun (f, p) =>
      if f == take 2 s then some (p, f, some (drop 2 s))
      else if f.startsWith s then some (p, f, none) else none

def isNegativeNumber : Bool :=
  let digits (cs : Chars) := cs.all fun c => '0' <= c && c <= '9'
  match s.toList with
  | '-' :: cs =>
    let whole := cs.takeWhile (· != '.')
    let last := if whole.length == cs.length then cs else cs.drop (whole.length + 1)
    digits whole && !last.isEmpty && digits last
  | _ => false

def Cmd.role : Except Refusal Role :=
  if !s.startsWith "-" then .ok .plain
  else match c.ofFlag? s with
    | some p => .ok (.flag p s none)
    | none =>
      if s.length == 1 then .ok .plain else
      let (head, attached) := splitEquals s
      match attached, c.ofFlag? head with
      | some a, some p => .ok (.flag p head (some a))
      | _, _ => match c.candidates s with
        | [(p, f, a)] => .ok (.flag p f a)
        | [] => if isNegativeNumber s || s.contains " " then .ok .plain else .ok .unknown
        | several =>
          let names := listing (several.map fun (_, f, _) => f)
          .error (.misfit s!"ambiguous option: {s} could match {names}")

/-- What stands behind a double dash is plain. -/
def Cmd.items (c : Cmd) : Texts -> Except Refusal (List Item)
  | [] => .ok []
  | "--" :: rest => .ok (rest.map fun s => ⟨s, .plain⟩)
  | s :: rest => do return ⟨s, <- c.role s⟩ :: (<- c.items rest)

structure Matching where
  values : Table
  places : List Param
  (seen extras : Texts := [])

def Param.convert (p : Param) (s : Text) : Except Refusal Value := do
  let bad {α : Type} (kind : Text) : Except Refusal α :=
    .error (.misfit s!"argument {p.title}: invalid {kind} value: {Value.quoteText s}")
  let v <- match p.kind with
    | .text => pure (Value.str s)
    | .whole => .int <$> (readInt? 10 s).getDM (bad "int")
    | .real => .float <$> (readFloat? s).getDM (bad "float")
    | .yesNo =>
      if yesWords.contains s.toLower then pure true else if noWords.contains s.toLower then pure false
      else bad "strbool"
    | .assignment title => match s.splitOn "=" with
      | [key, expr] => match Literal.read expr with
        | .ok v => pure (.tuple [key, v])
        | .error .wrongKind | .error .badValue => bad title
        | .error f => .error (.fault f)
      | _ => bad title
  if p.choices.isEmpty || p.choices.contains v.shown then return v
  let choices := listing (p.choices.map fun c => if p.kind == .text then Value.quoteText c else c)
  .error (.misfit s!"argument {p.title}: invalid choice: {v.quoted} (choose from {choices})")

def Param.take (p : Param) (m : Matching) (args : Texts) : Except Refusal Matching := do
  let m := { m with seen := p.name :: m.seen }
  match p.effect with
  | .help => .error .help
  | .version text => .error (.version text)
  | .constant v => return { m with values := m.values.set p.name v }
  | .append =>
    return { m with values := m.values.set p.name (.list ((m.values.or p.name).items ++ (<- args.mapM p.convert))) }
  | .store =>
    let v <- match p.arity, args with
      | .one, s :: _ | .optional, s :: _ => p.convert s
      | .many, [] => pure (if p.isPlaced && !p.default.isNull then p.default else .list [])
      | .several, args | .many, args => .list <$> args.mapM p.convert
      | _, [] => pure p.default
    return { m with values := m.values.set p.name v }

/-- The most places that `n` plain arguments can fill, with the number for each. -/
def shares (places : List Param) (n : Nat) : Nats :=
  let rec fill : List Param -> Nat -> Nats
    | [], _ => []
    | p :: ps, n =>
      let k := p.most (n - (ps.map Param.least).sum)
      k :: fill ps (n - k)
  let rec search : Nat -> Nats
    | 0 => []
    | i + 1 =>
      let ps := places.take (i + 1)
      if (ps.map Param.least).sum <= n then fill ps n else search i
  search places.length

def fillPlaces (m : Matching) (plain : Texts) : Except Refusal (Matching × Nat) := do
  let counts := shares m.places plain.length
  let (m', rest) <- (m.places.zip counts).foldlM (fun (m, rest) (p, k) => do
    return (<- p.take m (rest.take k), rest.drop k)) (m, plain)
  return ({ m' with places := m.places.drop counts.length }, plain.length - rest.length)

def Cmd.letters (c : Cmd) (m : Matching) (p : Param) (flag : Text) :
    (attached : Chars) -> Except Refusal Matching
  | [] => p.take m []
  | x :: rest =>
    let attached := ofList (x :: rest)
    let ignored := .misfit s!"argument {p.title}: ignored explicit argument {Value.quoteText attached}"
    if !p.isSwitch then p.take m [attached] else if flag.startsWith "--" then .error ignored
    else do
      let next := "-" ++ x.toString
      (c.ofFlag? next).elim (.error ignored) fun q => do c.letters (<- p.take m []) q next rest

/-- Takes a flag and its arguments from the items behind it; also how many it took. -/
def Cmd.takeFlag (m : Matching) (p : Param) (flag : Text)
    (attached : Option Text) (plain : Texts) : Except Refusal (Matching × Nat) := do
  match attached with
  | some a => 
    if a.isEmpty && !p.isSwitch then return (<- p.take m [a], 0)
    return (<- c.letters m p flag a.toList, 0)
  | none =>
    let n := plain.length
    if n < p.least then
      let what := if p.arity == .one then "one argument" else "at least one argument"
      throw (.misfit s!"argument {p.title}: expected {what}")
    let k := p.most n
    return (<- p.take m (plain.take k), k)

def Cmd.matchItems (c : Cmd) : Nat -> Matching -> List Item -> Except Refusal Matching
  | 0, m, _ => .ok m
  | fuel + 1, m, items => do
    let plain := (items.takeWhile Item.isPlain).map Item.text
    match items.drop plain.length with
    | [] =>
      let (m, k) <- fillPlaces m plain
      return { m with extras := m.extras ++ plain.drop k }
    | item :: rest =>
      let (m, k) <- if plain.isEmpty then pure (m, 0) else fillPlaces m plain
      if k > 0 then c.matchItems fuel m (items.drop k)
      else
        let m := { m with extras := m.extras ++ plain }
        match item.role with
        | .flag p flag attached =>
          let (m, k) <- c.takeFlag m p flag attached ((rest.takeWhile Item.isPlain).map Item.text)
          c.matchItems fuel m (rest.drop k)
        | _ => c.matchItems fuel { m with extras := m.extras ++ [item.text] } rest

def Cmd.defaults : Except Refusal Table :=
  c.params.foldlM (fun t p => do
    match p.effect with
    | .version _ => return t
    | _ =>
      let v <- match p.default with
        | .str s => if p.choices.isEmpty then p.convert s else pure s
        | v => pure v
      return if t.has p.name then t else t.set p.name v) []

variable (args : Texts)

/-- The values of the parameters, and the arguments left over. -/
def Cmd.parseKnown : Except Refusal (Table × Texts) := do
  let values <- c.defaults
  let items <- c.items args
  let m <- c.matchItems (items.length + 1) { values, places := c.params.filter Param.isPlaced } items
  let missing := c.params.filter fun p =>
    !m.seen.contains p.name && if p.isPlaced then p.least > 0 else p.required
  if !missing.isEmpty then
    let names := listing (missing.map Param.title)
    throw (.misfit s!"the following arguments are required: {names}")
  return (m.values, m.extras)

def Cmd.parse : Except Refusal Table := do
  let (values, extras) <- c.parseKnown args
  if !extras.isEmpty then throw (.misfit ("unrecognized arguments: " ++ " ".intercalate extras))
  return values

def lineWidth : Nat := 78

variable (p : Param)

def Param.placeholder : Text :=
  p.label.getD <| if !p.choices.isEmpty then "\x7b" ++ ",".intercalate p.choices ++ "\x7d"
    else if p.isPlaced then p.name else p.name.toUpper

def Param.argsText : Text :=
  let x := p.placeholder
  match p.arity with
  | .one => x
  | .optional => s!"[{x}]"
  | .several => s!"{x} [{x} ...]"
  | .many => s!"[{x} ...]"

def Param.part : Text :=
  if p.isPlaced then p.argsText else
  let flag := p.flags.headD ""
  let text := if p.isSwitch then flag else flag ++ " " ++ p.argsText
  if p.required then text else s!"[{text}]"

def Param.words : Texts :=
  let x := p.placeholder
  match p.arity with
  | .several => [x, s!"[{x} ...]"]
  | _ => [p.argsText]

/-- Breaks a line before a part that would reach beyond the width; `taken` is what the line holds already. -/
def fillLines (indent : Nat) : (taken : Nat) -> (line : Texts) -> Texts -> Texts
  | _, [], [] => []
  | _, line, [] => [" ".intercalate line]
  | taken, line, part :: parts =>
    if taken + part.length > lineWidth && !line.isEmpty
    then " ".intercalate line :: fillLines indent (indent + part.length + 1) [part] parts
    else fillLines indent (taken + part.length + 1) (line ++ [part]) parts

def Cmd.usage : Text :=
  let start := "usage: "
  let flags := (c.all.filter (!·.isPlaced)).map Param.part
  let places := (c.all.filter Param.isPlaced).flatMap Param.words
  let whole := " ".intercalate (c.name :: flags ++ places)
  if start.length + whole.length <= lineWidth then start ++ whole ++ "\n" else
  let indented n (lines : Texts) : Texts := lines.map ("".pushn ' ' n ++ ·)
  let lines := if 4 * (start.length + c.name.length) <= 3 * lineWidth then
      let indent := start.length + c.name.length + 1
      match fillLines indent start.length [] (c.name :: flags) with
      | [] => []
      | first :: more => first :: indented indent more ++ indented indent (fillLines indent indent [] places)
    else
      let indent := start.length
      let together := fillLines indent indent [] (flags ++ places)
      c.name :: indented indent (if together.length > 1
        then fillLines indent indent [] flags ++ fillLines indent indent [] places else together)
  start ++ "\n".intercalate lines ++ "\n"

def Cmd.accept {α : Type} (c : Cmd) (r : Except Refusal α) : Gen α := do
  match r with
  | .ok a => return a
  | .error (.fault f) => throw f
  | .error (.misfit text) => complain (c.usage ++ s!"{c.name}: error: {text}\n")
  | .error .help => say c.usage
  | .error (.version text) => sayLine text
  throw .exit

def Cmd.read : Gen Table := c.accept (c.parse args)
def Cmd.readKnown : Gen Table := return (<- c.accept (c.parseKnown args)).1

end TensorForge.Args
