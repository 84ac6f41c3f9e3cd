import TensorForge.Config.Arithmetic

/-! # Values written as expressions -/

namespace TensorForge.Literal

open Text

inductive Token where
  | value (v : Value)
  | name (s : Text)
  | mark (s : Text)

def isNameChar (c : Char) : Bool := c.isAlphanum || c == '_'

def quoted (q : Char) : Chars -> Chars -> Option (Text × Chars)
  | _, [] => none
  | acc, '\\' :: c :: rest =>
    let known := [('n', '\n'), ('t', '\t'), ('r', '\r'), ('\\', '\\'), ('\'', '\''), ('"', '"'),
      ('0', '\x00'), ('a', '\x07'), ('b', '\x08'), ('f', '\x0c'), ('v', '\x0b')]
    match known.lookup c with
    | some x => quoted q (x :: acc) rest
    | none => if c == '\n' then quoted q acc rest else quoted q (c :: '\\' :: acc) rest
  | acc, c :: rest =>
    if c == q then some (.ofList acc.reverse, rest)
    else if c == '\n' then none else quoted q (c :: acc) rest

def number? (s : Text) : Option Value :=
  let lower := s.toLower
  let based base := (readInt? base (drop 2 lower)).map .int
  if lower.startsWith "0x" then based 16 else if lower.startsWith "0o" then based 8
  else if lower.startsWith "0b" then based 2
  else (readInt? 10 s).elim ((readFloat? s).map .float) fun n =>
      if s.length > 1 && s.startsWith "0" && n != 0 then none else some n

def numberChars : (afterExponent : Bool) -> Chars -> Chars × Chars
  | _, [] => ([], [])
  | e, c :: cs =>
    if isNameChar c || c == '.' || (e && (c == '+' || c == '-')) then
      let (xs, rest) := numberChars (c == 'e' || c == 'E') cs
      (c :: xs, rest)
    else ([], c :: cs)

def token (c : Char) (cs : Chars) : Option (Token × Chars) :=
  let spanned := (c :: cs).span isNameChar
  if c == '\'' || c == '"' then return (<- quoted c [] cs).map (.value ∘ .str) id
  else if c.isDigit || (c == '.' && (cs.head?.map Char.isDigit).getD false) then do
    let hex := c == '0' && (cs.head? == some 'x' || cs.head? == some 'X')
    let (word, rest) := if hex then spanned else numberChars false (c :: cs)
    return (.value (<- number? (.ofList word)), rest)
  else if isNameChar c then some (spanned.map (.name ∘ .ofList) id)
  else match c, cs with
    | '*', '*' :: rest => some (.mark "**", rest)
    | '/', '/' :: rest => some (.mark "//", rest)
    | _, _ => if "+-*/%~()[]\x7b\x7d,:.".toList.contains c then some (.mark (.singleton c), cs) else none

def tokens : Nat -> Chars -> Option (List Token)
  | 0, cs => if cs.isEmpty then some [] else none
  | _ + 1, [] => some []
  | fuel + 1, c :: cs =>
    if c == ' ' || c == '\t' then tokens fuel cs else do
      let (t, rest) <- token c cs
      return t :: (<- tokens fuel rest)

def named : String -> Result Value
  | "True" => .ok true
  | "False" => .ok false
  | "None" => .ok .null
  | _ => .error .unknownName

inductive Form where
  | value (v : Value)
  | name (s : String)
  | binary (op : BinaryOp) (a b : Form)
  | unary (op : UnaryOp) (a : Form)
  | list (xs : List Form)
  | tuple (xs : List Form)
  | dict (es : List (Form × Form))
  | field (a : Form)
  deriving Inhabited

namespace Form

mutual
def eval : Form -> Result Value
  | .value v => .ok v
  | .name s => named s
  | .binary op a b => do Arith.binary op (<- a.eval) (<- b.eval)
  | .unary op a => do Arith.unary op (<- a.eval)
  | .list xs => do return .list (<- evalAll xs)
  | .tuple xs => do return .tuple (<- evalAll xs)
  | .dict es => do return .dict (<- evalEntries es [])
  | .field a => do
    let _ <- a.eval
    .error .noField

def evalAll : List Form -> Result Values
  | [] => .ok []
  | x :: xs => do return (<- x.eval) :: (<- evalAll xs)

def evalEntries : List (Form × Form) -> Table -> Result Table
  | [], t => .ok t
  | (k, v) :: es, t => do evalEntries es (t.put (<- k.eval) (<- v.eval))
end

end Form

def op? (level : Nat) (s : String) : Option BinaryOp :=
  let table := if level == 0 then [("+", .plus), ("-", .minus)]
    else [("*", .times), ("/", .divide), ("//", .floorDivide), ("%", .modulo)]
  table.lookup s

def adjacent (s : String) : List Token -> Form × List Token
  | .value (.str t) :: rest => adjacent (s ++ t) rest
  | rest => (.value s, rest)

def fields (a : Form) : List Token -> Form × List Token
  | .mark "." :: .name _ :: rest => fields (.field a) rest
  | rest => (a, rest)

abbrev Parser := StateT (List Token) Option

/-- Takes the mark if it is next. -/
def takes (m : String) : Parser Bool := do
  let .mark s :: rest <- get | return false
  if s == m then set rest
  return s == m

def expect (m : String) : Parser Unit := do if !(<- takes m) then failure

def grouped (xs : List Form) (comma : Bool) : Form := if comma then .tuple xs else xs.headD default

mutual
def chain (level : Nat) : Nat -> Parser Form
  | 0 => failure
  | fuel + 1 => do more level fuel (<- if level == 0 then chain 1 fuel else factor fuel)

def more (level : Nat) : Nat -> Form -> Parser Form
  | 0, _ => failure
  | fuel + 1, a => do
    let .mark m :: rest <- get | return a
    let some op := op? level m | return a
    set rest
    more level fuel (.binary op a (<- if level == 0 then chain 1 fuel else factor fuel))

def factor : Nat -> Parser Form
  | 0 => failure
  | fuel + 1 => do
    for (m, op) in [("-", .minus), ("+", .plus), ("~", .invert)] do
      if <- takes m then return .unary op (<- factor fuel)
    let a <- modifyGet (fields (<- atom fuel))
    if <- takes "**" then return .binary .power a (<- factor fuel)
    return a

def atom : Nat -> Parser Form
  | 0 => failure
  | fuel + 1 => do
    let t :: rest <- get | failure
    set rest
    match t with
    | .value (.str s) => modifyGet (adjacent s)
    | .value v => return .value v
    | .name s => return .name s
    | .mark "(" =>
      if <- takes ")" then return .tuple []
      let (xs, comma) <- items fuel
      expect ")"
      return grouped xs comma
    | .mark "[" =>
      if <- takes "]" then return .list []
      let (xs, _) <- items fuel
      expect "]"
      return .list xs
    | .mark "\x7b" => return .dict (<- entries fuel)
    | _ => failure

def items : Nat -> Parser (List Form × Bool)
  | 0 => failure
  | fuel + 1 => do
    let a <- chain 0 fuel
    if !(<- takes ",") then return ([a], false)
    match <- get with
    | [] | .mark ")" :: _ | .mark "]" :: _ => return ([a], true)
    | _ => return (a :: (<- items fuel).1, true)

def entries : Nat -> Parser (List (Form × Form))
  | 0 => failure
  | fuel + 1 => do
    if <- takes "\x7d" then return []
    let k <- chain 0 fuel
    expect ":"
    let e := (k, <- chain 0 fuel)
    if <- takes "\x7d" then return [e]
    expect ","
    return e :: (<- entries fuel)
end

def parse (s : Text) : Option Form := do
  let ts <- tokens (s.length + 1) s.toList
  let ((xs, comma), []) <- items (8 * ts.length + 8) ts | none
  return grouped xs comma

def read (s : Text) : Result Value := (parse s).elim (.error .badSyntax) Form.eval

end TensorForge.Literal
