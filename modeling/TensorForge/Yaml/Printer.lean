import TensorForge.Value.Operations

/-!
# Scalars and the writing of documents

Without quotes a scalar stands for what its spelling suggests: nothing, a truth value, a number, or else its own text.
-/

namespace TensorForge.Yaml

open Decimal Text

inductive Meaning where
  | value (v : Value)
  | time
  /-- It takes over the entries of another mapping. -/
  | merge
  | reserved
  | text

namespace Meaning

def nullWords : Texts := ["", "~", "null", "Null", "NULL"]
def trueWords : Texts := ["yes", "Yes", "YES", "true", "True", "TRUE", "on", "On", "ON"]
def falseWords : Texts := ["no", "No", "NO", "false", "False", "FALSE", "off", "Off", "OFF"]
variable (c : Char)

def isDigit : Bool := '0' <= c && c <= '9'
def inNumber : Bool := isDigit c || c == '_'
def isSpace : Bool := c == ' ' || c == '\t'
def digitsValue (base : Nat) (cs : Chars) : Nat := cs.foldl (fun n c => (digit? base c).elim n (n * base + ·)) 0

def unsigned : Chars -> Bool × Chars
  | '-' :: cs => (true, cs)
  | '+' :: cs => (false, cs)
  | cs => (false, cs)

def sixtieth? : Chars -> Option Nat
  | [a] => if isDigit a then some (digitsValue 10 [a]) else none
  | [a, b] => if '0' <= a && a <= '5' && isDigit b then some (digitsValue 10 [a, b]) else none
  | _ => none

variable (cs : Chars)

def groups : List Chars := parts ':' cs

def sixties? (first : Chars) (rest : List Chars) : Option Nat :=
  rest.foldlM (fun n g => return n * 60 + (<- sixtieth? g)) (digitsValue 10 first)

def natural? : Option Nat :=
  match cs with
  | ['0'] => some 0
  | '0' :: 'b' :: ds =>
    if !ds.isEmpty && ds.all fun c => c == '0' || c == '1' || c == '_'
    then some (digitsValue 2 ds) else none
  | '0' :: 'x' :: ds =>
    if !ds.isEmpty && ds.all fun c => c.isAlphanum && (digit? 16 c).isSome || c == '_'
    then some (digitsValue 16 ds) else none
  | '0' :: ds => if ds.all fun c => '0' <= c && c <= '7' || c == '_'
    then some (digitsValue 8 ds) else none
  | d :: _ =>
    if !isDigit d then none else
    match groups cs with
    | [ds] => if ds.all inNumber then some (digitsValue 10 ds) else none
    | first :: rest => if first.all inNumber then sixties? first rest else none
    | [] => none
  | [] => none

def int? : Option Int :=
  let (negative, ds) := unsigned cs
  (natural? ds).map fun n => if negative then - n else n

def isExponent : Chars -> Bool
  | [] => true
  | e :: s :: ds => (e == 'e' || e == 'E') && (s == '-' || s == '+') && !ds.isEmpty && ds.all isDigit
  | _ => false

def isFraction (signed : Bool) (cs : Chars) : Bool :=
  match cs.takeWhile inNumber, cs.dropWhile inNumber with
  | d :: _, '.' :: more => isDigit d && isExponent (more.dropWhile inNumber)
  | [], '.' :: d :: more => !signed && isDigit d && isExponent (more.dropWhile inNumber)
  | _, _ => false

def sixtiesFraction? : Option Float :=
  match groups cs with
  | first :: g :: rest => do
    guard (first.head?.any isDigit && first.all inNumber)
    let last := (g :: rest).getLast?.getD []
    let whole := last.takeWhile (· != '.')
    guard (last.length > whole.length && (last.drop (whole.length + 1)).all inNumber)
    let n <- sixties? first (g :: rest).dropLast
    let _ <- sixtieth? whole
    return ofInt (n * 60) + (<- readFloat? (.ofList (last.filter (· != '_'))))
  | _ => none

def float? : Option Float :=
  let (negative, ds) := unsigned cs
  let signed := ds.length < cs.length
  let sign x := if negative then -x else x
  if ["inf", "Inf", "INF"].contains (.ofList (ds.drop 1)) && ds.head? == some '.'
  then some (sign (1.0 / 0.0))
  else if !signed && [".nan", ".NaN", ".NAN"].contains (.ofList cs) then some (0.0 / 0.0)
  else if isFraction signed ds then (readFloat? (.ofList (ds.filter (· != '_')))).map sign
  else (sixtiesFraction? ds).map sign

def digitRun? (least most : Nat) (cs : Chars) : Option Chars :=
  let n := ((cs.take most).takeWhile isDigit).length
  if n < least then none else some (cs.drop n)

def mark? (c : Char) : Chars -> Option Chars
  | d :: cs => if c == d then some cs else none
  | [] => none

def isZone : Bool :=
  match cs.dropWhile isSpace with
  | [] | ['Z'] => true
  | s :: ds => (s == '-' || s == '+') && match digitRun? 1 2 ds with
    | some [] => true
    | some (':' :: more) => digitRun? 2 2 more == some []
    | _ => false

def isTime : Bool :=
  let parts := List.foldlM fun r (least, most, c) => do mark? c (<- digitRun? least most r)
  let dateOnly := (do digitRun? 2 2 (<- parts cs [(4, 4, '-'), (2, 2, '-')])) == some []
  let full := do
    let r <- digitRun? 1 2 (<- parts cs [(4, 4, '-'), (1, 2, '-')])
    let gap := (r.takeWhile isSpace).length
    let r <- if gap > 0 then some (r.drop gap) else
      if r.head? == some 'T' || r.head? == some 't' then some (r.drop 1) else none
    let r <- digitRun? 2 2 (<- parts r [(1, 2, ':'), (2, 2, ':')])
    let r := match r with
      | '.' :: more => more.dropWhile isDigit
      | r => r
    return isZone r
  dateOnly || full.getD false

def ofPlain (s : Text) : Meaning :=
  if nullWords.contains s then .value .null else if trueWords.contains s then .value true
  else if falseWords.contains s then .value false
  else if s == "<<" then .merge
  else if s == "=" || s == "!" || s == "&" || s == "*" then .reserved
  else
    let cs := s.toList
    (((float? cs).map .float).or ((int? cs).map .int)).elim
      (if isTime cs then .time else .text) .value

def isText : Meaning -> Bool
  | .text => true
  | _ => false

end Meaning

def floatText (x : Float) : Text :=
  if x.isNaN then ".nan" else if x.isInf then if x > 0 then ".inf" else "-.inf"
  else
    let s := text x
    if s.contains "." || !s.contains "e" then s else replace s "e" ".0e"

/-! ## Documents -/

inductive FlowForm where
  | leaves
  | never
  deriving DecidableEq

structure Layout where
  flow : FlowForm := .leaves
  sorted : Bool := true
  width : Nat := 80
  opens : Bool := false
  closes : Bool := false
  /-- Written out once and referred to afterwards. -/
  shared : List Values := []

structure Pen where
  text : Text := ""
  column : Nat := 0
  (blank indented : Bool := true)
  named : Nats := []

namespace Pen

variable (p : Pen) (s : Text)

def put : Pen := { p with text := p.text ++ s, column := p.column + s.length }
def word : Pen := { p.put s with blank := false, indented := false }
def newLine : Pen := { p with text := p.text ++ "\n", column := 0, blank := true, indented := true }

def moveTo (indent : Nat) : Pen :=
  let p := if !p.indented || p.column > indent || p.column == indent && !p.blank then p.newLine else p
  if p.column < indent then { p.put ("".pushn ' ' (indent - p.column)) with blank := true } else p

def wrap (width : Nat) (indent : Option Nat) : Pen := if p.column > width then p.moveTo (indent.getD 0) else p

def mark (spaced : Bool) (blank indents : Bool := false) : Pen :=
  { p.put (if p.blank || !spaced then s else " " ++ s) with blank, indented := p.indented && indents }

end Pen

structure Analysis where
  (several flowPlain blockPlain single : Bool)

namespace Analysis

def isBreak (c : Char) : Bool := "\n\u0085\u2028\u2029".toList.contains c

/-- Blank, or the end of a line or of the text. -/
def isGap (c : Option Char) : Bool := c.all fun c => " \t\r\x00".toList.contains c || isBreak c
def openers : Chars := "#,[]\x7b\x7d&*!|>'\"%@`".toList

def flowMark (first : Bool) (before : Option Char) (c : Char) (after : Option Char) : Bool :=
  if first then openers.contains c || c == '?' || c == ':' || c == '-' && isGap after
  else ",?[]\x7b\x7d:".toList.contains c || c == '#' && isGap before

def blockMark (first : Bool) (before : Option Char) (c : Char) (after : Option Char) : Bool :=
  if first then openers.contains c || (c == '?' || c == ':' || c == '-') && isGap after
  else c == ':' && isGap after || c == '#' && isGap before

def someMark (test : Bool -> Option Char -> Char -> Option Char -> Bool) : Option Char -> Chars -> Bool
  | _, [] => false
  | before, c :: cs => test before.isNone before c cs.head? || someMark test (some c) cs

def somePair (f g : Char -> Bool) : Chars -> Bool
  | a :: b :: cs => f a && g b || somePair f g (b :: cs)
  | _ => false

def of (s : Text) : Analysis :=
  let cs := s.toList
  match cs.head?, cs.getLast? with
  | some a, some z =>
    let dashes := s.startsWith "---" || s.startsWith "..."
    let breaks := cs.any isBreak
    let special := cs.any fun c => !(c == '\n' || ' ' <= c && c <= '~')
    let edge c := c == ' ' || isBreak c
    let plain := !(edge a || edge z || breaks || special)
    { several := breaks
      flowPlain := plain && !(dashes || someMark flowMark none cs)
      blockPlain := plain && !(dashes || someMark blockMark none cs)
      single := !(somePair isBreak (· == ' ') cs || somePair (· == ' ') isBreak cs || special) }
  | _, _ => { several := false, flowPlain := false, blockPlain := true, single := true }

end Analysis

namespace Pen

/-- Of blanks, of line ends, of single quotes and of all else. -/
def runs (cs : Chars) : List Chars :=
  let kind c := if c == ' ' then 0 else if Analysis.isBreak c then 1 else if c == '\'' then 2 else 3
  cs.splitBy fun a b => kind a == kind b

variable (layout : Layout) (indent : Nat) (split : Bool) (p : Pen) (s : Text)

def plain : Pen :=
  if s.isEmpty then p else
  let p := (if p.blank then p else p.put " ").word ""
  (runs s.toList).foldl (fun p r =>
    if r == [' '] && p.column > layout.width && split then (p.moveTo indent).word "" else p.put (.ofList r)) p

def breaks (r : Chars) : Pen :=
  let p := if r.head? == some '\n' then p.newLine else p
  (r.foldl (fun p _ => p.newLine) p).moveTo indent

def single : Pen :=
  let (p, _) := (runs s.toList).foldl (fun (p, at') r =>
    let after := at' + r.length
    let p := match r.head? with
      | some ' ' =>
        if r.length == 1 && p.column > layout.width && split && at' != 0 && after != s.length
        then p.moveTo indent else p.put (.ofList r)
      | some '\'' => p.put (.join (r.map fun _ => "''"))
      | some c => if Analysis.isBreak c then breaks indent p r else p.put (.ofList r)
      | none => p
    (p, after)) (p.mark "'" true, 0)
  p.mark "'" false

def escape? (c : Char) : Option Text :=
  let hex mark width : Text :=
    "\\" ++ mark ++ padLeft '0' width ((hexDigits c.toNat).map .toUpper)
  match c.toNat with
  | 0 => some "\\0" | 7 => some "\\a" | 8 => some "\\b" | 9 => some "\\t" | 10 => some "\\n"
  | 11 => some "\\v" | 12 => some "\\f" | 13 => some "\\r" | 27 => some "\\e"
  | 34 => some "\\\"" | 92 => some "\\\\" | 133 => some "\\N" | 160 => some "\\_"
  | 8232 => some "\\L" | 8233 => some "\\P"
  | n =>
    if 32 <= n && n <= 126 then none else if n <= 255 then some (hex "x" 2)
    else if n <= 65535 then some (hex "u" 4)
    else some (hex "U" 8)

/-- Between double quotes: `waiting` is text that was read and not yet written, in reverse order. -/
def doubleParts (layout : Layout) (indent : Nat) (split : Bool) :
    (rest : Chars) -> (first : Bool) -> (waiting : Chars) -> Pen -> Pen
  | [], _, waiting, p => p.put (.ofList waiting.reverse)
  | c :: rest, first, waiting, p =>
    let escaped := escape? c
    let p := escaped.elim p ((p.put (.ofList waiting.reverse)).put ·)
    let open' := opt escaped.isNone waiting
    let reach := if escaped.isSome then p.column - 1 else p.column + open'.length
    let next := if escaped.isSome then rest.head? else some c
    let (p, open') := if !first && !rest.isEmpty && (c == ' ' || open'.isEmpty) && reach > layout.width && split then
        let p := (p.put (.ofList open'.reverse)).put "\\"
        let p := (p.moveTo indent).word ""
        (if next == some ' ' then p.put "\\" else p, [])
      else (p, open')
    doubleParts layout indent split rest false (if escaped.isSome then open' else c :: open') p

def double : Pen :=
  (doubleParts layout indent split s.toList true [] (p.mark "\"" true)).mark "\"" false

end Pen

structure Place where
  indent : Option Nat := none
  (inFlow inMap isKey : Bool := false)

def Place.inside (pl : Place) (flow indentless : Bool) : Place :=
  { indent := some (pl.indent.elim (if flow then 2 else 0) (· + if indentless then 0 else 2)), inFlow := flow }

def spelling? : Value -> Option Text
  | .null => some "null"
  | .bool b => some (if b then "true" else "false")
  | .int n => some (toString n)
  | .float x => some (floatText x)
  | .str s => some s
  | .dataType t => some t.char
  | .list _ | .tuple _ | .dict _ => none

def isScalar (v : Value) : Bool := (spelling? v).isSome

def isImplicit : Value -> Bool
  | .str s => (Meaning.ofPlain s).isText
  | _ => true

variable (layout : Layout)

def printScalar (pl : Place) (p : Pen) (v : Value) : Pen :=
  let s := (spelling? v).getD ""
  let a := Analysis.of s
  let plain := isImplicit v && !(pl.isKey && (s.isEmpty || a.several))
    && if pl.inFlow then a.flowPlain else a.blockPlain
  (if plain then Pen.plain else if a.single && !(pl.isKey && a.several) then .single else .double)
    layout ((pl.inside true false).indent.getD 0) (!pl.isKey) p s

def isSimpleKey (k : Value) : Bool :=
  match k with
  | .list xs | .tuple xs => xs.isEmpty
  | .dict es => es.isEmpty
  | k =>
    let s := (spelling? k).getD ""
    let tag := match k with
      | .null | .bool _ => 6
      | .float _ => 7
      | _ => 5
    tag + s.length < 128 && !s.isEmpty && !(Analysis.of s).several

def isFlow (pl : Place) (parts : Values) : Bool :=
  pl.inFlow || parts.isEmpty || layout.flow == .leaves && parts.all isScalar

def sharedPlace? (xs : Values) : Option Nat := layout.shared.findIdx? (Value.sameItems xs)
def sharedName (n : Nat) : Text := "id" ++ zeroPadded 3 (n + 1)

def printAnchor (p : Pen) (xs : Values) : Pen :=
  (sharedPlace? layout xs).elim p fun n => { p.mark ("&" ++ sharedName n) true with named := n :: p.named }

def ref? (p : Pen) (xs : Values) : Option Text := do
  let n <- sharedPlace? layout xs
  if p.named.contains n then some ("*" ++ sharedName n) else none

mutual

def printNode (pl : Place) (p : Pen) : Value -> Pen
  | .list xs =>
    if let some name := ref? layout p xs then p.mark name true else
    let p := printAnchor layout p xs
    if isFlow layout pl xs then
      (printFlowItems (pl.inside true false) (p.mark "[" true true) true xs).mark "]" false
    else printBlockItems (pl.inside false (pl.inMap && !p.indented)) p xs
  | .tuple xs =>
    if isFlow layout pl xs then
      (printFlowItems (pl.inside true false) (p.mark "[" true true) true xs).mark "]" false
    else printBlockItems (pl.inside false (pl.inMap && !p.indented)) p xs
  | .dict es =>
    if isFlow layout pl (es.flatMap fun (k, v) => [k, v]) then
      (printFlowEntries (pl.inside true false) (p.mark "\x7b" true true) true es).mark "\x7d" false
    else printBlockEntries (pl.inside false false) p es
  | v => printScalar layout pl p v

def printFlowItems (pl : Place) (p : Pen) (first : Bool) : Values -> Pen
  | [] => p
  | x :: xs =>
    let p := if first then p else p.mark "," false
    printFlowItems pl (printNode pl (p.wrap layout.width pl.indent) x) false xs

def printFlowEntries (pl : Place) (p : Pen) (first : Bool) : Table -> Pen
  | [] => p
  | (k, v) :: es =>
    let p := if first then p else p.mark "," false
    let p := p.wrap layout.width pl.indent
    let pl := { pl with inMap := true }
    let p := if isSimpleKey k then (printNode { pl with isKey := true } p k).mark ":" false
      else ((printNode pl (p.mark "?" true) k).wrap layout.width pl.indent).mark ":" true
    printFlowEntries pl (printNode pl p v) false es

def printBlockItems (pl : Place) (p : Pen) : Values -> Pen
  | [] => p
  | x :: xs =>
    printBlockItems pl (printNode pl ((p.moveTo (pl.indent.getD 0)).mark "-" true false true) x) xs

def printBlockEntries (pl : Place) (p : Pen) : Table -> Pen
  | [] => p
  | (k, v) :: es =>
    let indent := pl.indent.getD 0
    let p := p.moveTo indent
    let pl := { pl with inMap := true }
    let p := if isSimpleKey k then (printNode { pl with isKey := true } p k).mark ":" false
      else ((printNode pl (p.mark "?" true false true) k).moveTo indent).mark ":" true false true
    printBlockEntries pl (printNode pl p v) es

end

mutual

def arranged : Value -> Value
  | .list xs => .list (arrangedItems xs)
  | .tuple xs => .tuple (arrangedItems xs)
  | .dict es =>
    let es := arrangedEntries es
    .dict ((Sorting.stable (fun a b => Value.less a.1 b.1) es).toOption.getD es)
  | v => v

def arrangedItems : Values -> Values
  | [] => []
  | x :: xs => arranged x :: arrangedItems xs

def arrangedEntries : Table -> Table
  | [] => []
  | (k, v) :: es => (k, arranged v) :: arrangedEntries es

end

def print (v : Value) : Text :=
  let v := if layout.sorted then arranged v else v
  let p := printNode layout {} (if layout.opens then ({} : Pen).mark "---" true else {}) v
  let openEnded := isScalar v && isImplicit v && (Analysis.of ((spelling? v).getD "")).blockPlain
  let p := p.moveTo 0
  (if layout.closes || openEnded then (p.mark "..." true).moveTo 0 else p).text

end TensorForge.Yaml
