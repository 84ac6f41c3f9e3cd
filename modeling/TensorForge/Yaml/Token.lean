import TensorForge.Yaml.Printer

/-! # Tokens of documents -/

namespace TensorForge.Yaml

inductive Token where
  | docStart | docEnd | directive | sequenceStart | mapStart | blockEnd
  | openBracket | closeBracket | openBrace | closeBrace | entry | comma | key | value
  | alias (name : Text)
  | anchor (name : Text)
  | tag (name : Text)
  | scalar (text : Text) (plain : Bool)
  deriving DecidableEq

structure Spot where
  (index line column flow : Nat := 0)

structure PendingKey extends Spot where
  position : Nat
  required : Bool

structure Scan extends Spot where
  rest : Chars
  indent : Int := -1
  indents : Ints := []
  allowKey : Bool := true
  keys : List PendingKey := []
  tokens : List Token := []
  count : Nat := 0

abbrev Scanner := StateT Scan Result

namespace Scanner

open Analysis (isGap isBreak)
open Meaning (isSpace)

def fail {α : Type} : Scanner α := throw (.badDoc "ScannerError")
def peek (n : Nat) : Scanner (Option Char) := return (<- get).rest[n]?

def step (s : Scan) : Scan :=
  match s.rest with
  | [] => s
  | c :: rest =>
    if isBreak c || (c == '\r' && rest.head? != some '\n')
    then { s with rest, index := s.index + 1, line := s.line + 1, column := 0 }
    else { s with rest, index := s.index + 1, column := s.column + 1 }

def forward (n : Nat) : Scanner Unit := modify fun s => (List.range n).foldl (fun s _ => step s) s
def emit (t : Token) : Scanner Unit := modify fun s => { s with tokens := t :: s.tokens, count := s.count + 1 }

def insert (position : Nat) (t : Token) : Scanner Unit :=
  modify fun s =>
    let after := s.count - position
    { s with tokens := s.tokens.take after ++ t :: s.tokens.drop after, count := s.count + 1 }

def dropKeys (p : Scan -> PendingKey -> Bool) : Scanner Unit := do
  let s <- get
  if s.keys.any fun k => p s k && k.required then fail
  set { s with keys := s.keys.filter (!p s ·) }

def removeKey : Scanner Unit := dropKeys fun s k => k.flow == s.flow
def dropStale : Scanner Unit := dropKeys fun s k => k.line != s.line || s.index - k.index > 1024

def saveKey : Scanner Unit := do
  if (<- get).allowKey then
    removeKey
    modify fun s => { s with keys :=
      { s.toSpot with position := s.count, required := s.flow == 0 && s.indent == s.column } :: s.keys }

def unwound (column : Int) : Int -> Ints -> Nat -> Int × Ints × Nat
  | indent, [], n => (indent, [], n)
  | indent, outer :: more, n =>
    if indent > column then unwound column outer more (n + 1) else (indent, outer :: more, n)

def unwind (column : Int) : Scanner Unit := do
  let s <- get
  if s.flow == 0 then
    let (indent, indents, n) := unwound column s.indent s.indents 0
    set { s with indent, indents, tokens := List.replicate n Token.blockEnd ++ s.tokens
                 count := s.count + n }

def addIndent (column : Nat) : Scanner Bool := do
  let s <- get
  if s.indent < column then
    set { s with indent := column, indents := s.indent :: s.indents }
    return true
  return false

def allow (b : Bool) : Scanner Unit := modify ({ · with allowKey := b })
variable (f : Char -> Bool)

def skipWhile : Scanner Unit := do forward ((<- get).rest.takeWhile f).length

def takeWhile : Scanner Chars := do
  let run := (<- get).rest.takeWhile f
  forward run.length
  return run

def endsLine (c : Char) : Bool := isBreak c || c == '\r'

def lineBreak : Scanner (Option Char) := do
  match (<- get).rest with
  | '\r' :: '\n' :: _ => forward 2; return some '\n'
  | c :: _ =>
    if !endsLine c then return none
    forward 1
    return some (if c == '\u2028' || c == '\u2029' then c else '\n')
  | [] => return none

def skipSpace : Nat -> Scanner Unit
  | 0 => pure ()
  | fuel + 1 => do
    skipWhile (· == ' ')
    if (<- peek 0) == some '#' then skipWhile (!endsLine ·)
    if (<- lineBreak).isSome then
      if (<- get).flow == 0 then allow true
      skipSpace fuel

def atMark (m : Char) : Scanner Bool := do
  let s <- get
  return s.column == 0 && s.rest.take 3 == [m, m, m] && isGap s.rest[3]?

def atBoundary : Scanner Bool := return (<- atMark '-') || (<- atMark '.')

def blankLines : Nat -> Scanner Chars
  | 0 => return []
  | fuel + 1 => do
    if <- atBoundary then fail
    skipWhile isSpace
    (<- lineBreak).elim (pure []) fun c => do return c :: (<- blankLines fuel)

/-- One line end becomes a blank, of several the first is dropped. -/
def folded (first : Char) (more : Chars) : Chars :=
  if first != '\n' then first :: more else if more.isEmpty then [' '] else more

variable (fuel : Nat)

def quotedSpaces : Scanner Chars := do
  let spaces <- takeWhile isSpace
  if (<- peek 0).all (· == '\x00') then fail
  (<- lineBreak).elim (pure spaces) fun c => do return folded c (<- blankLines fuel)

def escapes : List (Char × Char) :=
  [('0', '\x00'), ('a', '\x07'), ('b', '\x08'), ('t', '\t'), ('\t', '\t'), ('n', '\n'),
   ('v', '\x0b'), ('f', '\x0c'), ('r', '\r'), ('e', '\x1b'), (' ', ' '), ('"', '"'),
   ('\\', '\\'), ('/', '/'), ('N', '\u0085'), ('_', '\u00a0'), ('L', '\u2028'), ('P', '\u2029')]

/-- The backslash has been read. -/
def escape : Scanner Chars := do
  let some c <- peek 0 | fail
  match escapes.lookup c with
  | some meaning => forward 1; return [meaning]
  | none =>
    let width := if c == 'x' then 2 else if c == 'u' then 4 else if c == 'U' then 8 else 0
    if width > 0 then
      forward 1
      let digits := (<- get).rest.take width
      if digits.length < width || digits.any fun d => (Text.digit? 16 d).isNone then fail
      forward width
      return [.ofNat (Meaning.digitsValue 16 digits)]
    else if endsLine c then
      let _ <- lineBreak
      blankLines fuel
    else fail

def quoted (double : Bool) : Nat -> Scanner Chars
  | 0 => fail
  | fuel + 1 => do
    let stops c := c == '\'' || c == '"' || c == '\\' || c == '\x00' || isGap (some c)
    let run <- takeWhile (!stops ·)
    let next := (<- get).rest
    match double, next with
    | false, '\'' :: '\'' :: _ => forward 2; return run ++ '\'' :: (<- quoted double fuel)
    | false, '\'' :: _ | true, '"' :: _ => forward 1; return run
    | true, '\'' :: _ | false, '"' :: _ | false, '\\' :: _ =>
      forward 1
      return run ++ next.take 1 ++ (<- quoted double fuel)
    | true, '\\' :: _ =>
      forward 1
      return run ++ (<- escape fuel) ++ (<- quoted double fuel)
    | _, _ => return run ++ (<- quotedSpaces fuel) ++ (<- quoted double fuel)

def plainBreaks : Nat -> Scanner (Option Chars)
  | 0 => return some []
  | fuel + 1 => do
    skipWhile (· == ' ')
    let some c <- lineBreak | return some []
    if <- atBoundary then return none
    return (<- plainBreaks fuel).map (c :: ·)

/-- After a run of plain text; nothing if the text ends here. -/
def plainSpaces : Scanner (Option Chars) := do
  let spaces <- takeWhile (· == ' ')
  let some c <- lineBreak | return if spaces.isEmpty then none else some spaces
  allow true
  if <- atBoundary then return none
  return (<- plainBreaks fuel).map (folded c)

def isFlowMark (c : Char) : Bool := ",[]\x7b\x7d".toList.contains c

def plainLen (flow : Bool) : Chars -> Nat
  | [] => 0
  | c :: cs =>
    if isGap (some c) || (c == ':' && (isGap cs.head? || (flow && cs.head?.any isFlowMark)))
      || (flow && (c == '?' || isFlowMark c))
    then 0 else 1 + plainLen flow cs

/-- Without quotes; `spaces` go before its next run. -/
def plain (spaces : Chars) : Nat -> Scanner Chars
  | 0 => return []
  | fuel + 1 => do
    let s <- get
    if s.rest.head? == some '#' then return []
    let n := plainLen (s.flow > 0) s.rest
    if n == 0 then return []
    allow false
    let run := s.rest.take n
    forward n
    let some next <- plainSpaces fuel | return spaces ++ run
    let s' <- get
    if next.isEmpty || s'.rest.head? == some '#' || (s'.flow == 0 && s'.column < s'.indent + 1)
    then return spaces ++ run
    return spaces ++ run ++ (<- plain next fuel)

def blockIndentation : (fuel deepest : Nat) -> Scanner (Chars × Nat)
  | 0, deepest => return ([], deepest)
  | fuel + 1, deepest => do
    skipWhile (· == ' ')
    let deepest := max deepest (<- get).column
    let some c <- lineBreak | return ([], deepest)
    let (more, deepest) <- blockIndentation fuel deepest
    return (c :: more, deepest)

def blockBreaks (indent : Nat) : Nat -> Scanner Chars
  | 0 => return []
  | fuel + 1 => do
    let s <- get
    forward (min (s.rest.takeWhile (· == ' ')).length (indent - s.column))
    (<- lineBreak).elim (pure []) fun c => do return c :: (<- blockBreaks indent fuel)

def blockLines (isFolded : Bool) (indent : Nat) : Nat -> (breaks : Chars) -> (between : Chars) ->
    Scanner (Chars × Chars × Chars)
  | 0, breaks, between => return ([], between, breaks)
  | fuel + 1, breaks, between => do
    let s <- get
    if s.column != indent || s.rest.isEmpty then return ([], between, breaks)
    let line <- takeWhile (!endsLine ·)
    let first <- lineBreak
    let next <- blockBreaks indent fuel
    let s' <- get
    let gap := first.elim [] fun c =>
      if isFolded && c == '\n' && !s.rest.head?.any isSpace && !s'.rest.head?.any isSpace
      then opt next.isEmpty [' '] else [c]
    if s'.column == indent && !s'.rest.isEmpty then
      let (more, last, after) <- blockLines isFolded indent fuel next gap
      return (between ++ breaks ++ line ++ more, last, after)
    return (between ++ breaks ++ line, first.elim [] ([·]), next)

/-- Its mark has been read. -/
def block (isFolded : Bool) : Scanner Chars := do
  let header <- takeWhile fun c => c == '+' || c == '-' || Meaning.isDigit c
  let signs := header.filter fun c => c == '+' || c == '-'
  let digits := header.filter Meaning.isDigit
  if signs.length > 1 || digits.length > 1 || digits == ['0'] then fail
  skipWhile (· == ' ')
  if (<- peek 0) == some '#' then skipWhile (!endsLine ·)
  if (<- peek 0).any (!endsLine ·) then fail
  let _ <- lineBreak
  let s <- get
  let fuel := s.rest.length + 1
  let least := max 1 (s.indent + 1).toNat
  let (breaks, indent) <-
    if digits.isEmpty then
      let (breaks, deepest) <- blockIndentation fuel 0
      pure (breaks, max least deepest)
    else
      let indent := least + Meaning.digitsValue 10 digits - 1
      pure (<- blockBreaks indent fuel, indent)
  let (text, last, after) <- blockLines isFolded indent fuel breaks []
  let text := if signs == ['-'] then text else text ++ last
  return if signs == ['+'] then text ++ after else text

def name : Scanner String := do
  forward 1
  let run <- takeWhile fun c => c.isAlphanum || c == '-' || c == '_'
  if run.isEmpty then fail
  let next <- peek 0
  if !(isGap next || next.any ("?:,]\x7d%@`".toList.contains ·)) then fail
  return .ofList run

def tag : Scanner String := do
  forward 1
  let suffix := takeWhile fun c => !isGap (some c) && !isFlowMark c
  match (<- get).rest with
  | '<' :: _ =>
    forward 1
    let run <- takeWhile fun c => c != '>' && !isGap (some c)
    if (<- peek 0) != some '>' then fail
    forward 1
    return .ofList run
  | '!' :: _ =>
    forward 1
    let run <- suffix
    if run.isEmpty then fail
    return "tag:yaml.org,2002:" ++ .ofList run
  | _ => return "!" ++ .ofList (<- suffix)

def beginsPlain (flow : Bool) (cs : Chars) : Bool :=
  match cs with
  | [] => false
  | c :: rest =>
    !(isGap (some c) || "-?:,[]\x7b\x7d#&*!|>'\"%@`".toList.contains c)
      || (!isGap rest.head? && (c == '-' || (!flow && (c == '?' || c == ':'))))

/-- If it is indented deeper than the blocks around it. -/
def openBlock (t : Token) : Scanner Unit := do
  let s <- get
  if s.flow == 0 then
    if !s.allowKey then fail
    if <- addIndent s.column then emit t

/-- Puts a key before the mark, or opens a mapping without one. -/
def startValue : Scanner Unit := do
  let s <- get
  match s.keys.find? fun k => k.flow == s.flow with
  | some k =>
    set { s with keys := s.keys.filter (·.flow != s.flow) }
    insert k.position .key
    if s.flow == 0 then if <- addIndent k.column then insert k.position .mapStart
    allow false
  | none =>
    openBlock .mapStart
    allow (s.flow == 0)
    removeKey
  forward 1
  emit .value

def marked (keys : Bool) (t : Scanner Token) : Scanner Unit := do
  allow keys
  removeKey
  forward 1
  emit (<- t)

def begun (t : Scanner Token) : Scanner Unit := do
  saveKey
  allow false
  emit (<- t)

def token : Scanner Bool := do
  skipSpace ((<- get).rest.length + 1)
  dropStale
  unwind (<- get).column
  let s <- get
  let fuel := s.rest.length + 1
  let next := s.rest[1]?
  let inFlow := s.flow > 0
  let close := unwind (-1) *> removeKey
  let boundary t := close *> allow false *> emit t
  match s.rest with
  | [] | '\x00' :: _ => close *> pure false
  | c :: _ =>
    if c == '%' && s.column == 0 then
      boundary .directive
      skipWhile (!endsLine ·)
    else if c == '-' && (<- atMark '-') then
      boundary .docStart
      forward 3
    else if c == '.' && (<- atMark '.') then
      boundary .docEnd
      forward 3
    else if c == '[' || c == '\x7b' then
      saveKey
      modify fun s => { s with flow := s.flow + 1, allowKey := true }
      forward 1
      emit (if c == '[' then .openBracket else .openBrace)
    else if c == ']' || c == '\x7d' then
      removeKey
      emit (if c == ']' then .closeBracket else .closeBrace)
      if !inFlow then return false
      modify fun s => { s with flow := s.flow - 1, allowKey := false }
      forward 1
    else if c == ',' then marked true (pure .comma)
    else if c == '-' && isGap next then
      openBlock .sequenceStart
      marked true (pure .entry)
    else if c == '?' && (inFlow || isGap next) then
      openBlock .mapStart
      marked (!inFlow) (pure .key)
    else if c == ':' && (inFlow || isGap next) then startValue
    else if c == '*' then begun (.alias <$> name)
    else if c == '&' then begun (.anchor <$> name)
    else if c == '!' then begun (.tag <$> tag)
    else if (c == '|' || c == '>') && !inFlow then
      marked true do return .scalar (.ofList (<- block (c == '>'))) false
    else if c == '\'' || c == '"' then begun do
      forward 1
      return .scalar (.ofList (<- quoted (c == '"') fuel)) false
    else if beginsPlain inFlow s.rest then begun do return .scalar (.ofList (<- plain [] fuel)) true
    else fail
    return true

def tokens : Nat -> Scanner Unit
  | 0 => pure ()
  | fuel + 1 => do if <- token then tokens fuel

end Scanner

def tokensOf (text : Text) : Result (List Token) := do
  let cs := match text.toList with
    | '\ufeff' :: cs => cs
    | cs => cs
  let (_, s) <- (Scanner.tokens (2 * cs.length + 2)).run { rest := cs }
  return s.tokens.reverse

end TensorForge.Yaml
