import TensorForge.Keys

/-!
# Text

Widths count characters.
-/

namespace TensorForge

abbrev Chars := List Char
abbrev Nats := List Nat
abbrev Text := String
abbrev Texts := List Text
abbrev Pairs := List (Text × Text)
def listing (xs : Texts) : Text := ", ".intercalate xs

/-- A part that is there only under a condition. -/
@[macro_inline]
def opt {α : Type} [Inhabited α] (c : Prop) [Decidable c] (x : α) : α := if c then x else default

namespace Text

def padRight (width : Nat) (s : Text) : Text := s.pushn ' ' (width - s.length)
def padLeft (c : Char) (width : Nat) (s : Text) : Text := "".pushn c (width - s.length) ++ s

variable (n : Nat)

def hexDigits : Text := .ofList (Nat.toDigits 16 n)
def hex (n : Int) : Text := if n < 0 then "-0x" ++ hexDigits n.natAbs else "0x" ++ hexDigits n.toNat

/-- At least `width` characters, zeros first. -/
def zeroPadded (width : Nat) (n : Int) : Text :=
  if n < 0 then "-" ++ padLeft '0' (width - 1) (toString n.natAbs) else padLeft '0' width (toString n)

variable (c : Char)

def within (ranges : List (Nat × Nat)) : Bool := ranges.any fun (a, b) => a <= c.toNat && c.toNat <= b
def endsLine : Bool := within c [(0x0a, 0x0d), (0x1c, 0x1e), (0x85, 0x85), (0x2028, 0x2029)]

/-- A carriage return and a line feed end one line together. -/
def linesKept (cs : Chars) : List Chars := go cs []
where
  /-- `acc` is the line so far, reversed. -/
  go : Chars -> Chars -> List Chars
    | [], [] => []
    | [], acc => [acc.reverse]
    | '\r' :: '\n' :: rest, acc => ('\n' :: '\r' :: acc).reverse :: go rest []
    | c :: rest, acc => if endsLine c then (c :: acc).reverse :: go rest [] else go rest (c :: acc)

def isBlank : Bool :=
  within c [(0x09, 0x0d), (0x1c, 0x20), (0x85, 0x85), (0xa0, 0xa0), (0x1680, 0x1680), (0x2000, 0x200a),
    (0x2028, 0x2029), (0x202f, 0x202f), (0x205f, 0x205f), (0x3000, 0x3000)]

variable (s : Text)

def trimLeft : Text := .ofList (s.toList.dropWhile isBlank)
def trim : Text := .ofList ((trimLeft s).toList.reverse.dropWhile isBlank).reverse
def words : Texts := go s.toList []
where
  /-- `acc` is the word so far, reversed. -/
  go : Chars -> Chars -> Texts
    | [], [] => []
    | [], acc => [.ofList acc.reverse]
    | c :: rest, acc =>
      if isBlank c then if acc.isEmpty then go rest [] else .ofList acc.reverse :: go rest []
      else go rest (c :: acc)

def parts (sep : Char) (cs : Chars) : List Chars :=
  cs.foldr (fun c ps => if c == sep then [] :: ps else (c :: ps.headD []) :: ps.tail) [[]]

def contains (s p : Text) : Bool := p.isEmpty || (s.splitOn p).length > 1
def replace (s old new : Text) : Text := new.intercalate (s.splitOn old)
def take (n : Nat) (s : Text) : Text := .ofList (s.toList.take n)
def drop (n : Nat) (s : Text) : Text := .ofList (s.toList.drop n)
def dropRight : Text := take (s.length - n) s
def takeRight : Text := drop (s.length - n) s

/-!
## Base 64

Three octets become four characters, and an incomplete group is filled up with equal signs.
-/

def base64Characters : Array Char := "ABCDEFGHIJKLMNOPQRSTUVWXYZabcdefghijklmnopqrstuvwxyz0123456789_-".toList.toArray
def base64Digit : Char := base64Characters.getD (n % 64) 'A'

def base64 : List UInt8 -> Text
  | a :: b :: c :: rest =>
    let n := a.toNat * 65536 + b.toNat * 256 + c.toNat
    .ofList [base64Digit (n / 262144), base64Digit (n / 4096), base64Digit (n / 64), base64Digit n] ++ base64 rest
  | [a, b] =>
    let n := a.toNat * 65536 + b.toNat * 256
    .ofList [base64Digit (n / 262144), base64Digit (n / 4096), base64Digit (n / 64), '=']
  | [a] =>
    let n := a.toNat * 65536
    .ofList [base64Digit (n / 262144), base64Digit (n / 4096), '=', '=']
  | [] => ""

end Text

end TensorForge

namespace TensorForge.Path

/-- An absolute name replaces the directory. -/
def join (dir name : Text) : Text :=
  if name.startsWith "/" then name else if dir.isEmpty || dir.endsWith "/" then dir ++ name
  else dir ++ "/" ++ name

instance divString : Div Text := ⟨join⟩

def dropSlashes (s : Text) : Text :=
  let cs := (s.toList.reverse.dropWhile (· == '/')).reverse
  if cs.isEmpty then s else .ofList cs

variable (p : Text)

def split : Text × Text :=
  let r := p.toList.reverse
  let tail := r.takeWhile (· != '/')
  (dropSlashes (.ofList (r.drop tail.length).reverse), .ofList tail.reverse)

def dirname : Text := (split p).1
def basename : Text := (split p).2

def splitExt : Text × Text :=
  let r := (basename p).toList.reverse
  let ext := r.takeWhile (· != '.')
  match r.drop ext.length with
  | [] => (p, "")
  | _ :: stem =>
    if stem.all (· == '.') then (p, "")
    else
      let e := "." ++ .ofList ext.reverse
      (.dropRight e.length p, e)

def normalizeStep (absolute : Bool) (acc : Texts) (part : Text) : Texts :=
  if part == "" || part == "." then acc
  else if part == ".." then
    match acc with
    | [] => if absolute then [] else [".."]
    | ".." :: rest => ".." :: ".." :: rest
    | _ :: rest => rest
  else part :: acc

/-- Resolves `.` and `..` and drops doubled slashes. -/
def normalize : Text :=
  if p.isEmpty then "."
  else
    let absolute := p.startsWith "/"
    let steps := (Text.parts '/' p.toList).map .ofList
    let body := "/".intercalate (steps.foldl (normalizeStep absolute) []).reverse
    if absolute then "/" ++ body else if body.isEmpty then "." else body

def absolute (cwd p : Text) : Text := normalize (join cwd p)

def dropShared : Texts -> Texts -> Texts × Texts
  | a :: as, b :: bs => if a == b then dropShared as bs else (a :: as, b :: bs)
  | as, bs => (as, bs)

/-- Seen from the directory `start`; both are absolute. -/
def rel (p start : Text) : Text :=
  let parts := fun s => (s.splitOn "/").filter (!·.isEmpty)
  let (ps, ss) := dropShared (parts p) (parts start)
  match (ss.map fun _ => "..") ++ ps with
  | [] => "."
  | xs => "/".intercalate xs

end TensorForge.Path

namespace TensorForge.Text

def digitZeros : Nats :=
  [0x30, 0x660, 0x6f0, 0x7c0, 0x966, 0x9e6, 0xa66, 0xae6, 0xb66, 0xbe6, 0xc66, 0xce6, 0xd66, 0xde6, 0xe50, 0xed0, 0xf20,
   0x1040, 0x1090, 0x17e0, 0x1810, 0x1946, 0x19d0, 0x1a80, 0x1a90, 0x1b50, 0x1bb0, 0x1c40, 0x1c50, 0xa620, 0xa8d0,
   0xa900, 0xa9d0, 0xa9f0, 0xaa50, 0xabf0, 0xff10, 0x104a0, 0x11066, 0x110f0, 0x11136, 0x111d0, 0x112f0, 0x11450,
   0x114d0, 0x11650, 0x116c0, 0x11730, 0x118e0, 0x1d7ce, 0x1d7d8, 0x1d7e2, 0x1d7ec, 0x1d7f6, 0x1e950]

def decimalDigit? (c : Char) : Option Nat :=
  let n := c.toNat
  (digitZeros.find? fun z => z <= n && n < z + 10).map (n - ·)

/-- The value of a digit below `base`, letters included. -/
def digit? (base : Nat) (c : Char) : Option Nat :=
  let letter := if 'a' <= c && c <= 'z' then some (c.toNat - 'a'.toNat + 10)
    else if 'A' <= c && c <= 'Z' then some (c.toNat - 'A'.toNat + 10) else none
  ((decimalDigit? c).or letter).filter (· < base)

/-- With single underscores between them; `after` says whether a digit came just before. -/
def readDigits (base : Nat) : Chars -> Nat -> Bool -> Option Nat
  | [], acc, after => if after then some acc else none
  | '_' :: rest, acc, after => if after then readDigits base rest acc false else none
  | c :: rest, acc, _ => do readDigits base rest (acc * base + (<- digit? base c)) true

def signed {α : Type} [Neg α] (unsigned : Chars -> Option α) (s : Text) : Option α :=
  match (trim s).toList with
  | '-' :: cs => (unsigned cs).map (- ·)
  | '+' :: cs => unsigned cs
  | cs => unsigned cs

def readInt? (base : Nat) : Text -> Option Int := signed fun cs => (readDigits base cs 0 false).map .ofNat

/-- Underscores between digits are dropped. -/
def spanDigits (cs : Chars) : Chars × Chars :=
  let ds := cs.takeWhile fun c => (decimalDigit? c).isSome || c == '_'
  (ds, cs.drop ds.length)

def runValue? (ds : Chars) : Option (Nat × Nat) :=
  if ds.isEmpty then some (0, 0) else (readDigits 10 ds 0 false).map fun n => (n, (ds.filter (· != '_')).length)

/-- Nothing, or `e` with a signed number. -/
def readExponent? : Chars -> Option Int
  | [] => some 0
  | c :: cs => if c == 'e' || c == 'E' then readInt? 10 (.ofList cs) else none

def readDecimal? (cs : Chars) : Option (Nat × Int) := do
  let (whole, rest) := spanDigits cs
  let (part, rest) := match rest with
    | '.' :: r => spanDigits r
    | r => ([], r)
  if whole.isEmpty && part.isEmpty then none
  let (a, _) <- runValue? whole
  let (b, n) <- runValue? part
  if rest.any isBlank then none
  return (a * .pow 10 n + b, (<- readExponent? rest) - n)

def ofDecimal (d : Nat) (k : Int) : Float :=
  if d == 0 then 0
  else if k >= 0 then if k > 400 then .ofScientific d false 400 else .ofScientific d false k.toNat
  else if k < -2000 then 0
  else .ofScientific d true (-k).toNat

/-- A real number, an infinity or not a number. -/
def readFloat? : Text -> Option Float :=
  signed fun cs =>
    let w := (String.ofList cs).toLower
    if w == "inf" || w == "infinity" then some (1.0 / 0.0) else if w == "nan" then some (0.0 / 0.0)
    else (readDecimal? cs).map fun (d, k) => ofDecimal d k

end TensorForge.Text

namespace TensorForge.Csv

inductive Place where
  | rowStart
  | cellStart
  | inCell
  | inQuotes
  | afterQuote
  deriving DecidableEq

/-- The rows read, the cells of the current row and the characters of the current cell, in reverse. -/
structure Reader where
  skipsBlanks : Bool := false
  place : Place := .rowStart
  rows : List Texts := []
  cells : Texts := []
  chars : Chars := []

namespace Reader

variable (r : Reader)

def endCell : Reader := { r with place := .cellStart, cells := .ofList r.chars.reverse :: r.cells, chars := [] }
def endRow : Reader := { r with place := .rowStart, rows := r.cells.reverse :: r.rows, cells := [] }
def add (p : Place) (c : Char) : Reader := { r with place := p, chars := c :: r.chars }

def step (c : Char) : Reader :=
  match r.place with
  | .rowStart | .cellStart =>
    if c == '\n' then (if r.place == .rowStart then r else r.endCell).endRow
    else if c == '"' then { r with place := .inQuotes }
    else if c == ' ' && r.skipsBlanks then { r with place := .cellStart }
    else if c == ',' then r.endCell
    else r.add .inCell c
  | .inCell =>
    if c == '\n' then r.endCell.endRow else if c == ',' then r.endCell
    else r.add .inCell c
  | .inQuotes => if c == '"' then { r with place := .afterQuote } else r.add .inQuotes c
  | .afterQuote =>
    if c == '"' then r.add .inQuotes c else if c == '\n' then r.endCell.endRow
    else if c == ',' then r.endCell
    else r.add .inCell c

def finish : List Texts := (if r.place == .rowStart then r else r.endCell.endRow).rows.reverse

end Reader

variable (s : String)

def parse : List Texts := (s.toList.foldl Reader.step {}).finish
def parseSpaced : List Texts := (s.toList.foldl Reader.step { skipsBlanks := true }).finish

def cell : String :=
  if s.any fun c => c == ',' || c == '"' || c == '\n' || c == '\r' then
    "\"" ++ .join (s.toList.map fun c => if c == '"' then "\"\"" else .singleton c) ++ "\""
  else s

/-- A row of one empty cell is a pair of quotes. -/
def row (cells : Texts) : Text := if cells == [""] then "\"\"" else ",".intercalate (cells.map cell)
def format (rows : List Texts) : Text := .join (rows.map (row · ++ "\n"))

end TensorForge.Csv
