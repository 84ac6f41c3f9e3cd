import TensorForge.DataType
import TensorForge.Decimal
import TensorForge.Text.Basic

/-!
# Values

The entries of a configuration are checked only where they are used.
-/

namespace TensorForge

inductive Value where
  | null
  | bool (b : Bool)
  | int (n : Int)
  | float (x : Float)
  | str (s : Text)
  | list (xs : List Value)
  | tuple (xs : List Value)
  | dict (es : List (Value × Value))
  | dataType (t : DataType)
  deriving Inhabited

abbrev Values := List Value
abbrev Ints := List Int
abbrev Table := List (Value × Value)
abbrev Tables := List Table

namespace Value

/-- Truth values included. -/
def asInt? : Value -> Option Int
  | .int n => some n
  | .bool b => some (if b then 1 else 0)
  | _ => none

def floatIsInt (x : Float) (n : Int) : Bool := x == .ofInt n && (n.natAbs <= .pow 2 53 || x.toInt64.toInt == n)

mutual

def same : Value -> Value -> Bool
  | .null, .null => true
  | .str a, .str b => a == b
  | .int a, .int b => a == b
  | .bool a, .bool b => a == b
  | .bool a, .int b => (if a then 1 else 0) == b
  | .int a, .bool b => a == if b then 1 else 0
  | .float a, .float b => a == b
  | .float a, .int b => floatIsInt a b
  | .int a, .float b => floatIsInt b a
  | .float a, .bool b => floatIsInt a (if b then 1 else 0)
  | .bool a, .float b => floatIsInt b (if a then 1 else 0)
  | .list xs, .list ys => sameItems xs ys
  | .tuple xs, .tuple ys => sameItems xs ys
  | .dict es, .dict fs => es.length == fs.length && entriesIn es fs
  | .dataType a, .dataType b => a.code == b.code
  | _, _ => false

def sameItems : Values -> Values -> Bool
  | [], [] => true
  | x :: xs, y :: ys => same x y && sameItems xs ys
  | _, _ => false

def entriesIn : Table -> Table -> Bool
  | [], _ => true
  | (k, v) :: es, fs => (fs.any fun (k', v') => same k k' && same v v') && entriesIn es fs

end

instance : BEq Value := ⟨same⟩

def truthy : Value -> Bool
  | .null => false
  | .bool b => b
  | .int n => n != 0
  | .float x => x != 0
  | .str s => !s.isEmpty
  | .list xs => !xs.isEmpty
  | .tuple xs => !xs.isEmpty
  | .dict es => !es.isEmpty
  | .dataType _ => true

def isNull : Value -> Bool
  | .null => true
  | _ => false

def isList : Value -> Bool
  | .list _ => true
  | _ => false

def items? : Value -> Option Values
  | .list xs => some xs
  | .tuple xs => some xs
  | _ => none

def items (v : Value) : Values := v.items?.getD []

def entries : Value -> Table
  | .dict es => es
  | _ => []

def asStr? : Value -> Option Text
  | .str s => some s
  | _ => none

def ints (ns : Ints) : Value := .list (ns.map .int)
def strs (ss : Texts) : Value := .list (ss.map .str)
def record (es : List (Text × Value)) : Value := .dict (es.map fun (k, v) => (.str k, v))
instance : Coe Int Value := ⟨.int⟩
instance : Coe Bool Value := ⟨.bool⟩
instance : Coe Text Value := ⟨.str⟩
instance (n : Nat) : OfNat Value n := ⟨.int n⟩

end Value

namespace Table

def find? : Table -> Value -> Option Value
  | [], _ => none
  | (k, v) :: es, key => if k.same key then some v else find? es key

variable (t : Table) (key : Text)

def get? : Option Value := t.find? key
def has : Bool := (t.get? key).isSome
def or (default : Value := .null) : Value := (t.get? key).getD default
def on : Bool := (t.or key).truthy

def put : Table -> Value -> Value -> Table
  | [], key, v => [(key, v)]
  | (k, w) :: es, key, v => if k.same key then (k, v) :: es else (k, w) :: put es key v

def set (v : Value) : Table := t.put key v
def erase (key : Value) : Table := t.filter fun (k, _) => !k.same key
def names : Texts := t.filterMap fun (k, _) => k.asStr?
def update (more : Table) : Table := more.foldl (fun t (k, v) => t.put k v) t

end Table

end TensorForge

namespace TensorForge.Value

def isHidden (c : Char) : Bool :=
  0xe0000 <= c.toNat || Text.within c [(0x7f, 0xa0), (0xad, 0xad), (0x600, 0x605), (0x61c, 0x61c), (0x6dd, 0x6dd),
    (0x70f, 0x70f), (0x1680, 0x1680), (0x180e, 0x180e), (0x2000, 0x200f), (0x2028, 0x202f), (0x205f, 0x206f),
    (0x3000, 0x3000), (0xd800, 0xf8ff), (0xfeff, 0xfeff), (0xfff0, 0xfffb), (0xfffe, 0xffff)]

def escaped (quote c : Char) : Text :=
  if c == quote || c == '\\' then .ofList ['\\', c] else if c == '\n' then "\\n"
  else if c == '\r' then "\\r" else if c == '\t' then "\\t"
  else if c < ' ' || isHidden c then
    let n := c.toNat
    let (mark, width) := if n < 0x100 then ("\\x", 2) else if n < 0x10000 then ("\\u", 4) else ("\\U", 8)
    mark ++ .padLeft '0' width (.hexDigits n)
  else .singleton c

/-- In double quotes when only single quotes occur in it. -/
def quoteText (s : Text) : Text :=
  let quote := if s.contains "'" && !s.contains "\"" then '"' else '\''
  (s.toList.foldl (fun acc c => acc ++ escaped quote c) (.singleton quote)).push quote

mutual

def quoted : Value -> Text
  | .null => "None"
  | true => "True"
  | false => "False"
  | .int n => toString n
  | .float x => Decimal.text x
  | .str s => quoteText s
  | .list xs => "[" ++ listing (quotedItems xs) ++ "]"
  | .tuple [x] => "(" ++ quoted x ++ ",)"
  | .tuple xs => "(" ++ listing (quotedItems xs) ++ ")"
  | .dict es => "\x7b" ++ listing (quotedEntries es) ++ "\x7d"
  | .dataType t => t.char

def quotedItems : Values -> Texts
  | [] => []
  | x :: xs => quoted x :: quotedItems xs

def quotedEntries : Table -> Texts
  | [] => []
  | (k, v) :: es => (quoted k ++ ": " ++ quoted v) :: quotedEntries es

end

def shown : Value -> Text
  | .str s => s
  | v => v.quoted

def kindName : Value -> Text
  | .null => "NoneType"
  | .bool _ => "bool"
  | .int _ => "int"
  | .float _ => "float"
  | .str _ => "str"
  | .list _ => "list"
  | .tuple _ => "tuple"
  | .dict _ => "dict"
  | .dataType _ => DT

end TensorForge.Value

namespace TensorForge.Json

def escape (n : Nat) : Text := "\\u" ++ .padLeft '0' 4 (.hexDigits n)

def character (c : Char) : Text :=
  let n := c.toNat
  if c == '"' then "\\\"" else if c == '\\' then "\\\\" else if c == '\n' then "\\n"
  else if c == '\r' then "\\r" else if c == '\t' then "\\t" else if n == 8 then "\\b" else if n == 12 then "\\f"
  else if 32 <= n && n < 127 then .singleton c
  else if n < 65536 then escape n
  else
    let m := n - 65536
    escape (55296 + m / 1024) ++ escape (56320 + m % 1024)

def quoted (s : Text) : Text := "\"" ++ .join (s.toList.map character) ++ "\""

mutual
def text : Value -> Text
  | .null => "null"
  | .bool b => if b then "true" else "false"
  | .str s => quoted s
  | .list xs => "[" ++ listing (texts xs) ++ "]"
  | .tuple xs => "[" ++ listing (texts xs) ++ "]"
  | .dict es => "\x7b" ++ listing (entries es) ++ "\x7d"
  | v => v.shown

def texts : Values -> Texts
  | [] => []
  | v :: rest => text v :: texts rest

def entries : List (Value × Value) -> Texts
  | [] => []
  | (k, v) :: rest => (quoted k.shown ++ ": " ++ text v) :: entries rest
end

end TensorForge.Json

/-!
## The packed form of values

A byte in front says what follows; numbers and lengths are written with the most significant byte first and take the
fewest bytes.
-/

namespace TensorForge.Packed

def bytes : (count : Nat) -> (n : Nat) -> Nats
  | 0, _ => []
  | count + 1, n => n / .pow 256 count % 256 :: bytes count n

/-- In the mark itself when the length is below `small`, else in as many bytes as it needs. A mark without a one-byte
form has none. -/
def length (fixed small : Nat) (one : Option Nat) (two four : Nat) (n : Nat) : Nats :=
  if n < small then [fixed + n] else one.elim (wide n) fun mark => if n < 256 then [mark, n] else wide n
where wide n : Nats := if n < 65536 then two :: bytes 2 n else four :: bytes 4 n

def whole (n : Int) : Nats :=
  match n with
  | .ofNat n =>
    if n < 128 then [n] else if n < 256 then [204, n]
    else if n < 65536 then 205 :: bytes 2 n
    else if n < 4294967296 then 206 :: bytes 4 n else 207 :: bytes 8 n
  | .negSucc m =>
    if m < 32 then [255 - m] else if m < 128 then [208, 255 - m]
    else if m < 32768 then 209 :: bytes 2 (65535 - m)
    else if m < 2147483648 then 210 :: bytes 4 (4294967295 - m)
    else 211 :: bytes 8 (18446744073709551615 - m)

def text (s : Text) : Nats :=
  let body := s.toUTF8.toList.map (·.toNat)
  length 160 32 (some 217) 218 219 body.length ++ body

mutual
def encode : Value -> Nats
  | .null => [192]
  | .bool b => [if b then 195 else 194]
  | .int n => whole n
  | .float x => 203 :: bytes 8 x.toBits.toNat
  | .str s => text s
  | .list xs => length 144 16 none 220 221 xs.length ++ encodeAll xs
  | .tuple xs => length 144 16 none 220 221 xs.length ++ encodeAll xs
  | .dict es => length 128 16 none 222 223 es.length ++ encodeEntries es
  | .dataType t => whole t.code

def encodeAll : Values -> Nats
  | [] => []
  | x :: xs => encode x ++ encodeAll xs

def encodeEntries : List (Value × Value) -> Nats
  | [] => []
  | (k, v) :: es => encode k ++ (encode v ++ encodeEntries es)
end

end TensorForge.Packed
