import TensorForge.Value.Operations

/-! # Operations on values -/

namespace TensorForge

open Decimal

inductive BinaryOp where
  | both | either | less | lessEqual | equal | notEqual | greater | greaterEqual | times | power
  | divide | floorDivide | modulo | plus | minus | bitAnd | bitOr | bitXor | shiftLeft | shiftRight
  | smaller | larger
  deriving DecidableEq

inductive UnaryOp where
  | negation | invert | minus | plus | same
  deriving DecidableEq

def BinaryOp.names : List (Text × BinaryOp) :=
  [("And", .both), ("Or", .either), ("Lt", .less), ("LtE", .lessEqual), ("Eq", .equal), ("NotEq", .notEqual),
   ("Gt", .greater), ("GtE", .greaterEqual), ("Mult", .times), ("Pow", .power), ("Div", .divide),
   ("FloorDiv", .floorDivide), ("Mod", .modulo), ("Add", .plus), ("Sub", .minus), ("BitAnd", .bitAnd),
   ("BitOr", .bitOr), ("BitXor", .bitXor), ("LShift", .shiftLeft), ("RShift", .shiftRight), ("min", .smaller),
   ("max", .larger)]

def BinaryOp.ofName? (s : Text) : Option BinaryOp := names.lookup s

def UnaryOp.names : List (Text × UnaryOp) :=
  [("Not", .negation), ("Invert", .invert), ("USub", .minus), ("UAdd", .plus), ("None", .same)]

def UnaryOp.ofName? (s : Text) : Option UnaryOp := names.lookup s

namespace Arith

variable (a b : Value)

/-- Both numbers are taken as whole ones, or both as doubles. -/
def numeric (onInts : Int -> Int -> Result Value) (onFloats : Float -> Float -> Result Value) : Result Value :=
  match a.asInt?, b.asInt?, a.asFloat?, b.asFloat? with
  | some m, some n, _, _ => onInts m n
  | _, _, some x, some y => onFloats x y
  | _, _, _, _ => .error .wrongKind

def divided (onInts : Int -> Int -> Value) (onFloats : Float -> Float -> Value) : Result Value :=
  numeric a b (fun m n => if n == 0 then .error .divisionByZero else .ok (onInts m n))
    fun x y => if y == 0 then .error .divisionByZero else .ok (onFloats x y)

def repeated {α : Type} (xs : List α) (n : Int) : List α := (List.replicate n.toNat xs).flatten

def add : Result Value :=
  match a, b with
  | .str s, .str t => .ok (s ++ t)
  | .list xs, .list ys => .ok (.list (xs ++ ys))
  | .tuple xs, .tuple ys => .ok (.tuple (xs ++ ys))
  | a, b => numeric a b (fun m n => .ok (m + n)) fun x y => .ok (.float (x + y))

def sub : Result Value := numeric a b (fun m n => .ok (m - n)) fun x y => .ok (.float (x - y))

def repeatValue (v : Value) (n : Int) : Option Value :=
  match v with
  | .str s => some (String.ofList (repeated s.toList n))
  | .list xs => some (.list (repeated xs n))
  | .tuple xs => some (.tuple (repeated xs n))
  | _ => none

def mul : Result Value :=
  ((b.asInt?.bind (repeatValue a)).or (a.asInt?.bind (repeatValue b))).getDM
    (numeric a b (fun m n => .ok (m * n)) fun x y => .ok (.float (x * y)))

def divide : Result Value := divided a b (fun m n => .float (ofRatio m n)) (.float <| · / ·)

def restTowardZero (x y : Float) : Float :=
  if x.isNaN || y.isNaN || x.isInf then 0.0 / 0.0 else if y.isInf then x
  else
    let (a, da) := magRatio x
    let (b, db) := magRatio y
    let r := ofRatio (a * db % (b * da) : Nat) (da * db : Nat)
    if isNegative x then -r else r

def zeroLike (x : Float) : Float := if isNegative x then -0.0 else 0.0

def floorParts (x y : Float) : Float × Float :=
  let r := restTowardZero x y
  let q := (x - r) / y
  let (q, r) := if r == 0 then (q, zeroLike y) else if (y < 0) != (r < 0) then (q - 1, r + y) else (q, r)
  let q := if q == 0 then zeroLike (x / y)
    else
      let f := q.floor
      if q - f > 0.5 then f + 1 else f
  (q, r)

def floorDivide : Result Value := divided a b (.int <| ·.fdiv ·) fun x y => .float (floorParts x y).1

/-- `%s` and `%d` are replaced. -/
def format (s : Text) (args : Values) (lenient : Bool) : Result Value :=
  let rec go : Chars -> Values -> Chars -> Result (Chars × Values)
    | '%' :: '%' :: rest, args, out => go rest args ('%' :: out)
    | '%' :: 's' :: rest, a :: args, out => go rest args (a.shown.toList.reverse ++ out)
    | '%' :: 'd' :: rest, a :: args, out =>
      a.asInt?.elim (.error .wrongKind) fun n => go rest args ((toString n).toList.reverse ++ out)
    | '%' :: _, _, _ => .error .wrongKind
    | c :: rest, args, out => go rest args (c :: out)
    | [], args, out => .ok (out, args)
  do
    let (out, rest) <- go s.toList args []
    if rest.isEmpty || lenient then return String.ofList out.reverse else throw .wrongKind

/-- Rest of a rounded down division, or a filled in format. -/
def modulo : Result Value :=
  match a with
  | .str s => match b with
    | .tuple xs => format s xs false
    | .list _ | .dict _ => format s [b] true
    | _ => format s [b] false
  | a => divided a b (.int <| ·.fmod ·) fun x y => .float (floorParts x y).2

def power : Result Value :=
  numeric a b
    (fun m n => if n >= 0 then .ok (Int.pow m n.toNat) else if m == 0 then .error .divisionByZero
      else .ok (.float (.pow (ofInt m) (ofInt n))))
    (fun x y => if x == 0 && y < 0 then .error .divisionByZero else .ok (.float (.pow x y)))

def whole (f : Int -> Int -> Result Value) : Result Value := numeric a b f fun _ _ => .error .wrongKind

def bitwise (f : Bool -> Bool -> Bool) (m n : Int) : Int :=
  let width := max m.natAbs.log2 n.natAbs.log2 + 2
  let modulus := Int.pow 2 width
  let low (k : Int) := (k.emod modulus).toNat
  let r := (List.range width).foldl (fun r i =>
    if f ((low m).testBit i) ((low n).testBit i) then r + Nat.pow 2 i else r) 0
  if r >= .pow 2 (width - 1) then r - modulus else r

def bits (onBools : Bool -> Bool -> Bool) : Result Value :=
  match a, b with
  | .bool x, .bool y => .ok (onBools x y)
  | a, b => whole a b fun m n => .ok (bitwise onBools m n)

def shift (f : Int -> Int -> Int) : Result Value :=
  whole a b fun m n => if n < 0 then .error .badValue else .ok (f m (.pow 2 n.toNat))

def lessEqual : Result Bool := do return (<- a.less b) || a.same b

def binary (op : BinaryOp) (a b : Value) : Result Value :=
  match op with
  | .both => .ok (if a.truthy then b else a)
  | .either => .ok (if a.truthy then a else b)
  | .less => .bool <$> a.less b
  | .lessEqual => .bool <$> lessEqual a b
  | .equal => .ok (a.same b)
  | .notEqual => .ok !a.same b
  | .greater => .bool <$> b.less a
  | .greaterEqual => .bool <$> lessEqual b a
  | .times => mul a b
  | .power => power a b
  | .divide => divide a b
  | .floorDivide => floorDivide a b
  | .modulo => modulo a b
  | .plus => add a b
  | .minus => sub a b
  | .bitAnd => bits a b (· && ·)
  | .bitOr => bits a b (· || ·)
  | .bitXor => bits a b (· != ·)
  | .shiftLeft => shift a b (· * ·)
  | .shiftRight => shift a b .fdiv
  | .smaller => do return if <- b.less a then b else a
  | .larger => do return if <- a.less b then b else a

def unary (op : UnaryOp) (v : Value) : Result Value :=
  let whole (f : Int -> Int) := return f (<- v.asInt?.getDM (throw .wrongKind))
  match op, v with
  | .negation, v => .ok !v.truthy
  | .same, v | .plus, v@(.float _) => .ok v
  | .minus, .float x => .ok (.float (-x))
  | .invert, _ => whole (-· - 1)
  | .minus, _ => whole (-·)
  | .plus, _ => whole id

end Arith

end TensorForge
