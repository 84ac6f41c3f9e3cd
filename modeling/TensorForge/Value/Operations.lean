import TensorForge.Session

/-!
# Sorting with a partial comparison

A comparison may fail on items that have no order.
-/

namespace TensorForge.Sorting

variable {α ε : Type}

/-- Sorted downwards, before all items of equal rank. -/
def insertDown (lt : α -> α -> Except ε Bool) (x : α) : List α -> Except ε (List α)
  | [] => .ok [x]
  | y :: ys => do
    if <- lt x y then return y :: (<- insertDown lt x ys)
    return x :: y :: ys

def stable (lt : α -> α -> Except ε Bool) (xs : List α) : Except ε (List α) := do
  return (<- xs.foldlM (fun acc x => insertDown lt x acc) []).reverse

end TensorForge.Sorting

/-!
## Operations on values

An operation on kinds it is not made for stops with `wrongKind`.
-/

namespace TensorForge.Value

def isKey : Value -> Bool
  | .list _ => false
  | .dict _ => false
  | _ => true

/-- In a sequence, a key of a table or a part of a text. -/
def isIn (x container : Value) : Gen Bool :=
  match container with
  | .list xs => pure (xs.any (same x))
  | .tuple xs => pure (xs.any (same x))
  | .dict es => if x.isKey then pure (es.any fun (k, _) => same k x) else throw .wrongKind
  | .str s => match x with
    | .str p => pure (Text.contains s p)
    | _ => throw .wrongKind
  | _ => throw .wrongKind

variable (v : Value)

def len : Gen Int :=
  match v with
  | .list xs => pure xs.length
  | .tuple xs => pure xs.length
  | .dict es => pure es.length
  | .str s => pure s.length
  | _ => throw .wrongKind

variable {α : Type} (names : List (Text × α)) (a b : Int)

def known? : Option α := v.asStr?.bind (names.lookup ·)
def known : Gen α := (v.known? names).getDM (throw (if v.isKey then .missingKey v else .wrongKind))

def asFloat? : Value -> Option Float
  | .int n => some (Decimal.ofInt n)
  | .bool b => some (if b then 1 else 0)
  | .float x => some x
  | _ => none

def cmpFloatInt (x : Float) (n : Int) : Option Ordering :=
  if x.isNaN then none else if x.isInf then some (if x > 0 then .gt else .lt)
  else
    let f := Decimal.floor x
    if f < n then some .lt else if f > n then some .gt
    else if x == Decimal.ofInt f then some .eq else some .gt

def cmpNumbers : Value -> Value -> Option (Option Ordering)
  | .float a, .float b =>
    some (if a < b then some .lt else if a > b then some .gt else if a == b then some .eq else none)
  | .float a, b => (b.asInt?).map (cmpFloatInt a)
  | a, .float b => (a.asInt?).map fun n => (cmpFloatInt b n).map .swap
  | a, b => do return some (compare (<- a.asInt?) (<- b.asInt?))

mutual

def less : Value -> Value -> Result Bool
  | .str a, .str b => .ok (a < b)
  | .list xs, .list ys => lessItems xs ys
  | .tuple xs, .tuple ys => lessItems xs ys
  | .dataType a, .dataType b => .ok (a.code < b.code)
  | a, b => return (<- (cmpNumbers a b).getDM (throw .wrongKind)) == some .lt

def lessItems : Values -> Values -> Result Bool
  | [], [] => .ok false
  | [], _ :: _ => .ok true
  | _ :: _, [] => .ok false
  | x :: xs, y :: ys => if same x y then lessItems xs ys else less x y

end

def sorted (xs : Values) : Gen Values := Sorting.stable less xs
def indexOf? (x : Value) (xs : Values) : Option Nat := xs.findIdx? (same x)
def range : Ints := (List.range (b - a).toNat).map fun (i : Nat) => a + i
def floorDiv : Gen Int := if b == 0 then throw .divisionByZero else pure (a.fdiv b)
def floorMod : Gen Int := if b == 0 then throw .divisionByZero else pure (a.fmod b)

def rounded (f : Float -> Int) (x : Float) : Gen Int :=
  if x.isNaN then throw .badValue else if x.isInf then throw .overflow else pure (f x)

/-- As reading a numeral or cutting off a fraction does. -/
def toInt : Gen Int :=
  match v with
  | .float x => rounded Decimal.truncate x
  | .str s => (Text.readInt? 10 s).getDM (throw .badValue)
  | v => .int v

/-- Of a number only. -/
def wholeText : Gen Text :=
  match v with
  | .str _ => throw .wrongKind
  | v => return toString (<- toInt v)

def toFloat : Gen Float :=
  match v with
  | .str s => (Text.readFloat? s).getDM (throw .badValue)
  | v => v.asFloat?.getDM (throw .wrongKind)

def ceil (v : Value) : Gen Int :=
  match v with
  | .float x => rounded Decimal.ceil x
  | v => .int v

/-!
## Element types of values

Named by a row number, by one of its names, or as a type.
-/

def toDataType : Result DataType :=
  match v with
  | .int n => (DataType.ofCode? n).getDM (.error .outOfRange)
  | .bool b => (DataType.ofCode? (if b then 1 else 0)).getDM (.error .outOfRange)
  | .str s => (DataType.ofName? s).getDM (.error (.missingKey s.toLower))
  | .dataType t => .ok t
  | v => .error (.failure s!"initializing DataType to <class '{v.kindName}'> {v.shown}")

def asDataType : Gen DataType :=
  match v with
  | .dataType t => pure t
  | _ => throw .noField

end TensorForge.Value

namespace TensorForge.HashOrder

def ofInt (n : Int) : UInt64 :=
  let h := (if n < 0 then -1 else 1) * ((n.natAbs : Int) % (.pow 2 61 - 1))
  .ofInt (if h == -1 then -2 else h)

def ofParts (parts : List UInt64) : UInt64 :=
  let fifth : UInt64 := 2870177450012600261
  let mixed := parts.foldl (fun (acc : UInt64) lane =>
    let acc := acc + lane * 14029467366897019727
    ((acc <<< 31) ||| (acc >>> 33)) * 11400714785074694791) fifth
  let acc := mixed + (.ofNat parts.length ^^^ (fifth ^^^ 3527539))
  if acc == .ofInt (-1) then 1546275796 else acc

def ofInts (ns : Ints) : UInt64 := ofParts (ns.map ofInt)

/-- A power of two of them. -/
structure Places (α : Type) where
  slots : Array (Option α) := .replicate 8 none
  used : Nat := 0

namespace Places

variable {α : Type} [BEq α]

def neighbours : Nat := 9

/-- The first among `tries` from `i` on that is free or holds `x`. -/
def near (p : Places α) (x : α) (i : Nat) : Nat -> Option Nat
  | 0 => none
  | tries + 1 =>
    match p.slots.getD i none with
    | none => some i
    | some y => if y == x then some i else near p x (i + 1) tries

/-- Near a starting place, or near one of those jumped to. -/
def find (p : Places α) (x : α) : Nat -> (i : Nat) -> (perturb : UInt64) -> Nat
  | 0, i, _ => i
  | fuel + 1, i, perturb =>
    match p.near x i (if i + neighbours <= p.slots.size - 1 then neighbours + 1 else 1) with
    | some j => j
    | none =>
      let perturb := perturb >>> 5
      find p x fuel ((.ofNat (i * 5 + 1) + perturb).toNat % p.slots.size) perturb

def place (hash : α -> UInt64) (p : Places α) (x : α) : Places α :=
  let h := hash x
  let i := p.find x (p.slots.size + 20) (h.toNat % p.slots.size) h
  match p.slots.getD i none with
  | some _ => p
  | none => { slots := p.slots.setIfInBounds i (some x), used := p.used + 1 }

def toList (p : Places α) : List α := p.slots.toList.filterMap id

def sizeAbove (n : Nat) : Nat -> Nat -> Nat
  | 0, size => size
  | fuel + 1, size => if size <= n then sizeAbove n fuel (size * 2) else size

/-- The table gets larger when it fills up. -/
def add (hash : α -> UInt64) (p : Places α) (x : α) : Places α :=
  let next := p.place hash x
  if next.used == p.used || next.used * 5 < (p.slots.size - 1) * 3 then next
  else
    let wanted := if next.used > 50000 then next.used * 2 else next.used * 4
    next.toList.foldl (place hash) { slots := .replicate (sizeAbove wanted 64 8) none }

end Places

/-- Put in one after the other, as the set lists them. -/
def listed {α : Type} [BEq α] (hash : α -> UInt64) (xs : List α) : List α := (xs.foldl (Places.add hash) {}).toList

end TensorForge.HashOrder
