/-!
# Shortest decimal text of a binary fraction

A finite double is `m * 2 ^ q`; every real number nearer to it than to any other double reads back as it. `shortest`
takes the first of the decimal grids with 1, 2, ... 17 digits that has such a point; of two points it takes the
nearer, and the even one on a tie. `text` is positional between `10 ^ -4` and `10 ^ 16`, always with a point, and has
a two digit exponent outside.
-/

namespace TensorForge.Decimal

/-- `mantissa * 2 ^ exponent`; `lowest` marks a mantissa whose lower neighbour is only half a step away. -/
structure Binary where
  mantissa : Nat
  exponent : Int
  lowest : Bool

/-- Of the magnitude bits of a finite double, `none` for zero. -/
def Binary.ofBits (bits : UInt64) : Option Binary :=
  let b := bits.toNat
  let fraction := b % .pow 2 52
  let field := b / .pow 2 52 % .pow 2 11
  if field == 0 then if fraction == 0 then none else some ⟨fraction, -1074, false⟩
  else some ⟨.pow 2 52 + fraction, .ofNat field - 1075, fraction == 0 && field > 1⟩

def cmpScaled (a : Nat) (k : Int) (b : Nat) (q : Int) : Ordering :=
  compare (a * .pow 10 k.toNat * .pow 2 (-q).toNat) (b * .pow 2 q.toNat * .pow 10 (-k).toNat)

def leadExponent (m : Nat) (q : Int) : Int :=
  let guess := (Nat.log2 m + q) * 30103 / 100000
  if cmpScaled 1 (guess + 1) m q != .gt then guess + 1
  else if cmpScaled 1 guess m q == .gt then guess - 1
  else guess

def gridBelow (m : Nat) (q k : Int) : Nat :=
  (m * .pow 2 q.toNat * .pow 10 (-k).toNat) / (.pow 10 k.toNat * .pow 2 (-q).toNat)

def Binary.covers (b : Binary) (d : Nat) (k : Int) : Bool :=
  let q := b.exponent - 2
  let even := b.mantissa % 2 == 0
  let aboveLow := match cmpScaled d k (4 * b.mantissa - if b.lowest then 1 else 2) q with
    | .gt => true | .eq => even | .lt => false
  let belowHigh := match cmpScaled d k (4 * b.mantissa + 2) q with
    | .lt => true | .eq => even | .gt => false
  aboveLow && belowHigh

def Binary.onGrid (b : Binary) (k : Int) : Option Nat :=
  let d := gridBelow b.mantissa b.exponent k
  let below := d != 0 && b.covers d k
  let above := b.covers (d + 1) k
  if below && above then
    match cmpScaled (2 * d + 1) k (2 * b.mantissa) b.exponent with
    | .gt => some d
    | .lt => some (d + 1)
    | .eq => some (if d % 2 == 0 then d else d + 1)
  else if below then some d
  else if above then some (d + 1)
  else none

def Binary.search (b : Binary) (lead : Int) : Nat -> Nat -> Nat × Int
  | 0, n => (gridBelow b.mantissa b.exponent (lead + 1 - n), lead + 1 - n)
  | fuel + 1, n =>
    let k := lead + 1 - n
    (b.onGrid k).elim (b.search lead fuel (n + 1)) fun d => (d, k)

/-- The fewest digits `d` and the power `k` with `d * 10 ^ k` read back as `b`. -/
def Binary.shortest (b : Binary) : Nat × Int := b.search (leadExponent b.mantissa b.exponent) 17 1

def stripZeros : Nat -> Nat -> Int -> Nat × Int
  | 0, d, k => (d, k)
  | fuel + 1, d, k => if d != 0 && d % 10 == 0 then stripZeros fuel (d / 10) (k + 1) else (d, k)

def repeated (c : Char) (n : Nat) : String := "".pushn c n

def positive (d : Nat) (k : Int) : String :=
  let digits := toString d
  let lead := k + digits.length - 1
  if lead < -4 || lead >= 16 then
    let tail := .ofList (digits.toList.drop 1)
    let head := .ofList (digits.toList.take 1)
    let mant := if tail.isEmpty then head else head ++ "." ++ tail
    let e := lead.natAbs
    mant ++ "e" ++ (if lead < 0 then "-" else "+") ++ (if e < 10 then "0" else "") ++ toString e
  else if lead < 0 then "0." ++ repeated '0' (-lead - 1).toNat ++ digits
  else
    let whole := lead.toNat + 1
    if digits.length <= whole then digits ++ repeated '0' (whole - digits.length) ++ ".0"
    else .ofList (digits.toList.take whole) ++ "." ++ .ofList (digits.toList.drop whole)

def text (x : Float) : String :=
  let bits := x.toBits
  let sign := if (bits.toNat / .pow 2 63 == 1) then "-" else ""
  let magnitude := bits.toNat % .pow 2 63
  if magnitude / .pow 2 52 == 2047 then if magnitude % .pow 2 52 == 0 then sign ++ "inf" else "nan"
  else
    match Binary.ofBits magnitude.toUInt64 with
    | none => sign ++ "0.0"
    | some b =>
      let (d, k) := b.shortest
      let (d, k) := stripZeros 20 d k
      sign ++ positive d k

/-- To the nearest whole number, ties to even. -/
def roundDiv (num den : Nat) : Nat :=
  let q := num / den
  let r := num % den
  if 2 * r > den then q + 1 else if 2 * r < den then q
  else if q % 2 == 0 then q else q + 1

def positional (n places : Nat) : String :=
  if places == 0 then toString n
  else
    let part := toString (n % .pow 10 places)
    (toString (n / .pow 10 places)) ++ "." ++ repeated '0' (places - part.length) ++ part

variable (x : Float)

/-- Numerator and denominator of a finite double. -/
def magRatio : Nat × Nat :=
  (Binary.ofBits (x.toBits.toNat % .pow 2 63).toUInt64).elim (0, 1) fun b =>
      (b.mantissa * .pow 2 b.exponent.toNat, .pow 2 (-b.exponent).toNat)

def isNegative : Bool := x.toBits.toNat / .pow 2 63 == 1

def fixed (places : Nat) (x : Float) : String :=
  if x.isNaN then "nan"
  else
    let sign := if isNegative x then "-" else ""
    if x.isInf then sign ++ "inf"
    else
      let (num, den) := magRatio x
      sign ++ positional (roundDiv (num * .pow 10 places) den) places

def truncate : Int :=
  let (num, den) := magRatio x
  let n : Int := (num / den : Nat)
  if isNegative x then -n else n

def floor : Int :=
  let (num, den) := magRatio x
  if isNegative x then -((num + den - 1) / den : Nat) else (num / den : Nat)

def ceil : Int :=
  let (num, den) := magRatio x
  if isNegative x then -(num / den : Nat) else ((num + den - 1) / den : Nat)

def ofInt (n : Int) : Float :=
  match n with
  | .ofNat k => .ofScientific k false 0
  | .negSucc k => -(.ofScientific (k + 1) false 0)

/-- The nearest double. The quotient is cut to 64 bits at least, with a last bit that says whether something is left,
so that it is rounded once. -/
def ofRatio (a b : Int) : Float :=
  let num := a.natAbs
  let den := b.natAbs
  if num == 0 then 0.0
  else
    let shift := 64 + (Nat.log2 den : Int) - Nat.log2 num
    let scaled := num * .pow 2 shift.toNat
    let below := den * .pow 2 (-shift).toNat
    let x := (Float.ofNat (scaled / below * 2 + if scaled % below == 0 then 0 else 1)).scaleB (-shift - 1)
    if (a < 0) != (b < 0) then -x else x

end TensorForge.Decimal
