import TensorForge.Parameters
import TensorForge.Text.LetterCase
import TensorForge.Value.Operations

/-!
# Names of kernels and solutions

The abbreviated parameters in which the kernels of a list differ.
-/

namespace TensorForge.Naming

open Gen Parameters Text Value

def sortTexts (xs : Texts) : Texts := xs.mergeSort fun a b => !(b < a)

def abbreviateName (name : Text) : Text :=
  if name == "MACInstruction" then "" else .ofList (name.toList.filter (!isLower ·))

/-- A minus sign is written as a letter. -/
def abbreviateInt (n : Int) : Text := if n < 0 then s!"n{n.natAbs}" else toString n

def abbreviateIsa (v : Value) : Gen Text := do
  let xs <- items v
  let a <- nth xs 0
  let b <- nth xs 1
  let c <- int (<- nth xs 2)
  return a.shown ++ b.shown ++ opt (c < 0) "-" ++ hexDigits c.natAbs

def abbreviateEntries (es : Table) : Gen Texts := es.mapM fun (k, v) => do return (<- k.wholeText) ++ (<- v.wholeText)
def kindText (v : Value) : Text := s!"<class '{v.kindName}'>"

mutual

def abbreviateValue (key : Text) (v : Value) : Gen Text :=
  if key == "ISA" then abbreviateIsa v
  else match v with
    | .str s => pure (.ofList (s.toList.filter isUpper))
    | .bool b => pure (if b then "1" else "0")
    | .int n => pure (abbreviateInt n)
    | .tuple xs => pure (.join (xs.map shown))
    | .list xs => do return "_".intercalate (<- abbreviateItems key xs)
    | .dict es => do return "_".intercalate (<- abbreviateEntries es)
    | v => fatal s!"Parameter {key}={v.shown} is new object type ({kindText v})"

def abbreviateItems (key : Text) (xs : Values) : Gen Texts :=
  match xs with
  | [] => pure []
  | x :: rest => do
    return (<- abbreviateValue key x) :: (<- abbreviateItems key rest)

end

/-- In the fixed part of a name, or in none. -/
def unnamed : Texts :=
  [PT, MT0, MT1, DU, "LdcEqualsLdd", MI, MIM, MIN, MIK, MIB, "MatrixInstBM", "MatrixInstBN"]

abbrev Required := List (Text × Bool)

variable (r : Required)

def Required.set (key : Text) (b : Bool) : Required :=
  if r.any (·.1 == key) then r.map fun e => if e.1 == key then (key, b) else e else r ++ [(key, b)]

def Required.has (key : Text) : Bool := r.any fun e => e.1 == key && e.2

def differs (key : Text) (v : Value) : Tables -> Result Bool
  | [] => .ok false
  | t :: ts => match t.get? key with
    | none => .error (.missingKey key)
    | some w => if w == v then differs key v ts else .ok true

def differing (others : Tables) : Table -> Result Required
  | [] => .ok []
  | (.str key, v) :: rest => do
    let isParameter := isParameter key
    let marked <- (if isParameter then differs key v others else .ok false)
    let more <- differing others rest
    return if isParameter || !others.isEmpty then (key, marked) :: more else more
  | _ :: rest => differing others rest

def required : Tables -> Result Required
  | [] => .ok []
  | first :: others => do
    return (unnamed.foldl (fun r key => r.set key false) (<- differing others first)).set "Kernel" true

def number (state : Table) (key : Text) : Gen Text := do return toString (<- int (<- fetch state key))

variable (problem : Option Text)

def tileKeys : Texts := [MT0, MT1, DU]
def instructionKeys : Texts := [MIM, MIN, MIK, MIB]

def extents (given : Bool) (letters : Text) (keys : Texts) (state : Table) : Gen Text :=
  if given then do return letters ++ "x".intercalate (<- keys.mapM (number state)) ++ "_" else pure ""

variable (state : Table)

/-- Problem type, macro tile, matrix instruction, equal outputs. -/
def fixedPart : Gen Text := do
  let tile <- extents (tileKeys.all state.has) "MT" tileKeys state
  let instruction <- extents (state.has MIM) "MI" instructionKeys state
  let output := match state.get? "LdcEqualsLdd" with
    | some v => if v.truthy then "SE_" else "SN_"
    | none => ""
  return (problem.map (· ++ "_")).getD "" ++ tile ++ instruction ++ output

def part (key : Text) : Gen Text := do return abbreviateName key ++ (<- abbreviateValue key (<- fetch state key))

def minimal (r : Required) : Gen Text := do
  let fixed <- fixedPart problem state
  let keys := (sortTexts state.names).filter fun key => r.has key && !key.startsWith "_"
  return fixed ++ "_".intercalate (<- keys.mapM (part state))

def full : Gen Text := minimal problem state ((state.names.filter isParameter).map fun key => (key, true))

/-- The values of every parameter, and the digits of a number. -/
structure Serial where
  values : List (Text × Values)
  digits : Nat

def parameterNames (state : Table) : Texts := sortTexts (state.names.filter isParameter)

def sortValues (vs : Values) : Result Values :=
  match vs with
  | .dict _ :: _ => .ok vs
  | vs => Sorting.stable less vs

variable (states : Tables)

def allNames : Texts := (states.flatMap parameterNames).eraseDups
def valuesOf (key : Text) : Values := states.filterMap (·.get? key)

def Serial.ofStates : Result Serial := do
  let values <- (allNames states).mapM fun key => do
    return (key, <- sortValues ((valuesOf states key).eraseDupsBy same))
  return { values, digits := (toString (values.foldl (fun n e => n * e.2.length) 1)).length }

variable (s : Serial)

/-- Adds a digit to a number with the factor it counts by. A value that is not listed counts as the one before. -/
def Serial.addDigit (state : Table) :
    Nat × Nat × Option Nat -> Text -> Result (Nat × Nat × Option Nat)
  | (n, factor, last), key => do
    let some vs := s.values.lookup key | throw (.missingKey key)
    let some i := (indexOf? (state.or key) vs).or last | throw .unbound
    return (n + i * factor, factor * vs.length, some i)

/-- Each value is a digit, the bases are the numbers of values. -/
def Serial.number (state : Table) : Result Nat := do
  return (<- (parameterNames state).foldlM (s.addDigit state) (0, 1, none)).1

def Serial.name (letter : Text) (state : Table) : Result Text := do
  return letter ++ zeroPadded s.digits (<- s.number state)

end TensorForge.Naming
