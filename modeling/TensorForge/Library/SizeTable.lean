import TensorForge.Value.Operations

/-!
# Tables of sizes

The kernels of a logic file and, for each problem size, the fastest kernel and its speed; size entries refer to
kernels by their `SolutionIndex`.
-/

namespace TensorForge

open Value

inductive KernelClass where
  | vector
  | matrix
  deriving DecidableEq

namespace KernelClass

def name : KernelClass -> Text
  | .vector => "VALU"
  | .matrix => "MFMA"

def ofKernel (kernel : Table) : KernelClass :=
  let on field := (kernel.get? field).any truthy
  if on EMI || on MI then .matrix else .vector

end KernelClass

/-- With the class of its kernel where both classes are kept apart. -/
structure SizeKey where
  kind : Option KernelClass := none
  size : Values

namespace SizeKey

def same (a b : SizeKey) : Bool := a.kind == b.kind && sameItems a.size b.size
def length (k : SizeKey) : Nat := k.size.length + if k.kind.isSome then 1 else 0
variable (k : SizeKey)

def isLong : Bool := 8 <= k.length
def trimmed : SizeKey := if k.isLong then { k with size := k.size.take (k.size.length - 4) } else k
def shown : Text := "[" ++ listing (k.kind.toList.map KernelClass.name ++ k.size.map quoted) ++ "]"

end SizeKey

/-- The kernel that serves a size, and its speed. -/
structure SizeEntry where
  key : SizeKey
  kernel : Int
  speed : Value

namespace SizeEntry

def ofValue : Value -> Result SizeEntry
  | .list [.list size, .list [.int kernel, speed]] => .ok { key := { size }, kernel, speed }
  | .list [.list _, .list [_, _]] => .error .wrongKind
  | .list _ => .error .badValue
  | _ => .error .wrongKind

def toValue (e : SizeEntry) : Value :=
  .list [.list (e.key.kind.toList.map (.str ·.name) ++ e.key.size), .list [e.kernel, e.speed]]

end SizeEntry

/-- Within the other fields of a logic file. -/
structure SizeTable where
  fields : Values
  kernels : Tables
  sizes : List SizeEntry

namespace SizeTable

def kernelField : Nat := 5
def sizeField : Nat := 7

def asTable : Value -> Result Table
  | .dict es => .ok es
  | _ => .error .wrongKind

def fieldItems (fields : Values) (n : Nat) : Result Values :=
  match fields[n]? with
  | some (.list xs) => .ok xs
  | some _ => .error .wrongKind
  | none => .error .outOfRange

def ofValue (v : Value) : Result SizeTable := do
  let .list fields := v | .error .wrongKind
  let sizes <- (<- fieldItems fields sizeField).mapM SizeEntry.ofValue
  let kernels <- (<- fieldItems fields kernelField).mapM asTable
  return { fields, kernels, sizes }

def toValue (t : SizeTable) : Value :=
  .list ((t.fields.set kernelField (.list (t.kernels.map .dict))).set sizeField (.list (t.sizes.map SizeEntry.toValue)))

variable (kernel : Table)

def indexOf : Result Value :=
  match kernel.get? SI with
  | some v => .ok v
  | none => .error (.missingKey SI)

def withIndex (n : Nat) : Table := kernel.set SI (.int n)

def kernelName : Text :=
  match kernel.get? "SolutionNameMin" with
  | some v => v.shown
  | none => "(SolutionName N/A)"

def renumber (kernels : Tables) : Tables := kernels.mapIdx fun i kernel => withIndex kernel i

variable (t : SizeTable)

def reindexed : SizeTable := { t with kernels := renumber t.kernels }

/-- An entry whose key without strides is already there is dropped; `before` are the keys that have been passed. -/
def trimFrom (before : List SizeKey) : List SizeEntry -> List SizeEntry
  | [] => []
  | e :: es =>
    let short := e.key.trimmed
    let there k := k.same short
    if !e.key.isLong then e :: trimFrom (before ++ [e.key]) es
    else if before.any there || e.key.same short || es.any (there ·.key)
    then trimFrom (before ++ [e.key]) es else { e with key := short } :: trimFrom (before ++ [short]) es

def trim (sizes : List SizeEntry) : List SizeEntry := trimFrom [] sizes

def marked : Result (List (Table × Bool)) :=
  t.kernels.mapM fun kernel => do
    let index <- indexOf kernel
    return (kernel, t.sizes.any fun e => same e.kernel index)

/-- The place of the last kernel that carries the index. -/
def newNumber (kept : Tables) (index : Int) : Result Int :=
  match kept.zipIdx.reverse.find? fun (kernel, _) => (kernel.get? SI).any (·.same index) with
  | some (_, i) => .ok i
  | none => .error (.missingKey index)

def unused : Result Tables := do return ((<- t.marked).filter (!·.2)).map (·.1)

/-- The kernels left are numbered by their places. -/
def withoutUnused : Result SizeTable := do
  let kept := ((<- t.marked).filter (·.2)).map (·.1.erase "__InUse__")
  let sizes <- t.sizes.mapM fun e => do return { e with kernel := <- newNumber kept e.kernel }
  return { t with kernels := renumber kept, sizes }

def sameKernel (a b : Table) : Bool :=
  let index := .str SI
  same (.dict (a.erase index)) (.dict (b.erase index))

def addKernel (pool : Tables) (kernel : Table) : Result (Tables × Value × Bool) :=
  match pool.find? fun k => sameKernel k kernel with
  | some k => do return (pool, <- indexOf k, true)
  | none => .ok (pool ++ [withIndex kernel pool.length], .int pool.length, false)

def findKernel (kernels : Tables) (index : Int) : Result (Table × Bool) := do
  let place := if index < 0 then index + kernels.length else index
  if index < kernels.length then
    if place < 0 then throw .outOfRange
    let some kernel := kernels[place.toNat]? | throw .outOfRange
    if same (<- indexOf kernel) index then return (kernel, false)
  match <- kernels.filterM fun k => do return same (<- indexOf k) index with
  | [kernel] => return (kernel, true)
  | _ => throw .unmet

end SizeTable

end TensorForge
