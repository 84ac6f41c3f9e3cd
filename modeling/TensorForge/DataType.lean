/-! # Element types of tensors -/

namespace TensorForge

inductive Elem where
  | single | double | complexSingle | complexDouble | half | int8x4 | int32 | bfloat16 | int8
  deriving DecidableEq, Repr, Inhabited

namespace Elem

def all : List Elem := [single, double, complexSingle, complexDouble, half, int8x4, int32, bfloat16, int8]

/-- A letter for names, names in files and instructions, and types in the code of kernels and of the host. -/
structure Traits where
  (char name abbreviation accumulator enum : String)
  bytes : Nat
  (hip host : String)
  ocl : String

def traits : Elem -> Traits
  | single => ⟨"S", "single", "f32", "f32", "Float", 4, "float", "float", "float"⟩
  | double => ⟨"D", "double", "f64", "f64", "Double", 8, "double", "double", "double"⟩
  | complexSingle => ⟨"C", "complexSingle", "f32c", "f32", "ComplexFloat", 8, "TensileComplexFloat",
    "TensileComplexFloat", "float2"⟩
  | complexDouble => ⟨"Z", "complexDouble", "f64c", "NONE", "ComplexDouble", 16, "TensileComplexDouble",
    "TensileComplexDouble", "double2"⟩
  | half => ⟨"H", "half", "f16", "f32", "Half", 2, "tensile_half", "TensileHalf", "ERROR"⟩
  | int8x4 => ⟨"4xi8", "int8x4", "i8", "i32", "Int8x4", 4, "uint32_t", "TensileInt8x4", "ERROR"⟩
  | int32 => ⟨"I", "int32", "i32", "NONE", "Int32", 4, "int32_t", "TensileInt32", "ERROR"⟩
  | bfloat16 => ⟨"B", "bfloat16", "bf16", "f32", "BFloat16", 2, "tensile_bfloat16", "tensile_bfloat16", "ERROR"⟩
  | int8 => ⟨"I8", "int8", "i8", "i32", "Int8", 1, "int8_t", "TensileInt8", "ERROR"⟩

def isComplex : Elem -> Bool
  | complexSingle | complexDouble => true
  | _ => false

/-- Long name, short code or enumerator, in any case. -/
def ofName? (s : String) : Option Elem :=
  let s := s.toLower
  all.find? fun e => [e.traits.name, e.traits.char, e.traits.enum, "tensileDataType" ++ e.traits.enum].any (·.toLower == s)

end Elem

structure DataType where
  elem : Elem
  code : Int
  deriving DecidableEq, Repr, Inhabited

namespace DataType

def of (e : Elem) : DataType := ⟨e, e.ctorIdx⟩

/-- Negative numbers count from the end. -/
def ofCode? (n : Int) : Option DataType :=
  let i := if n < 0 then n + 9 else n
  if i < 0 then none else Elem.all[i.toNat]?.map (⟨·, n⟩)

def ofName? (s : String) : Option DataType := (Elem.ofName? s).map of

variable (t : DataType)

def is (e : Elem) : Bool := t.code == e.ctorIdx
def isSingle : Bool := t.is .single
def isDouble : Bool := t.is .double
def isSingleComplex : Bool := t.is .complexSingle
def isDoubleComplex : Bool := t.is .complexDouble
def isHalf : Bool := t.is .half
def isInt8x4 : Bool := t.is .int8x4
def isInt32 : Bool := t.is .int32
def isBFloat16 : Bool := t.is .bfloat16
def isInt8 : Bool := t.is .int8
def isNarrow : Bool := t.isHalf || t.isBFloat16
def isComplex (t : DataType) : Bool := t.elem.isComplex
def isReal : Bool := !t.isComplex
def traits : Elem.Traits := t.elem.traits
def char : String := t.traits.char
def bytes : Nat := t.traits.bytes
def device (lang : String) : String := if lang == "OCL" then t.traits.ocl else t.traits.hip

def zero (lang : String) (width : Int) : String :=
  "(" ++ t.device lang ++ (if width > 1 then toString width else "") ++ ")(0)"

def flopsPerMac : Nat := if t.isReal then 2 else 8

end DataType

end TensorForge
