/-! # Formulas in generated code -/

namespace TensorForge

inductive Formula.Op where
  | add | sub | mul | div | mod | shift | less | same

def Formula.Op.symbol : Op -> String
  | .add => "+"
  | .sub => "-"
  | .mul => "*"
  | .div => "/"
  | .mod => "%"
  | .shift => "<<"
  | .less => "<"
  | .same => "=="

/-- Of 32 bits, or 64 if they are `wide`; a `tight` operation is written without blanks. -/
inductive Formula where
  | var (name : String) (wide : Bool := false)
  | num (n : Nat) (wide : Bool := false)
  | op (a : Formula) (f : Formula.Op) (b : Formula) (tight : Bool := false)
  | paren (a : Formula) (close : String := ")")
  | choice (test yes no : Formula)

def Formula.text : Formula -> String
  | .var name _ => name
  | .num n wide => toString n ++ if wide then "L" else ""
  | .op a f b tight => a.text ++ (if tight then f.symbol else s!" {f.symbol} ") ++ b.text
  | .paren a close => "(" ++ a.text ++ close
  | .choice test yes no => s!"{test.text} ? {yes.text} : {no.text}"

/-- If the condition holds when there is one. -/
structure Assignment where
  name : String
  value : Formula
  wide : Bool := false
  guard : Option Formula := none
  gap : String := " "

def Assignment.text (a : Assignment) : String := s!"{a.name} ={a.gap}{a.value.text};"

end TensorForge
