import TensorForge.Asm.Register

/-! # Arithmetic with constants -/

namespace TensorForge.Asm

inductive Operand where
  | vector (r : Reg) (count : Nat)
  | scalar (r : Reg) (count : Nat)
  | dec (n : Int)
  | hex (n : Int)
  | long (n : Int)
  | text (s : Text)
  deriving DecidableEq

instance : Coe Text Operand := ⟨.text⟩

def Operand.render : Operand -> Text
  | .vector r n => vr r n
  | .scalar r n => sr r n
  | .dec n => toString n
  | .hex n => .hex n
  | .long n => .hex n ++ "L"
  | .text s => s

/-- Without an operation it is a bare comment. -/
structure Instruction where
  op : Option Text
  args : List Operand
  comment : Text

abbrev Instrs := List Instruction

def Instruction.render (i : Instruction) : Text :=
  i.op.elim (commentLine i.comment) fun op => inst (op :: i.args.map Operand.render) i.comment

def renderAll (is : Instrs) : Text := .join (is.map Instruction.render)

/-- A symbol has no number from which others could be counted. -/
def Reg.number : Reg -> Result Int
  | .num k => .ok k
  | .named _ => .error .wrongKind

def magicShift : Nat := 33
def magicNumber (divisor : Int) : Int := .fdiv (.pow 2 magicShift) divisor + 1

/-- Zero and negative numbers have no logarithm. -/
def exponentOf (n : Int) : Result Nat := if n <= 0 then .error .badValue else .ok (roundLog2 n.toNat)
def orElseText (comment dflt : Text) : Text := if comment == "" then dflt else comment
def step (op : Text) (args : List Operand) (comment : Text) : Instruction := ⟨some op, args, comment⟩

/-- Leaves the quotient in `q`, through `t` and the register behind it. The steps `load` put the count of the shift
where `count` finds it. -/
def quotientSteps (q d : Reg) (divisor t : Int) (s : Reg) (load : Instrs) (count : Operand) (text : Text) :
    Instrs :=
  [step "s_mov_b32" [.scalar s 1, .hex (magicNumber divisor)] text,
   step "v_mul_hi_u32" [.vector (t + 1 : Int) 1, .vector d 1, .scalar s 1] text,
   step "v_mul_lo_u32" [.vector t 1, .vector d 1, .scalar s 1] text] ++ load ++
  [step "v_lshrrev_b64" [.vector t 2, count, .vector t 2] text, step "v_mov_b32" [.vector q 1, .vector t 1] text]

variable (q r d : Reg)

def remainderSteps (divisor t : Int) (s : Reg) (text : Text) : Instrs :=
  [step "s_mov_b32" [.scalar s 1, .hex divisor] text, step "v_mul_lo_u32" [.vector t 1, .vector q 1, .scalar s 1] text,
   step "_v_sub_u32" [.vector r 1, .vector d 1, .vector t 1] text]

def divideVector (divisor : Int) (tmpV tmpS : Reg) (remainder : Bool)
    (comment : Text) : Result Instrs := do
  let qText := orElseText comment s!"{vr q} = {vr d} / {divisor}"
  let rText := orElseText comment s!"{vr r} = {vr d} % {divisor}"
  if isPowerOfTwo divisor then
    let quotient := step "v_lshrrev_b32" [.vector q 1, .dec (<- exponentOf divisor), .vector d 1] qText
    return quotient :: opt remainder [step "v_and_b32" [.vector r 1, .dec (divisor - 1), .vector d 1] rText]
  else
    let t <- tmpV.number
    return quotientSteps q d divisor t tmpS [] (.hex magicShift) qText ++
      opt remainder (remainderSteps q r d divisor t tmpS rText)

def remainderVector (divisor : Int) (tmpV tmpS : Reg) (comment : Text) : Result Instrs := do
  let text := orElseText comment s!"{vr r} = {vr d} % {divisor}"
  if isPowerOfTwo divisor then return [step "v_and_b32" [.vector r 1, .dec (divisor - 1), .vector d 1] text]
  else
    let t <- tmpV.number
    let load := step "s_mov_b32" [.scalar tmpS 1, .hex magicShift] text
    return quotientSteps q d divisor t tmpS [load] (.scalar tmpS 1) text ++ remainderSteps q r d divisor t tmpS text

/-- A scalar register, unless the symbol is already a reference. -/
def scalarOperand (r : Reg) : Operand :=
  match r with
  | .named s => if s.startsWith "s[" then .text s else .scalar r 1
  | .num _ => .scalar r 1

/-- Leaves the quotient in `q`, by a product with the halves of the magic number in `t` and the register behind it. -/
def scalarQuotient (q d : Operand) (divisor t : Int) : Instrs :=
  let magic := magicNumber divisor
  let lower := .scalar t 1
  let upper := .scalar (t + 1 : Int) 1
  let pair := .scalar t 2
  [step "s_mov_b32" [upper, .hex 0] s!"STATIC_DIV: divisior={divisor}",
   step "s_mul_i32" [lower, .hex (magic.fdiv (.pow 2 16)), d] "tmp1 = dividend * magic hi",
   step "s_lshl_b64" [pair, pair, .hex 16] "left shift 16 bits"] ++
  [step "s_mul_i32" [q, d, .hex (magic.fmod (.pow 2 16))] "tmp0 = dividend * magic lo",
   step "s_add_u32" [lower, q, lower] "add lo", step "s_addc_u32" [upper, upper, .hex 0] "add hi"] ++
  [step "s_lshr_b64" [pair, pair, .hex magicShift] "tmp1 = (dividend * magic) << shift",
   step "s_mov_b32" [q, lower] "quotient"]

/-- Mode 0 leaves the quotient, mode 1 quotient and remainder, and mode 2 the remainder only. -/
def divideScalar (q r d : Reg) (divisor : Int) (tmp : Reg) (mode : Int) : Result Instrs := do
  if q == tmp then throw .unmet
  let qOp := scalarOperand q
  let dOp := scalarOperand d
  let rOp := .scalar r 1
  if isPowerOfTwo divisor then
    let k <- exponentOf divisor
    let quotient := step "s_lshr_b32" [qOp, dOp, .dec k] s!"{qOp.render} = {dOp.render} / {divisor}"
    let rest := step "s_and_b32" [rOp, .dec (divisor - 1), dOp] s!"{rOp.render} = {dOp.render} % {divisor}"
    return opt (mode != 2) [quotient] ++ opt (mode != 0) [rest]
  else
    let t <- tmp.number
    let lower := .scalar t 1
    let rest := [step "s_mul_i32" [lower, qOp, .hex divisor] "quotient*divisor",
      step "s_sub_u32" [rOp, dOp, lower] "rReg = dividend - quotient*divisor"]
    return scalarQuotient qOp dOp divisor t ++ opt (mode != 0) rest

variable (product operand : Text) (mult : Int) (comment : Text)

def productText : Text := orElseText comment s!"{product} = {operand} * {mult}"

def shifted (text : Text) (shift : Operand -> Instruction) : Result Instrs := do
  let k <- exponentOf mult
  return [if k == 0 && product == operand then ⟨none, [], text ++ " (multiplier is 1, do nothing)"⟩
    else shift (.hex k)]

/-- The operands are references; `tmp` is a scalar register for a product in the operand itself. -/
def mulVec (tmp comment : Text) : Result Instrs :=
  let text := productText product operand mult comment
  if mult == 0 then .ok [step "v_mov_b32" [product, .hex 0] text]
  else if isPowerOfTwo mult then
    shifted product operand mult text fun n => step "v_lshlrev_b32" [product, n, operand] text
  else
    let (op, factor) := if product == operand then ("s_mov_b32", tmp) else ("v_mov_b32", product)
    .ok [step op [factor, .hex mult] text, step "v_mul_lo_u32" [product, factor, operand] text]

def mulScalar : Result Instrs :=
  let text := productText product operand mult comment
  if mult == 0 then .ok [step "s_mov_b64" [product, .hex 0] text]
  else if !isPowerOfTwo mult then .error .unmet
  else shifted product operand mult text fun n => step "s_lshl_b64" [product, operand, n] text

end TensorForge.Asm
