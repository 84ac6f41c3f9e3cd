import TensorForge.Arguments.Basic

/-!
# Lists of products

A list of matrix products has one of three notations, a product on a line.
-/

namespace TensorForge.SizeList

open Files Gen Text

structure Product where
  (m n k : Int)
  (transposeA transposeB : Bool := false)
  count : Int := 1
  deriving DecidableEq

inductive Form where
  | exact | tuple | csv
  deriving DecidableEq

def Form.ofName? : Text -> Option Form
  | "tensile_exact" => some .exact
  | "deepbench_gemm" => some .tuple
  | "csv" => some .csv
  | _ => none

def Form.header : Form -> Text
  | .exact => ""
  | .tuple => "// m, n, k, a_t, b_t\n"
  | .csv => "tA, tB, m, n, k, batchCnt\n"

def Form.print (f : Form) (p : Product) : Result Text :=
  let word (b : Bool) : Text := if b then "true" else "false"
  let letter (b : Bool) : Text := if b then "T" else "N"
  let a := p.transposeA
  let b := p.transposeB
  match f with
  | .exact => .ok s!"          - Exact: [ {p.m} , {p.n} , {p.count}, {p.k} ]\n"
  | .tuple => if p.count != 1 then .error .unmet else .ok s!"std::make_tuple({p.m}, {p.n}, {p.k}, {word a}, {word b})\n"
  | .csv => .ok s!"{letter a}, {letter b}, {p.m}, {p.n}, {p.k}, {p.count}\n"

def number (s : Text) : Result Int := (readInt? 10 s).getDM (throw .badValue)

def toLast (c : Char) (s : Text) : Option Text :=
  let rest := s.toList.reverse.dropWhile (· != c)
  if rest.isEmpty then none else some (.ofList (rest.drop 1).reverse)

def exactPart? (line : Text) : Option Text := do
  let inner <- toLast ']' line
  let before <- toLast '[' inner
  if contains before "Exact" then some (drop (before.length + 1) inner) else none

def tuplePart? (line : Text) : Option Text := do
  let mark := "std::make_tuple("
  match line.splitOn mark with
  | _ :: more@(_ :: _) => toLast ')' (mark.intercalate more)
  | _ => none

inductive Line where
  | empty
  | product (p : Product)
  | ignored

def Form.read (f : Form) (line : Text) : Result Line := do
  let line := trimLeft line
  if line.isEmpty then return .empty
  match f with
  | .exact =>
    if line.startsWith "#" then return .empty
    let some part := exactPart? line | return .ignored
    match <- (part.splitOn ",").mapM number with
    | [m, n, k] => return .product { m, n, k }
    | [m, n, count, k] => return .product { m, n, k, count }
    | _ => throw .unbound
  | .tuple =>
    if line.startsWith "//" then return .empty
    let some part := tuplePart? line | return .ignored
    match (part.splitOn ",").map trim with
    | [m, n, k, a, b] =>
      return .product { m := <- number m, n := <- number n, k := <- number k
                        transposeA := a == "true", transposeB := b == "true" }
    | _ => throw .unmet
  | .csv =>
    let fields := (line.splitOn ",").map trim
    let field (i : Nat) := do number (<- fields[i]?.getDM (throw .outOfRange))
    return .product { m := <- field 2, n := <- field 3, k := <- field 4
                      transposeA := fields.head? == some "T", transposeB := fields[1]? == some "T" }

def cmd (name : Text) : Args.Cmd :=
  { name, params :=
    ["infile", .flagged ["-i", "--in-format"] "in_format" "tensile_exact",
     .flagged ["-o", "--out-format"] "out_format" "csv"] }

def run (name : Text) (args : Texts) : Act := do
  let c := cmd name
  let text := fetchText (<- c.read args)
  let file <- text "infile"
  let refuse {α : Type} (reason : Text) : Gen α :=
    c.accept (.error (.misfit s!"argument infile: can't open '{file}': {reason}: '{file}'"))
  if <- isDir file then refuse "[Errno 21] Is a directory"
  if !(<- isFile file) then refuse "[Errno 2] No such file or directory"
  let form (key : Text) := do
    let word <- text key
    (Form.ofName? word).getDM (throw (.missingKey word))
  let src <- form "in_format"
  let target <- form "out_format"
  say target.header
  for line in linesWithEnds (<- read file) do
    match <- src.read line with
    | .empty => pure ()
    | .product p => say (<- target.print p)
    | .ignored =>
      match src with
      | .exact => say s!"inparser ignored:  {line}\n"
      | _ => complain s!"inparser ignored: {line}"

end TensorForge.SizeList
