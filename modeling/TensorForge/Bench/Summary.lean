import TensorForge.Arguments.Basic

/-! # Summaries of benchmark output -/

namespace TensorForge.Summary

open Decimal Gen Text

/-- Cells by column; columns behind the end of a row hold nothing. -/
abbrev Row := List (Text × Option Text)

def Row.ofCells : (columns cells : Texts) -> Row
  | [], _ => []
  | c :: cs, [] => (c, none) :: ofCells cs []
  | c :: cs, x :: xs => (c, some x) :: ofCells cs xs

variable (r : Row) (column : Text)

def Row.get : Gen (Option Text) :=
  (r.reverse.lookup column).getDM (throw (.missingKey column))

def Row.text : Gen Text := do (<- r.get column).getDM wrongKind
def Row.real : Gen Float := do (readFloat? (<- r.text column)).getDM (throw .badValue)
def whole (s : Text) : Gen Int := (readInt? 10 s).getDM (throw .badValue)
def Row.whole : Gen Int := do Summary.whole (<- r.text column)

structure Req where
  /-- Kernels shown of each problem; all if negative. -/
  winners : Int
  /-- All problems if none are named. -/
  problems : Option Ints
  everything : Bool
  filter : Text
  operations : Int
  (memWidth memEff : Int)

def columns : Texts :=
  words "problem-progress problem-sizes solution time-us gflops tiles-per-cu total-gran cu-gran tile0-gran tile1-gran"

variable (q : Req) (widths : List (Text × Nat))

def Req.derivedCols : Texts :=
  opt (q.operations != 0) ["model-alu-us"] ++
  opt (q.memWidth != 0) ["model-mem-read-us", "model-mem-write-us"] ++ ["best-any"]

def realOf (n : Int) : Gen Float :=
  let x := ofInt n
  if x.isInf then throw .overflow else return x

def divide (x y : Float) : Gen Float := if y == 0 then throw .divisionByZero else return x / y
def rounded (x : Float) : Text := padLeft ' ' 6 (fixed 0 x)

/-- `best` is the highest rate of the kernel. -/
def Req.derive (best : Option Text) (r : Row) : Gen Pairs := do
  let alu <- if q.operations == 0 then pure [] else do
    let peak := ((<- r.real "clock-sys") * (<- r.real "num-cus")) * (<- realOf q.operations)
    let bracket c := c == '(' || c == ')'
    let sizes := String.ofList
      (((<- r.text "problem-sizes").toList.dropWhile bracket).reverse.dropWhile bracket).reverse
    let sizes <- (sizes.splitOn ",").mapM whole
    let time <- divide (<- sizes.foldlM (fun x n => do return x * (<- realOf n)) 2.0) peak
    pure [("model-alu-us", rounded (time * (<- r.real "total-gran")))]
  let memory <- if q.memWidth == 0 then pure [] else do
    let peak := (<- r.real "clock-mem") * (<- realOf q.memWidth) * (<- realOf q.memEff) / 100.0
    let reading <- divide (<- r.real "mem-read-bytes") peak
    let writing <- divide (<- r.real "mem-write-bytes") peak
    pure [("model-mem-read-us", rounded reading), ("model-mem-write-us", rounded writing)]
  return alu ++ memory ++ [("best-any", best.getD "None")]

def group (rows : List (Option Text × Row)) : List (Option Text × List Row) :=
  rows.foldl (fun gs (k, r) =>
    if gs.any fun g => g.1 == k then gs.map fun g => if g.1 == k then (k, g.2 ++ [r]) else g
    else gs ++ [(k, [r])]) []

def fastest (best : Option Row) (r : Row) : Gen Row := do
  best.elim (pure r) fun b => do return if (<- r.real "gflops") > (<- b.real "gflops") then r else b

def ranked {α : Type} (row : α -> Row) (rs : List α) : Gen (List α) := do
  let keyed <- rs.mapM fun r => do return (<- (row r).whole "gflops", r)
  return (keyed.mergeSort fun a b => decide (a.1 >= b.1)).map (·.2)

def inCol (column text : Text) : Text :=
  padRight ((widths.lookup column).getD 0) text

def widen (cells : Pairs) : List (Text × Nat) :=
  widths.map fun (c, w) => (c, (cells.lookup c).elim w (max w ·.length))

def table (lines : Texts) : List Row :=
  let (header, rows) := lines.foldl (fun ((h, rows) : Option Text × Texts) l =>
    if l.startsWith "run," then (some l, rows)
    else if h.isSome && contains l "Contraction" then (h, rows ++ [l]) else (h, rows))
    (none, [])
  (Csv.parseSpaced (.join rows)).map (.ofCells ((replace (header.getD "") " " "").splitOn ","))

def printCells (r : Row) : Act := do
  for c in columns do say (inCol widths c (<- r.text c) ++ " ")

def print (lines : Texts) : Act := do
  let rows := table lines
  let derived := q.derivedCols
  let mut best := []
  let mut widths := (columns ++ derived).map fun c => (c, c.length)
  let mut keyed := []
  for r in rows do
    let kernel <- r.get "solution"
    let old := best.lookup kernel
    let new <- fastest old r
    best := if old.isSome then best.map fun b => if b.1 == kernel then (kernel, new) else b
      else best ++ [(kernel, new)]
    keyed := keyed ++ [(<- r.get "problem-sizes", r)]
    widths := widen widths (<- columns.mapM fun c => do return (c, <- r.text c))
  let mut problems : List (List (Row × Pairs)) := []
  for (_, rs) in group keyed do
    let mut done := []
    for r in rs do
      let more <- q.derive (<- (best.lookup (<- r.get "solution")).elim (pure none) (Row.get · "gflops")) r
      widths := widen widths more
      done := done ++ [(r, more)]
    problems := problems ++ [done]
  let sorted <- ranked id rows
  for c in columns do say (inCol widths c c ++ " ")
  for c in derived do say (c ++ " ")
  say "\n"
  if q.winners != 0 then
    for rs in problems do
      let wanted <- match q.problems, rs with
        | some ns, (r, _) :: _ => do
          pure (ns.contains (<- whole (((<- r.text "problem-progress").splitOn "/").headD "")))
        | _, _ => pure true
      if wanted then
        let kept <- rs.filterM fun (r, _) => do return contains (<- r.text "solution") q.filter
        let top <- ranked (·.1) kept
        for (r, more) in if q.winners < 0 then top else top.take q.winners.toNat do
          printCells widths r
          for (c, s) in more do say (inCol widths c s ++ " ")
          say "\n"
  if q.everything then
    if let r :: _ := sorted then
      printCells widths r
      throw .noField

def cmd (name : Text) : Args.Cmd :=
  { name, params :=
    [.number ["--print_winners", "-w"] "print_winners" 1,
     { Args.Param.number ["--problem_progress", "-p"] "problem_progress" with effect := .append },
     .switch ["--print_summary", "-s"] "print_summary", .flagged ["--filter", "-k"] "filter" "",
     .number ["--ops-per-cu-per-cycle", "-o"] "ops_per_cu_per_cycle" 0, .number ["--mem-width", "-m"] "mem_width" 1024,
     { Args.Param.number ["--mem-eff", "-e"] "mem_eff" 85 with
       choices := (List.range 99).map fun n => toString (n + 1) }, "input_file"] }

def run (name : Text) (args : Texts) : Act := do
  let values <- (cmd name).read args
  let number (key : Text) := do int (<- fetch values key)
  let problems <- match <- fetch values "problem_progress" with
    | .list ns => some <$> ns.mapM int
    | _ => pure none
  let q :=
    { winners := <- number "print_winners", problems
      everything := <- fetchFlag values "print_summary"
      filter := <- fetchText values "filter"
      operations := <- number "ops_per_cu_per_cycle", memWidth := <- number "mem_width"
      memEff := <- number "mem_eff" }
  print q (Files.linesWithEnds (<- Files.read (<- fetchText values "input_file")))

end TensorForge.Summary
