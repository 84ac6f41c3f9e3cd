import TensorForge.Arguments.Basic

/-! # Logs of benchmark calls -/

namespace TensorForge.Bench

open Gen Arith Value

inductive Direction where
  | forward | backwardData | backwardWeights
  deriving DecidableEq

structure ConvShape where
  (batch channels height width filters filterHeight filterWidth outHeight outWidth : Value)

namespace ConvShape

/-- `(size - (1 + dilation * (filter - 1)) + 2 * pad) / stride + 1`, at least one. -/
def outExtent (size filter dilation pad stride : Value) : Result Value := do
  let one := .int 1
  let reach <- add one (<- mul dilation (<- sub filter one))
  let room <- add (<- sub size reach) (<- mul 2 pad)
  let n <- add (<- divide room stride) one
  return if <- one.less n then n else one

def ofTables (input weights convolution : Table) : Gen ConvShape := do
  let [batch, channels, height, width] <- ["in_n", "in_c", "in_h", "in_w"].mapM (fetch input)
    | throw .badValue
  let filters <- fetch weights "wei_n"
  let _ <- divide (<- fetch weights "wei_c") (<- fetch weights "group_count")
  let filterHeight <- fetch weights "wei_h"
  let filterWidth <- fetch weights "wei_w"
  let [dilationHeight, dilationWidth, padHeight, padWidth, strideHeight, strideWidth] <-
    ["dilation_h", "dilation_w", "pad_h", "pad_w", "u", "v"].mapM (fetch convolution) | throw .badValue
  let outHeight <- outExtent height filterHeight dilationHeight padHeight strideHeight
  let outWidth <- outExtent width filterWidth dilationWidth padWidth strideWidth
  return { batch, channels, height, width, filters, filterHeight, filterWidth, outHeight, outWidth }

end ConvShape

structure Product where
  function : Text := "gemm_ex"
  (transposeA transposeB : Text := "N")
  (m n k : Value)
  batch : Value := 1
  (lda ldb ldc : Value)
  (strideA strideB strideC : Value := 0)
  beta : Float := 0

def typeNames : Texts := Text.words "a_type b_type c_type d_type compute_type"

def Product.toTable (p : Product) : Table :=
  let s (k v : Text) : Value × Value := (k, v)
  [s "f" p.function, s "transposeA" p.transposeA, s "transposeB" p.transposeB, ("m", p.m), ("n", p.n), ("k", p.k),
    ("batch_count", p.batch), ("lda", p.lda), ("ldb", p.ldb), ("ldc", p.ldc), ("ldd", p.ldc), ("stride_a", p.strideA),
    ("stride_b", p.strideB), ("stride_c", p.strideC), ("stride_d", p.strideC), ("alpha", .float 1),
    ("beta", .float p.beta)]
    ++ typeNames.map (s · "f32_r") ++ ["algo", "solution_index", "flags", "workspace_size"].map fun k => (.str k, .int 0)

variable (xs : Values) (pointwise : Bool)

def productOf : Result Value :=
  match xs with
  | [] => .ok 1
  | x :: rest => rest.foldlM mul x

def isPointwise (weights convolution : Table) : Gen Bool := do
  let found <- [(weights, "wei_h", 1), (weights, "wei_w", 1), (convolution, "pad_h", 0),
    (convolution, "pad_w", 0), (convolution, "u", 1), (convolution, "v", 1)].mapM fun (t, key, n) =>
      return same (<- fetch t key) n
  return found.all id

def isSmall (input : Table) : Gen Bool := do
  let below key : Gen Bool := do less (<- fetch input key) 14
  if <- below "in_h" then below "in_w" else return false

variable (s : ConvShape)

/-- One product for each image of the batch. -/
def batchedProduct (n k : Value) : Result Product := do
  let m <- productOf [s.height, s.width]
  return { function := "gemm_strided_batched_ex", m, n, k, batch := s.batch, lda := m, ldb := s.channels, ldc := m
           strideA := <- productOf [k, m], strideC := <- productOf [n, m] }

def forwardProduct (small pointwise : Bool) (s : ConvShape) : Result Product := do
  if small && pointwise then
    let n <- productOf [s.batch, s.outHeight, s.outWidth]
    return { m := n, n := s.filters, k := s.channels, lda := n, ldb := s.channels, ldc := n }
  if pointwise then return <- batchedProduct s s.filters s.channels
  let n <- productOf [s.outHeight, s.outWidth]
  let k <- productOf [s.channels, s.filterHeight, s.filterWidth]
  return { m := n, n := s.filters, k, lda := n, ldb := k, ldc := n }

def dataProduct : Result Product := do
  if pointwise then return { <- batchedProduct s s.channels s.filters with transposeB := "T" }
  let m <- productOf [s.channels, s.filterHeight, s.filterWidth]
  let n <- productOf [s.outHeight, s.outWidth]
  return { transposeB := "T", m := n, n := m, k := s.filters, lda := n, ldb := m, ldc := n }

def weightsProduct : Result Product := do
  let n <- if pointwise then pure s.channels else productOf [s.channels, s.filterHeight, s.filterWidth]
  let k <- if pointwise then productOf [s.height, s.width] else productOf [s.outHeight, s.outWidth]
  return { transposeA := "T", m := n, n := s.filters, k, lda := k, ldb := k, ldc := n, beta := 1 }

def productFor (d : Direction) (input weights convolution : Table) : Gen Product := do
  if d == .forward then
    for key in ["wei_h", "wei_w"] do let _ <- fetch weights key
    for key in ["in_h", "in_w"] do let _ <- fetch input key
  let pointwise <- isPointwise weights convolution
  let small <- if d == .forward && pointwise then isSmall input else pure false
  let s <- ConvShape.ofTables input weights convolution
  .ofExcept (match d with
    | .forward => forwardProduct small pointwise s
    | .backwardData => dataProduct pointwise s
    | .backwardWeights => weightsProduct pointwise s)

/-! ## Calls -/

open Files Text

def flagsOf : List (Text × Texts) :=
  let product := " --transposeA --transposeB -m -n -k --alpha "
  let typed := " --compute_type --algo --solution_index --flags -i"
  [("gemm_ex", s!"-f{product}--a_type --lda --b_type --ldb --beta --c_type --ldc --d_type --ldd{typed}"),
   ("gemm", s!"-f -r{product}--lda --ldb --beta --ldc -i"),
   ("gemm_strided_batched_ex", s!"-f{product}--a_type --lda --stride_a --b_type --ldb --stride_b --beta --c_type --ldc
      --stride_c --d_type --ldd --stride_d --batch_count{typed}"),
   ("gemm_strided_batched", s!"-f -r{product}--lda --stride_a --ldb --stride_b --beta --ldc --stride_c --batch_count -i")].map
    fun (name, flags) => (name, words flags)

variable (call : Table)

def flagsFor : Gen (Text × Texts) := do
  let f <- fetch call "f"
  return (f.shown, <- f.known flagsOf)

def shortType (v : Value) : Value :=
  (v.known? [("f32_r", "s"), ("f16_r", "h"), ("f64_r", "d"), ("bf16_r", "b")]).elim v .str

def typesOf : Gen Values := do
  let r <- fetch call "r"
  if r.truthy then return .replicate 3 (shortType r)
  return [shortType (<- fetch call "a_type"), shortType (<- fetch call "c_type"), shortType (<- fetch call "compute_type")]

def sizeLine : Gen Text := do
  let m <- fetch call "m"
  let n <- fetch call "n"
  let batch <- fetch call "batch_count"
  let k <- fetch call "k"
  return s!"          - Exact: [ {m.shown} , {n.shown} , {batch.shown}, {k.shown} ]"

variable (param : Text) (line : Text)

def packedStride : Gen Value := do
  let m <- fetch call "m"
  let k <- fetch call "k"
  let mi <- m.toInt
  let ki <- k.toInt
  let n <- fetch call "n"
  let ni <- n.toInt
  let area a b : Value := toString (a * b)
  let leading a b c : List (Text × Value) := [("lda", a), ("ldb", b), ("ldc", c), ("ldd", c)]
  let strides := [("stride_a", area mi ki), ("stride_b", area ni ki), ("stride_c", area mi ni)]
  let table <- if same (<- fetch call "transposeB") "T" then pure (leading k k n)
    else pure (if same (<- fetch call "transposeA") "N" then leading m k m else leading k k m)
  ((table ++ strides).lookup param).getDM (throw (.missingKey param))

def paramOf (flag : Text) : Text := replace flag "-" ""
def isStride : Bool := contains param "ld" || contains param "stride"

/-- A stride of zero stands for close packing. -/
def valueOf : Gen Value := do
  let v <- fetch call param
  if isStride param then if (<- v.toInt) == 0 then return <- packedStride call param
  return v

def callText (noStrides : Bool) (filling : Text) : Gen Text := do
  let (_, flags) <- flagsFor call
  let words <- flags.mapM fun flag => do
    let param := paramOf flag
    let v <- valueOf call param
    return opt (!(isStride param && noStrides)) s!" {flag} {v.shown}"
  return "./rocblas-bench" ++ .join words ++ s!" --initialization {filling}"

def listNames : Pairs :=
  [("transposeA", "transA"), ("transposeB", "transB"), ("m", "M"), ("n", "N"), ("k", "K"), ("i", "iters")]

def typedFunctions : Pairs :=
  [("h", "rocblas_hgemm"), ("f16_r", "rocblas_hgemm"), ("s", "rocblas_sgemm"),
   ("f32_r", "rocblas_sgemm"), ("d", "rocblas_dgemm"), ("f64_r", "rocblas_dgemm"), ("?", "rocblas_gemm_ex")]

def listText : Gen Text := do
  let (f, flags) <- flagsFor call
  let typed := flags.contains "-r"
  let base <- if typed then (<- fetch call "r").known typedFunctions else pure "rocblas_gemm"
  let name := base ++ opt (contains f "strided") "_strided"
    ++ opt (contains f "batched") "_batched" ++ opt (!typed) "_ex"
  let parts <- (flags.filter fun k => k != "-f" && k != "-r").mapM fun flag => do
    let param := paramOf flag
    let v <- valueOf call param
    let key := (listNames.lookup param).getD param
    return s!"{key}: {v.shown}" ++ if key == "iters" then " " else ", "
  return s!"- \x7brocblas_function: {name}, " ++ .join parts ++ "\x7d"

def sharedNames : Texts :=
  words "b_type c_type d_type compute_type lda ldb ldc ldd batch batch_count algo solution_index flags stride_a stride_b
    stride_c stride_d alpha beta"

def listWords : Texts :=
  let drops := ["\"", " ", "'", "[-\x7b", "\x7d\\n]"]
  (replace (drops.foldl (fun s d => replace s d "") (strs (line.splitOn ",")).quoted) ":" ",").splitOn ","

/-- What a word adds to a call; `next` is the word after it, which has to be there where it is used. -/
def wordText (before word : Text) (next : Option Text) : Gen Text := do
  let following := next.getDM (throw .outOfRange)
  let with' (flag : Text) := return flag ++ " " ++ (<- following) ++ " "
  let flags := [("transA", "--transposeA"), ("transB", "--transposeB"), ("M", "-m"), ("K", "-k")]
  if sharedNames.contains word then with' ("--" ++ word)
  else if let some flag := flags.lookup word then with' flag
  else if word == "N" && before != "transA" && before != "transB" then with' "-n"
  else if word == "call_count" || word == "iters" then return "-i " ++ (<- following)
  else if word == "a_type" then
    let t <- following
    return (if t == "f32_r" then "-r s " else if t == "f16_r" then "-r h " else "-r d ") ++ (<- with' "--a_type")
  else return ""

def callOfList : Gen Text := do
  let has s := contains line s
  let head := "./rocblas-bench " ++ (if has "strided" then "-f gemm_strided_batched" else "-f gemm")
    ++ (if has "_ex" then "_ex " else " ")
    ++ if has "sgemm" then "-r s " else if has "hgemm" then "-r h " else if has "dgemm" then "-r d " else ""
  let words := listWords line
  let parts <- (words.zipIdx.drop 2).mapM fun (word, i) => wordText (words[i - 1]?.getD "") word words[i + 1]?
  return head ++ String.join parts

open Args Gen
variable (program : Text)

def callCmd : Cmd :=
  let flags dash (names : Texts) : List Param := names.map fun n => .flagged [dash ++ n] n
  let real name x := { Param.flagged ["--" ++ name] name (.float x) with kind := .real }
  { name := program
    params := flags "-" ["f", "r"] ++ flags "--" ["transposeA", "transposeB"] ++ flags "-" ["m", "n", "k"] ++
      [.number ["--batch_count", "--batch"] "batch_count" 1] ++ flags "--" typeNames ++ [real "alpha" 1, real "beta" 0] ++
      (words "lda ldb ldc ldd stride_a stride_b stride_c stride_d algo solution_index flags").map
        (fun n => .number ["--" ++ n] n 0) ++
      [.number ["-i"] "i" 10] }

def convCmd : Cmd :=
  let whole (name letter : Text) (n : Int) := .number ["--" ++ name, letter] name n
  let text (name letter : Text) (v : Value) := .flagged ["--" ++ name, letter] name v
  { name := program
    params :=
      [whole "verification_cache" "-C" 0, text "dout_data" "-D" .null, whole "forw" "-F" 0, whole "in_h" "-H" 32,
       whole "printconv" "-P" 1, whole "verify" "-V" 1, whole "in_w" "-W" 32, text "in_bias" "-a" .null,
       whole "bias" "-b" 0, whole "in_channels" "-c" 3, text "in_data" "-d" .null, text "weights" "-e" .null,
       whole "group_count" "-g" 1, whole "iter" "-i" 1, whole "dilation_w" "-j" 1, whole "out_channels" "-k" 32,
       whole "dilation_h" "-l" 1, text "mode" "-m" "conv", whole "batchsize" "-n" 100, whole "dump_output" "-o" 0,
       whole "pad_h" "-p" 0, whole "pad_w" "-q" 0, whole "pad_val" "-r" 0, whole "search" "-s" 0, whole "time" "-t" 1,
       whole "conv_stride_0" "-u" 1, whole "conv_stride_1" "-v" 1, whole "wall" "-w" 0, whole "fil_w" "-x" 3,
       whole "fil_h" "-y" 3, text "pad_mode" "-z" "default"] }

def convTables (args : Table) : Gen (Table × Table × Table) := do
  let pick (names : Pairs) : Gen Table := names.mapM fun (key, name) => return (key, <- fetch args name)
  let weights <- pick [("wei_n", "out_channels"), ("wei_c", "in_channels"), ("wei_h", "fil_h"),
    ("wei_w", "fil_w"), ("group_count", "group_count")]
  let convolution <- pick [("in_h", "in_h"), ("in_w", "in_w"), ("pad_h", "pad_h"), ("pad_w", "pad_w"),
    ("u", "conv_stride_0"), ("v", "conv_stride_1"), ("dilation_h", "dilation_h"), ("dilation_w", "dilation_w"),
    ("out_c", "out_channels"), ("in_c", "in_channels"), ("in_n", "batchsize")]
  let input <- pick [("in_n", "batchsize"), ("in_c", "in_channels"), ("in_h", "in_h"), ("in_w", "in_w")]
  return (input, weights, convolution)

abbrev Log := List (Value × Tables)

def withTypes (call : Table) : Gen Table := do
  let r <- fetch call "r"
  let a <- fetch call "a_type"
  if r.isNull then return call.set "r" a
  if a.isNull then return typeNames.foldl (fun t k => t.set k r) call
  return call

def Log.add (log : Log) (call : Table) : Gen Log := do
  let f <- fetch call "f"
  let key := tuple [f, <- fetch call "transposeA", <- fetch call "transposeB", .tuple (<- typesOf call)]
  let call <- withTypes call
  return (if log.any fun e => same e.1 key then log else log ++ [(key, [])]).map fun (k, calls) =>
    if k.same key && !(calls.any fun c => same (.dict c) (.dict call))
    then (k, calls ++ [call]) else (k, calls)

/-- Entries of lists are read only if `lists` says so. -/
def Log.addLine (lists : Bool) (log : Log) (line : Text) : Gen Log := do
  let has s := contains line s
  let log <- if has "MIOpenDriver" then do
      let (input, weights, convolution) <- convTables (<- (convCmd program).readKnown (line.splitOn " "))
      [.forward, .backwardData, .backwardWeights].foldlM (fun log d => do
        add log (<- productFor d input weights convolution).toTable) log
    else pure log
  let cmd := callCmd program
  let log <- if has "rocblas-bench" then add log (<- cmd.readKnown (line.splitOn " ")) else pure log
  if lists && has "\x7b" then add log (<- cmd.readKnown ((<- callOfList line).splitOn " ")) else return log

def Log.addFile (lists : Bool) (log : Log) (file : Text) : Gen Log := do
  (linesWithEnds (<- read file)).foldlM (addLine program lists) log

def Log.ofFile (program file : Text) : Gen Log := addFile program true [] file
def Log.ofFiles (files : Texts) : Gen Log := files.foldlM (addFile program false) []

def computeUnits (machine : Value) : Int :=
  (machine.known? [("vega10", 64), ("mi25", 64), ("vega20", 64), ("v340l", 56), ("mi50", 60),
    ("arcturus", 120), ("mi60", 64)]).getD 64

/-- Collects function, transposes and repetitions in the order of the table. A full collection counts again at every
later entry; one of ten repetitions counts once if `once` says so. -/
def callCounts (once : Bool) : (rest : Table) -> (found : Values) -> Table × Values
  | [], _ => ([], [])
  | (k, v) :: rest, found =>
    let counts := ["transposeA", "transposeB", "f", "i"].any (k.same ·)
    let v := if counts && once && v.same 10 then 1 else v
    let found := if counts then found ++ [v] else found
    let (rest, more) := callCounts once rest found
    ((k, v) :: rest, opt (found.length == 4) [.list found] ++ more)

def multiplier (twice : Bool) : Int := if twice then 2 else 1

/-- The counts that belong to a function by its name. -/
def chosenCounts (name plain strided : Value) : Gen Value := return if <- isIn "strided" name then strided else plain

def isStridedFn (f : Value) : Gen Bool := isIn "gemm_strided_batched" f

def splitCounts (counts : Values) : Gen (Values × Values) :=
  counts.foldlM (fun (plain, strided) line => do
    let parts := line.items
    let f <- nth parts 0
    if f.same "gemm" || f.same "gemm_ex" then return (plain ++ [<- nth parts 3], strided)
    if <- isStridedFn f then return (plain, strided ++ [<- nth parts 3])
    return (plain, strided)) ([], [])

def beginsWith : (pattern text : Chars) -> Bool
  | [], _ => true
  | _ :: _, [] => false
  | p :: ps, c :: cs => (p == '.' && c != '\n' || p == c) && beginsWith ps cs

def resultFiles (dir name : Text) : Gen Texts := do
  let dotted s := beginsWith name.toList s.toList && (s.toList.drop name.length).head? == some '.'
  return (<- list dir).filter dotted

def isResult : Bool :=
  match line.toList with
  | a :: ',' :: b :: _ => (a == 'N' || a == 'T') && (b == 'N' || b == 'T')
  | _ => false

def resultLines : (headed : Bool) -> Texts -> Bool × Texts
  | headed, [] => (headed, [])
  | headed, line :: lines =>
    let keep := if headed then isResult line else line.startsWith "transA,transB"
    let (final, more) := resultLines (headed || keep) lines
    (final, if keep then line :: more else more)

def gatherResults (dir out name : Text) : Act := do
  let (_, text) <- (<- resultFiles dir name).foldlM (fun ((headed, text) : Bool × Text) file => do
    let (headed, kept) := resultLines headed (linesWithEnds (<- read (dir / file)))
    return (headed, text ++ .join kept)) (false, "")
  write (out / (name ++ ".csv")) text

def mean : Result Value := do divide (<- xs.foldlM add 0) (.int xs.length)

/-- Refused: half the number of numbers is a fraction, which is no position in a list. -/
def median (_ : Values) : Result Value := .error .wrongKind

def deviation : Result Value := do
  let m <- mean xs
  let squares <- xs.mapM fun x => do
    match <- sub x m with
    | .float d => return .float (.pow d 2)
    | _ => throw .wrongKind
  match <- divide (<- squares.foldlM add 0) (.int (xs.length - 1)) with
  | .float v => return .float (.pow v 0.5)
  | _ => throw .wrongKind

end TensorForge.Bench
