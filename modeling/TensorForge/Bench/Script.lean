import TensorForge.Bench.Log

/-! # Scripts of benchmark calls -/

namespace TensorForge.Bench

open Files Text

def withoutRepeats (line : Text) : Text := (line.splitOn "-i").headD ""
def scriptPath (dir name ext : Text) : Text := dir / (name ++ "." ++ ext)

structure ScriptSet where
  (directory name lists stridedLists listExt lead number : Text)
  fresh : Bool

namespace ScriptSet

variable (set : ScriptSet)

def file (suffix : Text) : Text := scriptPath set.directory (set.name ++ suffix) "sh"
def listFile : Text := scriptPath set.directory set.lists set.listExt
def stridedFile : Text := scriptPath set.directory set.stridedLists set.listExt

end ScriptSet

def ScriptSet.plain (directory name : Text) : ScriptSet :=
  { directory, name, lists := name, stridedLists := name ++ "-strided", listExt := "yaml"
    lead := "", number := "1", fresh := true }

def ScriptSet.withLib (directory name : Text) : ScriptSet :=
  { directory, name, lists := name ++ "-yaml", stridedLists := name ++ "-yaml-strided"
    listExt := "sh", lead := "ROCBLAS_TENSILE_LIBPATH=$\x7bTENSILE_LIBRARY\x7d "
    number := "2", fresh := false }

def runAll (files : Texts) (dir number : Text) : Act := do
  let names := String.join (files.map fun f => " " ++ (Path.splitExt (Path.basename f)).1)
  write (dir / s!"doit_all{number}.sh")
    (s!"#!/bin/bash\n\nmkdir results{number}\n\nfor NAME in{names}\ndo\n"
      ++ s!"./rocblas-bench --yaml $\x7bNAME\x7d.sh 2>&1 | tee results{number}/$\x7bNAME\x7d.1\ndone\n")

/-- Whether strided products came up, and whether the head lines are written. -/
structure ScriptState where
  (strided headDone : Bool := false)
  lists : Texts

def linesText (ls : Texts) : Text := .join (ls.map (· ++ "\n"))

def writeKind (set : ScriptSet) (noStrides : Bool) (filling : Text) (st : ScriptState)
    (calls : Tables) : Gen ScriptState := do
  let stridedFile := set.stridedFile
  let isStrided s := contains s "strided"
  let (st, texts) <- calls.foldlM (fun ((st, texts) : ScriptState × Pairs) call => do
    let text <- callText call noStrides filling
    let entry <- listText call
    let first := isStrided entry && !st.strided
    if first && set.fresh then write stridedFile ""
    let st := if first then { st with strided := true, lists := st.lists ++ [stridedFile] } else st
    return (st, texts ++ [(text, entry)])) (st, [])
  let entries := texts.map (·.2)
  append set.listFile (linesText (entries.filter (!isStrided ·)))
  if st.strided then append stridedFile (linesText (entries.filter isStrided))
  let timed := texts.map (set.lead ++ ·.1)
  let flat := timed.filter (!isStrided ·)
  let head := opt (!st.headDone) ["#!/bin/bash"]
  for (suffix, lines) in [("", "" :: flat), ("-strided", timed.filter isStrided), ("-all", "" :: timed),
      ("-verify", "" :: (texts.map (set.lead ++ withoutRepeats ·.1 ++ " -i 1 -v 1")))] do
    append (set.file suffix) (linesText (head ++ lines))
  return { st with headDone := true }

def writeScripts (set : ScriptSet) (noStrides : Bool) (filling : Text) (log : Log) : Act := do
  if set.fresh then
    for file in ["", "-strided", "-all", "-verify"].map set.file ++ [set.listFile, set.stridedFile] do
      .inSpace (·.remove file)
  let st <- log.foldlM (fun st e => writeKind set noStrides filling st e.2) { lists := [set.listFile] }
  runAll st.lists set.directory set.number

def tableCols : Texts :=
  words "f transposeA transposeB m n k alpha a_type lda stride_a b_type ldb stride_b beta c_type ldc stride_c d_type
    ldd stride_d batch_count compute_type algo solution_index flags i"

def tableText (calls : Tables) : Text :=
  let cell v := opt (!v.isNull) v.shown
  .join ((tableCols :: calls.map fun c => tableCols.map fun k => cell (c.or k)).map (Csv.row · ++ "\r\n"))

/-- The tables of the kinds are written over each other: the file has the table of the last kind, and behind it what
the table before it has beyond that. -/
def writeTable (dir name : Text) (log : Log) : Act := do
  match log.reverse with
  | [] => pure ()
  | (_, calls) :: before =>
    let text := tableText calls
    write (scriptPath dir name "csv") (text ++ drop text.length (before.head?.elim "" (tableText ·.2)))

/-! ## Commands that read logs -/

open Args (Param Cmd)
inductive LogSrc where
  | file (path : Text)
  | directory (path network : Text)

def LogSrc.params (single : Bool) : List Param :=
  if single then ["input_file_name"] else ["input_logs", "network_name"]

def LogSrc.ofValues (single : Bool) (values : Table) : Gen LogSrc := do
  let text := Gen.fetchText values
  if single then return .file (<- text "input_file_name")
  return .directory (<- text "input_logs") (<- text "network_name")

def LogSrc.name : LogSrc -> Text
  | .file path => (Path.splitExt (Path.basename path)).1
  | .directory _ network => network

def LogSrc.read (program : Text) : LogSrc -> Gen Log
  | .file path => Log.ofFile program path
  | .directory path network => do
    Log.ofFiles program (((<- list path).filter (contains · network)).map (path ++ "/" ++ ·))

/-- There is no writer for lists of sizes, so only logs without products can be handled. -/
def runExtraction (name : Text) (args : Texts) : Act := do
  let single := args.length <= 4
  let cmd : Cmd := { name, params := LogSrc.params single ++ [{ name := "output_path" }] }
  let values <- cmd.read args
  if !(<- (<- LogSrc.ofValues single values).read name).isEmpty then throw .unknownName

end TensorForge.Bench
