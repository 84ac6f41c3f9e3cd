import TensorForge.Arguments.Basic
import TensorForge.Library.SizeTable
import TensorForge.Yaml.Document

/-!
# Merging logic files

Where both files know a size the faster kernel wins, or the new one if the merge is forced.
-/

namespace TensorForge.Merge

open Gen SizeTable Files

structure Policy where
  /-- Slower new entries replace old ones too. -/
  force : Bool
  trim : Bool := true
  /-- Kernels with and without matrix instructions are kept apart. -/
  byClass : Bool := false
  verbosity : Int := 1

def forcedByName (file : Text) : Bool := !Text.contains file "arcturus"

inductive Outcome where
  | improved (old : Value)
  | forced (old : Value)
  | kept (old : Value)
  | added

structure Pool where
  kernels : Tables
  sizes : List SizeEntry

def Pool.addKernel (p : Pool) (kernel : Table) : Result (Pool × Int × Bool) := do
  let (kernels, index, known) <- SizeTable.addKernel p.kernels kernel
  let .int i := index | throw .wrongKind
  return ({ p with kernels }, i, known)

/-- The old entry is looked up in the table as it was before; of several for one size the last counts. -/
def Pool.absorb (force : Bool) (old : List SizeEntry) (p : Pool) (e : SizeEntry) (kernel : Table) :
    Result (Pool × Outcome × Option (Int × Bool)) := do
  match old.zipIdx.reverse.find? fun (o, _) => o.key.same e.key with
  | some (o, place) =>
    let better <- o.speed.less e.speed
    if better || force then
      let (p, index, known) <- p.addKernel kernel
      let entry s := { s with kernel := index, speed := e.speed }
      return ({ p with sizes := p.sizes.modify place entry },
        if better then .improved o.speed else .forced o.speed, some (index, known))
    return (p, .kept o.speed, none)
  | none =>
    let (p, index, known) <- p.addKernel kernel
    return ({ p with sizes := p.sizes ++ [{ e with kernel := index }] }, .added, some (index, known))

variable (policy : Policy)

def tell (level : Int) (words : Texts) (ending : Text := "\n") : Act := do
  if policy.verbosity >= level then say (.join (words.map (· ++ " ")) ++ ending)

def Outcome.print (e : SizeEntry) (o : Outcome) : Act :=
  let compare (mark change : Text) old note :=
    tell policy 1 ([mark, e.key.shown, s!"already exists {change} in performance. Efficiency:", old.shown, "->",
      e.speed.shown] ++ note)
  match o with
  | .improved old => compare "[O]" "and has improved" old [opt policy.force "(force_merge=True)"]
  | .forced old => compare "[!]" "but does not improve" old ["(force_merge=True)"]
  | .kept old => compare "[X]" "but does not improve" old []
  | .added => tell policy 1 ["[-]", e.key.shown, "has been added to solution table, Efficiency: N/A ->", e.speed.shown]

variable (kernels : Tables)

def printKernel (index : Int) (known : Bool) : Act := do
  tell policy 2 [if known then "...Reuse previously existed kernel" else "...A new kernel has been added"] ""
  tell policy 2 [s!"({index}) " ++ kernelName (<- table (<- nth (kernels.map .dict) index))]

def kernelOf (index : Int) : Gen Table := do
  let found := findKernel kernels index
  let searched := match found with
    | .ok (_, s) => s
    | .error (.violated _) => true
    | .error (.missingKey _) => true
    | .error _ => false
  if searched then tell policy 2 ["Searching for index..."]
  return (<- .ofExcept found).1

def classified (t : SizeTable) : Gen (List SizeEntry) :=
  t.sizes.mapM fun e => do
    return { e with key := { e.key with kind := some (.ofKernel (<- kernelOf policy t.kernels e.kernel)) } }

variable (sizes : List SizeEntry)

def unclassified : List SizeEntry := sizes.map fun e => { e with key := { e.key with kind := none } }

/-- Keys without the tag that is their first component. -/
def untagged : List SizeEntry := sizes.map fun e => { e with key := { size := e.key.size.drop 1 } }

def distinctKeys : Nat :=
  (sizes.foldl (fun (ks : List SizeKey) e => if ks.any e.key.same then ks else e.key :: ks) []).length

def warnOfDoubles (what : Text) (sizes tagged : List SizeEntry) : Act := do
  let n := distinctKeys sizes
  let m := distinctKeys tagged
  if n != m then
    tell policy 1 ["Warning:", toString (m - n), s!"duplicate sizes are present in {what} logic",
      "that may not be handled correctly unless --add_mfma_tag is used"]

def trimmed (what : Text) (t : SizeTable) : Gen SizeTable := do
  let sizes := trim t.sizes
  let dropped := t.sizes.length - sizes.length
  if dropped > 0 then tell policy 1 [toString dropped, "duplicate size(s) removed from", what, "logic file"]
  return { t with sizes }

def withoutUnused (policy : Policy) (what : Text) (t : SizeTable) : Gen (SizeTable × Nat) := do
  for kernel in <- .ofExcept t.unused do
    let index <- .ofExcept (indexOf kernel)
    tell policy 2 [what ++ s!"Solution ({index.shown}) " ++ kernelName kernel ++ " is unused"]
  let new <- .ofExcept t.withoutUnused
  return (new, t.kernels.length - new.kernels.length)

structure Merged where
  table : SizeTable
  (sizesAdded kernelsAdded kernelsRemoved : Int)

def tables (base new : SizeTable) : Gen Merged := do
  tell policy 1 [toString base.sizes.length, "sizes and", toString base.kernels.length, "kernels in base logic file"]
  tell policy 1 [toString new.sizes.length, "sizes and", toString new.kernels.length,
    "kernels in incremental logic file"]
  let baseSizes <- classified policy base
  let newSizes <- classified policy new
  let (base, new) <- if policy.byClass then pure ({ base with sizes := baseSizes }, { new with sizes := newSizes })
    else do
      warnOfDoubles policy "base" base.sizes baseSizes
      warnOfDoubles policy "incremental" new.sizes newSizes
      pure (base, new)
  let base <- if policy.trim then trimmed policy "base" base else pure base
  let new <- if policy.trim then trimmed policy "incremental" new else pure new
  let (base, baseRemoved) <- withoutUnused policy "Base logic file: " base
  let (new, newRemoved) <- withoutUnused policy "Inc logic file: " new
  let pool <- new.sizes.foldlM (fun (pool : Pool) e => do
    let kernel <- kernelOf policy new.kernels e.kernel
    let (pool, outcome, where?) <- .ofExcept (pool.absorb policy.force base.sizes e kernel)
    outcome.print policy e
    match where? with
    | some (index, known) => printKernel policy pool.kernels index known
    | none => pure ()
    return pool) { kernels := base.kernels, sizes := base.sizes }
  tell policy 1 [toString baseRemoved, "unused kernels removed from base logic file"]
  tell policy 1 [toString newRemoved, "unused kernels removed from incremental logic file"]
  let sizes := if policy.byClass then unclassified pool.sizes else pool.sizes
  let (table, replaced) <- withoutUnused policy "Merged data: " { base with kernels := pool.kernels, sizes }
  return {
    table
    sizesAdded := sizes.length - base.sizes.length
    kernelsAdded := pool.kernels.length - base.kernels.length
    kernelsRemoved := replaced + baseRemoved }

def announce (words : Texts) : Act := sayLine (.join (words.map (· ++ " ")))

def load (file : Text) : Gen Value := do
  if !(<- isFile file) then
    sayLine s!"Cannot open file:  {file}"
    throw .exit
  .ofExcept (Yaml.read (<- read file))

def data (base new : Value) : Gen Merged := do
  tables policy (<- .ofExcept (ofValue base)).reindexed (<- .ofExcept (ofValue new)).reindexed

/-- A directory that is named like a logic file is searched too. -/
def logicFiles : Nat -> (dir : Text) -> Gen Texts
  | 0, _ => throw .tooDeep
  | fuel + 1, dir => do
    let found <- ((<- list dir).filter fun n => (Path.splitExt n).2.toLower == ".yaml").mapM fun n => do
      let path := dir / n
      if <- isDir path then logicFiles fuel path else return [path]
    return found.flatten

def save (dir file : Text) (v : Value) : Act := do
  let path := dir / file
  write path (Yaml.print {} v)
  announce ["File written to", path]
  announce ["------------------------------"]

def policyName (force : Bool) : Text := if force then "Forced" else "Winner"
def flagText (b : Bool) : Text := (Value.bool b).shown

def Merged.print (m : Merged) : Act :=
  announce [toString m.sizesAdded, "size(s) and", toString m.kernelsAdded,
    "kernel(s) added,", toString m.kernelsRemoved, "kernel(s) removed"]

/-- Files with the names of files in another directory. -/
def pairedFiles (base new : Text) : Gen Texts := do
  let depth := (<- get).workspace.dirs.length + 1
  let known := (<- logicFiles depth base).map Path.basename
  return (<- logicFiles depth new).filter fun f => known.contains (Path.basename f)

/-- A policy that is not given is set by the first file and then kept. -/
def mergeFile (base out : Text) (policy : Policy) (force : Option Bool) (file : Text) : Gen (Option Bool) := do
  let name := Path.basename file
  let baseFile := base / name
  let forced := force.getD (forcedByName file)
  announce ["Base logic file:", baseFile, "| Incremental:", file, "| Merge policy: " ++ policyName forced,
    "| Trim size:", flagText policy.trim, "| Add MFMA tag:", flagText policy.byClass]
  let merged <- data { policy with force := forced } (<- load baseFile) (<- load file)
  merged.print
  save out name merged.table.toValue
  return some forced

def directories (base new out : Text) (force : Option Bool) (policy : Policy) : Act := do
  let files <- pairedFiles base new
  ensureDir out
  let _ <- files.foldlM (mergeFile base out policy) force

def mergePartial (policy : Policy) (made : Value × Option Bool) (file : Text) : Gen (Value × Option Bool) := do
  let forced := made.2.getD (forcedByName file)
  announce ["Incremental file:", file, "| Merge policy: " ++ policyName forced, "| Trim size:", flagText policy.trim]
  let merged <- data { policy with force := forced } made.1 (<- load file)
  merged.print
  return (merged.table.toValue, some forced)

def mergeAll (first : Text) (others : Texts) (force : Option Bool) (policy : Policy) : Gen Value := do
  let base <- load first
  announce ["Base logic file:", first]
  return (<- others.foldlM (mergePartial policy) (base, force)).1

def partials (files : Texts) (out : Text) (force : Option Bool) (policy : Policy) : Act := do
  ensureDir out
  let first :: others := files | throw .outOfRange
  save out (Path.basename first) (<- mergeAll first others force policy)

end TensorForge.Merge

/-!
## Laying a logic file over another one

Every size of the new file replaces that size of the old one. Kernels that both hold are not taken twice.
-/

namespace TensorForge.Overlay

open Gen

def fieldCount : Nat := 9

/-- With the first four components of their sizes. -/
def shortSizes (v : Value) : Gen Values := do
  (<- items v).mapM fun e => do
    let parts <- items e
    let size <- nth parts 0
    match size with
    | .list xs => if xs.length > 4 then return .list [.list (xs.take 4), <- nth parts 1] else return e
    | _ => if (<- size.len) > 4 then throw .wrongKind else return e

def read (file : Text) : Gen Values := do
  sayLine s!"# Reading Library Logic: {file}"
  if !(<- Files.isFile file) then fatal s!"Cannot open file: {file}"
  let .list fields := <- .ofExcept (Yaml.read (<- Files.read file)) | fatal s!"Invalid Logic file: {file}"
  let version <- fields.head?.elim (pure .null) fun head => do fetch (<- table head) MRV
  let sizes <- fields[7]?.elim (pure .null) (Value.list <$> shortSizes ·)
  return (List.range fieldCount).map fun i =>
    if i == 0 then version else if i == 7 then sizes else fields[i]?.getD .null

/-- The new index of each kernel, and the kernels that are new. -/
def places (old : Tables) : (fresh : Tables) -> (next : Nat) -> Nats × Tables
  | [], _ => ([], [])
  | kernel :: more, next =>
    match old.findIdx? fun k => Value.same (.dict k) (.dict kernel) with
    | some i =>
      let (is, ks) := places old more next
      (i :: is, ks)
    | none =>
      let (is, ks) := places old more (next + 1)
      (next :: is, kernel :: ks)

def moved (indices : Nats) (e : SizeEntry) : SizeEntry :=
  if e.kernel < 0 then e else
  match indices[e.kernel.toNat]? with
  | some i => { e with kernel := i }
  | none => e

/-- A file without sizes cannot be laid over another one. -/
def merged (oldKernels newKernels : Tables) (oldSizes newSizes : List SizeEntry) : Result (Tables × List SizeEntry) :=
  let plain := oldKernels.map (SizeTable.withIndex · 0)
  let (indices, added) := places plain (newKernels.map (SizeTable.withIndex · 0)) plain.length
  let new := newSizes.map (moved indices)
  if new.isEmpty then .error .badValue else
  .ok (SizeTable.renumber (plain ++ added), (oldSizes.filter fun e => !new.any (·.key.same e.key)) ++ new)

def fields (old new : Values) : Gen Values := do
  let kernels fs := do (<- items (fs[5]?.getD .null)).mapM table
  let sizes fs : Gen (List SizeEntry) := do
    (<- items (fs[7]?.getD .null)).mapM fun v => .ofExcept (SizeEntry.ofValue v)
  let oldKernels <- kernels old
  let newKernels <- kernels new
  let newSizes <- sizes new
  let oldSizes <- if newSizes.isEmpty then pure [] else sizes old
  let (ks, ss) <- .ofExcept (merged oldKernels newKernels oldSizes newSizes)
  return (old.set 5 (.list (ks.map .dict))).set 7 (.list (ss.map SizeEntry.toValue))

def files (new old out : Text) : Act := do
  sayLine s!"processing file: {Path.basename new}"
  let result <- fields (<- read old) (<- read new)
  let version := .record [(MRV, (result.head?).getD .null)]
  Files.write out (Yaml.print {} (.list (version :: result.drop 1)))

end TensorForge.Overlay

/-!
## Commands that merge logic files
-/

namespace TensorForge

open Gen

variable (name : Text)

namespace Merge

def cmd : Args.Cmd :=
  { name, params :=
    ["original_dir", "incremental_dir", "output_dir", .number ["-v", "--verbosity"] "verbosity" 1,
     .flagged ["--force_merge"] "force_merge" "none", .switch ["--notrim"] "notrim" false,
     .switch ["--add_mfma_tag"] "add_mfma_tag"] }

/-- Nothing leaves it to the names of the files. -/
def forceOfWord (word : Text) : Option Bool :=
  let word := word.toLower
  if word == "none" then none else if ["false", "0", ""].contains word then some false else some true

def run (args : Texts) : Act := do
  let values <- (cmd name).read args
  let text := fetchText values
  let policy :=
    { force := false, trim := <- fetchFlag values "notrim"
      byClass := <- fetchFlag values "add_mfma_tag"
      verbosity := <- int (<- fetch values "verbosity") }
  directories (<- text "original_dir") (<- text "incremental_dir") (<- text "output_dir")
    (forceOfWord (<- text "force_merge")) policy

end Merge

namespace Overlay

def cmd : Args.Cmd := { name, params := ["OrigionalLogicPath", "ExactLogicPath", OP] }

def explain : Fault -> Text
  | .badValue => "not enough values to unpack (expected 2, got 0)"
  | .wrongKind => "'NoneType' object is not iterable"
  | .outOfRange => "list index out of range"
  | f => f.msg.getD ""

/-- A file that cannot be handled does not stop the others. -/
def run (args : Texts) : Act := do
  let rule := "".pushn '#' 80
  say s!"\n{rule}\n# Merge Library Logic\n{rule}\n\n"
  let text := fetchText (<- (cmd name).read args)
  let old <- text "OrigionalLogicPath"
  let new <- text "ExactLogicPath"
  let out <- text OP
  say s!"Origional Logic Path: {old}\nExact Logic Path: {new}\nOutputPath: {out}\n\n"
  Files.ensureDir out
  if !(<- Files.isThere new) then fatal s!"LogicPath {new} doesn't exist"
  let names <- (<- Files.list new).filterM fun n => do return (<- Files.isFile (new / n)) && (Path.splitExt n).2 == ".yaml"
  for n in names do
    let oldFile := old / n
    if <- Files.isFile oldFile then
      try files (new / n) oldFile (out / n)
      catch
        | .exit => throw .exit
        | f => sayLine ("Exception: " ++ explain f)
    else sayLine ("# file does not exist in origional directory " ++ oldFile)

end Overlay

end TensorForge
