import TensorForge.Library.Logic
import TensorForge.Report.Machine

/-! # Reports on problems and solutions -/

namespace TensorForge.Report

open Answer Gen RangeEntry

instance : Readable ProblemType := ⟨fun v => do ProblemType.ofConfig (<- table v)⟩

def convReport (c : Conv) : Reply := do
  let dims := c.axes.map fun a => list [a.index, a.role.name, a.char, (c.dim a.char).describe]
  c.printUsage none false
  let usage := (<- get).log
  forget
  return .record
    [("id", c.ident), ("dims", dims), ("usage", usage), ("parms", c.assertions), ("free", c.free),
     ("batch", c.batch), ("sum", c.sum), ("cc", c.config.describe), ("normalized", c.normalized.describe),
     ("A", c.axesA.map (·.index)), ("B", c.axesB.map (·.index))]

variable (req : Table)

def problemType : Gen (ProblemType × List (Text × Answer)) := do
  let p : ProblemType <- ask req "config"
  let name <- p.name
  let conv <- p.convolution.mapM convReport
  return (p, [("str", name), ("repr", name), ("state", p.state), ("gemmable", p.canBeProduct), ("conv", conv)])

def comparison (p : ProblemType) (other : Value) : Gen (List (Text × Answer)) := do
  let q <- decode other
  return [("eq", p == q), ("ne", p != q), ("len", p.state.length), ("get", [p.state.or DT, 7])]

def problemKind (p : Problem) : Text :=
  match p.origin with
  | .range => "Problem"
  | .exactList => "ExactList"
  | .exactTable => "ExactDict"
  | .convolution _ _ => "ConvProblem"

def problemReport (p : Problem) : Reply := do
  let base := [entry "kind" (problemKind p), ("str", <- p.describe), ("sizes", p.sizes),
    ("stridesA", p.stridesA), ("stridesB", p.stridesB), ("stridesC", p.stridesC), ("stridesD", p.stridesD),
    ("zeroPadA", p.zeroPadA), ("zeroPadB", p.zeroPadB), ("count", p.count)]
  match p.origin with
  | .convolution cc _ => return .record (base ++ [entry "exact" (<- p.toExact), ("cc", cc.describe)])
  | _ => return .record base

def rangeReport (r : SizeRange) : Answer :=
  .record [("totalIndices", r.entries.length), ("indexMax", r.maxima), ("indexIsSized", r.entries.map fun
       | .sized _ => true
       | .mapped _ => false),
     ("indicesSized", (progressions r.entries).map Progression.toList),
     ("indicesMapped", targets r.entries), ("maxNumElements", r.maxElems),
     ("totalProblemSizes", r.total), ("numProblemSizes", r.counts)]

def sizesReport (s : ProblemSizes) : Gen (List (Text × Answer)) := do
  let ids := s.problems.filterMap fun p => match p.origin with
    | .convolution cc _ => some cc.ident
    | _ => none
  return [entry "str" s.describe, ("problems", <- s.problems.mapM problemReport), ("total", s.problems.length),
      ("max", [s.maxD, s.maxC, s.maxA, s.maxB]), ("minStrides", s.minStrides), ("ranges", s.ranges.map rangeReport)] ++
    if ids.isEmpty then [] else [entry "convId" ids]

def exactTable : Reply := do
  let config <- ask req "config"
  let state <- if req.has "raw" then some <$> ask req "raw"
    else do pure ((<- ask? req "problemType" : Option ProblemType).map (·.state))
  problemReport (<- Problem.ofTable config state)

def convProblems : Reply := do
  let p : ProblemType <- ask req "problemType"
  return <- each req "problems" fun v => attempt do
    let some c := p.convolution | throw .noField
    problemReport (<- Problem.ofConv v c (<- p.fetch "ZeroPadA"))

def readConvConfig (v : Value) : Gen Conv.Config := do
  let t <- table v
  let known := ["fil", "stride", "dilation", "spatial", "groupCount", "padStart", "padEnd"]
  if t.any fun (k, _) => !known.any fun n => k == n then throw .wrongKind
  let ints := fun key => ask? t key
  return { filter := <- ints "fil", stride := <- ints "stride", dilation := <- ints "dilation",
           spatial := <- ints "spatial", padStart := <- ints "padStart", padEnd := <- ints "padEnd",
           groupCount := <- int (t.or "groupCount" 1) }

def convConfigs : Reply := do
  let c <- readConvConfig (<- ask req "config")
  let ref <- readConvConfig (<- ask req "ref")
  let (filled, fault) := c.fillFrom ref
  let first <- attemptTo do if let some f := fault then throw f
  let second <- attemptTo do if let some text := filled.openField? then throw (.failure text)
  return .list [c.describe, ref.describe, first, filled.describe, second]

/-! ## Solutions -/

open Derive Naming

instance : Readable Solution := ⟨fun v => do Solution.ofConfig (<- table v)⟩

def readSolutions : Gen Solutions := ask req "configs"

def packedReport (s : Solution) (index : Int) : Reply := do
  let scheme <- s.packing
  let a := Packing.extractable (<- decode (<- s.fetch "PackedC0IndicesX")) index
  let b := Packing.extractable (<- decode (<- s.fetch "PackedC1IndicesX")) index
  return .list [scheme.packed index 3, scheme.packed index 1, scheme.packed index 2, a, b, a || b]

def solution : Reply := do
  let s : Solution <- ask req "config"
  let asked := fun key report => do
    return ((<- (req.get? key).mapM report).map fun a => (key, a)).toList
  let base := [entry "valid" (s.state.or "Valid"), ("problemType", <- s.problem.name), ("name", <- attemptTo s.name),
    ("state", s.state), ("helpers", s.helpers.map (·.name))]
  let contraction <- asked "contraction" fun _ => attemptTo do (<- LibEntry.ofSolution s).toValue true
  let indented <- asked "indented" fun v => do return <- s.indented (<- str v)
  let packed <- asked "packed" fun v => do return <- List.mapM (packedReport s) (<- decode v)
  return .record (base ++ contraction ++ indented ++ packed)

def naming : Reply := do
  let ss <- readSolutions req
  let r <- Solution.requiredNames ss
  let kernels := ss.map (·.kernelState)
  let minimal <- ss.mapM (·.nameMin r)
  let kernelNames <- ss.mapM (·.kernelName r)
  let serial <- Serial.ofStates kernels
  let numbers <- kernels.mapM fun k => serial.name "K" k
  let solutionNumbers <- ss.mapM fun s => serial.name "S" s.state
  let names <- ss.mapM (·.name)
  let values : Table := (serial.values.filter (·.2.length > 1)).map fun (k, vs) => (.str k, .list vs)
  return .record
    [("required", sortTexts ((r.filter (·.2)).map (·.1))), ("min", minimal), ("kernel", kernelNames),
     ("serial", numbers), ("sserial", solutionNumbers), ("digits", serial.digits), ("values", values),
     ("eq", names.map fun a => names.map (a == ·)), ("ne", names.head? != names.getLast?), ("len", true)]

def deriveStep (step : Text) (args : Values) : Derive Value := do
  let text i := arg args i
  let int i := arg args i
  match step with
  | "glvw" => return <- assignVecWidth (<- text 0) (<- int 1) (<- int 2)
  | "tile" => assignClassicTile (<- text 0) (<- int 2) (<- int 3); return true
  | "fract" => return <- assignFracTile (<- text 0) (<- int 1)
  | "wrap" => readInstr; return .null
  | "wsgr" => checkWaveSeparate (<- text 0); return .null
  | "dtl" => return <- loadsDirectly (<- text 0)
  | "indep" => assignShape; return .null
  | s => fail (.missingKey s)

def derivation : Reply := do
  let state <- ask req "state"
  let problem : Table <- ask state PT
  let problem <- (problem.get? DT).elim (pure problem) fun v => do
      pure (problem.set DT (.dataType (<- v.toDataType)))
  let draft := { problem := { state := problem }, state := state.erase PT }
  let (result, d) <- (deriveStep (<- ask req "step") (req.or "args").items).run.run draft
  return .record [("result", result.getD false), ("state", d.state)]

def helperKernel : Reply := do
  let kind := if req.or "kind" == "beta" then .scale else .convert
  let h <- Helper.ofProblem kind (<- ask req "problemType") (req.or "accum")
  let src <- attempt do return .list [0, <- h.src]
  return .record
    [("name", h.name), ("str", h.name), ("keys", [PT, GA]), ("len", 2),
     ("source", src), ("header", <- attemptTo h.header)]

def valueAbbrev (key : Shown) (v : Value) : Gen Text := abbreviateValue key.text v

variable (states : Tables)

def requiredParams : Gen Value := do return .record ((<- required states).map fun (k, b) => (k, b))

def textEntries {α : Type} (f : Value -> α) (t : Table) : List (Text × α) :=
  t.filterMap fun (k, v) => k.asStr?.map fun s => (s, f v)

def minimalName (state wanted : Table) : Gen Text :=
  minimal ((state.get? PT).map Value.shown) state (textEntries Value.truthy wanted)

def serialNaming : Gen (List Answer) := do
  let s <- Serial.ofStates states
  return [Value.record (s.values.map fun (k, vs) => (k, .list vs)), s.digits]

def serialName (state : Table) (parts : Values) : Gen Text := do
  let values := textEntries Value.items (<- table (<- nth parts 0))
  Serial.name { values, digits := (<- int (<- nth parts 1)).toNat } "K" state

end TensorForge.Report
