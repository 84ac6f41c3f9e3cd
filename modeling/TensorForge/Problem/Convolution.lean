import TensorForge.Parameters
import TensorForge.Settings

/-! # Convolutions as tensor contractions -/

namespace TensorForge

open Gen Parameters Text

namespace Conv

/-- The innermost dimension first; `-1` is left open. -/
structure Config where
  (filter stride dilation spatial : Option Ints := none)
  groupCount : Int := 1
  (padStart padEnd : Option Ints := none)

def listText (ns : Ints) : Text := (Value.ints ns).quoted

def optionText : Option Ints -> Text
  | none => "None"
  | some ns => listText ns

def openText : Option Ints -> Text
  | some (n :: ns) => listText (n :: ns)
  | _ => "tbd"

namespace Config

def describe (c : Config) : Text :=
  s!"filter:{openText c.filter} stride:{optionText c.stride} dilation:{optionText c.dilation} " ++
  s!"spatial:{openText c.spatial} group:{c.groupCount} padStart:{optionText c.padStart} padEnd:{optionText c.padEnd}"

/-- Stops at the first value that contradicts the reference and keeps what was filled before. -/
def fillItems (tag : Text) (i : Nat) : Ints -> Ints -> Ints × Option Fault
  | s :: ss, r :: rs =>
    if s != -1 && r != -1 && r != s then
      (s :: ss, some (.failure (s!"Mismatch between ConvolutionConfig value ({r}) and ConvProblem " ++
        s!"value ({s}) for {tag}[{i}].")))
    else
      let (rest, fault) := fillItems tag (i + 1) ss rs
      ((if s == -1 then r else s) :: rest, fault)
  | ss, _ => (ss, none)

def fillField (tag : Text) (own ref : Option Ints) : Option Ints × Option Fault :=
  match own, ref with
  | none, _ | some [], _ => (ref, none)
  | _, none | _, some [] => (own, none)
  | some ss, some rs =>
    if ss.length != rs.length then (own, some .unmet)
    else
      let (filled, fault) := fillItems tag 0 ss rs
      (some filled, fault)

def fillFrom (c ref : Config) : Config × Option Fault := Id.run do
  let fields : List (Text × (Config -> Option Ints) × (Config -> Option Ints -> Config)) :=
    [("filter", (·.filter), ({ · with filter := · })), ("stride", (·.stride), ({ · with stride := · })),
     ("dilation", (·.dilation), ({ · with dilation := · })), ("spatial", (·.spatial), ({ · with spatial := · })),
     ("padStart", (·.padStart), ({ · with padStart := · })), ("padEnd", (·.padEnd), ({ · with padEnd := · }))]
  let mut c := c
  for (tag, get, set) in fields do
    let (v, e) := fillField tag (get c) (get ref)
    c := set c v
    if e.isSome then return (c, e)
  if c.groupCount == -1 then c := { c with groupCount := ref.groupCount }
  return (c, none)

def openField? (c : Config) : Option Text :=
  let group := if c.groupCount == -1 then some [-1] else some []
  let fields := [("fil", c.filter), ("stride", c.stride), ("dilation", c.dilation),
    ("spatial", c.spatial), ("groupCount", group), ("padStart", c.padStart), ("padEnd", c.padEnd)]
  fields.findSome? fun (name, v) =>
    match v with
    | none => some s!"ConvolutionConfig field '{name}' == None and must be specified'"
    | some ns =>
      if ns.contains (-1) then
        let shown := if name == "groupCount" then "-1" else listText ns
        some s!"ConvolutionConfig field '{name}' == {shown} must be fully specified.'"
      else none

end Config

inductive Role where
  | free | batch | sum
  deriving DecidableEq

def Role.name : Role -> Text
  | .free => "Free" | .batch => "Batch" | .sum => "Sum"

/-- With the sizes and strides it fixes; `-1` fixes nothing. -/
structure Dim where
  (char desc : Text)
  (size strideA strideB : Int := -1)
  deriving Inhabited

def Dim.describe (d : Dim) : Text :=
  padLeft ' ' 5 s!"'{d.char}'" ++ " : " ++ d.desc ++ opt (d.size != -1) s!" [size:{d.size}]" ++
    opt (d.strideA != -1) s!" [strideA:{d.strideA}]" ++ opt (d.strideB != -1) s!" [strideB:{d.strideB}]"

structure Axis where
  index : Nat
  role : Role
  char : Text
  deriving DecidableEq

/-- Pairwise; a comma in the first list is skipped. -/
def exchange (target chars into : Text) : Result Text :=
  if target.contains "$" then .error .unmet
  else .ok <| (chars.toList.zip into.toList).foldl (fun s (a, b) =>
    if a == ',' then s
    else
      let put := fun x y (s : Text) => s.map fun c => if c == x then y else c
      put '$' b (put b a (put a '$' s))) target

end Conv

open TensorForge.Conv in
structure Conv where
  (kind formatA formatB formatD : Text)
  formatDims : Nat
  config : Config
  normalized : Config := {}
  (packedSpatial packedFilter unrollOnChannel : Int)
  dims : List Dim := []
  spatialDims : Nat := 0
  axes : List Axis := []
  (axesA axesB : List Axis := [])
  /-- Of every solution: strides by position and sizes by index. -/
  (assertStrideA assertStrideB assertSize : List (Int × Int) := [])
  (free batch sum : Ints := [])
  zeroPadA : List Ints := []

namespace Conv

variable (c : Conv) (char : Text)

def dim : Dim := (c.dims.find? (·.char == char)).getD default

def setDim (f : Dim -> Dim) : Conv := { c with dims := c.dims.map fun d => if d.char == char then f d else d }

def axis : Result Axis := (c.axes.find? (·.char == char)).getDM (throw (.missingKey char))
def item (ns : Option Ints) (i : Nat) : Result Int := do (<- ns.getDM (throw .wrongKind))[i]?.getDM (throw .outOfRange)

/-- Puts axes at their indices; an index has one axis. -/
def register (new : List Axis) : Result Conv := do
  let top := new.foldl (fun m a => max m (a.index + 1)) c.axes.length
  let known := fun i => (c.axes.find? (·.index == i))
  if new.any fun a => (known a.index).any (a != ·) then throw .unmet
  return { c with axes := (List.range top).filterMap fun i => (new.find? (·.index == i)).or (known i) }

structure Positions where
  (spatial out batch sum : Nat)

def positions (formatD : Text) (spatial : Nat) : Result Positions :=
  match formatD with
  | "NCHW" | "NCDHW" => .ok ⟨0, spatial, spatial + 1, spatial + 2⟩
  | "NHWC" | "NDHWC" => .ok ⟨1, 0, spatial + 1, spatial + 2⟩
  | "CNHW" | "CNDHW" => .ok ⟨0, spatial + 1, spatial, spatial + 2⟩
  | "CHWN" | "CDHWN" => .ok ⟨1, spatial + 1, 0, spatial + 2⟩
  | _ => .error (.failure s!"unknown formatD '{formatD}'")

def lowestFilterDims : Texts := ["X", "XY", "XYZ", "W", "HW", "DHW"]

def layoutA (formatA : Text) (n chin : Axis) (spatial filter : List Axis) : Result (List Axis) :=
  match formatA with
  | "NCHW" | "NCDHW" => .ok ([n, chin] ++ spatial ++ filter)
  | "NHWC" | "NDHWC" => .ok ([n] ++ spatial ++ filter ++ [chin])
  | "CNHW" | "CNDHW" => .ok ([chin, n] ++ spatial ++ filter)
  | "CHWN" | "CDHWN" => .ok ([chin] ++ spatial ++ filter ++ [n])
  | _ => .error (.failure s!"unknown formatA '{formatA}'")

def layoutB (formatB : Text) (n chin chout : Axis) (filter : List Axis) : Result (List Axis) :=
  match formatB with
  | "KCYX" | "KCZYX" => .ok ([n, chout, chin] ++ filter)
  | "CKYX" | "CKZYX" => .ok ([n, chin, chout] ++ filter)
  | "CYXK" | "CZYXK" => .ok ([n, chin] ++ filter ++ [chout])
  | "KYXC" | "KZYXC" => .ok ([n, chout] ++ filter ++ [chin])
  | _ => .error (.failure s!"unknown formatB '{formatB}'")

/-- Pairs of a spatial and a filter index; the amounts come with each problem. -/
def zeroPads : Result (List Ints) :=
  (List.range c.spatialDims).filterMapM fun i => do
    if (<- item c.config.padStart i) == 0 && (<- item c.config.padEnd i) == 0 then return none
    let anchor <- c.axis (["W", "H", "D"].getD i "")
    return some [anchor.index, (<- c.axis (["X", "Y", "Z"].getD i "")).index, -1, -1]

structure Cast where
  (formatA formatB formatD n c k : Text)
  (spatial filter : Texts)
  config : Config

variable (cv : Conv)

def assignForward (f : Cast) : Result Conv := do
  let cv := { cv with normalized := f.config }
  let pos <- positions f.formatD f.spatial.length
  let onChannel := cv.unrollOnChannel != 0
  let first := if onChannel then pos.sum else pos.sum + 1
  let filterAxes := f.filter.mapIdx fun i ch => ⟨first + i, .sum, ch⟩
  let spatialAxes := (f.spatial.mapIdx fun i ch => ⟨pos.spatial + i, .free, ch⟩).reverse
  let n := ⟨pos.batch, .batch, f.n⟩
  let chin := ⟨if onChannel then pos.sum + f.filter.length else pos.sum, .sum, f.c⟩
  let axesA <- layoutA f.formatA n chin spatialAxes filterAxes
  let cv <- cv.register axesA
  let cv := cv.setDim f.n ({ · with strideB := 0 })
  let axesB <- layoutB f.formatB n chin ⟨pos.out, .free, f.k⟩ filterAxes
  let cv <- cv.register axesB
  let cv := { cv with zeroPadA := <- cv.zeroPads }
  -- the fastest dimension of the first input fixes its stride
  let lastData := ((axesA.filter (!filterAxes.contains ·)).getLast?.map (·.char)).getD ""
  let lastA := (axesA.getLast?.map (·.char)).getD ""
  let lastB := (axesB.getLast?.map (·.char)).getD ""
  let lastFilter := f.filter.getLast?
  let isSpatial := f.spatial.head? == some lastData
  let strideW <- if isSpatial then item cv.config.stride 0 else pure 0
  let known := isSpatial || lastData == f.c || lastData == f.n
  let cv := if known then cv.setDim lastData ({ · with strideA := if isSpatial then strideW else 1 })
    else cv
  let cv <- if lastFilter == some lastA then
      if lowestFilterDims.contains lastA then
        pure (cv.setDim lastA ({ · with strideA := <- item cv.config.dilation 0 }))
      else pure cv
    else if !known then throw (.failure s!"unexpected lowest dimension in tensorAFormat({cv.formatA})")
    else pure cv
  let isFilter := lastFilter == some lastB
  let cv <- if lastB == f.c || lastB == f.k || isFilter && lowestFilterDims.contains lastB then
      pure (cv.setDim lastB ({ · with strideB := 1 }))
    else if isFilter then pure cv
    else throw (.failure s!"unexpected lowest dimension in tensorBFormat({cv.formatA})")
  return { cv with axesA := axesA.reverse, axesB := axesB.reverse }

variable (config : Table)

/-- Numbers written as `3x3`, an `N` left open; the innermost comes first. -/
def readExtents (dims : Nat) (name : Text) (dflt : Int) : Result Ints := do
  let v := config.or name
  let ns <- if !v.truthy then pure (.replicate dims dflt)
    else
      let .str s := v | throw .noField
      let parts <- (s.splitOn "x").mapM fun x =>
        if x.toUpper == "N" then pure (-1) else (readInt? 10 x).getDM (throw .badValue)
      pure parts.reverse
  if ns.length != dims then throw (.failure s!"{name} parm '{v.shown}' must have {dims} spatial dims'")
  return ns

def formatOf (name dflt : Text) (allowed : Texts) : Result Text :=
  match config.or name dflt with
  | .str s => if allowed.contains s then .ok s else .error .unmet
  | _ => .error .unmet

def switchOf (name : Text) : Result Int :=
  match config.or name 1 with
  | .int n => .ok n
  | _ => .error .unmet

def spatialDimensions (packed : Bool) (dims : Nat) : List Dim :=
  if packed then
    let (char, size) := if dims == 2 then ("HW", "H_o*W_o") else ("DHW", "D_o*H_o*W_o")
    [{ char, desc := s!"Spatially packed {char}. size#T={size}. strideA#T=strideW(#S0)." }]
  else
    let chars := ["W", "H", "D"]
    (List.range dims).map fun i =>
      let ch := chars.getD i ""
      let stride := if i == 0 then s!"stride{ch}(#S0)" else s!"{chars.getD (i - 1) default}_in*stride{ch}(#S{i})"
      { char := ch, desc := s!"Spatial {ch}. size#T={ch}_o strideA#T={stride}." }

def filterDims (packed : Bool) (filter : Ints) : List Dim :=
  (List.range filter.length).reverse.filterMap fun i =>
    let size := filter.getD i 0
    if packed && size == 1 then none
    else
      let ch := ["X", "Y", "Z"].getD i ""
      let shown := if size == -1 then "TBD" else toString size
      let before := ["1", "W", "W*H"].getD i ""
      some { char := ch, size, desc :=
              s!"Filter{ch}. size#T=Filter{ch}({shown}). strideA#T=Dilation{ch}(#D{i})*{before}." }

def checkRoles (free batch sum : Ints) : Result Unit := do
  for a in c.axesA ++ c.axesB do
    let i : Int := a.index
    let (indices, word) := match a.role with
      | .free => (free, "free")
      | .batch => (batch, "batch")
      | .sum => (sum, "summation")
    if !indices.contains i then throw (.failure s!"dimension {i}('{a.char}') expected to be {word} dimension")

variable (axes : List Axis)

def fixedStrides (f : Dim -> Int) : List (Int × Int) :=
  let found := axes.filterMap fun a =>
    let s := f (c.dim a.char)
    if s != -1 then some (a.index, s) else none
  found.mergeSort fun x y => x.1 < y.1 || x.1 == y.1 && x.2 <= y.2

def posOf (i : Int) : Int := (axes.findIdx? fun a => a.index == i).getD 0
def pairsValue (ps : List (Int × Int)) : Value := .list (ps.map fun (a, b) => .ints [a, b])

def readConfig (kind : Text) (config : Table) : Result Conv := do
  for (k, _) in config do
    if !k.asStr?.any convEntries.contains then throw (.failure s!"unknown convolution config field '{k.shown}'")
  let formatA <- formatOf config "TensorAFormat" "NCHW" activationFormats
  let dims := formatA.length - 2
  let weights := if dims == 2 then "KCYX" else "KCZYX"
  let forward := kind == "ConvolutionForward" || kind == "ConvolutionBackwardData"
  if !forward && kind != "ConvolutionBackwardWeights" then throw .unbound
  let images := if dims == 2 then "NCHW" else "NCDHW"
  let formatB <- if forward then formatOf config "TensorBFormat" weights weightFormats
    else formatOf config "TensorBFormat" images activationFormats
  let formatD <- if forward then formatOf config "TensorDFormat" formatA activationFormats
    else formatOf config "TensorDFormat" weights weightFormats
  if formatA.length != formatB.length || formatB.length != formatD.length then throw .unmet
  let read := readExtents config dims
  let spatial <- if config.on "Spatial" then some <$> read "Spatial" (-1) else pure none
  let filter <- read "Filter" 1
  let stride <- read "Stride" 1
  let dilation <- read "Dilation" 1
  let padStart <- read "PadStart" 0
  let padEnd <- read "PadEnd" 0
  let packedSpatial <- switchOf config "PackedSpatialDims"
  let packedFilter <- switchOf config "PackedFilterDims"
  let unrollOnChannel <- switchOf config "UnrollOnChannel"
  let ones := fun ns => ns.all (· == 1)
  let zeros := fun ns => ns.all (· == 0)
  let packedFilter := if !ones (dilation.drop 1) && !ones filter then 0 else packedFilter
  let packedSpatial := if ones (stride.drop 1) && zeros padStart && zeros padEnd then packedSpatial else 0
  let cc := { filter, stride, dilation, spatial, padStart, padEnd }
  return { kind, formatA, formatB, formatD, formatDims := dims, config := cc, packedSpatial,
           packedFilter, unrollOnChannel }

def assignIdxs : Result Conv := do
  let sdims := spatialDimensions (c.packedSpatial != 0) c.formatDims
  let fdims := filterDims (c.packedFilter != 0) (c.config.filter.getD [])
  let base :=
    [{ char := "N", desc := "Minibatch dimension. size#T=N." },
     { char := "K", desc := "Cout. size#T=Cout." }, { char := "C", desc := "Cin.  size#T=Cin." }]
  let c := { c with dims := base ++ sdims ++ fdims, spatialDims := sdims.length }
  let ss := sdims.map (·.char)
  let fs := fdims.map (·.char)
  let cc := c.config
  if c.kind == "ConvolutionForward" then
    c.assignForward ⟨c.formatA, c.formatB, c.formatD, "N", "C", "K", ss, fs,
      { filter := cc.filter, stride := cc.stride, dilation := cc.dilation }⟩
  else if c.kind == "ConvolutionBackwardData" then
    c.assignForward ⟨c.formatA, <- exchange c.formatB "C" "K", c.formatD, "N", "K", "C", ss, fs,
      { filter := cc.filter, stride := cc.dilation, dilation := cc.stride }⟩
  else
    let formatA <- exchange c.formatB "C" "N"
    let formatB := replace (replace (<- exchange c.formatB "WHD" "XYZ") "C" "K") "N" "C"
    let formatD <- exchange c.formatD "C,K,XYZ" "N,C,WHD"
    c.assignForward ⟨formatA, formatB, formatD, "C", "N", "K", fs.reverse, ss.reverse,
      { filter := cc.spatial, stride := cc.dilation, dilation := cc.stride }⟩

/-- The entries that are fixed go into the description of the problem type. -/
def build (problem : Table) (kind : Text) (config : Table) : Result (Conv × Table) := do
  let c <- assignIdxs (<- readConfig kind config)
  let numC := 2 + (((c.axes.filter (·.role == .free)).length - 1) : Int)
  let pt := (problem.set NIC numC).set "ZeroPadA" (.list (c.zeroPadA.map .ints))
  let noFilter := !c.dims.any (["X", "Y", "Z"].contains ·.char)
  let pt := if kind == "ConvolutionBackwardWeights" && noFilter then pt.set "AllowNoFreeDims" true else pt
  let ia := c.axesA.map fun a => a.index
  let ib := c.axesB.map fun a => a.index
  let strideA := fixedStrides c c.axesA (·.strideA)
  let strideB := fixedStrides c c.axesB (·.strideB)
  let pt := pt.update [(IAA, .ints ia), (IAB, .ints ib), ("UseBeta", false),
    ("SetConstStrideA", pairsValue strideA), ("SetConstStrideB", pairsValue strideB)]
  let assertA := strideA.map fun (i, s) => (posOf c.axesA i, s)
  let assertB := strideB.map fun (i, s) => (posOf c.axesB i, s)
  let sizes := c.axes.filterMap fun a =>
    let d := c.dim a.char
    if d.size != -1 then some ((a.index : Int), d.size) else none
  let unit := fun ps => ps.lookup 0 == some 1
  let pt := if unit assertA && unit assertB then
      if pt.has UISAB then pt else pt.set UISAB false
    else pt.set UISAB true
  let all := (List.range c.axes.length).map .ofNat
  let sum := all.filter (numC <= ·)
  let batch := all.filter fun i => ia.contains i && ib.contains i && !sum.contains i
  let free := all.filter fun i => !sum.contains i && !batch.contains i
  let c := { c with assertStrideA := assertA, assertStrideB := assertB, assertSize := sizes, free, batch, sum }
  c.checkRoles free batch sum
  return (c, pt)

def product (ns : Ints) : Int := ns.foldl (· * ·) 1

structure Extents where
  (sizes stridesA stridesB : Ints)

def outputExtent (input padStart padEnd filter dilation stride : Int) : Result Int :=
  if stride == 0 then .error .divisionByZero
  else .ok (.tdiv (input + padStart + padEnd - ((filter - 1) * dilation + 1)) stride + 1)

def wBeforeC : Bool :=
  match axes.findIdx? (·.char == "W"), axes.findIdx? (·.char == "C") with
  | none, some _ => true
  | some i, some j => i < j
  | _, _ => false

def extents (n c k : Int) (cc : Config) : Result Extents := do
  let count := (cv.axesA ++ cv.axesB).foldl (fun m a => max m (a.index + 1)) 0
  let spatial := cc.spatial.getD []
  if spatial.isEmpty then throw .wrongKind
  if spatial.length != cv.formatDims then
    throw (.failure (s!"('len(pcc.spatial=', {listText spatial}, " ++
      s!"') must match formatNumSpatialDims({cv.formatDims})')"))
  let nIdx := (<- cv.axis "N").index
  let cIdx := (<- cv.axis "C").index
  let unset : Ints := .replicate count (-1)
  let mut sizes := ((unset.set nIdx n).set cIdx c).set (<- cv.axis "K").index k
  let mut strides := unset
  if wBeforeC cv.axesA then strides := strides.set cIdx (product spatial)
  strides := strides.set nIdx (product spatial * c)
  let out <- (List.range cv.formatDims).mapM fun i => do
    outputExtent (<- item cc.spatial i) (<- item cc.padStart i) (<- item cc.padEnd i) (<- item cc.filter i)
      (<- item cc.dilation i) (<- item cc.stride i)
  let scale := if (cv.axesA.head?.map (·.char)) == some "C" then c else 1
  let apart := fun i n => return (<- if i == 0 then pure 1 else item cc.spatial (i - 1)) * (<- item n i) * scale
  for (f, i) in (cc.filter.getD []).zipIdx do
    if let .ok a := cv.axis (["X", "Y", "Z"].getD i "") then
      sizes := sizes.set a.index f
      strides := strides.set a.index (<- apart i cc.dilation)
  if cv.spatialDims == 1 then
    let a <- cv.axis (if cv.formatDims == 3 then "DHW" else "HW")
    sizes := sizes.set a.index (product out)
    strides := strides.set a.index ((<- item cc.stride 0) * scale)
  else
    for (o, i) in out.zipIdx do
      let a <- cv.axis (["W", "H", "D"].getD i "")
      sizes := sizes.set a.index o
      strides := strides.set a.index (<- apart i cc.stride)
  if sizes.contains (-1) then throw .unmet
  return ⟨sizes, cv.axesA.map (strides.getD ·.index (-1)), cv.axesB.map ((unset.set nIdx 0).getD ·.index (-1))⟩

def zeroPadsOf (pads : List Ints) (c : Int) (cc : Config) : Result (List Ints) := do
  let mut scale := if (cv.axesA.head?.map (·.char)) == some "C" then c else 1
  let mut out := []
  for (zp, i) in pads.zipIdx do
    out := out ++ [zp.take 2 ++ [(<- item cc.padStart i) * scale, (<- item cc.padEnd i) * scale]]
    let extent <- item cc.spatial i
    if extent == -1 then throw .unmet
    scale := scale * extent
  return out

def ident : Text :=
  s!"{c.kind}_{c.formatA}_{c.formatB}_{c.formatD}_spatialDims:{c.spatialDims}_indices:" ++
    ".".intercalate (c.axes.map (·.char))

def Config.ident (c : Config) : Text :=
  let part := fun ns => ",".intercalate ((ns.getD []).map toString)
  ",".intercalate [part c.spatial, part c.filter, part c.stride, part c.dilation, part c.padStart, part c.padEnd]

def isProduct : Bool :=
  [c.config.filter, c.config.stride, c.config.dilation].all (· == some [1, 1]) &&
  [c.config.padStart, c.config.padEnd].all (· == some [0, 0])

def markedChar (i : Int) (first : Bool) : Text :=
  c.axes[i.toNat]?.elim "" fun a =>
    if first && a.role == .sum && !(["C", "K", "N"].contains a.char) then "_" ++ a.char else a.char

def numberOrOpen (n : Int) : Text := if n >= 0 then toString n else "TBD"

def notes : Text := "
- Spatial sizes D_i, H_i, W_i refer to size of INPUT dimension.
- Spatial sizes D_o, H_o, W_o refer to size of OUTPUT dimension.
     For example W_o =  (W_i - X - padStart - padEnd + 1)/stride
- (TBD)' indicates the parm is flexible and must be specified at runtime.
- (i)' where i is an integer constant, indicates the parm is hard-coded at compile time.
  The runtime value must match the compile-time value.
- Unspecified strides use default stride value:
    stride[i] = (stride[i-1]*size[i]) for i>0 ; 1 for i==0.
- [stride*,size*] in brackets list required values to run the generated solutions.
- Tensile IndexAssignments list the fastest-moving (in memory) index first.
- Dimension collapsing:
    - spatial dims with default strides and no zero-pad are collapsed with adjacent dims.
    - Nx1 filter with dilationY=1 collapse into a single filter.
    - 1xN filter with dilationX=1 collapse into a single filter.
    - PackSpatialDims=0 / PackFilterDims=0 forcibly disables collapsing.
- Overlapping / Hidden summation dimensions shown below with leading '_'."

def summaryEntries : Texts :=
  words "OperationType DestDataType DataType HighPrecisionAccumulate TensorAFormat TensorBFormat TensorDFormat Filter
    Stride Dilation PadStart PadEnd GroupCount NumIndicesC IndexAssignmentsA IndexAssignmentsB IndicesFree IndicesBatch
    IndicesSummation SetConstStrideA SetConstStrideB ZeroPadA UseBeta UseInitialStridesAB AllowNoFreeDims"

def assertions : Table :=
  let table := fun ps => .dict (ps.foldl (fun t (k, v) => Table.put t k v) [])
  [("AssertStrideAEqual", table c.assertStrideA), ("AssertStrideBEqual", table c.assertStrideB),
   ("AssertSizeEqual", table c.assertSize)]

def printUsage (problem : Option Table) (details : Bool) : Act := do
  let say := sayLine
  say s!"\nTensor Formats: A:{c.formatA} B:{c.formatB} D:{c.formatD}\n"
  say (s!"Input Conv: {c.config.describe} packedFilter:{c.packedFilter} " ++
    s!"packedSpatiol:{c.packedSpatial} unrollOnChannel:{c.unrollOnChannel}\n")
  say s!"Normalized Conv: {c.normalized.describe} unrollOnChannel:{c.unrollOnChannel}

Tensile Index Assignments and Usage:
   Tensile    : ConvChar: Explanation/Usage"
  let chars := (<- settingStr "IndexChars").toList
  for (a, i) in c.axes.zipIdx do
    let some ch := chars[i]? | throw .outOfRange
    let ch := .singleton ch
    let mut usage := replace (c.dim a.char).describe "#T" ch
    for (s, j) in (c.config.stride.getD []).zipIdx do usage := replace usage s!"#S{j}" (numberOrOpen s)
    for (d, j) in (c.config.dilation.getD []).zipIdx do usage := replace usage s!"#D{j}" (numberOrOpen d)
    say s!"  {i}('{ch}') {padRight 5 a.role.name}:   {usage}"
  if details then say notes
  say ""
  if let some pt := problem then
    say "ProblemType Definition:"
    for k in summaryEntries do
      if let some v := pt.get? k then
        let comment <- if k == IAA || k == IAB then do
            let is <- (<- items v).mapM int
            pure ("# [" ++ ",".intercalate (is.map (c.markedChar · (k == IAA))) ++ "]")
          else if k == NIC then
            pure ("# [" ++ ",".intercalate ((c.axes.take (<- int v).toNat).map (·.char)) ++ "]")
          else pure ""
        say s!"   {k} : {v.shown} {comment}"
  say "\nSolution Assertions:"
  let (last, first) := c.assertions.partition (·.1.shown != "AssertSizeEqual")
  for (k, v) in first ++ last do say s!"   {k.shown} : {v.shown}"

end Conv

end TensorForge
