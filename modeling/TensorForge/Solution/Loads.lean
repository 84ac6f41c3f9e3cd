import TensorForge.Solution.Shape

/-! # Loads and the depth of the unrolled loop -/

namespace TensorForge.Tile

structure VecLoads where
  (width loads : Int)
  complaints : Texts

def VecLoads.valid (v : VecLoads) : Bool := v.complaints.isEmpty

/-- `vectors` loads of `width` elements; fewer vectors than threads are cut into smaller ones. -/
def vecLoads (threads vectors width : Int) (frac : Bool) : Result VecLoads := do
  if vectors < threads then
    let parts <- quot threads vectors
    let mut complaints : Texts := []
    if !frac then
      if (<- rem threads vectors) != 0 then
        complaints := complaints ++ [s!"NumThreads {threads} % totalVectors {vectors} != 0"]
      if parts * vectors != threads then
        complaints := complaints ++ [s!"pv {parts} * totalVectors {vectors} != NumThreads {threads}"]
      if (<- rem width parts) != 0 then complaints := complaints ++ [s!"GlobalReadVectorWidth {width} % pv {parts} != 0"]
    return { width := <- quot width parts, loads := <- quot (vectors * parts) threads, complaints }
  else
    let uneven := (<- rem vectors threads) != 0 && !frac
    return { width := <- quot width 1, loads := <- quot vectors threads,
             complaints := opt uneven [s!"totalVectors {vectors} % NumThreads {threads} != 0"] }

structure LoadSplit where
  (coalesced perpendicular : Int)
  deriving DecidableEq

/-- Whether `n` loads along the coalesced side divide evenly. -/
def splits (loads vectors perp n : Int) : Result Bool := do
  let across <- quot loads n
  if (<- rem loads n) != 0 then return false
  if (<- rem vectors n) != 0 then return false
  return (<- rem perp across) == 0

def firstSplit (loads vectors perp : Int) : Ints -> Result (Option LoadSplit)
  | [] => .ok none
  | n :: ns => do
    if <- splits loads vectors perp n then return some ⟨n, <- quot loads n⟩
    firstSplit loads vectors perp ns

inductive SplitResult where
  | found (s : LoadSplit)
  /-- No split; the number across may already be fixed. -/
  | failed (perpendicular : Option Int) (text : Text)

/-- `1` asks for the fewest loads along the coalesced side and `-1` for the most; any other number is taken as it is.
-/
def chooseSplit (tensor : Text) (wanted loads vectors perp : Int) : Result SplitResult := do
  if wanted == 1 || wanted == -1 then
    let ns := Value.range 1 (loads + 1)
    match <- firstSplit loads vectors perp (if wanted == 1 then ns else ns.reverse) with
    | some s => return .found s
    | none => return .failed none s!"{tensor}: No NumLoadsCoalesced={wanted} found"
  else
    if wanted > loads then return .failed none s!"{tensor} nlc > numLoads"
    let across <- quot loads wanted
    if (<- rem loads wanted) != 0 then
      return .failed (some across) s!"{tensor}: numLoads {loads} % numLoadsCoalesced {wanted} != 0"
    if (<- rem vectors wanted) != 0 then
      return .failed (some across)
        s!"{tensor}: totalVectorsCoalesced {vectors} % numLoadsPara {wanted} != 0"
    if (<- rem perp across) != 0 then
      return .failed (some across) s!"{tensor}: totalElementsPerp {perp} % numLoadsPerp {across} != 0"
    return .found ⟨wanted, across⟩

structure LoadExtent where
  (lsc lsp : Int)
  deriving DecidableEq

/-- What one load covers of `macroTile` by `depth` elements; with `tileFirst` the tile side is the coalesced one. -/
def classicExtent (tileFirst : Bool) (macroTile depth : Int) (s : LoadSplit) : Result LoadExtent := do
  if tileFirst then return ⟨<- quot macroTile s.coalesced, <- ratioUp depth s.perpendicular⟩
  else return ⟨<- ratioUp depth s.coalesced, <- quot macroTile s.perpendicular⟩

structure FracTile where
  (lsc lsp coalesced perpendicular : Int)
  deriving DecidableEq

def fracTile (threads para perp width : Int) : Result FracTile := do
  let perInst := threads * width
  if para >= perInst then return { lsc := perInst, lsp := 1, coalesced := <- ratioUp para perInst, perpendicular := 1 }
  else
    let lsp := min perp (<- quot perInst para)
    return { lsc := para, lsp, coalesced := 1, perpendicular := <- ratioUp perp lsp }

/-- The narrowest width that divides the coalesced side while all elements of the tile are still loaded. -/
def narrow (threads lsc needed minWidth : Int) (fuel : Nat) (width best : Int) : Int :=
  match fuel with
  | 0 => best
  | fuel + 1 =>
    if width < minWidth then best else if threads * width < needed then best
    else
      let best := if width != 0 && lsc.fmod width == 0 then width else best
      narrow threads lsc needed minWidth fuel (width.fdiv 2) best

/-- Halves the width until the coalesced side is a multiple of it. The last attempt is kept also when no width fits. -/
def fracSearch (threads para perp minWidth : Int) (fuel : Nat) (width : Int)
    (last : Option FracTile) : Result (Option FracTile × Option Int) := do
  match fuel with
  | 0 => return (last, none)
  | fuel + 1 =>
    if width < minWidth then return (last, none)
    let t <- fracTile threads para perp width
    if (<- rem t.lsc width) == 0 then
      return (some t, some (narrow threads t.lsc (t.lsc * t.lsp) minWidth fuel (width.fdiv 2) width))
    fracSearch threads para perp minWidth fuel (width.fdiv 2) (some t)

structure FracLoads where
  (width overhang : Int)
  deriving DecidableEq

def halvings (width : Int) : Nat := .log2 width.toNat + 2

/-- The tile of the last attempt and, if some width fits, the loads. -/
def fracLoads (threads para perp width minWidth : Int) : Result (Option FracTile × Option FracLoads) := do
  let (last, best) <- fracSearch threads para perp minWidth (halvings width) width none
  match last, best with
  | some t, some w =>
    let coalesced <- ratioUp para t.lsc
    let perpendicular <- ratioUp perp t.lsp
    if coalesced * t.lsc < para then throw .unmet
    if perpendicular * t.lsp < perp then throw .unmet
    return (some { t with coalesced, perpendicular }, some ⟨w, <- rem perp t.lsp⟩)
  | _, _ => return (last, none)

end TensorForge.Tile

/-!
## Global loads of a solution

Ways of loading that need a special layout are checked.
-/

namespace TensorForge.Derive

variable (tensor : Text)

/-- `false` when the vectors cannot be distributed. -/
def assignVecWidth (vectors width : Int) : Derive Bool := do
  let threads <- int NT
  let uneven <- if vectors < threads then pure true else do pure ((<- rem vectors threads) != 0)
  let frac <- if uneven then flag FL else pure false
  let r <- pure? (Tile.vecLoads threads vectors width frac)
  for text in r.complaints do complain text
  set s!"GlobalLoadVectorWidth{tensor}" r.width
  set s!"NumLoads{tensor}" r.loads
  return r.valid

def waves : Derive Int := do quot (<- int NT) (<- int WS)

def assignClassicTile (vectors perp : Int) : Rule := do
  let separate <- flag s!"WaveSeparateGlobalRead{tensor}"
  let perp <- if separate then do pure? (Tile.ratioUp perp (<- waves)) else pure perp
  let wanted <- int s!"NumLoadsCoalesced{tensor}"
  let loads <- int s!"NumLoads{tensor}"
  match <- pure? (Tile.chooseSplit tensor wanted loads vectors perp) with
  | .failed across text =>
    if let some n := across then set s!"NumLoadsPerpendicular{tensor}" n
    refuse text
  | .found s =>
    set s!"NumLoadsCoalesced{tensor}" s.coalesced
    set s!"NumLoadsPerpendicular{tensor}" s.perpendicular
    let e <- pure? (Tile.classicExtent (<- problemFlag s!"TLU{tensor}") (<- int s!"MacroTile{tensor}") (<- int DU) s)
    set s!"LSC{tensor}" e.lsc
    set s!"LSP{tensor}" e.lsp
    if separate then set s!"LSP{tensor}" (<- pure? (Tile.ratioUp e.lsp (<- waves)))

def putFrac (t : Tile.FracTile) : Rule := do
  set s!"LSC{tensor}" t.lsc
  set s!"LSP{tensor}" t.lsp
  set s!"NumLoadsCoalesced{tensor}" t.coalesced
  set s!"NumLoadsPerpendicular{tensor}" t.perpendicular

def tileSides (depth : Int) : Derive (Int × Int) := do
  let side <- int s!"MacroTile{tensor}"
  return if <- problemFlag s!"TLU{tensor}" then (side, depth) else (depth, side)

/-- With a remainder; `false` when no vector width fits. -/
def assignFracTile (depth : Int) : Derive Bool := do
  if depth <= 0 then fail .unmet
  let (para, perp) <- tileSides tensor depth
  let width <- int GRVW
  let least := if <- if (<- dataType).isHalf then protectsHalves else pure false then 2 else 1
  let (last, loads) <- pure? (Tile.fracLoads (<- int NT) para perp width least)
  if let some t := last then putFrac tensor t
  match loads with
  | none => return false
  | some l =>
    set s!"GlobalLoadVectorWidth{tensor}" l.width
    set s!"fractionalPerpOverhang{tensor}" l.overhang
    return true

def checkWaveSeparate : Rule := do
  let n <- waves
  if <- flag s!"WaveSeparateGlobalRead{tensor}" then
    let frac <- int FL
    rejectIf (frac != 0)
      s!"didn't support WaveSeparateGlobalRead with FractionalLoad({frac}) != 0"
    let layout <- int LDL
    rejectIf (layout > 1) s!"didn't support WaveSeparateGlobalRead when LocalDotLayout({layout}) > 1"
    if <- problemFlag s!"TLU{tensor}" then
      let depth <- int DU
      if depth > 0 then
        if (<- rem depth n) != 0 then
          reject s!"dind't support WaveSeparateGlobalRead when DepthU is not multiple of wave {depth} in TLU{tensor}"
    else
      let side <- int s!"MacroTile{tensor}"
      if (<- rem side n) != 0 then
        reject s!"dind't support WaveSeparateGlobalRead when MacroTile is not multiple of wave {side} in TLU{tensor}"

/-- Two-byte elements; otherwise a note is printed. -/
def pairsSummed (word : Text) : Derive Bool := do
  let n <- int ASEM
  if n.fmod 2 == 0 then return true
  note s!"can't use DirectToLds for {word} with AssertSummationElementMultiple {n}"
  return false

def loadsDirectly : Derive Bool := do
  let t <- dataType
  let bytes : Int := t.bytes
  if t.isHalf then if !(<- pairsSummed "FP16") then return false
  if t.isBFloat16 then if !(<- pairsSummed "BF16") then return false
  let threads <- int NT
  let wavefront <- int WS
  if (<- rem threads wavefront) != 0 then return false
  if (<- loadWidth tensor) * bytes != 4 then return false
  if (<- problem s!"TLU{tensor}") == (<- fetch s!"UnrollMajorLDS{tensor}") then return false
  let separate <- flag s!"WaveSeparateGlobalRead{tensor}"
  let covered := (<- int s!"LSC{tensor}") * (<- int s!"LSP{tensor}") * bytes
  if covered != (if separate then wavefront else threads) * 4 then return false
  let block <- int s!"LdsBlockSizePerPad{tensor}"
  let pad <- int s!"LdsPad{tensor}"
  if block == 0 && pad != 0 then return false
  if block != 0 && pad != 0 && block != wavefront * 4 then return false
  return true

end TensorForge.Derive

/-! ## Depth -/

namespace TensorForge.Derive

structure DepthSearch where
  (wanted depth : Int)
  (localDepth limit : Int)

variable (s : DepthSearch)

def testIters : Derive Bool := do
  let n <- quot (<- quot s.localDepth (<- int LSU)) (<- int IU)
  let n <- if <- has MIK then do quot n (<- int MIK) else pure n
  if n < 1 then refuse "LoopIters need to greater than 0"
  let ahead <- rem (<- int PLR) n
  return (<- rem s.localDepth (ahead + 1)) == 0

variable (elemsA elemsB : Int)

def testEven : Derive Bool := do
  let width <- int GRVW
  let mut ok := (<- assignVecWidth "A" (<- quot elemsA width) width) && (<- assignVecWidth "B" (<- quot elemsB width) width)
  if <- hasMatrix then
    let widthA <- loadWidth "A"
    if widthA != 0 then
      let isPartial <- if <- problemFlag "TLUA" then do pure ((<- rem (<- int AF0EM) widthA) != 0)
        else pure false
      if isPartial then
        let out <- int MIOVW
        if widthA > out then if !(<- assignVecWidth "A" (<- quot elemsA out) out) then ok := false
  return ok

def testTiles : Derive Bool := do
  if <- flag FL then
    return (<- assignFracTile "A" s.depth) && (<- assignFracTile "B" s.depth)
  else testEven elemsA elemsB

def checkNarrow : Rule := do
  if <- isText KL "Assembly" then
    let t <- dataType
    if t.isNarrow then
      if <- protectsHalves then
        if (<- loadWidth "A") == 1 || (<- loadWidth "B") == 1 then reject "HalfEcc requires GLVWA > 1"
    if t.isInt8 then
      let a <- loadWidth "A"
      rejectIf (a < 4) s!"Int8 requires GLVWA >= 4, current is {a}"
      let b <- loadWidth "B"
      rejectIf (b < 4) s!"Int8 requires GLVWB >= 4, current is {b}"

def testWanted (wanted : Int) : Derive Bool := do
  if (<- flag FL) || wanted >= 0 then return true
  let a <- loadWidth "A"
  let b <- loadWidth "B"
  let width <- int GRVW
  if wanted == -1 then return a == 1 && b == 1 else if wanted == -2 then return max a b >= width
  else return min a b >= width

def testWhole (depth : Int) : Derive Bool := do
  if !(<- problemFlag "TLUA") then if depth < (<- loadWidth "A") then return false
  if !(<- problemFlag "TLUB") then if depth < (<- loadWidth "B") then return false
  return true

def testDepth : Derive Bool := do
  let even <- testIters s
  let (alongA, acrossA) <- tileSides "A" s.depth
  let (alongB, acrossB) <- tileSides "B" s.depth
  let ok := even && (<- testTiles s (alongA * acrossA) (alongB * acrossB))
  if ok then checkNarrow
  let width <- int GRVW
  let vecsA <- quot alongA width
  let vecsB <- quot alongB width
  modify ({ · with vecsA, vecsB, acrossA, acrossB })
  if !(ok && (<- testWanted s.wanted)) then return false
  testWhole s.depth

def searchDepth : Nat -> DepthSearch -> Derive Int
  | 0, _ => failure
  | fuel + 1, s => do
    if <- testDepth s then
      if s.wanted < -3 then searchDepth fuel { s with wanted := s.wanted + 1, depth := s.depth * 2, localDepth := 2 }
      else return s.depth
    else if s.depth < s.limit then
      let depth := s.depth + 2
      searchDepth fuel { s with depth, localDepth := <- quot depth (<- int DULD) }
    else refuse "No valid DepthU found"

def startDepth : Derive DepthSearch := do
  let wanted <- int DU
  if wanted < 0 then
    let limit <- .settingInt "MaxDepthU"
    let n <- waves
    let mut depth := 2
    if <- problemFlag "TLUA" then if <- flag "WaveSeparateGlobalReadA" then depth := max depth n
    if <- problemFlag "TLUB" then if <- flag "WaveSeparateGlobalReadB" then depth := max depth n
    return { wanted, depth, localDepth := 2, limit }
  else
    let localDepth <- quot wanted (<- int DULD)
    return { wanted, depth := wanted, localDepth, limit := wanted }

def DepthSearch.bound : Nat := s.wanted.natAbs + s.limit.natAbs + 2

def assignDepth : Rule := do
  if (<- int DU) == -1 then
    if (<- int MT0) != (<- int MT1) then refuse "DepthU=0 requires square MacroTile"
  let s <- startDepth
  let divisor <- int DULD
  set DUL (<- quot (<- int DU) divisor)
  let depth <- searchDepth s.bound s
  set DU depth
  set DUL (<- quot depth divisor)
  if depth <= 0 then fail .unmet

end TensorForge.Derive
