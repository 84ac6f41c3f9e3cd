import TensorForge.Kernel.Source.Addresses

/-! # The summation loop of a source kernel and its result -/

namespace TensorForge.SourceContext

open LoadSite

variable (c : SourceContext)

def clearSums : Text :=
  c.lines ("" :: (upTo (c.threadTile0 * c.threadTile1)).map fun i => s!"  rC[{i}] = SCALAR_ZERO;")

def declareCounts : Text := c.rows (c.summation.map fun x => s!"int numIter{c.idxChar x};")

def tailCount : Text :=
  let total :=
    if c.packSum then s!"(size{c.u}" ++ .join ((upTo c.otherSums).map ("*size" ++ c.sumChar ·)) ++ ")"
    else "size" ++ c.u
  c.lines (["", "  /* Compute tail loop num iter */",
      s!"{c.indent}numIter{c.u} = ((({total} % LOCAL_DEPTHU) + LOCAL_SPLITU - 1) / LOCAL_SPLITU);"] ++
    opt c.splits
        [s!"{c.indent}if (gsuSumIdx != numIterPerWgRemainder) \x7b", s!"{c.indent}  numIter{c.u} = 0;",
        c.indent ++ "\x7d"])

def alphaZero (t : DataType) : Text :=
  if t.isDoubleComplex then "tensile_complex<double>(0.0)" else if t.isDouble || t.isReal then "0.0"
  else if t.isSingleComplex then "tensile_complex<float>(0.0f)"
  else "0"

variable (i : Input)

def padEdge (x : Text) (z : ZeroPad) : Text :=
  let free := c.idxChar z.free
  let name := i.char ++ c.plainChar z.free ++ c.idxChar z.sum
  c.row (s!"unsigned int elementEdge{i.char}{x} = stride{i.char}{free} * size{free} + " ++
    s!"stride{i.char}{x}*(size{x} - 1) - padStart{name} - padEnd{name};")

variable (loop : Int)

def loopCount : Text :=
  let x := c.sumChar loop
  let isUnroll := loop == c.unrollIdx
  let zero := alphaZero c.computeType
  let count :=
    if isUnroll && c.splits then
      c.splitIters s!"(size{x} / LOCAL_DEPTHU)" s!"numIter{x}" false ++
        opt c.countsElems (c.row s!"numIter{x} *= LOCAL_DEPTHU;")
    else
      let depth := opt (!c.countsElems && isUnroll) " / LOCAL_DEPTHU"
      c.row s!"numIter{x} = size{x}{depth};"
  c.lines ["", "  /* Compute summation loop num iter */",
      s!"{c.indent}if(alpha == {zero}) size{x} = 0;  // Short circuit check alpha=0, skip A*B "] ++ count ++
    opt (c.countsElems && isUnroll)
        (c.row "unsigned int psdIter=0; // packed summation dim iterator")

def staggerStart : Gen Text := do
  let input <- match c.staggerUMap with
    | 0 => pure ("wg" ++ c.t0)
    | 1 => pure ("wg" ++ c.t1)
    | 2 => pure "wg2"
    | 3 => pure "wgSerial"
    | 4 => pure "0xffffffff"
    | _ => throw .unmet
  let stride := .pow 2 c.staggerStrideShift.toNat * c.depthU * c.inputBytes
  return c.block s!"  const unsigned origNumIter = numIter{c.u};
  unsigned staggerUIter = ({input} & staggerUIterParm);
  staggerUIter = (staggerUIter << {c.staggerStrideShift}); // shift so each stagger has {stride}-byte stride"

def applyStagger : Text :=
  c.lines ((addressed i).map fun l =>
    s!"  globalRead{i.char}{l.suffix} += (staggerUIter * globalReadInc{i.char}{c.u}); " ++
      "// apply stagger offset") ++ c.eol ++
    opt (!i.isA) (c.lines [s!"  staggerUIter += {c.prefetchGlobalRead}; // add PrefetchGlobalRead"])

def removeStagger : Text :=
  c.lines ((addressed i).map fun l =>
    s!"  globalRead{i.char}{l.suffix} += ((origNumIter - (staggerUIter - " ++
      s!"{c.prefetchGlobalRead})) * globalReadInc{i.char}{c.u}); // remove stagger offset")

def wrapStagger (iterator x : Text) (i : Input) (l : LoadSite) : Texts :=
  [s!"if (({iterator}) == staggerUIter) \x7b",
   s!"  globalRead{i.char}{l.suffix} -= (origNumIter * globalReadInc{i.char}{x}); " ++
     "// wrap staggered offset back to row start", "\x7d"]

/-- `none` is the loop over what the unrolled one leaves. -/
def openLoop (loop : Option Int) : Gen Text := do
  let isTail := loop.isNone
  let index := loop.getD c.unrollIdx
  let x := c.sumChar index
  let isUnroll := index == c.unrollIdx
  if c.loopDoWhile then
    .check (!c.countsElems) ""
    return c.row "do \x7b"
  else if c.countsElems && isUnroll && !isTail then
    let total :=
      if c.packSum then "(" ++ "*".intercalate (c.summation.map ("numIter" ++ c.idxChar ·)) ++ ")"
      else "numIter" ++ x
    return c.row s!"while (psdIter < {total}) \x7b"
  else
    let least := if c.prefetches && isUnroll && !isTail then 1 else 0
    return c.row s!"while (numIter{x}-- > {least}) \x7b"

def closeLoop (loop : Option Int) : Text :=
  if c.loopDoWhile then
    let x := c.sumChar (loop.getD c.unrollIdx)
    let least := if c.prefetches then 1 else 0
    c.row s!"\x7d while (--numIter{x} > {least});"
  else c.row "\x7d"

def macs (second : Bool) (count : Int) : Text := c.rows ((upTo count).map fun _ => tileMacName c.spec second)

def openAtLeastOne : Text :=
  let condition := if c.splits then "numIterMyWg >= 1" else s!"size{c.u} >= LOCAL_DEPTHU"
  c.row s!"if ({condition}) \x7b"

def closeAtLeastOne (prefetching : Bool) : Text :=
  let what := if prefetching then PGR else "unroll"
  c.row s!"\x7d // end {what}" ++ opt prefetching
        (c.row "else \x7b // still need to initC even if skipped prefetch" ++ c.clearSums ++ c.row "\x7d")

def increment (i : Input) : Text :=
  let x := c.sumChar loop
  let ptr := c.globalPtr ++ "DATA_TYPE const *"
  c.comment s!"global read inc {i.char} for sum{x}" ++ c.rows ((addressed i).flatMap fun l =>
      let name := s!"globalRead{i.char}{l.suffix}"
      s!"{name} = ({ptr})( (({ptr}){name}) + 1*globalReadInc{i.char}{x});" ::
        opt (c.staggers && loop == c.unrollIdx) (wrapStagger s!"numIter{x}" x i l))

def incFromBase : Text :=
  c.comment s!"global read inc {i.char} from base" ++ c.rows ((addressed i).flatMap fun l =>
      (s!"globalRead{i.char}{l.suffix} = {i.char} + {i.offset}{l.suffix} + " ++ s!"psdOffset{i.char};") ::
        opt c.staggers (wrapStagger s!"iter{c.u}" c.u i l))

def unpackSum (bits : Text) (position : Int) : Text :=
  let x := c.sumChar position
  let isFirst := position == c.numSum - 1
  let decl := opt isFirst "unsigned int "
  let iterDecl := opt (!c.declared.contains x) "unsigned int "
  let iterator :=
    if position != 0 then
      let struct := if position == c.unrollIdx && c.splits then
          s!"((gsuSumIdx < numIterPerWgRemainder) ? magicStruct{x}_GsuRemainder : magicStruct{x})"
        else s!"magicStruct{x}"
      [s!"//{iterDecl}iter{x} = {bits} % numIter{x};", s!"//{decl}psdPackedBits = {bits} / numIter{x};",
       s!"{decl}tmpBits = MAGIC_DIV2({bits}, {struct});",
       s!"{iterDecl}iter{x} = {bits} - tmpBits*numIter{x};", s!"{decl}psdPackedBits = tmpBits;"]
    else [s!"{iterDecl}iter{x} = {bits};"]
  let offs := ["A", "B"].map fun t =>
    (if isFirst then s!"{c.int64} psdOffset{t} = " else s!"psdOffset{t} += ") ++ s!"iter{x}*globalReadInc{t}{x};"
  c.eol ++ c.rows (iterator ++ offs)

def incBoth (prefetching : Bool) : Gen (Text × Text) := do
  let isUnroll := loop == c.unrollIdx
  let head := opt (c.countsElems && isUnroll) (c.lines ["", c.indent ++ "psdIter += LOCAL_DEPTHU;"])
  if isUnroll && c.packSum && c.actualLoops == 1 then
    let first := if prefetching then "(LOCAL_DEPTHU)" else "(psdIter)"
    let last := c.numSum - 1
    .check (last == 0 || c.magicDivAlg == 2) ""
    let unpacking := (upTo c.numSum).reverse.map fun p =>
      c.unpackSum (if p == last then first else "psdPackedBits") p
    return (head ++ .join unpacking ++ c.indent ++ c.incFromBase c.a, c.indent ++ c.incFromBase c.b)
  else return (head ++ c.increment loop c.a, c.increment loop c.b)

def padCond (l : LoadSite) (z : ZeroPad) : Gen Text := do
  let sum := c.idxChar z.sum
  .check c.countsElems ""
  let iterator <-
    if c.packSum then pure ("iter" ++ sum) else if z.sum == c.sumIdx c.unrollIdx then pure "psdIter"
    else throw (.failure "ZP not supported with multiple summations and PSD==0")
  let signed := if i.mirrored.contains z.sum then "-" ++ iterator else iterator
  let component := if i.contig then 0 else l.sPara
  return s!" ( ({signed} * stride{i.char}{sum} + {i.offset}_{l.para}_{component}_" ++
    s!"{l.perp}_{l.sPerp}_ZP{c.plainChar z.free}{sum}) >= elementEdge{i.char}{sum} )"

def readElem (guarded : Bool) (i : Input) (l : LoadSite) : Gen Text := do
  let mirrored := c.mirrorsUnroll i
  let sign := if mirrored && !i.isA then "-" else "+"
  let split := c.splits
  let tail :=
    if guarded then
      let position := if i.tlu then s!"_{l.perp}_{l.sPerp}" else s!"_{l.para}_0"
      let mirror := opt mirrored s!"- (size{c.u} / LOCAL_DEPTHU)*LOCAL_DEPTHU"
      let component := if i.tlu then 0 else l.sPara
      let part := opt split " + LOCAL_DEPTHU*gsuSumIdx"
      let none := opt split s!" || !numIter{c.u}"
      [s!"( {i.offset}{c.u}{position} {mirror} {sign} {component} >= " ++ s!"(size{c.u} % LOCAL_DEPTHU{part}){none} )"]
    else []
  let pads <- i.zeroPad.mapM (c.padCond i l)
  let bounds := if c.edge == "Branch" then
      let position := if i.tlu then l.para else l.perp
      [s!"( !inBounds{i.char}_{position} )"]
    else []
  let conditions := " || ".intercalate (tail ++ pads ++ bounds)
  let component := if i.contig then 0 else l.sPara
  let off := if i.contig then l.sPara else 0
  return s!"{c.indent}{i.lower}{l.suffix} = " ++
    opt (!conditions.isEmpty) (conditions ++ " ? SCALAR_OOB_DATA : ") ++
    s!"*(globalRead{i.char}_{l.para}_{component}_{l.perp}_{l.sPerp} {sign} {off});"

def globalRead (guarded : Bool) (i : Input) : Gen Text := do
  return c.comment s!"global read {i.char}" ++ c.lines (<- (components i).mapM (c.readElem guarded i))

def swapWrites : Text :=
  c.rows ((stores i).map fun l =>
    let name := s!"localWriteOffset{i.char}{l.suffix}"
    s!"{name} = ({name} + LDS_OFFSET_BLK)%(LDS_OFFSET_BLK*2);")

def resetWrites : Text := c.rows ((stores i).map fun l => s!"localWriteOffset{i.char}{l.suffix} %= LDS_OFFSET_BLK;")

def initWrites : Text :=
  c.comment s!"local write init pointers {i.char}" ++ c.rows ((stores i).map fun l =>
      s!"localWrite{i.char}{l.suffix} = ({c.sharedPtr}DATA_TYPE *)" ++
        s!"(localMemory + localWriteOffset{i.char}{l.suffix});")

def localWrite (i : Input) : Text :=
  let hip := c.isHip
  let before := opt hip ["#pragma clang diagnostic push",
      "#pragma clang diagnostic ignored \"-Wconditional-uninitialized\""]
  let writes := (all i i.writesPerpVec i.writesCoalVec).map fun l =>
    let (first, second) := l.inMemory i
    s!"{c.indent}*(localWrite{i.char}_{l.para}_0_{l.perp}_{l.sPerp} + {l.sPara}) = " ++
      s!"{i.lower}_{l.para}_{first}_{l.perp}_{second};"
  c.lines (before ++ writes ++ opt hip ["#pragma clang diagnostic pop"])

def swapReads : Text :=
  let name := "localReadOffset" ++ i.char
  c.row s!"{name} = ({name} + LDS_OFFSET_BLK)%(LDS_OFFSET_BLK*2);"

def resetReads : Text := c.row s!"localReadOffset{i.char} %= LDS_OFFSET_BLK;"

def initReads : Text :=
  c.row s!"localRead{i.char} = ({c.sharedPtr}DATA_TYPE *)(localMemory + localReadOffset{i.char});"

def advanceReads : Text := c.row s!"localRead{i.char} += LOCAL_SPLITU*(MT{i.tileChar}+PAD);"

def localRead (second : Bool) (i : Input) : Text :=
  let w := c.vecWidth
  let set := opt second ("+TT" ++ i.tileChar)
  c.rows ((upTo (i.threadTile / w)).flatMap fun r => (upTo w).map fun s =>
    s!"r{i.char}[{r}*VECTOR_WIDTH+{s}{set}] = localRead{i.char}[{r}*SG{i.tileChar}*VECTOR_WIDTH + {s}]; ")

def sync (comment : Text) : Text := c.row s!"{c.barrier} //{comment}"

/-! ## Writing the result -/

def shiftCase (r vectors across : Int) : Text :=
  let t := i.tileChar
  let t0 := c.t0
  let cases := (upTo vectors).map fun v =>
    let moves := (upTo across).flatMap fun tt => (upTo r).map fun s =>
      let sum := fun s => if i.isA then s!"rC[{s} + {v}*GLOBAL_LOAD_VECTOR_WIDTH_A + {tt}*TT{t0}]"
        else s!"rC[{tt} + {v}*TT{t0}*GLOBAL_LOAD_VECTOR_WIDTH_B + {s}*TT{t0}]"
      "        " ++ sum s ++ " = " ++ sum (s + i.loadWidth - r) ++ ";"
    (if v == 0 then "      " else " else ") ++ opt (v < vectors - 1) s!"if (s{t} == {v}) " ++
      c.lines ("\x7b" :: moves) ++ "      \x7d" ++ opt (v == vectors - 1) c.eol
  c.lines [s!"    if (r{t} == {r}) \x7b"] ++ .join cases ++ c.lines ["    \x7d"]

def shiftSums : Text :=
  let t := i.tileChar
  let x := i.char
  let part := if i.isA then s!"(serial % SG{c.t0})" else s!"(serial / SG{c.t0}) % SG{c.t1}"
  let own := if i.tile01 == 0 then c.threadTile0 else c.threadTile1
  let across := if i.tile01 == 0 then c.threadTile1 else c.threadTile0
  let wide := s!"GLOBAL_LOAD_VECTOR_WIDTH_{x}"
  c.lines [s!"  unsigned int wgMT{t} = size{t} - wg{t}*MT{t};",
      s!"  if (wgMT{t} > MT{t}) wgMT{t} = MT{t};", s!"  unsigned int r{t} = wgMT{t} % {wide};",
      s!"  if (r{t} > 0 && ((wgMT{t}/VECTOR_WIDTH) % SG{t}) == {part} ) \x7b",
      s!"    unsigned int s{t} = (wgMT{t}%VECTOR_WIDTH)/{wide} + (wgMT{t}/(SG{t}*VECTOR_WIDTH))*" ++
        s!"(VECTOR_WIDTH/{wide});"] ++
    .join ((span 1 i.loadWidth).map (c.shiftCase i · (own / i.loadWidth) across)) ++ c.lines ["  \x7d"]

def complexReg : Text :=
  let t := c.dataType
  if t.isSingleComplex then c.lines ["  float type_mac_tmp;"]
  else if t.isDoubleComplex then c.lines ["  double type_mac_tmp;"]
  else ""

def splitWrite : Text :=
  let w := c.vecWidth
  let t0 := c.t0
  let t1 := c.t1
  let ptr := c.sharedPtr ++ "DATA_TYPE *"
  let rows := (upTo (c.threadTile1 / w)).flatMap fun j => (upTo (c.threadTile0 / w)).flatMap fun i =>
    (upTo w).flatMap fun s => (upTo w).map fun v =>
      s!"{c.indent}localLocalSplitU[{v} + (lr{t0} + {i}*SG{t0} + (MT{t0}/VECTOR_WIDTH)*" ++
        s!"(lr{t1}*VECTOR_WIDTH + {s} + SG{t1}*VECTOR_WIDTH*{j}) + (MT{t0}*MT{t1}/VECTOR_WIDTH)*sgId)*" ++
        s!"VECTOR_WIDTH] = rC[{v} + ({i}+{s}*(TT{t0}/VECTOR_WIDTH)+{j}*TT{t0})*VECTOR_WIDTH];"
  c.lines ([s!"  {ptr}localLocalSplitU = ({ptr})(localMemory);"] ++ rows ++ [c.indent ++ c.barrier])

def threeWide (n : Int) : Text := .padLeft ' ' 3 (toString n)

def splitSums (width : Int) (op : Text) (place : Int -> Int -> Text) : Texts :=
  (upTo c.numWriteVecs).flatMap (fun i => (upTo width).map fun s =>
    let column := threeWide i
    s!"  rC[{s} + {column}*GLOBAL_WRITE_VECTOR_WIDTH] {op} localLocalSplitU[{place i s}];") ++ [""]

def splitRead : Text :=
  c.lines (c.splitSums c.vecWidth "=" fun i s => s!"{s} + (serial+{i}*NUM_THREADS)*GLOBAL_WRITE_VECTOR_WIDTH")

def splitReduce : Text :=
  c.lines ((span 1 c.localSplitU).flatMap fun r => c.splitSums c.writeVecWidth "+=" fun i s =>
    s!"({s} + serial*GLOBAL_WRITE_VECTOR_WIDTH+{i}*NUM_THREADS*GLOBAL_WRITE_VECTOR_WIDTH + {r}*MT{c.t0}*MT{c.t1})")

def extractOuts (base flat : Text) (packed : Ints) : Text :=
  c.lines (inTurn packed fun x last =>
    let name := "globalC" ++ c.idxChar x
    last.elim [s!"  {name} =   {flat}" ++ opt (!base.isEmpty) (" + " ++ base) ++ ";"] fun l =>
      let size := "size" ++ c.idxChar l
      let prev := "globalC" ++ c.idxChar l
      if c.magicDivAlg == 0 then [s!"  {name} = ({prev}) / {size};", s!"  {prev} %= {size};"]
      else [s!"  {name} = {c.magicQuotient prev l}", s!"  {prev} -= ({name}*{size});"])

def newOff (which base flat : Text) (packed : Ints) : Text :=
  c.lines [s!"  /* new {which} offset - inc and extract tensor dims */"] ++ c.extractOuts base flat packed

def splitPositions : Text :=
  let t0 := c.t0
  let t1 := c.t1
  let others := (upTo c.dimsC).filterMap fun i =>
    let x := c.idxChar i
    if i == c.idx0 || i == c.index1 then none
    else some (s!"  unsigned int globalC{x} = " ++
      if c.isPacked i then "0; // define, will be set below" else s!"(wg{x});")
  c.block s!"  unsigned int localC{t0} = (serial % (MT{t0}/GLOBAL_WRITE_VECTOR_WIDTH))*GLOBAL_WRITE_VECTOR_WIDTH;
  unsigned int globalC{t0} = (wg{t0})*MT{t0} + localC{t0};
  unsigned int flattenedGlobalC0 = globalC{t0};
  unsigned int localC{t1} = serial / (MT{t0}/GLOBAL_WRITE_VECTOR_WIDTH);
  unsigned int globalC{t1} = (wg{t1})*MT{t1} + localC{t1};
  unsigned int flattenedGlobalC1 = globalC{t1};" ++ c.lines others

def bufStride : Text :=
  let terms := (span 1 c.dimsC).map fun i =>
    let below := String.join ((upTo i).map (" * size" ++ c.idxChar ·))
    s!" + (size{c.idxChar i} - 1) * 1{below}"
  c.lines [s!"  {c.uint64} strideW = 1 + (size{c.idxChar 0} - 1) " ++ .join terms ++ ";"]

def positions : Text :=
  let t0 := c.t0
  let t1 := c.t1
  let each := (upTo c.dimsC).map fun i =>
    let x := c.idxChar i
    s!"  unsigned int globalC{x} = " ++ if i == c.idx0 && c.packedC0.length == 1 then "flattenedGlobalC0;"
      else if i == c.index1 && c.packedC1.length == 1 then "flattenedGlobalC1;"
      else if c.isPacked i then "0; // will be set below"
      else if c.stridedBatched || c.usesBufs then s!"(wg{x});"
      else "0;"
  c.lines ([s!"  unsigned int flattenedGlobalC0 = (wg{t0})*MT{t0} + (serial % SG{t0})*VECTOR_WIDTH;",
      s!"  unsigned int flattenedGlobalC1 = (wg{t1})*MT{t1} + (serial / SG{t0})*VECTOR_WIDTH;"] ++ each) ++
    opt c.manyBufs c.bufStride

def writeSum (off0 off1 sum : Text) : Text :=
  let wide := c.uint64
  let indices := s!", ({wide})".intercalate ((upTo c.dimsC).map fun i =>
    " globalC" ++ c.idxChar i ++ opt (i == c.idx0) off0 ++ opt (i == c.index1) off1)
  s!"  TYPE_MAC_WRITE( D[ GLOBAL_D( ({wide}){indices}) ]" ++
    opt c.useBeta s!", C[ GLOBAL_C( ({wide}){indices}) ]" ++ s!", alpha, rC[{sum}]" ++ opt c.useBeta ", beta" ++ ")"

def notedSizes : Gen Text :=
  (if i.isA then c.sizesA else c.sizesB).elim (throw (.missingKey "packedSizeList")) fun sizes =>
      pure (" * ".intercalate sizes)

def splitStore : Gen Text := do
  let fine := c.packGrain == 2
  let wide := c.writeVecWidth > 1
  let checked := c.edge != "None"
  let vectors <- (upTo c.numWriteVecs).mapM fun b => do
    let base1 := s!" {b}*CPSV"
    let off1 := " + " ++ if fine then "0" else base1
    let elems <- (upTo c.writeVecWidth).mapM fun s => do
      let off0 := opt wide (" + " ++ if fine then "0" else toString s)
      let guard <-
        if checked then do
          let extracted := opt fine
              (c.eol ++ c.newOff "0" (toString s) "flattenedGlobalC0" c.packedC0 ++
                opt (s == 0) (c.newOff "1" base1 "flattenedGlobalC1" c.packedC1))
          let size0 <- c.notedSizes c.a
          let size1 <- c.notedSizes c.b
          let component := opt wide s!" + {s}"
          pure (extracted ++ s!"  if (flattenedGlobalC0{component} < {size0}) \x7b" ++
            s!"  if (flattenedGlobalC1 + {b}*CPSV < {size1}) \x7b")
        else pure ""
      return guard ++ c.writeSum off0 off1 s!"{s} + {b}*GLOBAL_WRITE_VECTOR_WIDTH" ++
        opt checked "\x7d \x7d" ++ c.eol
    return .join elems
  return .join vectors

def storeElem (b a s1 s0 : Int) : Gen Text := do
  let t0 := c.t0
  let t1 := c.t1
  let fine := c.packGrain == 2
  let component := fun s => opt (c.vecWidth > 1) s!" + {s}"
  let c0 := component s0
  let c1 := component s1
  let place0 := s!"{c0} + {a}*SG{t0}*VECTOR_WIDTH"
  let place1 := s!"{c1} + {b}*SG{t1}*VECTOR_WIDTH"
  let shifts := c.edge == "ShiftPtr"
  let guard <-
    if c.edge == "Branch" then
      pure (s!"  if (globalC{t0} + (VECTOR_WIDTH-1) + {a}*SG{t0}*VECTOR_WIDTH < size{t0}) \x7b" ++
        s!"  if (globalC{t1} + (VECTOR_WIDTH-1) + {b}*SG{t1}*VECTOR_WIDTH < size{t1}) \x7b")
    else if shifts then do
      let new0 := fine && s1 == 0 && s0 == 0
      let new1 := fine && s0 == 0
      let extracted :=
        opt (new0 || new1) c.eol ++
        opt new0 (c.newOff "vw0" s!" {a}*SG{t0}*VECTOR_WIDTH" "flattenedGlobalC0" c.packedC0) ++
        opt new1 (c.newOff "vw1" s!"{s1} + {b}*SG{t1}*VECTOR_WIDTH" "flattenedGlobalC1" c.packedC1)
      let size0 <- c.notedSizes c.side0
      let size1 <- c.notedSizes c.side1
      pure (extracted ++ s!"  if (flattenedGlobalC0{place0} < {size0}) \x7b" ++
        s!"  if (flattenedGlobalC1{place1} < {size1}) \x7b")
    else pure ""
  let off0 := if shifts && fine then c0 else place0
  let off1 := opt (!(shifts && fine)) place1
  return guard ++ c.writeSum off0 off1 s!"{a}*VECTOR_WIDTH+{s0} + ({b}*VECTOR_WIDTH+{s1})*TT{t0}" ++
    opt (c.edge != "None") " \x7d \x7d" ++ c.eol

def store : Gen Text := do
  let w := c.vecWidth
  let sites := (upTo (c.threadTile1 / w)).flatMap fun b => (upTo (c.threadTile0 / w)).flatMap fun a =>
    (upTo w).flatMap fun s1 => (upTo w).map fun s0 => (b, a, s1, s0)
  return .join (<- sites.mapM fun (b, a, s1, s0) => c.storeElem b a s1 s0)

def fnEnd : Text :=
  opt c.persist
      (c.lines [s!"  serialWgIter += {c.numGroups}(0);", "\x7d // End Persistent Loop"]) ++ c.lines ["", "\x7d"]

def undefinitions : Text :=
  let k := c.spec
  let t0 := c.t0
  let t1 := c.t1
  if !(c.mergeFiles && c.isHip) then "" else
  let names := ["UNROLL", "LOCAL_SPLITU", "LOCAL_DEPTHU", "SG" ++ t0, "SG" ++ t1, "TT" ++ t0, "TT" ++ t1,
    "MT" ++ t0, "MT" ++ t1, "NLCA", "NLCB", "NLPA", "NLPB", "LSCA", "LSPA", "LSCB", "LSPB", "GLOBAL_D",
    "GLOBAL_C", "GLOBAL_OFFSET_A", "GLOBAL_OFFSET_B", "DATA_TYPE", "DEST_DATA_TYPE",
    "COMPUTE_DATA_TYPE", "LDS_OFFSET_B", "LDS_OFFSET_BLK", "LDS_NUM_ELEMENTS", "NUM_THREADS",
    "WORK_GROUP_MAPPING", "VECTOR_WIDTH", "GLOBAL_LOAD_VECTOR_WIDTH_A", "GLOBAL_LOAD_VECTOR_WIDTH_B",
    "GLOBAL_WRITE_VECTOR_WIDTH", "MAC", "TYPE_MAC", "TYPE_MAC_WRITE", "GLOBAL_SPLITU", "SCALAR_ZERO", "SCALAR_OOB_DATA"]
  let others := (upTo k.otherSums).flatMap fun i =>
    let x := k.idxChar (i + k.dimsC)
    ["globalReadOffsetA" ++ x, "globalReadOffsetB" ++ x]
  c.lines ((names ++ (macSets k).map (tileMacName k) ++ unitStrides k ++ others).map ("#undef " ++ ·) ++ ["", ""])

end TensorForge.SourceContext
