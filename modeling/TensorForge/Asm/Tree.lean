import TensorForge.Asm.Register

/-! # Trees of code -/

namespace TensorForge.Asm

inductive InstKind where
  | plain
  | globalRead
  | localWrite (latency : Int)
  | localRead (latency : Int)
  /-- A multiply-accumulate written out when it is printed. -/
  | mac
  | matrix (latency : Int)
  deriving DecidableEq

inductive ModuleKind where
  | plain
  /-- Three modules: header, middle and footer. -/
  | structured
  /-- Prints the lines of its counts, whatever items it holds. -/
  | wait (lines : Texts)
  deriving DecidableEq

inductive Item where
  | text (s : Text)
  | label (number : Int) (comment : Text)
  | inst (kind : InstKind) (line : Text)
  | module (kind : ModuleKind) (name : Text) (items : List Item)

abbrev Items := List Item

namespace Item

def labelText (number : Int) (comment : Text) : Text :=
  "label_" ++ .zeroPadded 4 number ++ ":" ++ opt (!comment.isEmpty) ("  /// " ++ comment) ++ "\n"

mutual

def leaves : Item -> Items
  | .module _ _ items => leavesOf items
  | i => [i]

def leavesOf : Items -> Items
  | [] => []
  | i :: is => leaves i ++ leavesOf is

end

mutual

def renderOnto (names : Bool) (acc : Text) : Item -> Text
  | .module kind name items =>
    let acc := acc ++ opt names s!"// {name} \x7b \n"
    let acc := match kind with
      | .wait lines => acc ++ .join lines
      | _ => renderAllOnto names acc items
    acc ++ opt names s!"// \x7d {name}\n"
  | .text s => acc ++ s
  | .label n c => acc ++ labelText n c
  | .inst _ s => acc ++ s

def renderAllOnto (names : Bool) (acc : Text) : Items -> Text
  | [] => acc
  | i :: is => renderAllOnto names (renderOnto names acc i) is

end

variable (i : Item)

def render (names : Bool := false) : Text := renderOnto names "" i

def className : Item -> Text
  | .text _ => "TextBlock"
  | .label _ _ => "Label"
  | .inst .plain _ => "Inst"
  | .inst .globalRead _ => "GlobalReadInst"
  | .inst (.localWrite _) _ => "LocalWriteInst"
  | .inst (.localRead _) _ => "LocalReadInst"
  | .inst .mac _ => "MacInst"
  | .inst (.matrix _) _ => "MFMAInst"
  | .module .plain _ _ => "Module"
  | .module .structured _ _ => "StructuredModule"
  | .module (.wait _) _ _ => "WaitCnt"

def isLeafOf (cls : Text) : Item -> Bool
  | .text _ => cls == "TextBlock" || cls == "Item"
  | .label _ _ => cls == "Label" || cls == "Item"
  | .inst k s => cls == "Inst" || cls == "Item" || cls == className (.inst k s)
  | .module _ _ _ => false

mutual

/-- Items that are no modules and of which `p` holds. -/
def countIf (p : Item -> Bool) : Item -> Nat
  | .module _ _ items => countAllIf p items
  | i => if p i then 1 else 0

def countAllIf (p : Item -> Bool) : Items -> Nat
  | [] => 0
  | i :: is => countIf p i + countAllIf p is

end

def count : Nat := i.countIf fun _ => true
def countClass (cls : Text) (i : Item) : Nat := i.countIf (isLeafOf cls)

/-- The sum, and the classes as they are left: the modules are added where they are missing. -/
def countClasses (classes : Texts) : Nat × Texts :=
  let classes := if classes.contains "Module" then classes else classes ++ ["Module"]
  (classes.foldl (fun n cls => n + i.countClass cls) 0, classes)

def countLeaves (p : InstKind -> Bool) (i : Item) : Nat :=
  i.leaves.countP fun
    | .inst k _ => p k
    | _ => false

def globalReads : Nat := i.countLeaves (· == .globalRead)
def localReads : Nat := i.countLeaves fun | .localRead _ => true | _ => false
def localWrites : Nat := i.countLeaves fun | .localWrite _ => true | _ => false

/-- Appends items to a module. -/
def append (more : Items) : Item :=
  match i with
  | .module k name items => .module k name (items ++ more)
  | i => i

def barIndent (indent : Text) : Text := .replace indent "|--" "| "

mutual

def outlineOnto (indent acc : Text) : Item -> Text
  | .module k name items =>
    outlineAllOnto (barIndent indent ++ "|--")
      (acc ++ indent ++ className (.module k name []) ++ s!" \"{name}\"\n") items
  | .text s =>
    let sep := "\n" ++ Text.replace indent "|-" "| |-"
    acc ++ indent ++ "TextBlock " ++ sep.intercalate ("" :: ((s.splitOn "\n").filter (!·.isEmpty))) ++ "\n"
  | .label n c => acc ++ indent ++ "Label " ++ labelText n c
  | .inst k s => acc ++ indent ++ className (.inst k s) ++ " " ++ s

def outlineAllOnto (indent acc : Text) : Items -> Text
  | [] => acc
  | i :: is => outlineAllOnto indent (outlineOnto indent acc i) is

end

def outline (indent : Text) : Text := outlineOnto indent "" i
def comment0 (c : Text) : Item := .text s!"/* {c} */\n"
def comment1 (c : Text) : Item := .text s!"\n/* {c} */\n"

def instOf (kind : InstKind) (params : Texts) (comment : Text) : Item :=
  .inst kind (line (joinOperands params) comment)

def plain (params : Texts) (comment : Text) : Item := instOf .plain params comment
def modul (name : Text) (items : Items) : Item := .module .plain name items

/-- Until at most `lgkmcnt` local and `vmcnt` global operations are outstanding; `-1` is no condition. -/
structure Wait where
  (lgkmcnt vmcnt : Int := -1)
  comment : Text := ""

namespace Wait

def make (lgkmcnt vmcnt : Int) (comment : Text) : Wait :=
  { lgkmcnt, vmcnt, comment := s!"lgkmcnt={lgkmcnt} vmcnt={vmcnt}" ++ comment }

variable (w : Wait) (major : Int)

/-- Without a condition only the comment is left. -/
def instructions : Items :=
  let conditions := opt (w.lgkmcnt != -1) [s!"lgkmcnt({w.lgkmcnt})"] ++ opt (w.vmcnt != -1) [s!"vmcnt({w.vmcnt})"]
  if conditions.isEmpty then [comment0 w.comment]
  else plain ("s_waitcnt" :: conditions) w.comment :: opt (w.lgkmcnt != -1 && major == 10 && w.vmcnt != -1)
      [plain ["s_waitcnt_vscnt", "null", toString w.vmcnt] "writes"]

def item : Item := .module (.wait ((w.instructions major).map (·.render))) "" (w.instructions major)

end Wait

def waitCount (major lgkmcnt vmcnt : Int) (comment : Text) : Item := (Wait.make lgkmcnt vmcnt comment).item major

end Item

/-! ## Multiply-accumulate blocks -/

namespace Accumulate

open Gen Int String

/-- The position in the thread tile, the buffer that local reads fill and the unrolled summation steps. -/
structure Site where
  isa : Value
  kernel : Table
  (a b buf unroll : Int)

variable (s : Site) (t : Int)

def Site.isIsa (major minor step : Int) : Bool := s.isa.same (.tuple [major, minor, step])
def operandA (u : Int) : Text := s!"v[vgprValuA_X{s.buf}_I{u}+{s.a}]"
def operandB (u : Int) : Text := s!"v[vgprValuB_X{s.buf}_I{u}+{s.b}]"
def steps : Ints := (List.range s.unroll.toNat).map ofNat

/-- Four products of packed elements, accumulated in single precision. -/
def mixed (op tail : Text) (sites : List (Int × Int × Int × Texts)) : Text :=
  let h := tdiv t 2
  join <| sites.map fun (k, ua, ub, sels) =>
    let row := k / 2
    let col := k % 2
    let c := if row == 0 then s!"v[vgprValuC+{s.a}*2+{s.b}*{t}*2+0*2+{col}]"
      else s!"v[vgprValuC+{s.a}*2+{s.b}*{t}*2+{h}*2+{col}]"
    let index := s.a * 2 + s.b * t * 2 + if row == 0 then col else t + col
    let mark := if k == 3 then "valuC" else "ValuC"
    join <| sels.map fun sel =>
      s!"{op} {c}, {operandA s ua}, {operandB s ub}, {c} {sel} //{mark}[{index}]" ++ opt (k == 0) tail

def selMix (x y : Int) : Text := s!"op_sel:[{x},{y},0] op_sel_hi:[1,1,0]"

def half900 (hpa : Bool) (layout : Int) : Text :=
  if hpa then
    if layout > 1 && s.unroll == 2 then
      let both := [selMix 0 0, selMix 1 1]
      mixed s t "v_mad_mix_f32" " " [(0, 0, 0, both), (1, 1, 0, both), (2, 0, 1, both), (3, 1, 1, both)]
    else
      join <| (steps s).map fun u =>
        mixed s t "v_mad_mix_f32" s!" iui={u}"
          [(0, u, u, [selMix 0 0]), (1, u, u, [selMix 1 0]), (2, u, u, [selMix 0 1]), (3, u, u, [selMix 1 1])]
  else packed (tdiv t 2)
where
  packed h : Text :=
    join <| (steps s).map fun u =>
      let c0 := s!"v[vgprValuC+{s.a}+{s.b}*{t}+0]"
      let c1 := s!"v[vgprValuC+{s.a}+{s.b}*{t}+{h}]"
      s!"v_pk_fma_f16 {c0}, {operandA s u}, {operandB s u}, {c0} op_sel:[0,0,0] op_sel_hi:[1,0,1]" ++
      s!"v_pk_fma_f16 {c1}, {operandA s u}, {operandB s u}, {c1} op_sel:[0,1,0] op_sel_hi:[1,1,1]"

def half906 (hpa : Bool) (layout : Int) : Text :=
  if hpa then
    if layout > 1 && s.unroll == 2 then
      let sel := ["op_sel:[0,0] op_sel_hi:[1,1]"]
      mixed s t "v_dot2_f32_f16" " " [(0, 0, 0, sel), (1, 1, 0, sel), (2, 0, 1, sel), (3, 1, 1, sel)]
    else
      join <| (steps s).map fun u =>
        let c := s!"v[vgprValuC+{s.a}*2+{s.b}*{t}*2+0*2+0]"
        let index := s.a * 2 + s.b * t * 2
        let lead := fun i =>
          s!"v_fma_mix_f32 {c}, {operandA s u}, {operandB s u}, {c} {selMix 0 0} //ValuC[{i}] iui={u}"
        lead index ++ lead (index + 1) ++ mixed s t "v_fma_mix_f32" ""
            [(1, u, u, [selMix 1 0]), (2, u, u, [selMix 0 1]), (3, u, u, [selMix 1 1])]
  else half900 s t false layout

def getInt (t : Table) (key : Text) : Gen Int := do int (<- fetch t key)

def eachStep (write : (u t : Int) -> Text) : Gen Text := do
  let mut out := ""
  for u in steps s do out := out ++ write u (<- getInt s.kernel TT0)
  return out

def macText : Gen Text := do
  let problem <- table (<- fetch s.kernel PT)
  let .dataType dt <- fetch problem DT | throw .noField
  let body <- if dt.isHalf then half problem else if dt.isInt8x4 then int8x4
    else if dt.isSingle then single
    else if dt.isDouble then double
    else fatal s!"Assembly doesn't support {dt.char}"
  return line body ""
where
  half problem := do
    if s.isIsa 8 0 3 then
      let mut out := ""
      for _ in [0:2] do
        for _ in [0:2] do
          for u in steps s do
            let t <- getInt s.kernel TT0
            out := out ++ s!"v_mac_f16 v[vgprValuC+{s.a}+{s.b}*{t}+0], {operandA s u}, {operandB s u}\n"
      return out
    else if s.isIsa 9 0 0 || s.isIsa 9 0 6 then
      let hpa := (<- fetch problem HPA).truthy
      let layout <- if hpa then getInt s.kernel LDL else pure 0
      let t <- getInt s.kernel TT0
      return if s.isIsa 9 0 0 then half900 s t hpa layout else half906 s t hpa layout
    else throw .wrongKind
  int8x4 := do
    if s.isIsa 8 0 3 then return "// int8 not implemented yet for gfx803:"
    else if s.isIsa 9 0 0 then return "// int8 not implemented yet for gfx900:"
    else if s.isIsa 9 0 6 then
      eachStep s fun u t =>
        let c := s!"v[vgprValuC+{s.a}+{s.b}*{t}]"
        s!"v_dot4_i32_i8  {c}, {operandA s u}, {operandB s u}, {c} " ++
          s!"op_sel:[0,0] op_sel_hi:[1,1] //valuC[{s.a + s.b * t}]"
    else return ""
  single := eachStep s fun u t =>
    s!"_v_mac_f32 v[vgprValuC+{s.a}+{s.b}*{t}], {operandA s u}, {operandB s u}"
  double := eachStep s fun u t =>
    let c := s!"v[vgprValuC+({s.a}+{s.b}*{t})*2:(vgprValuC+{s.a}+{s.b}*{t})*2+1]"
    let a := s!"vgprValuA_X{s.buf}_I{u}+{s.a}*2"
    let b := s!"vgprValuB_X{s.buf}_I{u}+{s.b}*2"
    s!"v_fma_f64 {c}, v[{a}:{a}+1], v[{b}:{b}+1], {c}"

def matrixText : Gen Text := do
  let tile <- getInt s.kernel TT0
  let n <- getInt s.kernel MIN
  let m <- getInt s.kernel MIM
  let blocks <- getInt s.kernel MIB
  let wave <- getInt s.kernel WS
  if wave == 0 then throw .divisionByZero
  let regs := fdiv (n * m * blocks) wave
  let .dataType dt <- fetch (<- table (<- fetch s.kernel PT)) DT | throw .noField
  if dt.isSingle then
    let mut out := ""
    for u in steps s do
      let k <- getInt s.kernel MIK
      let c := s!"a[({s.a}+{s.b}*{tile})*{regs}):(((({s.a}+{regs}*{s.b})*{tile})+{regs})-1)]"
      out := out ++ s!"v_mfma_f32_{m}x{n}x{k}f32 {c}, {operandA s u}, {operandB s u}, {c}"
    return line out ""
  else fatal s!"Assembly doesn't support {dt.char}"

def matrixLatency (kernel : Table) : Gen Int := do return fdiv (<- getInt kernel MIM) 4 * 8

end Accumulate

end TensorForge.Asm
