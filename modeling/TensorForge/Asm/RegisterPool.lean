import TensorForge.Asm.Register

/-!
# Register pools

Blocks are handed out first fit at an aligned start; when no block is free a pool may grow at its end, and the free
registers there become part of the new block. The blocks that are out are kept with their sizes.
-/

namespace TensorForge

open Gen List

inductive RegStatus where
  | unavailable | available | inUse
  deriving DecidableEq, Repr

structure PoolRegister where
  status : RegStatus
  tag : Text

/-- Registers of one kind, and the blocks that are out. -/
structure RegisterPool where
  file : Text
  /-- Whether the pool grows only if a request says so. -/
  (preventOverflow printing : Bool := false)
  regs : Array PoolRegister := #[]
  /-- Start and size, in the order in which the blocks went out. -/
  outstanding : List (Nat × Nat) := []
  deriving Inhabited

namespace RegisterPool

def ofSize (size : Nat) (file : Text) (preventOverflow printing : Bool) : RegisterPool :=
  { file, preventOverflow, printing, regs := .replicate size ⟨.unavailable, "init"⟩ }

variable (p : RegisterPool)

def size : Nat := p.regs.size

def status (i : Nat) : RegStatus :=
  match p.regs[i]? with
  | some r => r.status
  | none => .unavailable

def tag (i : Nat) : Text :=
  match p.regs[i]? with
  | some r => r.tag
  | none => ""

variable (start size : Nat)

def mapBlock (f : PoolRegister -> PoolRegister) : RegisterPool :=
  { p with regs := p.regs.mapIdx fun i r => if start <= i && i < start + size then f r else r }

def growTo (size : Nat) (r : PoolRegister) : RegisterPool :=
  { p with regs := p.regs ++ .replicate (size - p.regs.size) r }

variable (tag : Text)

/-- Makes registers available, growing the pool to hold them. -/
def add : RegisterPool :=
  (p.growTo (start + size) ⟨.unavailable, tag⟩).mapBlock start size fun r =>
    if r.status == .unavailable then ⟨.available, tag⟩ else r

/-- Makes the available registers of a block unavailable. -/
def remove : RegisterPool :=
  p.mapBlock start size fun r => if r.status == .available then { r with status := .unavailable } else r

def isFree : Bool := start + size <= p.size && (range size).all fun j => p.status (start + j) == .available

def firstFit? (size alignment : Nat) : Option Nat :=
  (range p.size).find? fun i => i % alignment == 0 && p.isFree i size

def availableAtEnd : Nat := (p.regs.toList.reverse.takeWhile (·.status == .available)).length
def reusableTail : Nat := min p.availableAtEnd (p.size - 1)
def alignUp (n alignment : Nat) : Nat := (n + alignment - 1) / alignment * alignment

def take : RegisterPool :=
  let p := p.mapBlock start size fun _ => ⟨.inUse, tag⟩
  { p with outstanding := p.outstanding.filter (·.1 != start) ++ [(start, size)] }

/-- Begins at or behind the free tail; registers skipped for alignment are available. -/
def takeAtEnd : RegisterPool :=
  let tail := p.reusableTail
  let p := p.mapBlock (p.size - tail) tail ({ · with tag })
  let p := p.growTo start ⟨.available, tag⟩
  let p := p.growTo (start + size) ⟨.inUse, tag⟩
  let p := p.mapBlock start (p.size - start) fun _ => ⟨.inUse, tag⟩
  { p with outstanding := p.outstanding.filter (·.1 != start) ++ [(start, size)] }

/-- A block of positive size at an aligned start; none when no block is free and the pool may not grow. -/
def checkOutAligned? (size alignment : Nat) (tag : Text) (mayGrow : Bool) : Option (Nat × RegisterPool) :=
  match p.firstFit? size alignment with
  | some start => some (start, p.take start size tag)
  | none =>
    if mayGrow then
      let start := alignUp (p.size - p.reusableTail) alignment
      some (start, p.takeAtEnd start size tag)
    else none

def outstandingSize? (start : Nat) : Option Nat := (p.outstanding.find? (·.1 == start)).map (·.2)

def giveBack : RegisterPool :=
  let p := p.mapBlock start size ({ · with status := .available })
  { p with outstanding := p.outstanding.filter fun b => b.1 != start }

def available : Nat := p.regs.toList.countP (·.status == .available)

def availableBlock (block : Nat) : Nat :=
  let block := if block == 0 then 1 else block
  go block p.regs.toList 0 0 * block
where
  /-- `run` counts the available registers just before, `n` the blocks so far. -/
  go block : List PoolRegister -> Nat -> Nat -> Nat
    | [], run, n => n + run / block
    | r :: rs, run, n => if r.status == .available then go block rs (run + 1) n else go block rs 0 (n + run / block)

def firstInUse? : Option Nat := (range p.size).find? (p.status · == .inUse)

def marks : Text :=
  p.regs.foldl (fun s r => s.push (match r.status with | .unavailable => '.' | .available => '|' | .inUse => '#')) ""

def picture : Text :=
  let n := p.size
  let rulerLine := fun place prior =>
    opt (n >= place) ((range n).foldl (fun s i =>
        if i % place == 0 then s ++ toString (i % prior / place) else s.push ' ') "" ++ "\n")
  rulerLine 100 1000 ++ rulerLine 10 100 ++ rulerLine 1 10 ++ p.marks

def initTmps (value start stop : Int) : Result Text := do
  let stop := if stop == -1 || stop > p.size then (p.size : Int) else stop + 1
  let mut out := ""
  for i in [0:(stop - start).toNat] do
    let r := start.toNat + i
    if r >= p.size then throw .outOfRange
    if p.status r == .available then
      if p.file == "s" then out := out ++ inst ["s_mov_b32", Asm.sr r, .hex value] "init tmp in pool"
      else if p.file == "v" then out := out ++ inst ["v_mov_b32", Asm.vr r, .hex value] "init tmp in pool"
      else throw (.violated "")
  return out
where inst := Asm.inst

def addReported (tag : Text) : Gen RegisterPool := do
  if p.printing then sayLine s!"RP::add({start}..{(start : Int) + size - 1} for '{tag}')"
  let p := p.growTo (start + size) ⟨.unavailable, tag⟩
  for i in [start:start + size] do
    match p.status i with
    | .unavailable => pure ()
    | .available => warn s!"RegisterPool::add({start},{size}) pool[{i}]({p.tag i}) already available"
    | .inUse => warn s!"RegisterPool::add({start},{size}) pool[{i}]({p.tag i}) already in use"
  let p := p.add start size tag
  if p.printing then sayLine p.picture
  return p

def removeReported (tag : Text) : Gen (RegisterPool × Option Fault) := do
  if p.printing then sayLine s!"RP::remove({start}..{(size : Int) - 1}) for {tag}"
  if start + size > p.size then warn s!"RegisterPool::remove({start},{size}) but poolSize={p.size}"
  for i in [start:min (start + size) p.size] do
    match p.status i with
    | .available => pure ()
    | .unavailable => warn s!"RegisterPool::remove({start},{size}) pool[{i}]({p.tag i}) already unavailable"
    | .inUse => warn s!"RegisterPool::remove({start},{size}) pool[{i}]({p.tag i}) still in use"
  return (p.remove start size, (if start + size > p.size && size > 0 then some .outOfRange else none))

def checkOutReported (size alignment : Int) (tag : Text) (prevent : Option Bool) : Gen (Nat × RegisterPool) := do
  let prevent := prevent.getD p.preventOverflow
  if size <= 0 then throw (.violated "")
  if alignment == 0 && p.size > 0 then throw .divisionByZero
  let size := size.toNat
  let step := alignment.natAbs
  match p.firstFit? size step with
  | some start =>
    let p := p.take start size tag
    if p.printing then sayLine s!"RP::checkOut '{tag}' ({size},{alignment}) @ {start} avail={p.available}"
    return (start, p)
  | none =>
    if prevent then throw (.violated "")
    if alignment < 0 then sayLine "ERROR: Can't have a negative register value"
    if alignment == 0 then sayLine "ERROR: Divide by 0"
    let start := if alignment <= 0 then 0 else alignUp (p.size - p.reusableTail) step
    let p := p.takeAtEnd start size tag
    if p.printing then
      sayLine p.picture
      sayLine s!"RP::checkOut' {tag}' ({size},{alignment}) @ {start} (overflow)"
    return (start, p)

/-- A block that is not out gives a warning. -/
def checkInReported (start : Nat) : Gen RegisterPool := do
  match p.outstandingSize? start with
  | some size =>
    let q := p.giveBack start size
    if p.printing then sayLine s!"RP::checkIn('{q.tag (start + size - 1)}') @ {start} +{size}"
    return q
  | none =>
    if start < p.size then
      warn s!"RegisterPool::checkIn('{p.tag start}',{start}) but it was never checked out"
      return p
    else throw .outOfRange

def checkFinalState : Act := do
  match p.firstInUse? with
  | some i =>
    if p.printing then sayLine p.picture
    throw (.failure s!"RegisterPool::checkFinalState: temp ({i}, '{p.tag i}') was never checked in.")
  | none => sayAt 2 s!"total vgpr count: {p.size}\n"

end RegisterPool

end TensorForge
