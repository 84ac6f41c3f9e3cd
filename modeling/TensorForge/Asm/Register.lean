import TensorForge.Session

/-!
# Registers and instructions

A register is given by its number or by a symbol that is set to its number.
-/

namespace TensorForge.Asm

open Text

inductive Reg where
  | num (n : Int)
  | named (s : Text)
  deriving DecidableEq

instance : Coe Int Reg := ⟨.num⟩
instance : Coe Nat Reg := ⟨fun n => .num n⟩
instance : Coe Text Reg := ⟨.named⟩
instance (n : Nat) : OfNat Reg n := ⟨.num n⟩

class NamesReg (α : Type) where
  reg : α -> Reg

instance : NamesReg Reg := ⟨id⟩
instance : NamesReg Int := ⟨.num⟩
instance : NamesReg Nat := ⟨fun n => .num n⟩
instance : NamesReg Text := ⟨.named⟩

def regs (file : Text) (r : Reg) (count : Int) : Text :=
  match r with
  | .num n => if count == 1 then file ++ toString n else s!"{file}[{n}:{n + count - 1}]"
  | .named s => if count == 1 then s!"{file}[{file}gpr{s}]" else s!"{file}[{file}gpr{s}:{file}gpr{s}+{count - 1}]"

variable {α : Type} [NamesReg α] (r : α) (count : Int := 1)

def vr : Text := regs "v" (NamesReg.reg r) count
def sr : Text := regs "s" (NamesReg.reg r) count
def accvgpr : Text := regs "acc" (NamesReg.reg r) count
def line (code comment : Text) : Text := padRight 50 code ++ s!" // {comment}\n"

def joinOperands : Texts -> Text
  | [] => ""
  | [op] => op
  | op :: args => op ++ " " ++ listing args

/-- An instruction line; an empty last operand is left out. -/
def inst (params : Texts) (comment : Text) : Text :=
  match params with
  | [] => line "" comment
  | _ =>
    if params.length > 1 && params.getLast? == some "" then line (joinOperands params.dropLast) comment
    else line (joinOperands params) comment

def commentLine (comment : Text) : Text := line "" comment

/-- The nearest whole number: the largest `k` with `2 ^ (2k - 1) ≤ n ^ 2`. -/
def roundLog2 (n : Nat) : Nat :=
  let k := .log2 n
  if n * n >= .pow 2 (2 * k + 1) then k + 1 else k

def isPowerOfTwo (n : Int) : Bool :=
  match n with
  | .ofNat k => k &&& (k - 1) == 0
  | .negSucc _ => false

/-!
## Occupancy

Waves that fit on a compute unit, given the vector registers of a wave and the local memory of a work group.
-/

/-- No wave fits with more than 256 registers. -/
def wavesForVgprs (n : Int) : Int :=
  if n < 0 || n > 256 then 0 else if n <= 24 then 10
  else if n <= 28 then 9
  else if n <= 32 then 8
  else if n <= 36 then 7
  else if n <= 40 then 6
  else if n <= 48 then 5
  else if n <= 64 then 4
  else if n <= 84 then 3
  else if n <= 128 then 2
  else 1

def occupancyPoints : Nat := 257
def maxLocalMem : Int := 65536

/-- Rounded to the unit of allocation: the bits of `ffff00` that survive. -/
def allocatedLocalMem (bytes : Int) : Int := (min (bytes + 255) maxLocalMem) % .pow 2 17 / 256 * 256

/-- None when nothing is allocated. -/
def groupsForLocalMem? (bytes : Int) : Option Int :=
  let n := allocatedLocalMem bytes
  if n == 0 then none else some (maxLocalMem / n)

/-- Waves that share the registers of one lane set. -/
def waveMult (threads : Int) : Int := (max threads 256 + 255) / 256

variable (threads vgprs localBytes accvgprs : Int)

def occupancy? : Option Int := do
  let m := waveMult threads
  return min (min (<- groupsForLocalMem? localBytes) (wavesForVgprs (vgprs * m))) (wavesForVgprs (accvgprs * m))

def lastWithOccupancy (target : Int) : Nat -> Int -> Int -> Int
  | 0, _, last => last
  | fuel + 1, n, last =>
    if n < occupancyPoints then
      if wavesForVgprs (n + 1) >= target then lastWithOccupancy target fuel (n + 1) (n + 1) else last
    else last

def maxVgprsForOccupancy? : Option Int := do
  let m := waveMult threads
  let n := vgprs * m
  return lastWithOccupancy (<- occupancy? threads n localBytes accvgprs) (occupancyPoints - n).toNat n n / m

structure MemInstr where
  name : Text
  (numAddrs numOffs : Int)
  blockBytes : Nat
  template : Text
  deriving Inhabited

/-- Replaces each `%s` by the next text; the numbers must agree. -/
def fillTemplate (template : Text) (params : Texts) : Result Text :=
  let parts := template.splitOn "%s"
  if parts.length != params.length + 1 then .error .wrongKind
  else
    .ok (match parts with
      | [] => ""
      | p :: ps => (ps.zip params).foldl (fun acc (part, x) => acc ++ x ++ part) p)

namespace MemInstr

variable (m : MemInstr)

def numBlocks : Nat := if m.numAddrs > 1 || m.numOffs > 1 then 2 else 1
def totalBytes : Nat := m.blockBytes * m.numBlocks

def latencyOf (name : Text) : Int :=
  match name with
  | "ds_read_b128" => 2
  | "ds_write_b128" => 5
  | "ds_write2_b64" | "ds_write_b64" | "ds_write2_b32" => 3
  | "ds_write_b32" | "ds_write_u16" => 2
  | _ => 1

def latency : Int := latencyOf m.name

variable (params : Texts)

def code (nonTemporal : Int := 0) (highBits : Bool := false) : Result Text := do
  let name := if highBits then m.name ++ "_d16_hi" else m.name
  let operands <- fillTemplate m.template params
  let glc := opt (nonTemporal.fmod 2 == 1) " glc"
  return name ++ " " ++ operands ++ glc ++ opt (nonTemporal.fdiv 2 == 1) " slc"

def render (comment : Text) (nonTemporal : Int := 0) (highBits : Bool := false) : Result Text := do
  return line (<- m.code params nonTemporal highBits) comment

def padded (nonTemporal : Int := 0) (highBits : Bool := false) : Result Text := do
  return padRight 50 (<- m.code params nonTemporal highBits)

end MemInstr

/-!
## Buffer descriptors

The upper word of a descriptor is cut into named fields, the lowest bits first. Writing a field keeps the bits that
fit and leaves the other fields alone.
-/

structure BitField where
  name : Text
  width : Nat

structure FieldWord where
  fields : List BitField
  word : Nat

namespace FieldWord

variable (w : FieldWord)

def locate? (name : Text) : Option (Nat × Nat) := go w.fields 0
where
  go : List BitField -> Nat -> Option (Nat × Nat)
    | [], _ => none
    | f :: fs, shift => if f.name == name then some (shift, f.width) else go fs (shift + f.width)

def bits (shift width : Nat) : Nat := w.word / .pow 2 shift % .pow 2 width

def set (name : Text) (value : Int) : FieldWord :=
  match w.locate? name with
  | none => w
  | some (shift, width) =>
    let new := (value % Nat.pow 2 width).toNat
    { w with word := w.word - w.bits shift width * .pow 2 shift + new * .pow 2 shift }

def setWord (value : Int) : FieldWord := { w with word := (value % Nat.pow 2 32).toNat }
def literal : Text := "0x" ++ padLeft '0' 8 (hexDigits w.word)

def describe : Text :=
  let lines := w.fields.map fun f =>
    (w.locate? f.name).elim "" fun (shift, width) => s!"{f.name} ({width}b): {w.bits shift width}"
  "hex: " ++ w.literal ++ "\n" ++ "\n".intercalate lines

end FieldWord

def descFields9 : List BitField :=
  [⟨"dst_sel_x", 3⟩, ⟨"dst_sel_y", 3⟩, ⟨"dst_sel_z", 3⟩, ⟨"dst_sel_w", 3⟩, ⟨"num_format", 3⟩,
   ⟨"data_format", 4⟩, ⟨"user_vm_enable", 1⟩, ⟨"user_vm_mode", 1⟩, ⟨"index_stride", 2⟩,
   ⟨"add_tid_enable", 1⟩, ⟨"_unusedA", 3⟩, ⟨"nv", 1⟩, ⟨"_unusedB", 2⟩, ⟨"type", 2⟩]

def descFields10 : List BitField :=
  [⟨"dst_sel_x", 3⟩, ⟨"dst_sel_y", 3⟩, ⟨"dst_sel_z", 3⟩, ⟨"dst_sel_w", 3⟩, ⟨"format", 7⟩,
   ⟨"_unusedA", 2⟩, ⟨"index_stride", 2⟩, ⟨"add_tid_enable", 1⟩, ⟨"resource_level", 1⟩,
   ⟨"_unusedB", 1⟩, ⟨"LLC_noalloc", 2⟩, ⟨"oob_select", 2⟩, ⟨"type", 2⟩]

def descUpper (major : Int) : FieldWord :=
  if major == 10 then (((⟨descFields10, 0⟩ : FieldWord).set "format" 4).set "resource_level" 1).set "oob_select" 3
  else (⟨descFields9, 0⟩ : FieldWord).set "data_format" 4

end TensorForge.Asm
