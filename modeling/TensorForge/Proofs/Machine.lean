import Mathlib.Logic.Function.Basic
import Mathlib.Tactic.Ring
import TensorForge.Asm.Constant

/-!
# A machine for kernels

What the instructions do that kernels order work groups and divide by constants with, and why division by
multiplication is exact.
-/

namespace TensorForge

open Function Nat

/-- The multiplier `⌊M / d⌋ + 1` is exact for dividends below `M / d`. -/
lemma magic_quotient {n d M : Nat} (hd : 0 < d) (h : n * d < M) : n * (M / d + 1) / M = n / d := by
  have hle : M / d * d ≤ M := div_mul_le_self M d
  have hlt : M < (M / d + 1) * d := lt_mul_of_div_lt (lt_succ_self _) hd
  have hn : n < (n / d + 1) * d := lt_mul_of_div_lt (lt_succ_self _) hd
  apply Nat.div_eq_of_lt_le
  · calc n / d * M ≤ n / d * ((M / d + 1) * d) := Nat.mul_le_mul_left _ hlt.le
      _ = n / d * d * (M / d + 1) := by ring
      _ ≤ n * (M / d + 1) := mul_le_mul_right _ (div_mul_le_self n d)
  · refine Nat.lt_of_mul_lt_mul_right (a := d) ?_
    calc n * (M / d + 1) * d = n * (M / d * d) + n * d := by ring
      _ < n * M + M := add_lt_add_of_le_of_lt (Nat.mul_le_mul_left n hle) h
      _ = (n + 1) * M := by ring
      _ ≤ (n / d + 1) * d * M := mul_le_mul_right M hn
      _ = (n / d + 1) * M * d := by ring

/-- A remainder in words, from the quotient. -/
lemma word_remainder {a d : Nat} (ha : a < 2 ^ 32) : (a + 2 ^ 32 - a / d * d % 2 ^ 32) % 2 ^ 32 = a % d := by
  have := div_add_mod' a d
  omega

namespace Asm

variable (names : Text → Int)

def Reg.index : Reg → Int
  | .num n => n
  | .named s => names s

@[simp] lemma Reg.index_num (n : Int) : Reg.index names n = n := rfl

@[simp] lemma Reg.index_named (s : Text) : Reg.index names s = names s := rfl

/-- Scalar registers, vector registers and the mask `vcc` as the first lane sees them, and the condition. Symbols
stand for the registers that `names` gives them. The subtraction of vectors borrows from `vcc` in instruction sets
that have no other. -/
structure Machine where
  names : Text → Int
  (scalar vector : Int → Nat)
  condition : Bool
  (vcc borrows : Bool := false)

namespace Machine

variable (m : Machine) (is : List Instruction) (file : Int → Nat)

def read : Operand → Nat
  | .scalar r _ => m.scalar (r.index m.names)
  | .vector r _ => m.vector (r.index m.names)
  | .dec n | .hex n | .long n => (n % 2 ^ 32).toNat
  | .text s => m.scalar (m.names s)

/-- Leaves the lower 32 bits of a number in a register. -/
def write (d : Operand) (x : Nat) : Machine :=
  match d with
  | .scalar r _ => { m with scalar := update m.scalar (r.index m.names) (x % 2 ^ 32) }
  | .vector r _ => { m with vector := update m.vector (r.index m.names) (x % 2 ^ 32) }
  | .text s => { m with scalar := update m.scalar (m.names s) (x % 2 ^ 32) }
  | _ => m

def pair (i : Int) : Nat := file i + file (i + 1) * 2 ^ 32

def setPair (i : Int) (x : Nat) : Int → Nat :=
  update (update file i (x % 2 ^ 32)) (i + 1) (x / 2 ^ 32 % 2 ^ 32)

/-- The instructions that take part in ordering work groups and in divisions by constants. Shifts take their
count modulo the width. -/
def exec (i : Instruction) : Option Machine :=
  match i.op, i.args with
  | some "s_mov_b32", [d, x] | some "v_mov_b32", [d, x] | some "v_readfirstlane_b32", [d, x] => some (m.write d (m.read x))
  | some "s_mul_i32", [d, x, y] | some "v_mul_lo_u32", [d, x, y] => some (m.write d (m.read x * m.read y))
  | some "s_mul_hi_u32", [d, x, y] | some "v_mul_hi_u32", [d, x, y] => some (m.write d (m.read x * m.read y / 2 ^ 32))
  | some "s_add_u32", [d, x, y] =>
    some { m.write d (m.read x + m.read y) with condition := 2 ^ 32 ≤ m.read x + m.read y }
  | some "s_sub_u32", [d, x, y] =>
    some { m.write d (m.read x + 2 ^ 32 - m.read y) with condition := m.read x < m.read y }
  | some "s_lshr_b64", [.scalar d 2, .scalar r 2, x] =>
    let pair := m.scalar (r.index m.names) + m.scalar (r.index m.names + 1) * 2 ^ 32
    let y := pair / 2 ^ (m.read x % 64)
    some { (m.write (.scalar d 1) y).write (.scalar (.num (d.index m.names + 1)) 1) (y / 2 ^ 32) with condition := y ≠ 0 }
  | some "s_lshl_b64", [.scalar d 2, .scalar r 2, x] =>
    let y := pair m.scalar (r.index m.names) * 2 ^ (m.read x % 64) % 2 ^ 64
    some { m with scalar := setPair m.scalar (d.index m.names) y, condition := y ≠ 0 }
  | some "v_lshrrev_b64", [.vector d 2, x, .vector r 2] =>
    some { m with vector := setPair m.vector (d.index m.names) (pair m.vector (r.index m.names) / 2 ^ (m.read x % 64)) }
  | some "s_lshr_b32", [d, x, y] =>
    some { m.write d (m.read x / 2 ^ (m.read y % 32)) with condition := m.read x / 2 ^ (m.read y % 32) ≠ 0 }
  | some "v_lshrrev_b32", [d, x, y] => some (m.write d (m.read y / 2 ^ (m.read x % 32)))
  | some "v_lshlrev_b32", [d, x, y] => some (m.write d (m.read y * 2 ^ (m.read x % 32)))
  | some "s_and_b32", [d, x, y] => some { m.write d (m.read x &&& m.read y) with condition := m.read x &&& m.read y ≠ 0 }
  | some "v_and_b32", [d, x, y] => some (m.write d (m.read x &&& m.read y))
  | some "s_addc_u32", [d, x, y] =>
    let sum := m.read x + m.read y + m.condition.toNat
    some { m.write d sum with condition := 2 ^ 32 ≤ sum }
  | some "_v_sub_u32", [d, x, y] =>
    some { m.write d (m.read x + 2 ^ 32 - m.read y) with vcc := if m.borrows then m.read x < m.read y else m.vcc }
  | some "s_cmp_ge_u32", [x, y] => some { m with condition := m.read y ≤ m.read x }
  | some "s_cmov_b32", [d, x] => some (if m.condition then m.write d (m.read x) else m)
  | some "s_cselect_b32", [d, x, y] => some (m.write d (if m.condition then m.read x else m.read y))
  | none, _ => some m
  | _, _ => none

def execAll : Option Machine := is.foldlM exec m

@[simp] lemma execAll_nil : m.execAll [] = some m := rfl

@[simp] lemma execAll_cons (i : Instruction) (is : List Instruction) :
    m.execAll (i :: is) = (m.exec i).bind (·.execAll is) := rfl

/-- The instructions can be executed and lead to a machine with `Q`. -/
def Reaches (Q : Machine → Prop) : Prop := ∃ m', m.execAll is = some m' ∧ Q m'

variable {m}

variable {R Q : Machine → Prop}

lemma Reaches.append {p q : List Instruction} (h : m.Reaches p R)
    (h' : ∀ m', R m' → m'.Reaches q Q) : m.Reaches (p ++ q) Q := by
  obtain ⟨m1, hrun, hR⟩ := h
  obtain ⟨m2, hrun', hQ⟩ := h' m1 hR
  refine ⟨m2, ?_, hQ⟩
  rw [execAll, List.foldlM_append]
  change (m.execAll p).bind _ = _
  rw [hrun]
  exact hrun'

variable {is : List Instruction}

lemma Reaches.mono (h : m.Reaches is R) (hQ : ∀ m', R m' → Q m') : m.Reaches is Q :=
  let ⟨m', hrun, hR⟩ := h
  ⟨m', hrun, hQ m' hR⟩

lemma Reaches.optional {c : Prop} [Decidable c] {Q : Machine → Prop} (h : c → m.Reaches is Q)
    (h' : ¬c → Q m) : m.Reaches (opt c is) Q := by
  by_cases hc : c
  · rw [opt, if_pos hc]
    exact h hc
  · rw [opt, if_neg hc]
    exact ⟨m, rfl, h' hc⟩

end Machine

end Asm

end TensorForge
