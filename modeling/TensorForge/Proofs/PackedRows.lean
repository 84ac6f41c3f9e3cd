import TensorForge.Kernel.Assembly.OutputIndex
import TensorForge.Proofs.Machine

/-!
# Rows of packed coordinates

The lines that take a packed coordinate apart leave the offset of its row, whatever the number of packed indices.
-/

namespace TensorForge.Assembly.OutIdx

open Function List Nat UnpackLine

/-- In mixed radix, the fastest first. -/
def digits : Nat → Nats → Nats
  | _, [] => []
  | a, n :: ns => a % n :: digits (a / n) ns

variable (k : KernelSpec) (value : Text → Nat) (spare : (Int → Nat) → Nat)

/-- On the vector registers of a thread, where `value` gives the words that scalar operands stand for. Divisions are
exact, and leave anything behind the quotient. -/
def UnpackLine.run (file : Int → Nat) : UnpackLine → Int → Nat
  | .remark _ => file
  | .divide q x idx => update (update file (q + 1) (spare file)) q (file x / value (sizeRef k idx))
  | .copy d x _ => update file d (file x)
  | .times d x factor _ => update file d (file x * value factor % 2 ^ 32)
  | .minus d x y _ => update file d ((file x + 2 ^ 32 - file y) % 2 ^ 32)
  | .plus d x y _ => update file d ((file x + file y) % 2 ^ 32)

def sizes (idxs : Ints) : Nats := idxs.map (value <| sizeRef k ·)

def offset (tc : Text) (idxs : Ints) (a : Nat) : Nat :=
  ((digits a (sizes k value idxs)).zipWith (· * ·) (idxs.map (value <| outStrideRef k tc ·))).sum

lemma offset_cons (tc : Text) (idx : Int) (rest : Ints) (a : Nat) : offset k value tc (idx :: rest) a =
    a % value (sizeRef k idx) * value (outStrideRef k tc idx) + offset k value tc rest (a / value (sizeRef k idx)) := rfl

variable {k value spare} {tc what : Text} {t out : Int} {f : Int → Nat} {a : Nat}

lemma digit_run {idx : Int} {text part part' : Text} (ha : a < 2 ^ 32) (hleft : f t = a) :
    [.remark text, .divide (t + 1) t idx, .times (t + 2) (t + 1) (sizeRef k idx) part,
        .minus (t + 2) t (t + 2) part'].foldl (run k value spare) f =
      update (update f (t + 1) (a / value (sizeRef k idx))) (t + 2) (a % value (sizeRef k idx)) := by
  funext r
  have := word_remainder (d := value (sizeRef k idx)) ha
  by_cases h1 : r = t + 1 <;> by_cases h2 : r = t + 2 <;>
    simp_all [run, Int.add_assoc]

/-- What is left of the coordinate stands in `t`, or with the quotient if no division follows. -/
lemma unpack_run {first : Bool} {idx : Int} {rest : Ints} {c : Nat} (ha : a < 2 ^ 32)
    (hlt : a < (sizes k value (idx :: rest)).prod) (hleft : f (if rest = [] then t + 1 else t) = a)
    (hfirst : first → c = 0 ∧ rest ≠ []) (hsum : first = false → f (t + 3) = c % 2 ^ 32) :
    (unpack k tc what t (t + 3) out first t (idx :: rest)).foldl (run k value spare) f out =
      (c + offset k value tc (idx :: rest) a) % 2 ^ 32 := by
  induction rest generalizing first idx f a c with
  | nil =>
    have hlater : first = false := by simpa using hfirst
    have hdigit : a % value (sizeRef k idx) = a := mod_eq_of_lt (by simpa [sizes] using hlt)
    have hquotient : f (t + 1) = a := hleft
    simp [unpack, run, hquotient, hsum hlater, hdigit, offset, digits, sizes, add_mod]
  | cons next rest ih =>
    have hn : a / value (sizeRef k idx) < (sizes k value (next :: rest)).prod :=
      Nat.div_lt_of_lt_mul (by simpa [sizes] using hlt)
    have hx : f t = a := hleft
    rw [unpack, foldl_append, foldl_append, foldl_append, digit_run ha hx, offset_cons, ← add_assoc]
    have nothing : (default : List UnpackLine) = [] := rfl
    refine ih ((Nat.div_le_self _ _).trans_lt ha) hn ?_ (by simp) fun _ => ?_
    · cases first <;> cases rest <;> simp [run, opt, nothing]
    · cases first with
      | false => cases rest <;> simp [run, opt, nothing, hsum rfl, add_mod]
      | true => cases rest <;> simp [run, opt, nothing, (hfirst rfl).1]

def packedThree : KernelSpec := { (default : KernelSpec) with packedC1 := [1, 2, 3] }

end TensorForge.Assembly.OutIdx
