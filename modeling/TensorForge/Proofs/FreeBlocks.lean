import TensorForge.Proofs.RegisterOwnership

/-!
# Free blocks of a pool

`availableBlock` counts in one pass how many blocks of a size the runs of available registers hold. Main statement: so many
check-outs of that size succeed one after the other, and no more, while the pool may not grow. First fit takes a block from the
front of the first run that is long enough, so that this run holds one block less and all others stay.
-/

namespace TensorForge.RegisterPool

open List availableBlock

/-- How many available registers a list begins with. -/
def lead : List PoolRegister → Nat
  | [] => 0
  | r :: l => if r.status == .available then lead l + 1 else 0

variable {p : RegisterPool} {b start u n : Nat} {t : Text} {l : List PoolRegister}

lemma le_lead_iff : n ≤ lead l ↔ ∀ j < n, l[j]?.map (·.status) = some .available := by
  induction l generalizing n with
  | nil => cases n <;> grind [lead]
  | cons r l ih =>
    cases n with
    | zero => simp
    | succ n =>
      have hn := @ih n
      grind [lead]

lemma isFree_iff_lead (hb : 0 < b) : p.isFree start b ↔ b ≤ lead (p.regs.toList.drop start) := by
  have hstatus : ∀ i, p.status i = .available ↔ p.regs[i]?.map (·.status) = some .available := by
    intro i
    unfold status
    cases p.regs[i]? <;> simp
  simp only [isFree, Bool.and_eq_true, decide_eq_true_eq, all_eq_true, mem_range, beq_iff_eq, le_lead_iff, getElem?_drop,
    Array.getElem?_toList, ← hstatus, and_iff_right_iff_imp]
  intro h
  have := lt_size_of_status (p := p) (i := start + (b - 1)) (by rw [h _ (by omega)]; decide)
  omega

/-- A longer run holds more blocks. -/
lemma go_add (hb : 0 < b) (k m : Nat) : go b l (u + k * b) (n + m) = go b l u n + (k + m) := by
  induction l generalizing u n k m with
  | nil => grind [go, Nat.add_mul_div_right]
  | cons r l ih =>
    have hnext := ih (u := u + 1) (n := n) k m
    have hfresh := ih (u := 0) (n := n + u / b) 0 (k + m)
    grind [go, Nat.add_mul_div_right]

lemma go_lead {k : Nat} (h : k ≤ lead l) : go b l u 0 = go b (l.drop k) (u + k) 0 := by
  induction k generalizing l u with
  | zero => simp
  | succ k ih => cases l <;> grind [go, lead]

/-- A run that is too short for a block adds none. -/
lemma go_short (h : u + lead l < b) : go b l u n = go b l 0 n := by
  induction l generalizing u n with
  | nil => simp only [go, Nat.div_eq_of_lt (show u < b by omega), Nat.zero_div]
  | cons r l ih =>
    have hzero : u / b = 0 := Nat.div_eq_of_lt (by omega)
    grind [go, lead, Nat.zero_div]

/-- Registers at which no block begins can be left out. -/
lemma go_drop (h : ∀ i < n, lead (l.drop i) < b) : go b l 0 0 = go b (l.drop n) 0 0 := by
  induction n generalizing l with
  | zero => rfl
  | succ n ih =>
    cases l with
    | nil => rfl
    | cons r l =>
      have hhead : lead (r :: l) < b := h 0 (by omega)
      have htail := ih (l := l) fun i hi => h (i + 1) (by omega)
      by_cases hr : r.status = .available
      · have hshort : go b l 1 0 = go b l 0 0 := go_short (by simp [lead, hr] at hhead; omega)
        simp [go, hshort, htail]
      · simp [go, hr, htail]

/-- A block taken first fit is one block less. -/
lemma go_take (hb : 0 < b) (h : p.firstFit? b 1 = some start) :
    go b p.regs.toList 0 0 = go b (p.take start b t).regs.toList 0 0 + 1 := by
  obtain ⟨-, hn, hfree⟩ := of_firstFit?_some h
  have hfirst : ∀ i < start, ¬p.isFree i b := fun i hi => by
    simpa [Nat.mod_one] using (find?_range_eq_some.mp h).2.2 i hi
  have hrest : (p.take start b t).regs.toList.drop (start + b) = p.regs.toList.drop (start + b) := by
    refine ext_getElem? fun i => ?_
    have hi : ¬Holds (start, b) (start + b + i) := by simp only [Holds]; omega
    have h : (p.take start b t).regs[start + b + i]? = _ := regs_mapBlock p start b _ _
    simp [h, hi]
  -- what is free behind it was free before, and does not begin in the new block
  have htaken : ∀ i < start + b, ¬(p.take start b t).isFree i b := by
    intro i hi hfree'
    have hout : ∀ j, Holds (i, b) j → ¬Holds (start, b) j ∧ p.status j = .available := fun j hj => by
      have hstatus := (isFree_iff.mp hfree').2 j hj
      rw [status_take hn] at hstatus
      grind
    by_cases hlt : i < start
    · exact hfirst i hlt (isFree_iff.mpr ⟨by omega, fun j hj => (hout j hj).2⟩)
    · exact (hout i (holds_start hb)).1 ⟨Nat.le_of_not_lt hlt, hi⟩
  simp only [isFree_iff_lead hb, Nat.not_le] at hfirst htaken
  calc go b p.regs.toList 0 0 = go b (p.regs.toList.drop start) 0 0 := go_drop hfirst
    _ = go b (p.regs.toList.drop (start + b)) (0 + b) 0 := by
      rw [go_lead ((isFree_iff_lead hb).mp (isFree_iff.mpr ⟨hn, hfree⟩)), drop_drop]
    _ = go b (p.regs.toList.drop (start + b)) 0 0 + 1 := by simpa using go_add (u := 0) (n := 0) hb 1 0
    _ = _ := by rw [go_drop htaken, hrest]

lemma go_none (hb : 0 < b) (h : p.firstFit? b 1 = none) : go b p.regs.toList 0 0 = 0 := by
  rw [go_drop (n := p.size) fun i hi => ?_]
  · rw [drop_eq_nil_of_le (by simp [size]), go, Nat.zero_div]
  · rw [← Nat.not_le, ← isFree_iff_lead hb]
    simpa [Nat.mod_one] using find?_eq_none.mp h i (mem_range.mpr hi)

/-- Of check-outs in a row from a pool that may not grow, `n` succeed and the next one stops. -/
def Serves (b : Nat) (tags : Nat → Text) : Nat → RegisterPool → Prop
  | 0, p => Stops (p.checkOutReported b 1 (tags 0) (some true)) (.violated "")
  | n + 1, p => ∃ start q, Returns (p.checkOutReported b 1 (tags (n + 1)) (some true)) (start, q) ∧ Serves b tags n q

/-- **The count of free blocks is exact**: as many check-outs succeed as there are blocks. -/
theorem availableBlock_exact (hb : 1 ≤ b) (tags : Nat → Text) (p : RegisterPool) :
    Serves b tags (p.availableBlock b / b) p := by
  have hblock : (b == 0) = false := by simp; omega
  rw [availableBlock, hblock, if_neg Bool.false_ne_true, Nat.mul_div_cancel _ hb]
  generalize hn : go b p.regs.toList 0 0 = n
  induction n generalizing p with
  | zero =>
    have hspec := checkOutReported_spec p (tags 0) (some true) (show (0 : Int) < b by omega) (Int.le_refl 1)
    cases hfit : p.firstFit? b 1 with
    | none => simpa [checkOutAligned?, hfit, Serves] using hspec
    | some start => exact absurd (go_take (t := "") hb hfit) (by omega)
  | succ n ih =>
    have hspec := checkOutReported_spec p (tags (n + 1)) (some true) (show (0 : Int) < b by omega) (Int.le_refl 1)
    cases hfit : p.firstFit? b 1 with
    | none => exact absurd (go_none hb hfit) (by omega)
    | some start =>
      have htake := go_take (t := tags (n + 1)) hb hfit
      exact ⟨start, _, by simpa [checkOutAligned?, hfit] using hspec, ih _ (by omega)⟩

/-- Runs of two and three registers around one in use. -/
def gappedPool : RegisterPool := ((ofSize 0 "v" true false).add 0 6 "t").take 2 1 "x"

theorem gappedPool_serves : gappedPool.availableBlock 2 = 4 ∧ Serves 2 (fun _ => "y") 2 gappedPool :=
  ⟨rfl, availableBlock_exact (by decide) _ gappedPool⟩

end TensorForge.RegisterPool
