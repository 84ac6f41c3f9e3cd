import Mathlib.Tactic.Lemma
import TensorForge.Library.Master

/-!
# Repaired solution numbers

A solution without a number, or with one that stands before it, gets a number above all that were there. The rest keep theirs.
-/

namespace TensorForge.Master

open List

/-- The one at position `i` is the first with its number, which it keeps, or else `n` is above all numbers. -/
def Repairs (old : List (Option Int)) (i : Nat) (n : Int) : Prop :=
  (old[i]? = some (some n) ∧ some n ∉ old.take i) ∨
    ((∀ m, old[i]? = some (some m) → some m ∈ old.take i) ∧ ∀ m, some m ∈ old → m < n)

variable {indices : List (Option Int)} {seen : Ints} {next : Int} {n : Int}

lemma le_largest (h : some n ∈ indices) : n ≤ largest indices := by
  have hn : n ∈ indices.filterMap id := mem_filterMap.2 ⟨some n, h, rfl⟩
  rw [largest]
  cases hm : (indices.filterMap id).max? with
  | none =>
    rw [max?_eq_none_iff.1 hm] at hn
    exact absurd hn not_mem_nil
  | some m => exact (max?_eq_some_iff.1 hm).2 n hn

lemma length_fixFrom (next : Int) (seen : Ints) (indices : List (Option Int)) :
    (fixFrom next seen indices).length = indices.length := by
  fun_induction fixFrom next seen indices <;> simp [*]

lemma fixFrom_getElem? {i : Nat} (h : (fixFrom next seen indices)[i]? = some n) :
    (indices[i]? = some (some n) ∧ n ∉ seen ∧ some n ∉ indices.take i) ∨
      ((∀ m, indices[i]? = some (some m) → m ∈ seen ∨ some m ∈ indices.take i) ∧ next ≤ n) := by
  fun_induction fixFrom next seen indices generalizing i with
  | case1 => simp at h
  | case2 next seen rest ih =>
    cases i with
    | zero => simp_all
    | succ i => have := ih h; simp; grind
  | case3 next seen m rest hm ih =>
    cases i with
    | zero => simp_all
    | succ i => have := ih h; simp at hm ⊢; grind
  | case4 next seen m rest hm ih =>
    cases i with
    | zero => simp_all
    | succ i => have := ih h; simp at hm ⊢; grind

lemma mem_fixFrom (h : n ∈ fixFrom next seen indices) : (some n ∈ indices ∧ n ∉ seen) ∨ next ≤ n := by
  obtain ⟨i, hi⟩ := mem_iff_getElem?.1 h
  obtain ⟨here, hs, -⟩ | ⟨-, above⟩ := fixFrom_getElem? hi
  · exact .inl ⟨mem_of_getElem? here, hs⟩
  · exact .inr above

lemma next_not_mem_fixFrom {rest : List (Option Int)} (below : ∀ n, some n ∈ rest → n < next) :
    next ∉ fixFrom (next + 1) seen rest := by
  intro h
  obtain ⟨h, -⟩ | h := mem_fixFrom h
  · have := below _ h
    omega
  · omega

lemma fixFrom_nodup (below : ∀ n, some n ∈ indices → n < next) : (fixFrom next seen indices).Nodup := by
  fun_induction fixFrom next seen indices with
  | case1 => exact nodup_nil
  | case2 next seen rest ih | case3 next seen _ rest _ ih =>
    have hr : ∀ n, some n ∈ rest → n < next := fun n h => below n (mem_cons_of_mem _ h)
    exact nodup_cons.2 ⟨next_not_mem_fixFrom hr, ih fun n h => Int.lt_trans (hr n h) (Int.lt_succ next)⟩
  | case4 next seen m rest hm ih =>
    refine nodup_cons.2 ⟨fun h => ?_, ih fun n h => below n (mem_cons_of_mem _ h)⟩
    obtain ⟨-, hm⟩ | h := mem_fixFrom h
    · exact hm mem_cons_self
    · have := below m mem_cons_self
      omega

lemma fixIdxs_repairs {i : Nat} (h : (fixIdxs indices)[i]? = some n) : Repairs indices i n := by
  obtain ⟨here, -, first⟩ | ⟨again, above⟩ := fixFrom_getElem? h
  · exact .inl ⟨here, first⟩
  · refine .inr ⟨fun m hm => (again m hm).resolve_left not_mem_nil, fun m hm => ?_⟩
    have := le_largest hm
    omega

/-- Nothing but the numbers changes, all have one, and no two the same. -/
theorem numbered_repairs_numbers (entries : List LibEntry) :
    (numbered entries).length = entries.length ∧ ((numbered entries).map (·.index)).Nodup ∧
      ∀ i : Fin entries.length, ∃ n, (numbered entries)[i.val]? = some { entries.get i with index := some n } ∧
        Repairs (entries.map (·.index)) i n := by
  have hl : (fixIdxs (entries.map (·.index))).length = entries.length := by
    rw [fixIdxs, length_fixFrom, length_map]
  have hm : (numbered entries).map (·.index) = (fixIdxs (entries.map (·.index))).map some :=
    ext_getElem (by simp [numbered, hl]) fun i _ _ => by simp [numbered]
  refine ⟨by simp [numbered, hl], ?_, fun i => ?_⟩
  · have below : ∀ n, some n ∈ entries.map (·.index) → n < largest (entries.map (·.index)) + 1 :=
      fun n h => Int.lt_add_one_of_le (le_largest h)
    rw [hm]
    exact pairwise_map.2 ((fixFrom_nodup below).imp fun hne h => hne (Option.some.inj h))
  · have hn := getElem?_eq_getElem (Nat.lt_of_lt_of_eq i.isLt hl.symm)
    exact ⟨_, by simp [numbered, getElem?_zipWith, hn], fixIdxs_repairs hn⟩

end TensorForge.Master
