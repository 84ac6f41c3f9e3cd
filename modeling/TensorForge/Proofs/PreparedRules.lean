import Mathlib.Data.List.Sort
import TensorForge.Proofs.RangeRules

/-!
# Rules by sizes

Preparing a tree of rules turns its thresholds from positions in the tables of sizes into the sizes there. The
prepared tree picks by the sizes of a problem what the tree picks by the positions of these sizes: the tables rise,
so a position is not behind a threshold if and only if its size is not above the threshold's size.
-/

namespace TensorForge

open List Nat Option

namespace RuleTree

/-- One level per table, with thresholds that are positions in it; the last rule may go without. If the rules are to
be `full`, then the last one leaves no position out. -/
inductive Over (full : Prop) : List Ints → RuleTree → Prop
  | pick (s : Nat) : Over full [] (.pick s)
  | split {table : Ints} {tables : List Ints} {front : List (Int × RuleTree)} {last : Int × RuleTree}
    (hfront : ∀ r ∈ front, 0 ≤ r.1 ∧ r.1 < table.length)
    (hlast : last.1 = -1 ∨ 0 ≤ last.1 ∧ last.1 < table.length ∧ (full → last.1 + 1 = table.length))
    (hbelow : ∀ r ∈ front ++ [last], Over full tables r.2) : Over full (table :: tables) (.split (front ++ [last]))

/-- At each level the first rule decides that has no threshold or one that is not below the size. -/
def pickBySize : Ints → RuleTree → Option Nat
  | [], .pick s => some s
  | n :: sizes, .split rules => (rules.find? fun r => r.1 == -1 || n ≤ r.1).bind fun r => pickBySize sizes r.2
  | _, _ => none

variable {full : Prop} {tables : List Ints} {table : Ints} {t : RuleTree} {front : List (Int × RuleTree)}
  {last : Int × RuleTree} {sizes : Nat → Result Ints}

lemma Over.depth_eq (h : Over full tables t) : t.depth = tables.length := by
  induction h with
  | pick s => rfl
  | @split table tables front last _ _ _ ih =>
    cases front with
    | nil => simp only [nil_append, depth, length_cons, ih last (by simp)]
    | cons r front => simp only [cons_append, depth, length_cons, ih r (by simp)]

/-- A walk with fewer steps than the tree has levels ends at rules. -/
lemma Over.walk_short {k : Nat} {is : Nats} (h : Over full tables t) (hk : k < tables.length)
    (his : tables.length ≤ is.length) : ∃ rules, walk k is t = .ok (.split rules) := by
  induction k generalizing tables is t with
  | zero =>
    cases h with
    | pick s => exact absurd hk (lt_irrefl 0)
    | split => exact ⟨_, rfl⟩
  | succ k ih =>
    cases is with
    | nil => exact absurd (hk.trans_le his) (not_lt_zero _)
    | cons i is =>
      have hsame := h
      cases h with
      | pick s => exact absurd hk (not_lt_zero _)
      | @split table tables front last _ _ hbelow =>
        rw [walk]
        cases hd : decide? i (front ++ [last]) with
        | none => exact ih hsame (by omega) his
        | some next =>
          obtain ⟨r, hr, rfl⟩ := map_eq_some_iff.mp hd
          exact ih (hbelow r (mem_of_find?_eq_some hr)) (lt_of_succ_lt_succ hk) (le_of_succ_le_succ his)

/-- A prepared level: the last rule loses its threshold, the others get the sizes of theirs. -/
def prepared (sizes : Nat → Result Ints) (table : Ints) (front : List (Int × RuleTree)) (last : Int × RuleTree) :
    List (Int × RuleTree) :=
  front.map (fun r => (table.getD r.1.toNat 0, (prepare sizes r.2).1)) ++ [(-1, (prepare sizes last.2).1)]

lemma prepareRules_concat (hfront : ∀ r ∈ front, 0 ≤ r.1 ∧ r.1 < table.length)
    (hbelow : ∀ r ∈ front ++ [last], (prepare sizes r.2).2 = none) :
    prepareRules sizes table (front ++ [last]) = (prepared sizes table front last, none) := by
  unfold prepared
  induction front with
  | nil =>
    have hlast := hbelow last (by simp)
    simp only [nil_append, prepareRules, map_nil, hlast]
  | cons r front ih =>
    have hr := hfront r (by simp)
    have hsize : table[r.1.toNat]? = some (table.getD r.1.toNat 0) := by
      rw [getD_eq_getElem?_getD, getElem?_eq_getElem (by omega), getD_some]
    have hrest := ih (fun q hq => hfront q (by simp [hq])) fun q hq => hbelow q (mem_cons_of_mem r hq)
    obtain ⟨next, rest, hne⟩ : ∃ next rest, front ++ [last] = next :: rest := by cases front <;> simp
    rw [hne] at hrest
    rw [cons_append, hne, prepareRules, if_neg (by omega), if_neg (by omega), hsize]
    simp only [hbelow r (by simp), hrest, map_cons, cons_append]

/-- The tables of the levels, asked for by the number of levels that are left. -/
def Gives (sizes : Nat → Result Ints) (tables : List Ints) : Prop :=
  ∀ (i : Nat) (table : Ints), tables[i]? = some table → sizes (tables.length - i) = .ok table

lemma Gives.tail (h : Gives sizes (table :: tables)) : Gives sizes tables := by
  intro i own hi
  have := h (i + 1) own hi
  rwa [length_cons, Nat.add_sub_add_right] at this

lemma Over.prepare_split (h : Over full (table :: tables) (.split (front ++ [last])))
    (hg : Gives sizes (table :: tables)) (hfront : ∀ r ∈ front, 0 ≤ r.1 ∧ r.1 < table.length)
    (hbelow : ∀ r ∈ front ++ [last], (prepare sizes r.2).2 = none) :
    prepare sizes (.split (front ++ [last])) = (.split (prepared sizes table front last), none) := by
  have hown : sizes (table :: tables).length = .ok table := hg 0 table rfl
  rw [prepare, h.depth_eq, hown]
  simp only [prepareRules_concat hfront hbelow]

lemma Over.prepare_fault (h : Over full tables t) (hg : Gives sizes tables) : (prepare sizes t).2 = none := by
  induction h with
  | pick s => rfl
  | split hfront hlast hbelow ih =>
    rw [(split hfront hlast hbelow).prepare_split hg hfront fun r hr => ih r hr hg.tail]

/-- In a rising table a size decides as its position does. -/
lemma decides_eq (hrise : table.Pairwise (· < ·)) (hsentinel : -1 ∉ table) {i : Nat} {j : Int}
    (hi : i < table.length) (hj : 0 ≤ j ∧ j < table.length) :
    (table.getD j.toNat 0 == -1 || table.getD i 0 ≤ table.getD j.toNat 0) = (j < 0 || (i : Int) ≤ j) := by
  obtain ⟨j, rfl⟩ := Int.eq_ofNat_of_zero_le hj.1
  have hj : j < table.length := by omega
  have hne : (table[j] == -1) = false := beq_false_of_ne fun h => hsentinel (h ▸ getElem_mem hj)
  have hle : table[i] ≤ table[j] ↔ i ≤ j :=
    hrise.sortedLT.strictMono_get.le_iff_le (a := ⟨i, hi⟩) (b := ⟨j, hj⟩)
  simp [hi, hj, hne, hle]

/-- The prepared tree picks a solution by the sizes at any positions. It is the one that the tree picks at these
positions, unless the tree picks none there because its rules are not full. -/
lemma Over.pickBySize_prepare {is : Nats} (h : Over full tables t) (hg : Gives sizes tables)
    (hrise : ∀ table ∈ tables, table.Pairwise (· < ·) ∧ -1 ∉ table)
    (his : Forall₂ (fun table i => i < table.length) tables is) :
    ∃ s, pickBySize (tables.zipWith (fun table i => table.getD i 0) is) (prepare sizes t).1 = some s ∧
      (walk tables.length is t = .ok (.pick s) ∨ ¬ full ∧ ∃ rules, walk tables.length is t = .ok (.split rules)) := by
  induction h generalizing is with
  | pick s => exact ⟨s, by cases his; rfl, .inl (by cases his; rfl)⟩
  | @split table tables front last hfront hlast hbelow ih =>
    have hover := Over.split hfront hlast hbelow
    obtain ⟨i, rest, hi, hrest, rfl⟩ := forall₂_cons_left_iff.mp his
    obtain ⟨hsorted, hsentinel⟩ := hrise table (by simp)
    have hnext := fun r hr => ih r hr hg.tail (fun own hown => hrise own (by simp [hown])) hrest
    have hfirst : (front.find? fun r => table.getD r.1.toNat 0 == -1 || table.getD i 0 ≤ table.getD r.1.toNat 0) =
        front.find? fun r => r.1 < 0 || (i : Int) ≤ r.1 := by
      rw [← head?_filter, ← head?_filter,
        filter_congr fun r hr => decides_eq hsorted hsentinel hi (hfront r hr)]
    rw [hover.prepare_split hg hfront fun r hr => (hbelow r hr).prepare_fault hg.tail]
    simp only [prepared, zipWith_cons_cons, length_cons, pickBySize, walk, decide?, find?_append,
      find?_map, Function.comp_def, hfirst]
    cases hr : front.find? fun r => r.1 < 0 || (i : Int) ≤ r.1 with
    | some r => simpa using hnext r (by simp [mem_of_find?_eq_some hr])
    | none =>
      obtain ⟨s, hs, hwalk⟩ := hnext last (by simp)
      by_cases hcover : last.1 < 0 ∨ (i : Int) ≤ last.1
      · simpa [hcover] using ⟨s, hs, hwalk⟩
      · have hshort := hover.walk_short (lt_succ_self tables.length) his.length_eq.le
        have hpartial : ¬ full := fun hf => by
          have hend := (hlast.resolve_left (by omega)).2.2 hf
          omega
        simpa [hcover] using ⟨s, hs, .inr ⟨hpartial, hshort⟩⟩

end RuleTree

namespace Performance

variable {σ : Type} {p : Performance σ}

/-- The tables of sizes in an order of the dimensions. -/
def tables (p : Performance σ) (order : Nats) : List Ints := order.map (p.sizes.getD · [])

lemma gives_tables {order : Nats} (horder : order.Perm (.range p.sizes.length)) :
    RuleTree.Gives (fun depth => match order[p.sizes.length - depth]? with
      | some i => match p.sizes[i]? with
        | some sizes => .ok sizes
        | none => .error .outOfRange
      | none => .error .outOfRange) (p.tables order) := by
  intro i table hi
  rw [tables, getElem?_map] at hi
  obtain ⟨j, hj, rfl⟩ := map_eq_some_iff.mp hi
  have hlen : order.length = p.sizes.length := by simpa using horder.length_eq
  have hlt : j < p.sizes.length := mem_range.mp (horder.mem_iff.mp (mem_of_getElem? hj))
  have hi' := (List.getElem?_eq_some_iff.mp hj).1
  have hpos : p.sizes.length - ((p.tables order).length - i) = i := by
    rw [tables, length_map]
    omega
  simp only [hpos, hj, getElem?_eq_getElem hlt, getD_eq_getElem?_getD, getD_some]

def twoByOne : Performance Unit := { solutions := [], sizes := [[16, 32], [64]], speeds := #[] }

/-- A level without thresholds and one with a rule for each size. -/
def twoLevels : RuleTree := .split [(-1, .split [(0, .pick 4), (1, .pick 7)])]

lemma twoLevels_over : RuleTree.Over True (twoByOne.tables [1, 0]) twoLevels := by
  have hinner : RuleTree.Over True [[16, 32]] (.split ([(0, .pick 4)] ++ [(1, .pick 7)])) :=
    .split (by decide) (by decide) (by simp [RuleTree.Over.pick])
  have houter : RuleTree.Over True [[64], [16, 32]] (.split ([] ++ [(-1, .split ([(0, .pick 4)] ++ [(1, .pick 7)]))])) :=
    .split (by simp) (.inl rfl) (by simpa using hinner)
  exact houter

end Performance

end TensorForge
