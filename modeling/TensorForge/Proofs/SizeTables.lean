import TensorForge.Library.SizeTable
import Mathlib.Data.List.Forall2

/-!
# Sizes and kernels of a table

Two operations change how a table is written without changing what it says: sizes lose their strides
(`trim`), and kernels that no size refers to are dropped while the others are renumbered
(`withoutUnused`). What a table says is read off through `served`, the speed and the kernel of an
entry without the fields that only number it.

Sizes are compared with the equality of values, which is an equivalence on the values that sizes are
made of.
-/

namespace TensorForge

open Bool List SizeEntry Table Value SizeKey

namespace Value

/-- Values that have no fraction and no parts. -/
def isExact : Value → Bool
  | .null => true
  | .bool _ => true
  | .int _ => true
  | .str _ => true
  | _ => false

/-- Truth values as the numbers that they are equal to. -/
def canonical : Value → Value
  | .bool b => .int (if b then 1 else 0)
  | v => v

lemma same_iff_canonical {a b : Value} (ha : a.isExact) (hb : b.isExact) :
    same a b ↔ a.canonical = b.canonical := by
  cases a <;> cases b <;> simp_all [isExact, same, canonical]
  next x y => cases x <;> cases y <;> decide

lemma same_int (a b : Int) : same (.int a) (.int b) = (a == b) := by
  rw [Bool.eq_iff_iff, same_iff_canonical rfl rfl]
  simp [canonical]

lemma same_str_iff {v : Value} {s : Text} : same v (.str s) ↔ v = .str s := by
  cases v <;> simp [same]

lemma sameItems_iff {α : Type} {f : Value → α} {xs ys : Values} (h : ∀ x ∈ xs, ∀ y ∈ ys, same x y ↔ f x = f y) :
    sameItems xs ys ↔ xs.map f = ys.map f := by
  induction xs generalizing ys with
  | nil => cases ys <;> simp [sameItems]
  | cons x xs ih =>
    cases ys with
    | nil => simp [sameItems]
    | cons y ys =>
      simp only [forall_mem_cons] at h
      simp only [sameItems, and_eq_true, map_cons, cons.injEq, h.1.1, ih fun x hx => (h.2 x hx).2]

end Value

namespace SizeKey

/-- A key whose components are compared without rounding. -/
def Exact (k : SizeKey) : Prop := ∀ v ∈ k.size, v.isExact

variable {a b c k : SizeKey}

lemma same_iff (ha : a.Exact) (hb : b.Exact) :
    a.same b ↔ a.kind = b.kind ∧ a.size.map canonical = b.size.map canonical := by
  simp only [same, and_eq_true, beq_iff_eq, sameItems_iff fun x hx y hy => same_iff_canonical (ha x hx) (hb y hy)]

lemma same_congr_right (ha : a.Exact) (hb : b.Exact) (hc : c.Exact) (h : a.same b) : c.same a = c.same b := by
  obtain ⟨h1, h2⟩ := (same_iff ha hb).mp h
  rw [Bool.eq_iff_iff, same_iff hc ha, same_iff hc hb, h1, h2]

lemma same_congr_left (ha : a.Exact) (hb : b.Exact) (hc : c.Exact) (h : a.same b) : a.same c = b.same c := by
  obtain ⟨h1, h2⟩ := (same_iff ha hb).mp h
  rw [Bool.eq_iff_iff, same_iff ha hc, same_iff hb hc, h1, h2]

lemma length_eq_of_same (ha : a.Exact) (hb : b.Exact) (h : a.same b) : a.length = b.length := by
  obtain ⟨h1, h2⟩ := (same_iff ha hb).mp h
  have hlen := congrArg List.length h2
  simp only [length_map] at hlen
  simp only [length, h1, hlen]

lemma not_same_of_isLong (ha : a.Exact) (hb : b.Exact) (hl : a.isLong) (hs : b.isLong = false) :
    a.same b = false := by
  rw [eq_false_iff]
  intro h
  simp only [isLong, length_eq_of_same ha hb h] at hl hs
  rw [hl] at hs
  cases hs

lemma Exact.trimmed (ha : a.Exact) : a.trimmed.Exact := by
  unfold SizeKey.trimmed
  split
  · exact fun v hv => ha v (mem_of_mem_take hv)
  · exact ha

lemma trimmed_of_not_isLong (h : a.isLong = false) : a.trimmed = a := by
  unfold trimmed
  rw [h]
  rfl

lemma not_same_trimmed (ha : a.Exact) (h : a.isLong) : a.same a.trimmed = false := by
  rw [eq_false_iff]
  intro hs
  have hlen := length_eq_of_same ha ha.trimmed hs
  simp only [isLong, decide_eq_true_eq] at h
  have hkind : (if a.kind.isSome then 1 else 0) ≤ 1 := by split <;> omega
  unfold trimmed at hlen
  rw [if_pos (by simpa [isLong] using h)] at hlen
  simp only [length, length_take] at h hlen
  omega

end SizeKey

namespace SizeEntry

/-- The entry with its size without strides. -/
def short (e : SizeEntry) : SizeEntry := { e with key := e.key.trimmed }

variable {e : SizeEntry}

lemma short_of_not_isLong (h : e.key.isLong = false) : e.short = e := by
  rw [short, trimmed_of_not_isLong h]

end SizeEntry

namespace SizeTable

variable (sizes : List SizeEntry)

/-- The entries that give a size without strides. -/
def plain (k : SizeKey) : List SizeEntry :=
  sizes.filter fun e => !e.key.isLong && e.key.same k

/-- The entries that stand for a size when its duplicates are dropped: those that give it without
strides, and if there are none the first that gives it with strides. -/
def standing (k : SizeKey) : List SizeEntry :=
  if (plain sizes k).isEmpty then (sizes.find? fun e => e.key.trimmed.same k).toList else plain sizes k

/-- All keys of entries are compared without rounding. -/
def ExactKeys : Prop := ∀ e ∈ sizes, e.key.Exact

section Trim

variable {k : SizeKey} {e : SizeEntry} {es : List SizeEntry} {before : List SizeKey}

lemma standing_cons_of_not_same (hp : plain (e :: es) k = plain es k)
    (h : e.key.trimmed.same k = false) : standing (e :: es) k = standing es k := by
  simp only [standing, hp, find?_cons, h]

lemma map_short_plain (es : List SizeEntry) (k : SizeKey) : (plain es k).map short = plain es k := by
  rw [map_congr_left (g := id), map_id]
  intro e he
  simp only [plain, mem_filter, and_eq_true, not_eq_true'] at he
  exact short_of_not_isLong he.2.1

/-- A size that no entry has with strides is given by each entry that has it. -/
lemma plain_eq_nil_iff (hs : ∀ o ∈ es, o.key.isLong → o.key.same k = false) :
    plain es k = [] ↔ es.any (fun o => o.key.same k) = false := by
  rw [plain, filter_eq_nil_iff, any_eq_false]
  refine forall₂_congr fun o ho => ?_
  cases hl : o.key.isLong <;> simp [hs o ho, hl]

lemma any_same_congr {α : Type} {l : List α} {f : α → SizeKey} {a : SizeKey} (ha : a.Exact) (hk : k.Exact)
    (hl : ∀ c ∈ l, (f c).Exact) (h : a.same k) : l.any (fun c => (f c).same a) = l.any fun c => (f c).same k := by
  rw [Bool.eq_iff_iff, any_eq_true, any_eq_true]
  exact exists_congr fun c => and_congr_right fun hc => by
    rw [same_congr_right ha hk (hl c hc) h]

/-- What trimming leaves for a size. Once the size was passed only entries without strides are left;
before that, those that stand for it. -/
lemma filter_trimFrom (hk : k.Exact) (hs : ∀ e ∈ es, e.key.isLong → e.key.same k = false)
    (hb : ∀ c ∈ before, c.Exact) (hes : ExactKeys es) :
    (trimFrom before es).filter (fun o => o.key.same k) =
      if before.any fun c => c.same k then plain es k else (standing es k).map short := by
  induction es generalizing before with
  | nil => simp [trimFrom, plain, standing]
  | cons e es ih =>
    obtain ⟨he, hes'⟩ := forall_mem_cons.mp hes
    obtain ⟨hse, hs⟩ := forall_mem_cons.mp hs
    have hrest (c : SizeKey) (hc : c.Exact) : (trimFrom (before ++ [c]) es).filter (fun o => o.key.same k) =
        if before.any (fun c => c.same k) || c.same k then plain es k else (standing es k).map short := by
      rw [ih hs (forall_mem_append.mpr ⟨hb, forall_mem_singleton.mpr hc⟩) hes', any_append, any_cons, any_nil,
        Bool.or_false]
    unfold trimFrom
    by_cases hl : e.key.isLong
    · have hlong : e.key.same k = false := hse hl
      have hplain : plain (e :: es) k = plain es k := by simp [plain, hl]
      simp only [hl, Bool.not_true, Bool.false_eq_true, if_false, hplain]
      by_cases hsame : e.key.trimmed.same k
      · -- the entry is for this size: it stays unless the size was passed or comes later
        rw [any_same_congr (f := fun c => c) he.trimmed hk hb hsame, not_same_trimmed he hl, Bool.or_false,
          any_same_congr he.trimmed hk hes' hsame]
        cases hB : before.any fun c => c.same k with
        | true =>
          rw [Bool.true_or, if_pos rfl, hrest _ he, hB]
          rfl
        | false =>
          cases hS : es.any fun o => o.key.same k with
          | true =>
            have hne : (plain es k).isEmpty = false := by
              rw [isEmpty_eq_false_iff, Ne, plain_eq_nil_iff hs, hS]
              decide
            rw [Bool.false_or, if_pos rfl, hrest _ he, hB, hlong, Bool.or_false]
            simp only [standing, hplain, hne, Bool.false_eq_true, if_false]
          | false =>
            have hnil := (plain_eq_nil_iff hs).mpr hS
            rw [if_neg (by decide), filter_cons, hrest _ he.trimmed]
            simp only [hsame, Bool.or_true, hnil, standing, hplain, find?_cons]
            rfl
      · -- the entry is for another size
        rw [Bool.not_eq_true] at hsame
        rw [standing_cons_of_not_same hplain hsame]
        split
        · rw [hrest _ he, hlong, Bool.or_false]
        · rw [filter_cons, if_neg (by simpa using hsame), hrest _ he.trimmed, hsame, Bool.or_false]
    · rw [Bool.not_eq_true] at hl
      simp only [hl, Bool.not_false, if_true]
      have htrim : e.key.trimmed = e.key := trimmed_of_not_isLong hl
      by_cases hsame : e.key.same k
      · rw [filter_cons, hrest _ he]
        have hplain : plain (e :: es) k = e :: plain es k := by simp [plain, hl, hsame]
        simp only [hsame, Bool.or_true, if_true, standing, hplain, isEmpty_cons, Bool.false_eq_true, if_false, map_cons, map_short_plain,
          short_of_not_isLong hl, ite_self]
      · rw [Bool.not_eq_true] at hsame
        have hplain : plain (e :: es) k = plain es k := by simp [plain, hsame]
        rw [filter_cons, if_neg (by simpa using hsame), hrest _ he, hsame, Bool.or_false, hplain,
          standing_cons_of_not_same hplain (by rw [htrim]; exact hsame)]

/-- For a size without strides trimming leaves the entries that stand for it. -/
lemma filter_trim (hk : k.Exact) (hs : k.isLong = false) (hes : ExactKeys es) :
    (trim es).filter (fun o => o.key.same k) = (standing es k).map short :=
  filter_trimFrom hk (fun e he hl => not_same_of_isLong (hes e he) hk hl hs) nofun hes

lemma mem_of_mem_standing (h : e ∈ standing es k) : e ∈ es := by
  unfold standing at h
  split at h
  · exact mem_of_find?_eq_some (Option.mem_toList.mp h)
  · exact (mem_filter.mp h).1

lemma plain_sublist (es : List SizeEntry) (k : SizeKey) :
    (plain es k).Sublist (es.filter fun o => o.key.trimmed.same k) := by
  refine monotone_filter_right es fun o ho => ?_
  simp only [and_eq_true, not_eq_true'] at ho
  rw [trimmed_of_not_isLong ho.1]
  exact ho.2

lemma standing_ne_nil (he : e ∈ es) (h : e.key.trimmed.same k) : standing es k ≠ [] := by
  unfold standing
  split
  · have hsome : (es.find? fun o => o.key.trimmed.same k).isSome := find?_isSome.mpr ⟨e, he, h⟩
    obtain ⟨o, ho⟩ := Option.isSome_iff_exists.mp hsome
    simp [ho]
  · next hne => simpa using hne

lemma standing_of_single (h : (es.filter fun o => o.key.trimmed.same k).length ≤ 1) :
    standing es k = es.filter fun o => o.key.trimmed.same k := by
  unfold standing
  split
  · rw [← head?_filter]
    generalize es.filter (fun o => o.key.trimmed.same k) = given at h
    match given with
    | [] => rfl
    | [o] => rfl
    | o :: o' :: rest => simp at h
  · next hne =>
    refine (plain_sublist es k).eq_of_length_le ?_
    have : 0 < (plain es k).length := length_pos_iff.mpr (by simpa using hne)
    omega

/-- Trimming drops entries and strides, and nothing else. -/
lemma trimFrom_sublist (before : List SizeKey) (es : List SizeEntry) :
    (trimFrom before es).Sublist (es.map short) := by
  induction es generalizing before with
  | nil => exact .slnil
  | cons e es ih =>
    unfold trimFrom
    rw [map_cons]
    by_cases hl : e.key.isLong
    · simp only [hl, Bool.not_true, false_eq_true, if_false]
      split
      · exact (ih _).cons _
      · exact (ih _).cons_cons _
    · rw [not_eq_true] at hl
      simp only [hl, short_of_not_isLong hl]
      exact (ih _).cons_cons _

/-- Among entries whose sizes without strides are distinct one stands for each size. -/
lemma standing_eq_singleton (hk : k.Exact) (hes : ExactKeys es)
    (hd : (es.filter (!·.key.isLong)).Pairwise fun a b => a.key.same b.key = false) (he : e ∈ es)
    (h : e.key.trimmed.same k) : ∃ o, standing es k = [o] := by
  rcases hst : standing es k with _ | ⟨a, _ | ⟨b, l⟩⟩
  · exact absurd hst (standing_ne_nil he h)
  · exact ⟨a, rfl⟩
  · unfold standing at hst
    split at hst
    · cases hf : es.find? fun e => e.key.trimmed.same k <;> simp [hf] at hst
    · -- two entries without strides for one size
      have hmem : ∀ o ∈ plain es k, o.key.Exact ∧ o.key.same k := by simp +contextual [plain, hes _]
      have hpair := hd.filter (·.key.same k)
      simp only [filter_filter, Bool.and_comm] at hpair
      rw [plain] at hst hmem
      rw [hst] at hpair hmem
      obtain ⟨⟨ha, hak⟩, ⟨hb, hbk⟩, -⟩ := by simpa using hmem
      have hab := rel_of_pairwise_cons hpair mem_cons_self
      rw [same_congr_right hb hk ha hbk, hak] at hab
      cases hab

/-- Where no size with strides is another one's size without them, trimming keeps each size once. -/
theorem trim_each_once (hes : ExactKeys es)
    (hd : (es.filter (!·.key.isLong)).Pairwise fun a b => a.key.same b.key = false)
    (hl : ∀ a ∈ es, ∀ b ∈ es, a.key.isLong → a.key.same b.key.trimmed = false) :
    (trim es).Sublist (es.map short) ∧
      ∀ e ∈ es, ∃ o ∈ es, (trim es).filter (fun o => o.key.same e.key.trimmed) = [o.short] := by
  refine ⟨trimFrom_sublist [] es, fun e he => ?_⟩
  have hk := (hes e he).trimmed
  obtain ⟨o, ho⟩ := standing_eq_singleton hk hes hd he ((SizeKey.same_iff hk hk).mpr ⟨rfl, rfl⟩)
  refine ⟨o, mem_of_mem_standing (k := e.key.trimmed) (by simp [ho]), ?_⟩
  rw [trim, filter_trimFrom hk (fun a ha => hl a ha e he) (by simp) hes, ho]
  rfl

/-- A size of the first numbers, its strides behind it. -/
def sized (n : Nat) : SizeEntry := ⟨{ size := (List.range n).map fun i => .int i }, n, .null⟩

theorem trim_strided : ∃ o ∈ [sized 8, sized 4], (trim [sized 8, sized 4]).filter (fun o => o.key.same (sized 4).key.trimmed) = [o.short] :=
  (trim_each_once (by unfold ExactKeys SizeKey.Exact; decide) (by decide) (by decide)).2 (sized 4) (by simp)

end Trim

end SizeTable

namespace Table

variable (t : Table) (key : Text) (v : Value)

lemma get?_cons (k w : Value) : get? ((k, w) :: t) key = if same k (.str key) then some w else get? t key := rfl

lemma set_cons (k w : Value) :
    set ((k, w) :: t) key v = if same k (.str key) then (k, v) :: t else (k, w) :: set t key v := rfl

lemma get?_set : (t.set key v).get? key = some v := by
  induction t with
  | nil => simp [set, put, get?, find?, same_str_iff]
  | cons e t ih =>
    obtain ⟨k, w⟩ := e
    rw [set_cons]
    by_cases h : same k (.str key)
    · rw [if_pos h, get?_cons, if_pos h]
    · rw [if_neg h, get?_cons, if_neg h, ih]

lemma get?_set_of_ne {other : Text} (h : other ≠ key) : (t.set key v).get? other = t.get? other := by
  induction t with
  | nil => simp [set, put, get?, find?, same_str_iff, h.symm]
  | cons e t ih =>
    obtain ⟨k, w⟩ := e
    rw [set_cons]
    split
    · next hk =>
      obtain rfl := same_str_iff.mp hk
      simp [get?_cons, same_str_iff, h.symm]
    · rw [get?_cons, get?_cons, ih]

lemma set_eq_self (h : t.get? key = some v) : t.set key v = t := by
  induction t with
  | nil => cases h
  | cons e t ih =>
    rw [get?_cons] at h
    rw [set_cons]
    split at h
    · cases h
      simp_all
    · simp_all

lemma erase_set : (t.set key v).erase (.str key) = t.erase (.str key) := by
  induction t with
  | nil => simp [set, put, erase, same_str_iff]
  | cons e t ih =>
    obtain ⟨k, w⟩ := e
    simp only [erase] at ih
    rw [set_cons]
    by_cases h : same k (.str key) <;> simp [erase, h, ih]

lemma erase_comm (a b : Value) : (t.erase a).erase b = (t.erase b).erase a := by
  simp only [erase, filter_filter, Bool.and_comm]

lemma erase_erase (a : Value) : (t.erase a).erase a = t.erase a := by
  simp only [erase, filter_filter, Bool.and_self]

lemma mem_set {e : Value × Value} (h : e ∈ t.set key v) : e ∈ t ∨ same e.1 (.str key) := by
  induction t with
  | nil =>
    rw [set, put, mem_singleton] at h
    exact .inr (same_str_iff.mpr (by rw [h]))
  | cons d t ih =>
    rw [set_cons] at h
    split at h
    · next hk =>
      rcases mem_cons.mp h with rfl | h
      · exact .inr hk
      · exact .inl (by simp [h])
    · rcases mem_cons.mp h with rfl | h
      · exact .inl (by simp)
      · exact (ih h).imp (by simp +contextual) id

lemma get?_erase {other : Text} (h : other ≠ key) : (t.erase (.str other)).get? key = t.get? key := by
  induction t with
  | nil => rfl
  | cons e t ih =>
    obtain ⟨k, w⟩ := e
    simp only [erase] at ih
    have hne : same k (.str other) → same k (.str key) = false := by
      rw [same_str_iff, eq_false_iff, Ne, same_str_iff]
      rintro rfl
      simpa using h
    rw [get?_cons, erase, filter_cons]
    by_cases ho : same k (.str other)
    · simp only [ho, hne ho]
      exact ih
    · simp only [ho, Bool.not_false, if_true, get?_cons, ih]

end Table

namespace SizeTable

abbrev indexKey : Value := .str "SolutionIndex"

abbrev markKey : Value := .str "__InUse__"

variable (kernel : Table)

/-- A kernel without the fields that number and mark it. -/
def bare : Table := (kernel.erase indexKey).erase markKey

/-- Kernels are equal as they stand or by the equality of values. -/
def Alike (a b : Table) : Prop := a = b ∨ same (.dict a) (.dict b)

lemma bare_withIndex (n : Nat) : bare (withIndex kernel n) = bare kernel := by
  rw [bare, withIndex, erase_set, bare]

lemma bare_erase_mark : bare (kernel.erase markKey) = bare kernel := by
  rw [bare, erase_comm, erase_erase, erase_comm, bare]

def Unmarked : Prop := ∀ e ∈ kernel, same e.1 markKey = false

lemma unmarked_erase (kernel : Table) : Unmarked (kernel.erase markKey) := by
  intro e he
  simpa using (mem_filter.mp he).2

variable {kernel : Table} (kernels : Tables)

lemma Unmarked.erase_eq (h : Unmarked kernel) : kernel.erase markKey = kernel := by
  rw [erase, filter_eq_self]
  intro e he
  simp [h e he]

lemma Unmarked.bare_eq (h : Unmarked kernel) : bare kernel = kernel.erase indexKey := by
  rw [bare, erase_comm, h.erase_eq]

lemma Unmarked.withIndex (h : Unmarked kernel) (n : Nat) : Unmarked (withIndex kernel n) := by
  intro e he
  rcases mem_set kernel SI (.int n) he with he | he
  · exact h e he
  · rw [same_str_iff.mp he]
    simp [eq_false_iff, same_str_iff, SI]

def Numbered : Prop :=
  ∀ (i : Nat) (kernel : Table), kernels[i]? = some kernel →
    kernel.get? SI = some (.int i)

def Resolved (sizes : List SizeEntry) : Prop :=
  ∀ e ∈ sizes, 0 ≤ e.kernel ∧ e.kernel < kernels.length

/-- The speed of an entry and its kernel. -/
def served (e : SizeEntry) : Value × Table :=
  (e.speed, bare (kernels.getD e.kernel.toNat []))

/-- What entries say: for each size a speed and a kernel. -/
def viewOf (sizes : List SizeEntry) : List (SizeKey × Value × Table) :=
  sizes.map fun e => (e.key, served kernels e)

lemma getElem?_renumber (i : Nat) : (renumber kernels)[i]? = kernels[i]?.map (withIndex · i) := getElem?_mapIdx

lemma numbered_renumber : Numbered (renumber kernels) := by
  intro i kernel h
  rw [getElem?_renumber, Option.map_eq_some_iff] at h
  obtain ⟨k, -, rfl⟩ := h
  rw [withIndex, get?_set]

variable {kernels : Tables} {t : SizeTable}

lemma indexOf_of_numbered (h : Numbered kernels) {i : Nat}
    (hk : kernels[i]? = some kernel) : indexOf kernel = .ok (.int i) := by
  rw [indexOf, h i kernel hk]

lemma mapM_ok {α β ε : Type} {f : α → Except ε β} {g : α → β} {l : List α}
    (h : ∀ a ∈ l, f a = .ok (g a)) : l.mapM f = .ok (l.map g) := by
  induction l with
  | nil => rfl
  | cons a l ih =>
    rw [mapM_cons, h a (by simp), ih fun b hb => h b (by simp [hb])]
    rfl

/-- Each kernel has a number of its own, and each entry has the number of a kernel. -/
structure Linked (t : SizeTable) : Prop where
  number : ∀ k ∈ t.kernels, ∃ n : Int, k.get? SI = some (.int n)
  apart : (t.kernels.map (·.get? SI)).Nodup
  found : ∀ e ∈ t.sizes, ∃ k ∈ t.kernels, k.get? SI = some (.int e.kernel)

/-- Whether some size refers to a kernel. -/
def isUsed (t : SizeTable) (kernel : Table) : Bool := t.sizes.any fun e => (kernel.get? SI).any (same e.kernel)

lemma isUsed_iff {n : Int} (h : kernel.get? SI = some (.int n)) : t.isUsed kernel ↔ ∃ e ∈ t.sizes, e.kernel = n := by
  simp [isUsed, h, same_int]

lemma marked_eq (h : ∀ k ∈ t.kernels, ∃ n : Int, k.get? SI = some (.int n)) :
    t.marked = .ok (t.kernels.map fun k => (k, t.isUsed k)) := by
  refine mapM_ok fun k hk => ?_
  obtain ⟨n, hn⟩ := h k hk
  simp [indexOf, hn, isUsed, bind, Except.bind, pure, Except.pure]

/-- The kernels that sizes refer to, without marks. -/
def keptKernels (t : SizeTable) : Tables := (t.kernels.filter t.isUsed).map (·.erase markKey)

lemma get?_index_erase_mark : (kernel.erase markKey).get? SI = kernel.get? SI := get?_erase kernel SI (by decide)

/-- A kept kernel is found by its old number. -/
lemma newNumber_kept (h : Linked t) {i : Nat} {n : Int} (hi : t.keptKernels[i]? = some kernel)
    (hn : kernel.get? SI = some (.int n)) : newNumber t.keptKernels n = .ok (i : Int) := by
  have hnumber : ∀ k ∈ t.keptKernels, ∃ n : Int, k.get? SI = some (.int n) := by
    refine forall_mem_map.mpr fun k hk => ?_
    rw [get?_index_erase_mark]
    exact h.number k (mem_filter.mp hk).1
  have hapart : (t.keptKernels.map (·.get? SI)).Nodup := by
    simp only [keptKernels, map_map, Function.comp_def, get?_index_erase_mark]
    exact h.apart.sublist (filter_sublist.map _)
  let carries : Table × Nat → Bool := fun x => (x.1.get? SI).any (·.same n)
  obtain ⟨⟨k, j⟩, hfound⟩ : ∃ x, t.keptKernels.zipIdx.reverse.find? carries = some x :=
    Option.isSome_iff_exists.mp (find?_isSome.mpr
      ⟨(kernel, i), mem_reverse.mpr (mem_zipIdx_iff_getElem?.mpr hi), by simp [carries, hn, same_int]⟩)
  have hk := mem_zipIdx_iff_getElem?.mp (mem_reverse.mp (mem_of_find?_eq_some hfound))
  obtain ⟨m, hm⟩ := hnumber k (mem_of_getElem? hk)
  have hsame := find?_some hfound
  simp only [carries, hm, Option.any_some, same_int, beq_iff_eq] at hsame
  have hlt := (List.getElem?_eq_some_iff.mp hi).1
  have hj : i = j := (getElem?_inj (by simpa using hlt) hapart).mp (by simp_all)
  rw [newNumber, hfound, hj]

lemma served_eq (h : kernels[e.kernel.toNat]? = some kernel) : served kernels e = (e.speed, bare kernel) := by
  rw [served, getD_eq_getElem?_getD, h]
  rfl

/-- Each entry of the table that is left has the place of its kernel among the kept ones. -/
lemma withoutUnused_eq (h : Linked t) : ∃ num : SizeEntry → Nat,
    t.withoutUnused =
      .ok { t with kernels := renumber t.keptKernels, sizes := t.sizes.map fun e => { e with kernel := num e } } ∧
    ∀ e ∈ t.sizes, ∃ k ∈ t.kernels, k.get? SI = some (.int e.kernel) ∧
      t.keptKernels[num e]? = some (k.erase markKey) := by
  have hplace : ∀ e ∈ t.sizes, ∃ i : Nat, ∃ k ∈ t.kernels, k.get? SI = some (.int e.kernel) ∧
      t.keptKernels[i]? = some (k.erase markKey) := by
    intro e he
    obtain ⟨k, hk, hn⟩ := h.found e he
    have hkept : k.erase markKey ∈ t.keptKernels :=
      mem_map_of_mem (mem_filter.mpr ⟨hk, (isUsed_iff hn).mpr ⟨e, he, rfl⟩⟩)
    obtain ⟨i, hi⟩ := getElem?_of_mem hkept
    exact ⟨i, k, hk, hn, hi⟩
  choose! num hnum using hplace
  refine ⟨num, ?_, hnum⟩
  have hsizes : (t.sizes.mapM fun e => do return { e with kernel := ← newNumber t.keptKernels e.kernel }) =
      .ok (t.sizes.map fun e => { e with kernel := (num e : Int) }) := by
    refine mapM_ok fun e he => ?_
    obtain ⟨k, -, hn, hi⟩ := hnum e he
    rw [newNumber_kept h hi (get?_index_erase_mark.trans hn)]
    rfl
  have hkept : ((t.kernels.map fun k => (k, t.isUsed k)).filter (·.2)).map (·.1.erase markKey) = t.keptKernels := by
    rw [filter_map, map_map]
    rfl
  unfold withoutUnused
  rw [marked_eq h.number]
  simp only [bind, Except.bind] at hsizes ⊢
  rw [hkept, hsizes]
  rfl

lemma Numbered.number (h : Numbered kernels) : ∀ k ∈ kernels, ∃ n : Int, k.get? SI = some (.int n) := by
  intro k hk
  obtain ⟨i, hi⟩ := getElem?_of_mem hk
  exact ⟨i, h i k hi⟩

lemma linked_of_numbered (hn : Numbered t.kernels) (hr : Resolved t.kernels t.sizes) : Linked t where
  number := hn.number
  apart := by
    refine pairwise_iff_getElem.mpr fun i j hi hj hij => ?_
    simp only [getElem_map, hn _ _ (getElem?_eq_getElem _), ne_eq, Option.some.injEq, int.injEq]
    omega
  found e he := by
    obtain ⟨hlo, hhi⟩ := hr e he
    have hk := getElem?_eq_getElem (l := t.kernels) (i := e.kernel.toNat) (by omega)
    exact ⟨_, mem_of_getElem? hk, by rw [hn _ _ hk, Int.toNat_of_nonneg hlo]⟩

lemma unmarked_kept : ∀ k ∈ renumber t.keptKernels, Unmarked k := by
  intro k hk
  obtain ⟨i, hi⟩ := getElem?_of_mem hk
  rw [getElem?_renumber, Option.map_eq_some_iff] at hi
  obtain ⟨k', hk', rfl⟩ := hi
  obtain ⟨k, -, rfl⟩ := mem_map.mp (mem_of_getElem? hk')
  exact (unmarked_erase k).withIndex i

/-- Dropping the kernels that no size refers to leaves what a table says. -/
lemma withoutUnused_ok (hn : Numbered t.kernels) (hr : Resolved t.kernels t.sizes) :
    ∃ t', t.withoutUnused = .ok t' ∧ Numbered t'.kernels ∧ Resolved t'.kernels t'.sizes ∧
      (∀ k ∈ t'.kernels, Unmarked k) ∧ t'.fields = t.fields ∧
      viewOf t'.kernels t'.sizes = viewOf t.kernels t.sizes := by
  obtain ⟨num, hrun, hnum⟩ := withoutUnused_eq (linked_of_numbered hn hr)
  refine ⟨_, hrun, numbered_renumber _, forall_mem_map.mpr fun e he => ?_, unmarked_kept, rfl, ?_⟩
  · obtain ⟨k, -, -, hi⟩ := hnum e he
    have := (List.getElem?_eq_some_iff.mp hi).1
    simp only [renumber, length_mapIdx]
    omega
  · rw [viewOf, map_map]
    refine map_congr_left fun e he => ?_
    obtain ⟨k, hk, hindex, hi⟩ := hnum e he
    obtain ⟨i, hik⟩ := getElem?_of_mem hk
    have hplace : t.kernels[e.kernel.toNat]? = some k := by
      have := hindex.symm.trans (hn i k hik)
      simp_all
    have hnew : (renumber t.keptKernels)[((num e : Int)).toNat]? = some (withIndex (k.erase markKey) (num e)) := by
      rw [Int.toNat_natCast, getElem?_renumber, hi]
      rfl
    simp only [Function.comp, served_eq (e := { e with kernel := num e }) hnew, served_eq hplace, bare_withIndex,
      bare_erase_mark]

/-- A table whose kernels are numbered by their places and all in use stays as it is. -/
lemma withoutUnused_eq_self (hn : Numbered t.kernels) (hr : Resolved t.kernels t.sizes)
    (hu : ∀ k ∈ t.kernels, Unmarked k ∧ t.isUsed k) : t.withoutUnused = .ok t := by
  obtain ⟨num, hrun, hnum⟩ := withoutUnused_eq (linked_of_numbered hn hr)
  have hkept : t.keptKernels = t.kernels := by
    rw [keptKernels, filter_eq_self.mpr fun k hk => (hu k hk).2]
    exact (map_congr_left fun k hk => (hu k hk).1.erase_eq).trans (map_id _)
  have hrenumber : renumber t.kernels = t.kernels := by
    refine List.ext_getElem? fun i => ?_
    rw [getElem?_renumber]
    cases hi : t.kernels[i]? with
    | none => rfl
    | some k => exact congrArg some (set_eq_self k SI _ (hn i k hi))
  have hsizes : t.sizes.map (fun e => { e with kernel := (num e : Int) }) = t.sizes := by
    refine (map_congr_left fun e he => ?_).trans (map_id _)
    obtain ⟨k, hk, hindex, hi⟩ := hnum e he
    rw [hkept, (hu k hk).1.erase_eq] at hi
    have hnumber : e.kernel = num e := by simpa using hindex.symm.trans (hn _ k hi)
    rw [← hnumber]
    rfl
  rw [hrun, hkept, hrenumber, hsizes]

/-- Dropping unused kernels keeps those that sizes refer to, and does nothing the second time. -/
theorem withoutUnused_keeps_referenced (h : Linked t) : ∃ t', t.withoutUnused = .ok t' ∧ t'.fields = t.fields ∧
    t'.kernels = renumber ((t.kernels.filter t.isUsed).map (·.erase markKey)) ∧ Numbered t'.kernels ∧
    (∀ k ∈ t'.kernels, Unmarked k) ∧ Forall₂ (fun e e' => e'.key = e.key ∧ e'.speed = e.speed ∧
      ∃ k ∈ t.kernels, k.get? SI = some (.int e.kernel) ∧
        ∃ k' ∈ t'.kernels, k'.get? SI = some (.int e'.kernel) ∧ bare k' = bare k) t.sizes t'.sizes ∧
    t'.withoutUnused = .ok t' := by
  obtain ⟨num, hrun, hnum⟩ := withoutUnused_eq h
  have hat {e : SizeEntry} {k : Table} (hi : t.keptKernels[num e]? = some (k.erase markKey)) :
      (renumber t.keptKernels)[num e]? = some (withIndex (k.erase markKey) (num e)) := by
    rw [getElem?_renumber, hi]
    rfl
  refine ⟨_, hrun, rfl, rfl, numbered_renumber _, unmarked_kept, ?_, withoutUnused_eq_self (numbered_renumber _) ?_ ?_⟩
  · refine forall₂_map_right_iff.mpr (forall₂_same.mpr fun e he => ⟨rfl, rfl, ?_⟩)
    obtain ⟨k, hk, hindex, hi⟩ := hnum e he
    exact ⟨k, hk, hindex, _, mem_of_getElem? (hat hi), get?_set .., by rw [bare_withIndex, bare_erase_mark]⟩
  · refine forall_mem_map.mpr fun e he => ?_
    obtain ⟨k, -, -, hi⟩ := hnum e he
    have := (List.getElem?_eq_some_iff.mp (hat hi)).1
    dsimp only
    omega
  · refine fun k hk => ⟨unmarked_kept k hk, ?_⟩
    obtain ⟨i, hi⟩ := getElem?_of_mem hk
    rw [isUsed_iff (numbered_renumber _ i k hi)]
    rw [getElem?_renumber, Option.map_eq_some_iff] at hi
    obtain ⟨k', hk', -⟩ := hi
    obtain ⟨k, hmem, rfl⟩ := mem_map.mp (mem_of_getElem? hk')
    obtain ⟨n, hn⟩ := h.number k (mem_filter.mp hmem).1
    obtain ⟨e, he, rfl⟩ := (isUsed_iff hn).mp (mem_filter.mp hmem).2
    obtain ⟨o, -, ho, hplace⟩ := hnum e he
    -- both are the place at which the old number is found
    have := (newNumber_kept h hk' (get?_index_erase_mark.trans hn)).symm.trans
      (newNumber_kept h hplace (get?_index_erase_mark.trans ho))
    exact ⟨_, mem_map_of_mem he, by simp_all⟩

/-- One kernel in use, which has a field by the name of the mark. -/
def oneUsed : SizeTable where
  fields := []
  kernels := [[(indexKey, .int 7)], [(indexKey, .int 3), (markKey, .null)]]
  sizes := [⟨{ size := [] }, 3, .null⟩]

lemma linked_oneUsed : Linked oneUsed := by
  constructor <;> simp [oneUsed, Table.get?_cons, same_str_iff]

theorem withoutUnused_oneUsed : ∃ t', oneUsed.withoutUnused = .ok t' ∧ t'.withoutUnused = .ok t' := by
  obtain ⟨t', hrun, -, -, -, -, -, hagain⟩ := withoutUnused_keeps_referenced linked_oneUsed
  exact ⟨t', hrun, hagain⟩

/-- The field is lost with the mark. -/
theorem withoutUnused_drops_field : Linked oneUsed ∧ oneUsed.withoutUnused = .ok { oneUsed with
    kernels := [[(indexKey, .int 0)]], sizes := [⟨{ size := [] }, 0, .null⟩] } :=
  ⟨linked_oneUsed, rfl⟩

end SizeTable

end TensorForge
