import Mathlib.Algebra.Order.Field.Rat
import Mathlib.Algebra.Order.Monoid.WithTop
import Mathlib.Data.List.Perm.Basic
import Mathlib.Tactic.IntervalCases
import TensorForge.Proofs.SizeRanges
import TensorForge.Tuning.Performance

/-!
# Rules that pick the fastest solution

The rules built for a grid decide for every point, and where some solution was measured they pick one
that no other beats. Main statements: `Covers.extend`, what one more index does to the rules of a level;
`level_settles`, what a whole level says; `build_settles`, what a tree says about every point of its box;
and `rules_pick_fastest`, that with exact times it picks a fastest solution.

A box whose solutions are all alike has no rules of its own. There any choice is right, so the rules
beside it can be extended over it.
-/

namespace TensorForge

open Bool Box List Nat RuleTree

namespace RuleTree

mutual

lemma eq_of_same : ∀ {t u : RuleTree}, same t u → t = u
  | .pick s, .pick s', h => by
    rw [same, beq_iff_eq] at h
    rw [h]
  | .split rules, .split rules', h => by
    rw [eq_of_sameRules h]
  | .pick _, .split _, h => by simp [same] at h
  | .split _, .pick _, h => by simp [same] at h

lemma eq_of_sameRules : ∀ {rules rules' : List (Int × RuleTree)}, sameRules rules rules' → rules = rules'
  | [], [], _ => rfl
  | (i, t) :: rest, (i', t') :: rest', h => by
    simp only [sameRules, and_eq_true, beq_iff_eq] at h
    rw [h.1.1, eq_of_same h.1.2, eq_of_sameRules h.2]
  | [], _ :: _, h => by simp [sameRules] at h
  | _ :: _, [], h => by simp [sameRules] at h

end

lemma decide?_concat (i m : Nat) (rules : List (Int × RuleTree)) (t : RuleTree) :
    decide? i (rules ++ [((m : Int), t)]) = (decide? i rules).or (if i ≤ m then some t else none) := by
  have hm : ¬((m : Int) < 0) := by omega
  unfold decide?
  rw [find?_append]
  cases rules.find? fun r => r.1 < 0 || (i : Int) ≤ r.1 with
  | some r => rfl
  | none => simp [hm]

variable {rules : List (Int × RuleTree)} (Fit : RuleTree → Prop)

lemma decide?_eq_none {i : Nat} (h : ∀ r ∈ rules, 0 ≤ r.1 ∧ r.1 < (i : Int)) : decide? i rules = none := by
  rw [decide?, Option.map_eq_none_iff, find?_eq_none]
  intro r hr
  have := h r hr
  simp
  omega

/-- What the choice at an index says, where `Fit` are the trees that may stand at a level and `Right` those
that are right at an index: without a choice every tree that fits is right. -/
def Settles (Right : Nat → RuleTree → Prop) (i : Nat) : Option RuleTree → Prop
  | none => ∀ t, Fit t → Right i t
  | some t => Fit t ∧ Right i t

/-- Rules with rising thresholds that decide rightly for each index from `lo` to `m`. -/
structure Covers (Right : Nat → RuleTree → Prop) (lo m : Nat) (rules : List (Int × RuleTree)) : Prop where
  last : ∃ front t, rules = front ++ [((m : Int), t)]
  rising : rules.Pairwise fun a b => a.1 < b.1
  nonneg : ∀ r ∈ rules, 0 ≤ r.1
  fit : ∀ r ∈ rules, Fit r.2
  decides : ∀ i, lo ≤ i → i ≤ m → ∃ t, decide? i rules = some t ∧ Right i t

section Level

variable {Fit : RuleTree → Prop} {Right : Nat → RuleTree → Prop} {lo m : Nat} {rules : List (Int × RuleTree)}
  {t : RuleTree}

/-- Rules with a last one for all indices up to `m` that those before it leave. -/
lemma covers_concat (hrising : rules.Pairwise fun a b => a.1 < b.1)
    (hlt : ∀ r ∈ rules, 0 ≤ r.1 ∧ r.1 < (m : Int)) (hfit : ∀ r ∈ rules, Fit r.2) (hf : Fit t) (hm : Right m t)
    (hdec : ∀ i, lo ≤ i → i < m → ∃ u, (decide? i rules).or (some t) = some u ∧ Right i u) :
    Covers Fit Right lo m (rules ++ [((m : Int), t)]) := by
  refine ⟨⟨rules, t, rfl⟩, pairwise_append.mpr ⟨hrising, pairwise_singleton _ _, ?_⟩,
    forall_mem_append.mpr ⟨fun r hr => (hlt r hr).1, by simp⟩, forall_mem_append.mpr ⟨hfit, by simpa⟩,
    fun i hlo hi => ?_⟩
  · intro r hr s hs
    rw [mem_singleton.mp hs]
    exact (hlt r hr).2
  · rw [decide?_concat, if_pos hi]
    rcases eq_or_lt_of_le hi with rfl | him
    · exact ⟨t, by rw [decide?_eq_none hlt]; rfl, hm⟩
    · exact hdec i hlo him

lemma covers_single (hf : Fit t) (hr : Right lo t) : Covers Fit Right lo lo [((lo : Int), t)] :=
  covers_concat .nil nofun nofun hf hr fun i hlo hhi => by omega

variable {front : List (Int × RuleTree)}

lemma Covers.front_lt (h : Covers Fit Right lo m (front ++ [((m : Int), t)])) :
    ∀ r ∈ front, 0 ≤ r.1 ∧ r.1 < (m : Int) := by
  intro r hr
  refine ⟨h.nonneg r (by simp [hr]), ?_⟩
  exact (pairwise_append.mp h.rising).2.2 r hr ((m : Int), t) (by simp)

/-- The last rule also holds at the next index, if its tree is right there. -/
lemma Covers.stretch (h : Covers Fit Right lo m (front ++ [((m : Int), t)])) (hr : Right (m + 1) t) :
    Covers Fit Right lo (m + 1) (front ++ [(((m + 1 : Nat) : Int), t)]) := by
  have hlt : ∀ r ∈ front, 0 ≤ r.1 ∧ r.1 < ((m + 1 : Nat) : Int) := fun r hr => by
    have := h.front_lt r hr
    omega
  refine covers_concat (pairwise_append.mp h.rising).1 hlt (fun r hr => h.fit r (by simp [hr]))
    (h.fit ((m : Int), t) (by simp)) hr fun i hlo hi => ?_
  obtain ⟨u, hu, hright⟩ := h.decides i hlo (by omega)
  rw [decide?_concat, if_pos (by omega)] at hu
  exact ⟨u, hu, hright⟩

lemma Covers.append (h : Covers Fit Right lo m rules) (hf : Fit t) (hr : Right (m + 1) t) :
    Covers Fit Right lo (m + 1) (rules ++ [(((m + 1 : Nat) : Int), t)]) := by
  have hlt : ∀ r ∈ rules, 0 ≤ r.1 ∧ r.1 < ((m + 1 : Nat) : Int) := by
    obtain ⟨front, u, rfl⟩ := h.last
    refine forall_mem_append.mpr ⟨fun r hr => ?_, by simp⟩
    have := h.front_lt r hr
    omega
  refine covers_concat h.rising hlt h.fit hf hr fun i hlo hi => ?_
  obtain ⟨u, hu, hright⟩ := h.decides i hlo (by omega)
  exact ⟨u, by rw [hu]; rfl, hright⟩

/-- One step: rules that cover a range cover one more index when the choice there is added. -/
lemma Covers.extend (h : Covers Fit Right lo m rules) {choice : Option RuleTree}
    (hc : Settles Fit Right (m + 1) choice) : Covers Fit Right lo (m + 1) (extend rules (m + 1) choice) := by
  obtain ⟨front, u, rfl⟩ := h.last
  have hu : Fit u := h.fit ((m : Int), u) (by simp)
  cases choice with
  | none =>
    simp only [extend, getLast?_concat, dropLast_concat]
    exact h.stretch (hc u hu)
  | some t =>
    obtain ⟨hf, hr⟩ := hc
    simp only [extend, getLast?_concat, dropLast_concat]
    split
    · next htu => exact h.stretch (eq_of_same htu ▸ hr)
    · exact h.append hf hr

variable {choice : Nat → Except Fault (Option RuleTree)}

/-- The run: rules that cover a range are extended over the indices behind it. -/
lemma Covers.foldlM (n : Nat) (h : Covers Fit Right lo m rules)
    (hc : ∀ i, m < i → i ≤ m + n → ∃ c, choice i = .ok c ∧ Settles Fit Right i c) :
    ∃ rules', ((range' (m + 1) n).foldlM (fun rules i => do
        return RuleTree.extend rules i (← choice i)) rules : Except Fault _) = .ok rules' ∧
      Covers Fit Right lo (m + n) rules' := by
  induction n generalizing m rules with
  | zero => exact ⟨rules, rfl, h⟩
  | succ n ih =>
    obtain ⟨c, hchoice, hset⟩ := hc (m + 1) (by omega) (by omega)
    obtain ⟨rules', hrun, hcov⟩ := ih (h.extend hset) fun i hlo hhi => hc i (by omega) (by omega)
    rw [add_right_comm] at hcov
    refine ⟨rules', ?_, hcov⟩
    rw [range'_succ, foldlM_cons, hchoice]
    exact hrun

lemma firstChoice_settles (n : Nat) (hc : ∀ i, lo ≤ i → i < lo + n → ∃ c, choice i = .ok c ∧ Settles Fit Right i c) :
    (firstChoice choice (range' lo n) = .ok none ∧ ∀ i, lo ≤ i → i < lo + n → choice i = .ok none) ∨
    ∃ t, firstChoice choice (range' lo n) = .ok (some t) ∧ 0 < n ∧ Fit t ∧ Right lo t := by
  induction n generalizing lo with
  | zero => exact .inl ⟨rfl, fun i hlo hhi => by omega⟩
  | succ n ih =>
    obtain ⟨c, hchoice, hset⟩ := hc lo (by omega) (by omega)
    rw [range'_succ, firstChoice, hchoice]
    cases c with
    | some t => exact .inr ⟨t, rfl, by omega, hset⟩
    | none =>
      have hrest := @ih (lo + 1) fun i hlo hhi => hc i (by omega) (by omega)
      rcases hrest with ⟨hnone, hall⟩ | ⟨t, hsome, -, hf, -⟩
      · refine .inl ⟨hnone, fun i hlo hhi => ?_⟩
        rcases eq_or_lt_of_le hlo with rfl | hlt
        · exact hchoice
        · exact hall i hlt (by omega)
      · exact .inr ⟨t, hsome, by omega, hf, hset t hf⟩

/-- A level has no rules where there is no choice, and otherwise rules that cover its range. -/
lemma level_settles {hi : Nat} (hc : ∀ i, lo ≤ i → i < hi → ∃ c, choice i = .ok c ∧ Settles Fit Right i c) :
    (level choice lo hi = .ok none ∧ ∀ i, lo ≤ i → i < hi → choice i = .ok none) ∨
    ∃ rules, level choice lo hi = .ok (some (.split rules)) ∧ Covers Fit Right lo (hi - 1) rules := by
  unfold level
  have hfirst := firstChoice_settles (hi - lo) fun i hlo (hhi : i < lo + (hi - lo)) => hc i hlo (by omega)
  rcases hfirst with ⟨hnone, hall⟩ | ⟨t, hsome, hpos, hf, hr⟩
  · rw [hnone]
    exact .inl ⟨rfl, fun i hlo hhi => hall i hlo (by omega)⟩
  · rw [hsome]
    obtain ⟨rules, hrun, hcov⟩ := (covers_single hf hr).foldlM (hi - (lo + 1)) fun i hlo hhi =>
      hc i (by omega) (by omega)
    rw [show lo + (hi - (lo + 1)) = hi - 1 by omega] at hcov
    refine .inr ⟨rules, ?_, hcov⟩
    simp only [bind, Except.bind] at hrun ⊢
    rw [hrun]
    rfl

end Level

end RuleTree

namespace Box

def Holds (b : Box) (point : Nats) : Prop := Forall₂ (fun r x => r.1 ≤ x ∧ x < r.2) b point

def ofPoint (point : Nats) : Box := point.map fun x => (x, x + 1)

/-- What comes after a point: the first index counts to its end, and then through its range for all that the others
have still to show. -/
def later : Box → Nats → List Nats
  | (lo, hi) :: b, x :: point => (range' (x + 1) (hi - (x + 1))).map (· :: point) ++
      (later b point).flatMap fun p => (range' lo (hi - lo)).map (· :: p)
  | _, _ => []

variable {b : Box} {point : Nats}

lemma later_eq (hb : ∀ r ∈ b, r.1 < r.2) (point : Nats) :
    b.later point = (b.next point).elim [] fun q => q :: b.later q := by
  induction b generalizing point with
  | nil => rfl
  | cons r b ih =>
    obtain ⟨hr, hb⟩ := forall_mem_cons.mp hb
    cases point with
    | nil => rfl
    | cons x point =>
      rw [later, next]
      split
      next hlt =>
        rw [show r.2 - (x + 1) = r.2 - (x + 1 + 1) + 1 by omega]
        rfl
      next hlt =>
        have hlo : range' r.1 (r.2 - r.1) = r.1 :: range' (r.1 + 1) (r.2 - (r.1 + 1)) := by
          rw [show r.2 - r.1 = r.2 - (r.1 + 1) + 1 by omega, range'_succ]
        rw [show r.2 - (x + 1) = 0 by omega, ih hb]
        cases next b point <;> simp [later, hlo]

lemma pointsFrom_eq (hb : ∀ r ∈ b, r.1 < r.2) {fuel : Nat} (h : (b.later point).length < fuel) :
    b.pointsFrom fuel point = point :: b.later point := by
  induction fuel generalizing point with
  | zero => cases h
  | succ fuel ih =>
    rw [pointsFrom, later_eq hb]
    rw [later_eq hb] at h
    cases hq : b.next point with
    | none => rfl
    | some q => exact congrArg _ (ih (by simpa [hq] using h))

lemma later_start (hb : ∀ r ∈ b, r.1 < r.2) :
    b.map (·.1) :: b.later (b.map (·.1)) = sections (b.map fun r => range' r.1 (r.2 - r.1)) := by
  induction b with
  | nil => rfl
  | cons r b ih =>
    obtain ⟨hr, hb⟩ := forall_mem_cons.mp hb
    rw [map_cons, map_cons, sections, ← ih hb, later, show r.2 - r.1 = r.2 - (r.1 + 1) + 1 by omega]
    rfl

lemma points_eq (hb : ∀ r ∈ b, r.1 ≤ r.2) : b.points = sections (b.map fun r => range' r.1 (r.2 - r.1)) := by
  have hlen : (sections (b.map fun r => range' r.1 (r.2 - r.1))).length = b.foldr (fun r n => (r.2 - r.1) * n) 1 := by
    simp [length_sections, prod_eq_foldr, foldr_map]
  rw [points]
  split
  next h =>
    obtain ⟨r, hr, heq⟩ := any_eq_true.mp h
    rw [eq_comm, ← length_eq_zero_iff, length_sections, prod_eq_zero_iff, map_map, mem_map]
    exact ⟨r, hr, by simp_all⟩
  next h =>
    have hlt : ∀ r ∈ b, r.1 < r.2 := fun r hr => lt_of_le_of_ne (hb r hr) fun he => h (any_eq_true.mpr ⟨r, hr, by simpa⟩)
    rw [← later_start hlt] at hlen ⊢
    exact pointsFrom_eq hlt (lt_of_succ_le hlen.le)

lemma mem_points (hb : ∀ r ∈ b, r.1 ≤ r.2) : point ∈ b.points ↔ b.Holds point := by
  rw [points_eq hb, mem_sections, forall₂_map_right_iff]
  have hmem (x : Nat) (r : Nat × Nat) : x ∈ range' r.1 (r.2 - r.1) ↔ r.1 ≤ x ∧ x < r.2 := by
    rw [mem_range'_1]
    omega
  exact ⟨fun h => (h.imp fun x r hx => (hmem x r).mp hx).flip, fun h => (h.imp fun r x hx => (hmem x r).mpr hx).flip⟩

lemma ofExtents_le {extents : Nats} : ∀ r ∈ ofExtents extents, r.1 ≤ r.2 := by simp [ofExtents]
lemma ofPoint_le : ∀ r ∈ ofPoint point, r.1 ≤ r.2 := by simp [ofPoint]

lemma points_ofPoint : (ofPoint point).points = [point] := by
  rw [points_eq ofPoint_le, ofPoint, map_map]
  induction point with
  | nil => rfl
  | cons x point ih => simp [ih]

lemma holds_ofPoint {point other : Nats} : (ofPoint point).Holds other ↔ other = point := by
  rw [← mem_points ofPoint_le, points_ofPoint, mem_singleton]

lemma eq_ofPoint {b : Box} (h : ∀ (i : Nat) (r : Nat × Nat), b[i]? = some r → r.2 = r.1 + 1) :
    b = ofPoint (b.map (·.1)) := by
  induction b with
  | nil => rfl
  | cons r b ih =>
    have hr : r.2 = r.1 + 1 := h 0 r rfl
    have hb : b = ofPoint (b.map (·.1)) := ih fun i r hi => h (i + 1) r hi
    rw [ofPoint, map_cons, map_cons, ← ofPoint, ← hb, ← hr]

section Narrow

variable {i lo hi : Nat}

lemma Holds.getD (h : b.Holds point) (hi' : b[i]? = some (lo, hi)) : lo ≤ point.getD i 0 ∧ point.getD i 0 < hi := by
  induction h generalizing i with
  | nil => simp at hi'
  | cons hr hrest ih =>
    cases i with
    | zero =>
      simp only [getElem?_cons_zero, Option.some.injEq] at hi'
      simpa [hi'] using hr
    | succ i => exact ih (by simpa using hi')

lemma holds_narrow (hi' : b[i]? = some (lo, hi)) {j : Nat} (hlo : lo ≤ j) (hhi : j < hi) :
    (b.narrow i j (j + 1)).Holds point ↔ b.Holds point ∧ point.getD i 0 = j := by
  induction b generalizing i point with
  | nil => simp at hi'
  | cons r b ih =>
    cases i with
    | zero =>
      simp only [getElem?_cons_zero, Option.some.injEq] at hi'
      subst hi'
      simp only [narrow, set_cons_zero, Holds, forall₂_cons_left_iff]
      constructor
      · rintro ⟨x, rest, hx, hrest, rfl⟩
        exact ⟨⟨x, rest, by omega, hrest, rfl⟩, by simp; omega⟩
      · rintro ⟨⟨x, rest, hx, hrest, rfl⟩, hj⟩
        simp only [getD_cons_zero] at hj
        exact ⟨x, rest, by omega, hrest, rfl⟩
    | succ i =>
      have hrec := @ih
      simp only [narrow, set_cons_succ, Holds, forall₂_cons_left_iff]
      constructor
      · rintro ⟨x, rest, hx, hrest, rfl⟩
        obtain ⟨hb, hj⟩ := (hrec hi').mp hrest
        exact ⟨⟨x, rest, hx, hb, rfl⟩, by simpa using hj⟩
      · rintro ⟨⟨x, rest, hx, hrest, rfl⟩, hj⟩
        exact ⟨x, rest, hx, (hrec hi').mpr ⟨hrest, by simpa using hj⟩, rfl⟩

end Narrow

end Box

namespace RuleTree

/-- The last threshold reaches the end of a range. -/
def Reaches (hi : Nat) (rules : List (Int × RuleTree)) : Prop :=
  ∃ r ∈ rules.getLast?, r.1 < 0 ∨ (hi : Int) ≤ r.1 + 1

/-- A tree with a level for each dimension of an order: at every level the thresholds rise and the last one
reaches the end of the range, and below the levels are solutions. -/
def Shaped (b : Box) (count : Nat) : Nats → RuleTree → Prop
  | [], .pick s => s < count
  | i :: rest, .split rules =>
    (rules.Pairwise fun a b => a.1 < b.1) ∧ (∃ lo hi, b[i]? = some (lo, hi) ∧ Reaches hi rules) ∧
      ∀ r ∈ rules, Shaped b count rest r.2
  | _, _ => False

/-- A tree picks a solution at a point. -/
def Picks (order : Nats) (t : RuleTree) (point : Nats) (s : Nat) : Prop :=
  t.walk order.length (order.map fun i => point.getD i 0) = .ok (.pick s)

section Shape

variable {b : Box} {count : Nat} {point : Nats}

/-- Where the last threshold reaches the end some rule decides. -/
lemma Reaches.decide? {hi i : Nat} (h : Reaches hi rules) (hi' : i < hi) :
    ∃ r ∈ rules, decide? i rules = some r.2 := by
  obtain ⟨last, hlast, hreach⟩ := h
  have hsome : (rules.find? fun r => r.1 < 0 || (i : Int) ≤ r.1).isSome := by
    refine find?_isSome.mpr ⟨last, mem_of_getLast? hlast, ?_⟩
    simp only [or_eq_true, decide_eq_true_eq]
    omega
  obtain ⟨r, hr⟩ := Option.isSome_iff_exists.mp hsome
  exact ⟨r, mem_of_find?_eq_some hr, by rw [RuleTree.decide?, hr]; rfl⟩

variable {t : RuleTree} {s : Nat}

lemma picks_split {i : Nat} {rest : Nats} (h : decide? (point.getD i 0) rules = some t) :
    Picks (i :: rest) (.split rules) point s ↔ Picks rest t point s := by
  rw [Picks, length_cons, map_cons, walk, h]
  rfl

variable {order : Nats}

/-- Every tree of the right shape picks some solution at every point of the box. -/
lemma Shaped.picks (h : Shaped b count order t) (hp : b.Holds point) : ∃ s < count, Picks order t point s := by
  induction order generalizing t with
  | nil =>
    cases t with
    | pick s => exact ⟨s, h, rfl⟩
    | split rules => cases h
  | cons i rest ih =>
    cases t with
    | pick s => cases h
    | split rules =>
      obtain ⟨-, ⟨lo, hi, hb, hreach⟩, hall⟩ := h
      obtain ⟨r, hr, hdec⟩ := hreach.decide? (hp.getD hb).2
      obtain ⟨s, hs, hpick⟩ := ih (hall r hr)
      exact ⟨s, hs, (picks_split hdec).mpr hpick⟩

lemma shaped_congr {b' : Box} (h : ∀ i ∈ order, b'[i]? = b[i]?) (t : RuleTree) :
    Shaped b' count order t ↔ Shaped b count order t := by
  induction order generalizing t with
  | nil => cases t <;> rfl
  | cons i rest ih =>
    cases t with
    | pick s => rfl
    | split rules =>
      simp only [Shaped, h i (by simp), ih fun k hk => h k (by simp [hk])]

end Shape

/-- What the rules for a box say, where `Best` are the solutions that are right at a point: without rules
all are, otherwise the tree picks one that is. -/
def Settled (Best : Nats → Nat → Prop) (count : Nat) (b : Box) (order : Nats) :
    Option RuleTree → Prop
  | none => ∀ point, b.Holds point → ∀ s < count, Best point s
  | some t => Shaped b count order t ∧
    ∀ point, b.Holds point → ∃ s < count, Picks order t point s ∧ Best point s

section Build

variable {Best : Nats → Nat → Prop} {count : Nat} {winner : Box → Option Nat} {b : Box}
  {i lo hi : Nat} {rest : Nats} {r : Option RuleTree}

/-- A tree picks right solutions where dimension `i` has index `j`. -/
def PicksBest (Best : Nats → Nat → Prop) (count : Nat) (b : Box) (i : Nat) (rest : Nats) (j : Nat) (t : RuleTree) : Prop :=
  ∀ point, (b.narrow i j (j + 1)).Holds point → ∃ s < count, Picks rest t point s ∧ Best point s

/-- A level with a single index always decides. -/
lemma Settled.single (h : Settled Best count b rest r) (hb : b[i]? = some (lo, hi)) :
    Settled Best count b (i :: rest) (r.map fun t => .split [(-1, t)]) := by
  cases r with
  | none => exact h
  | some t =>
    obtain ⟨hshape, hpick⟩ := h
    refine ⟨⟨pairwise_singleton _ _, ⟨lo, hi, hb, (-1, t), rfl, .inl (show (-1 : Int) < 0 by decide)⟩, ?_⟩, ?_⟩
    · simpa using hshape
    · intro point hp
      obtain ⟨s, hs, hpick, hbest⟩ := hpick point hp
      exact ⟨s, hs, (picks_split rfl).mpr hpick, hbest⟩

lemma Settled.settles (hb : b[i]? = some (lo, hi)) (hi' : i ∉ rest) {j : Nat}
    (hlo : lo ≤ j) (hhi : j < hi) (h : Settled Best count (b.narrow i j (j + 1)) rest r) :
    Settles (Shaped b count rest) (PicksBest Best count b i rest) j r := by
  have hsame : ∀ k ∈ rest, (b.narrow i j (j + 1))[k]? = b[k]? := by
    intro k hk
    rw [narrow, getElem?_set_ne]
    rintro rfl
    exact hi' hk
  cases r with
  | none =>
    intro t ht point hp
    obtain ⟨s, hs, hpick⟩ := ht.picks ((holds_narrow hb hlo hhi).mp hp).1
    exact ⟨s, hs, hpick, h point hp s hs⟩
  | some t => exact ⟨(shaped_congr hsame t).mp h.1, h.2⟩

lemma Covers.settled (hb : b[i]? = some (lo, hi))
    (h : Covers (Shaped b count rest) (PicksBest Best count b i rest) lo (hi - 1) rules) :
    Settled Best count b (i :: rest) (some (.split rules)) := by
  refine ⟨⟨h.rising, ⟨lo, hi, hb, ?_⟩, h.fit⟩, fun point hp => ?_⟩
  · obtain ⟨front, t, hlast⟩ := h.last
    refine ⟨(((hi - 1 : Nat) : Int), t), by rw [hlast, getLast?_concat]; rfl, .inr ?_⟩
    omega
  · obtain ⟨hlo, hhi⟩ := hp.getD hb
    obtain ⟨t, hdec, hright⟩ := h.decides _ hlo (by omega)
    obtain ⟨s, hs, hpick, hbest⟩ := hright point ((holds_narrow hb hlo hhi).mpr ⟨hp, rfl⟩)
    exact ⟨s, hs, (picks_split hdec).mpr hpick, hbest⟩

/-- A level settles its box when what is below it settles the boxes with its index fixed. -/
lemma level_settled (below : Box → Except Fault (Option RuleTree)) (hb : b[i]? = some (lo, hi)) (hi' : i ∉ rest)
    (hbelow : ∀ j, lo ≤ j → j < hi → ∃ r, below (b.narrow i j (j + 1)) = .ok r ∧
      Settled Best count (b.narrow i j (j + 1)) rest r) :
    ∃ r, level (fun j => below (b.narrow i j (j + 1))) lo hi = .ok r ∧ Settled Best count b (i :: rest) r := by
  have hchoice : ∀ j, lo ≤ j → j < hi → ∃ r, below (b.narrow i j (j + 1)) = .ok r ∧
      Settles (Shaped b count rest) (PicksBest Best count b i rest) j r := by
    intro j hlo hhi
    obtain ⟨r, hr, hset⟩ := hbelow j hlo hhi
    exact ⟨r, hr, hset.settles hb hi' hlo hhi⟩
  rcases level_settles hchoice with ⟨hnone, hall⟩ | ⟨rules, hsome, hcov⟩
  · refine ⟨none, hnone, fun point hp s hs => ?_⟩
    obtain ⟨hlo, hhi⟩ := hp.getD hb
    obtain ⟨r, hr, hset⟩ := hbelow _ hlo hhi
    rw [hall _ hlo hhi] at hr
    cases hr
    exact hset point ((holds_narrow hb hlo hhi).mpr ⟨hp, rfl⟩) s hs
  · exact ⟨_, hsome, hcov.settled hb⟩

/-- **Trees settle their boxes**: if `winner` is right at every point, the rules built from it are right on
the whole box, when every dimension is either a level of the tree or has a single index. -/
lemma build_settles (hne : order ≠ []) (hnodup : order.Nodup) (hdims : ∀ i ∈ order, i < b.length)
    (hfixed : ∀ (i : Nat) (r : Nat × Nat), i ∉ order → b[i]? = some r → r.2 = r.1 + 1)
    (hwinner : ∀ point, b.Holds point → Settled Best count (.ofPoint point) [] ((winner (.ofPoint point)).map .pick)) :
    ∃ r, build winner true order b = .ok r ∧ Settled Best count b order r := by
  induction order generalizing b with
  | nil => cases hne rfl
  | cons i rest ih =>
    obtain ⟨hi', hrest⟩ := nodup_cons.mp hnodup
    obtain ⟨⟨lo, hi⟩, hb⟩ : ∃ r, b[i]? = some r := ⟨_, getElem?_eq_getElem (hdims i (by simp))⟩
    -- below this level: a winner at a point, or the levels of the other dimensions
    have hbelow : ∀ d : Box, (∀ k ∈ rest, k < d.length) →
        (∀ (k : Nat) (r : Nat × Nat), k ∉ rest → d[k]? = some r → r.2 = r.1 + 1) →
        (∀ point, d.Holds point → b.Holds point) →
        ∃ r, (if rest.isEmpty && true then .ok ((winner d).map .pick) else build winner true rest d) = .ok r ∧
          Settled Best count d rest r := by
      intro d hlen hsingle hpoints
      cases rest with
      | nil =>
        obtain ⟨point, rfl⟩ : ∃ point, d = ofPoint point :=
          ⟨_, eq_ofPoint fun k r => hsingle k r (by simp)⟩
        exact ⟨_, rfl, hwinner point (hpoints point (holds_ofPoint.mpr rfl))⟩
      | cons k rest => exact ih (by simp) hrest hlen hsingle fun point hp => hwinner point (hpoints point hp)
    unfold build
    simp only [hb]
    by_cases hone : hi - lo = 1
    · obtain ⟨r, hr, hset⟩ := hbelow b (fun k hk => hdims k (by simp [hk])) (fun k r hk hr => by
        by_cases hki : k = i
        · rw [hki, hb, Option.some.injEq] at hr
          subst hr
          omega
        · exact hfixed k r (by simp [hki, hk]) hr) fun point hp => hp
      rw [if_pos (by simpa using hone), hr]
      exact ⟨_, rfl, hset.single hb⟩
    · rw [if_neg (by simpa using hone)]
      refine level_settled (fun c => if rest.isEmpty && true then .ok ((winner c).map .pick)
        else build winner true rest c) hb hi' fun j hlo hhi => hbelow (b.narrow i j (j + 1)) ?_ ?_ ?_
      · intro k hk
        rw [narrow, length_set]
        exact hdims k (by simp [hk])
      · intro k r hk hr
        by_cases hki : k = i
        · rw [hki, narrow, getElem?_set_self (hdims i (by simp)), Option.some.injEq] at hr
          rw [← hr]
        · rw [narrow, getElem?_set_ne (Ne.symm hki)] at hr
          exact hfixed k r (by simp [hki, hk]) hr
      · exact fun point hp => ((holds_narrow hb hlo hhi).mp hp).1

end Build

end RuleTree

/-- Times in exact arithmetic; a solution without a positive speed never ends. -/
instance : Clock ℚ (WithTop ℚ) where
  time operations x := if 0 < x then ((operations / x / 1000 : ℚ) : WithTop ℚ) else ⊤
  less x y := decide (x < y)

namespace Performance

section Least

variable {τ : Type} [LinearOrder τ] {scores : List τ}

/-- The least of the scores seen so far, its position, and whether some score differs. -/
structure LeastOf (seen : List τ) (w : Nat) (best : τ) (found : Bool) : Prop where
  at_ : seen[w]? = some best
  least : ∀ x ∈ seen, best ≤ x
  alike : found = false → ∀ x ∈ seen, x = best

lemma LeastOf.step {seen : List τ} {w : Nat} {best : τ} {found : Bool} (h : LeastOf seen w best found) (x : τ) :
    if x < best then LeastOf (seen ++ [x]) seen.length x true
    else LeastOf (seen ++ [x]) w best (found || decide (best < x)) := by
  obtain ⟨hat, hleast, halike⟩ := h
  have hw : w < seen.length := (List.getElem?_eq_some_iff.mp hat).1
  split
  · next hlt => exact ⟨by simp, forall_mem_append.mpr ⟨fun y hy => le_trans hlt.le (hleast y hy), by simp⟩, nofun⟩
  · next hge =>
    have hle : best ≤ x := not_lt.mp hge
    refine ⟨by rw [getElem?_append_left hw, hat], forall_mem_append.mpr ⟨hleast, by simpa⟩, fun hfound => ?_⟩
    simp only [or_eq_false_iff, decide_eq_false_iff_not, not_lt] at hfound
    exact forall_mem_append.mpr ⟨halike hfound.1, by simpa using le_antisymm hfound.2 hle⟩

lemma LeastOf.foldl {seen : List τ} {w n : Nat} {best : τ} {found : Bool}
    (h : LeastOf seen w best found) (hn : seen.length = n + 1) (rest : List τ) :
    ∃ w' best' found', (rest.zipIdx n).foldl (fun (w, best, found) (x, i) =>
        if decide (x < best) then (i + 1, x, true) else (w, best, found || decide (best < x)))
        (w, best, found) = (w', best', found') ∧ LeastOf (seen ++ rest) w' best' found' := by
  induction rest generalizing seen w best found n with
  | nil => exact ⟨w, best, found, rfl, by rwa [append_nil]⟩
  | cons x rest ih =>
    have hstep := h.step x
    have hlen : (seen ++ [x]).length = n + 1 + 1 := by simp [hn]
    rw [zipIdx_cons, foldl_cons, append_cons]
    rw [hn] at hstep
    by_cases hlt : x < best <;> simp only [hlt] at hstep ⊢ <;> exact ih hstep hlen

lemma least?_cons (first : τ) (rest : List τ) : ∃ w best found, LeastOf (first :: rest) w best found ∧
      least? (fun x y : τ => decide (x < y)) (first :: rest) = if found then some w else none := by
  have hfirst : LeastOf [first] 0 first false := ⟨rfl, by simp, by simp⟩
  obtain ⟨w, best, found, hfold, hleast⟩ := hfirst.foldl rfl rest
  exact ⟨w, best, found, hleast,
    congrArg (fun r : Nat × τ × Bool => if r.2.2 then some r.1 else none) hfold⟩

/-- A position that is given is that of a least score. -/
lemma le_of_least?_eq_some {w : Nat} (h : least? (fun x y : τ => decide (x < y)) scores = some w) :
    ∃ best, scores[w]? = some best ∧ ∀ x ∈ scores, best ≤ x := by
  cases scores with
  | nil => cases h
  | cons first rest =>
    obtain ⟨w', best, found, hleast, heq⟩ := least?_cons first rest
    rw [h] at heq
    split at heq
    · cases heq
      exact ⟨best, hleast.at_, hleast.least⟩
    · cases heq

/-- Where no position is given all scores are alike. -/
lemma eq_of_least?_eq_none (h : least? (fun x y : τ => decide (x < y)) scores = none) :
    ∀ x ∈ scores, ∀ y ∈ scores, x = y := by
  cases scores with
  | nil => simp
  | cons first rest =>
    obtain ⟨w, best, found, hleast, heq⟩ := least?_cons first rest
    rw [h] at heq
    split at heq
    · cases heq
    · next hfound =>
      intro x hx y hy
      have halike := hleast.alike (by simpa using hfound)
      rw [halike x hx, halike y hy]

end Least

section Exact

variable {σ : Type} (p : Performance σ ℚ) (perStep : Int) (point : Nats)

/-- A solution that no other beats at a point. -/
def Fastest (s : Nat) : Prop := ∀ s' < p.count, p.speed s' point ≤ p.speed s point

/-- Some solution was measured at a point. -/
def Measured : Prop := ∃ s < p.count, 0 < p.speed s point

variable {p perStep} {order point : Nats}

lemma scores_point : p.scores perStep (.ofPoint point) = (range p.count).map (p.time perStep point) := by
  rw [scores, points_ofPoint]
  apply ext_getElem
  · simp [totals]
  · intro i h1 h2
    simp [totals]

/-- With a positive number of operations a solution that is slower takes longer. -/
lemma speed_le_of_time_le {operations : Int} {x y : ℚ} (hops : 0 < operations) (hx : 0 < x)
    (h : (Clock.time operations y : WithTop ℚ) ≤ Clock.time operations x) : x ≤ y := by
  have hops' : (0 : ℚ) < operations := by exact_mod_cast hops
  simp only [Clock.time, hx, if_true] at h
  by_cases hy : 0 < y
  · rw [if_pos hy, WithTop.coe_le_coe] at h
    by_contra hlt
    rw [not_le] at hlt
    have hquot : (operations : ℚ) / x < operations / y := div_lt_div_of_pos_left hops' hy hlt
    have hless : (operations : ℚ) / x / 1000 < operations / y / 1000 :=
      div_lt_div_of_pos_right hquot (by decide)
    exact absurd h (not_le.mpr hless)
  · rw [if_neg hy, top_le_iff] at h
    exact absurd h WithTop.coe_ne_top

/-- Where some solution was measured one that takes the least time is a fastest one. -/
lemma fastest_of_time_le (hops : 0 < p.operations perStep point)
    (hm : p.Measured point) (h : ∀ s' < p.count, p.time perStep point s ≤ p.time perStep point s') :
    p.Fastest point s := by
  obtain ⟨m, hm, hpos⟩ := hm
  intro s' hs'
  by_cases hs'pos : 0 < p.speed s' point
  · exact speed_le_of_time_le hops hs'pos (h s' hs')
  · have hle : p.speed m point ≤ p.speed s point := speed_le_of_time_le hops hpos (h m hm)
    exact le_trans (not_lt.mp hs'pos) (le_trans (le_of_lt hpos) hle)

/-- The winner at a point is a fastest solution; without a winner all are. -/
lemma winner?_settles (hops : 0 < p.operations perStep point) :
    Settled (fun point s => p.Measured point → p.Fastest point s) p.count (.ofPoint point) []
      ((p.winner? perStep (.ofPoint point)).map .pick) := by
  unfold winner?
  split
  · next hone =>
    have hcount : p.count = 1 := by simpa using hone
    refine ⟨show 0 < p.count by omega, fun q hq => ⟨0, by omega, rfl, fun _ s' hs' => ?_⟩⟩
    rw [show s' = 0 by omega]
  · rw [scores_point]
    cases hw : least? (Clock.less ℚ) ((range p.count).map (p.time perStep point)) with
    | some w =>
      obtain ⟨best, hbest, hle⟩ := le_of_least?_eq_some hw
      obtain ⟨hlt, rfl⟩ : w < p.count ∧ p.time perStep point w = best := by
        simpa [List.getElem?_eq_some_iff] using hbest
      refine ⟨hlt, fun q hq => ⟨w, hlt, rfl, fun hm => ?_⟩⟩
      rw [holds_ofPoint] at hq
      subst hq
      exact fastest_of_time_le hops hm fun s' hs' =>
        hle _ (mem_map_of_mem (mem_range.mpr hs'))
    | none =>
      have hall := eq_of_least?_eq_none hw
      intro q hq s hs hm
      rw [holds_ofPoint] at hq
      subst hq
      refine fastest_of_time_le hops hm fun s' hs' => le_of_eq (hall _ ?_ _ ?_)
      · exact mem_map_of_mem (mem_range.mpr hs)
      · exact mem_map_of_mem (mem_range.mpr hs')

lemma foldl_mul_pos {xs : Ints} {n : Int} (hn : 0 < n) (h : ∀ x ∈ xs, 0 < x) : 0 < xs.foldl (· * ·) n := by
  induction xs generalizing n with
  | nil => exact hn
  | cons x xs ih => exact ih (mul_pos hn (h x (by simp))) fun y hy => h y (by simp [hy])

lemma operations_pos (hper : 0 < perStep) (hsizes : ∀ row ∈ p.sizes, ∀ n ∈ row, 0 < n) (hp : p.box.Holds point) :
    0 < p.operations perStep point := by
  refine foldl_mul_pos hper ?_
  unfold sizesAt
  unfold Holds box ofExtents extents at hp
  generalize p.sizes = rows at hp hsizes
  induction rows generalizing point with
  | nil => simp
  | cons row rows ih =>
    obtain ⟨x, rest, hx, hrest, rfl⟩ := forall₂_cons_left_iff.mp hp
    intro n hn
    rw [zipWith_cons_cons, mem_cons] at hn
    rcases hn with rfl | hn
    · refine hsizes row (by simp) _ ?_
      rw [getD_eq_getElem?_getD, getElem?_eq_getElem hx.2]
      exact getElem_mem _
    · exact ih hrest (fun r hr => hsizes r (by simp [hr])) n hn

lemma ordered_ok (h : ∀ i ∈ order, i < point.length) :
    ordered order point = .ok (order.map fun i => point.getD i 0) := by
  unfold ordered
  induction order with
  | nil => rfl
  | cons i rest ih =>
    rw [mapM_cons, ih fun k hk => h k (by simp [hk])]
    simp [bind, Except.bind, pure, Except.pure, h i (by simp)]

lemma length_box : p.box.length = p.sizes.length := by
  simp [box, ofExtents, extents]

lemma lookUp_of_picks (horder : order.Perm (range p.sizes.length)) (hp : p.box.Holds point)
    (h : t.Picks order point s) : p.lookUp order t point = .ok (.pick s) := by
  have hlen : point.length = p.sizes.length := by rw [← hp.length_eq, length_box]
  have hall : ∀ i ∈ order, i < point.length := by
    intro i hi
    rw [hlen]
    exact mem_range.mp (horder.mem_iff.mp hi)
  have hcount : order.length = p.sizes.length := by simpa using horder.length_eq
  rw [Picks, hcount] at h
  rw [lookUp, ordered_ok hall]
  exact h

/-- The rules of a grid are built without a fault and settle the whole grid. -/
lemma rules_settle (hper : 0 < perStep) (hsizes : ∀ row ∈ p.sizes, ∀ n ∈ row, 0 < n) (hne : p.sizes ≠ [])
    (horder : order.Perm (range p.sizes.length)) : ∃ r, p.rules perStep order = .ok r ∧
      Settled (fun point s => p.Measured point → p.Fastest point s) p.count p.box order r := by
  have hcount : order.length = p.sizes.length := by simpa using horder.length_eq
  have hdims : ∀ i, i ∈ order ↔ i < p.box.length := by
    intro i
    rw [horder.mem_iff, mem_range, length_box]
  unfold rules
  rw [hcount, beq_self_eq_true]
  refine build_settles ?_ ?_ (fun i hi => (hdims i).mp hi) ?_ fun point hp =>
    winner?_settles (operations_pos hper hsizes hp)
  · rwa [← length_pos_iff, hcount, length_pos_iff]
  · exact horder.nodup_iff.mpr nodup_range
  · intro i r hi hr
    exact absurd ((hdims i).mpr (List.getElem?_eq_some_iff.mp hr).1) hi

/-- **Rules pick the fastest solution**: for positive sizes, exact times and an order of all dimensions, the
rules of a grid are built without a fault. If there are rules, then at every level the thresholds rise and
the last one reaches the end of the range; at every point they pick a solution, and where some solution was
measured no other is faster than the one they pick. -/
theorem rules_pick_fastest {order : List Nat} (hper : 0 < perStep)
    (hsizes : ∀ row ∈ p.sizes, ∀ n ∈ row, 0 < n)
    (horder : order.Perm (range p.sizes.length)) :
    (p.sizes ≠ [] → ∃ r, p.rules perStep order = .ok r) ∧
    ∀ t, p.rules perStep order = .ok (some t) →
      t.Shaped p.box p.count order ∧
      ∀ point ∈ p.points, ∃ s < p.count, p.lookUp order t point = .ok (.pick s) ∧
        ((∃ m < p.count, 0 < p.speed m point) → ∀ s' < p.count, p.speed s' point ≤ p.speed s point) := by
  refine ⟨fun hne => ?_, fun t ht => ?_⟩
  · obtain ⟨r, hr, -⟩ := rules_settle hper hsizes hne horder
    exact ⟨r, hr⟩
  · have hne : p.sizes ≠ [] := by
      intro hnil
      rw [hnil, length_nil, range_zero, perm_nil] at horder
      rw [horder] at ht
      cases ht
    obtain ⟨r, hr, hset⟩ := rules_settle hper hsizes hne horder
    rw [ht] at hr
    cases hr
    obtain ⟨hshape, hpick⟩ := hset
    refine ⟨hshape, fun point hp => ?_⟩
    rw [points, Box.mem_points (b := p.box) ofExtents_le] at hp
    obtain ⟨s, hs, hpick, hfast⟩ := hpick point hp
    exact ⟨s, hs, lookUp_of_picks horder hp hpick, hfast⟩

end Exact

/-- Two solutions on a grid of two problems, each the faster one once. -/
def twoProblems : Performance Unit ℚ :=
  { solutions := [(), ()], sizes := [[16, 32], [64]], speeds := #[1, 2, 3, 1] }

/-- The rules of the two problems pick the second solution at the first problem. -/
theorem twoProblems_picks :
    (∀ row ∈ twoProblems.sizes, ∀ n ∈ row, 0 < n) ∧
    [1, 0].Perm (range twoProblems.sizes.length) ∧
    ∃ t, twoProblems.rules 2 [1, 0] = .ok (some t) ∧
      twoProblems.lookUp [1, 0] t [0, 0] = .ok (.pick 1) := by
  have hsizes : ∀ row ∈ twoProblems.sizes, ∀ n ∈ row, 0 < n := by decide
  have horder : [1, 0].Perm (range twoProblems.sizes.length) := by decide
  have hsome : (twoProblems.rules 2 [1, 0]).toOption.join.isSome = true := by decide +kernel
  obtain ⟨t, ht⟩ : ∃ t, twoProblems.rules 2 [1, 0] = .ok (some t) := by
    match hr : twoProblems.rules 2 [1, 0] with
    | .ok (some t) => exact ⟨t, rfl⟩
    | .ok none => rw [hr] at hsome; cases hsome
    | .error e => rw [hr] at hsome; cases hsome
  obtain ⟨-, hpick⟩ := (rules_pick_fastest (by decide) hsizes horder).2 t ht
  obtain ⟨s, hs, hlook, hfast⟩ := hpick [0, 0] (by decide)
  have hle := hfast ⟨0, by decide, by decide +kernel⟩ 1 (by decide)
  have hone : s = 1 := by
    have hs' : s < 2 := hs
    interval_cases s
    · exact absurd hle (by decide +kernel)
    · rfl
  exact ⟨hsizes, horder, t, ht, hone ▸ hlook⟩

end Performance

end TensorForge
