import Mathlib.Data.List.InsertIdx
import Mathlib.Data.List.Sort
import TensorForge.Proofs.RangeRules

/-!
# Taking out invalid solutions

What is left of measured speeds when the solutions without a speed somewhere are taken out one by one.
The solutions that are left are the survivors, in their order and with their own speeds. An exact winner
ends at the last survivor that does not stand behind it: at itself if it survives, at another solution if
it does not.
-/

namespace TensorForge

open List Nat

lemma gridPosition_lt {extents point : Nats} (h : (Box.ofExtents extents).Holds point) :
    gridPosition extents point < extents.prod := by
  induction extents generalizing point with
  | nil => cases h; decide
  | cons n extents ih =>
    cases h with
    | @cons _ x _ rest hx hrest =>
      have hlt : gridPosition extents rest + 1 ≤ extents.prod := ih hrest
      have hx : x < n := hx.2
      calc x + n * gridPosition extents rest
          < n * (gridPosition extents rest + 1) := by rw [mul_succ]; omega
        _ ≤ n * extents.prod := mul_le_mul_left n hlt

namespace Performance

variable {σ : Type} {p q : Performance σ} {kept : Nats} {spared : Nat → Bool}

lemma solutions_restrict (h : ∀ s ∈ kept, s < p.count) :
    (p.restrict kept).solutions.map some = kept.map (p.solutions[·]?) := by
  induction kept with
  | nil => rfl
  | cons s kept ih =>
    have hs : s < p.solutions.length := h s mem_cons_self
    have hrest := ih fun t ht => h t (mem_cons_of_mem s ht)
    simp only [restrict, filterMap_cons, getElem?_eq_getElem hs, map_cons] at hrest ⊢
    rw [hrest]

lemma count_restrict (h : ∀ s ∈ kept, s < p.count) : (p.restrict kept).count = kept.length := by
  simpa [count] using congrArg length (solutions_restrict h)

lemma getElem?_flatMap_range {α β : Type} (f : Nat → α → β) {xs : List α} {n place i : Nat} {x : α}
    (hplace : place < n) (hx : xs[i]? = some x) :
    ((range n).flatMap fun k => xs.map (f k))[place * xs.length + i]? = some (f place x) := by
  have hi : i < xs.length := (List.getElem?_eq_some_iff.mp hx).1
  induction n with
  | zero => omega
  | succ n ih =>
    have hlen : ((range n).flatMap fun k => xs.map (f k)).length = n * xs.length := by
      simp [length_flatMap]
    rw [range_succ, flatMap_append, flatMap_singleton]
    obtain rfl | hlt : place = n ∨ place < n := by omega
    · rw [getElem?_append_right (by omega), hlen, Nat.add_sub_cancel_left, getElem?_map, hx]
      rfl
    · have hbound := mul_le_mul_right xs.length (show place + 1 ≤ n from hlt)
      rw [succ_mul] at hbound
      rw [getElem?_append_left (by omega)]
      exact ih hlt

variable {i s t : Nat} {point : Nats}

/-- A restriction keeps the speeds of every solution that it keeps. -/
lemma speed_restrict (hlt : ∀ s ∈ kept, s < p.count) (hi : kept[i]? = some s)
    (hp : point ∈ p.points) : (p.restrict kept).speed i point = p.speed s point := by
  have hplace : gridPosition p.extents point < p.total := by
    rw [total, ← prod_eq_foldl]
    exact gridPosition_lt ((Box.mem_points Box.ofExtents_le).mp hp)
  have hcell := getElem?_flatMap_range (fun k s => p.speeds.getD (k * p.count + s) 0) hplace hi
  have hserial : (p.restrict kept).serial i point = gridPosition p.extents point * kept.length + i := by
    rw [serial, count_restrict hlt, add_comm, mul_comm]
    rfl
  rw [speed, speed, hserial, serial, serialPosition, add_comm s, mul_comm p.count]
  simp only [restrict, Array.getD_eq_getD_getElem?, getElem?_toArray] at hcell ⊢
  rw [hcell]
  rfl

def isMeasured (p : Performance σ) (s : Nat) : Bool := p.points.all fun point => !(p.speed s point == 0)

/-- The solutions that have a speed at every point. -/
def survivors (p : Performance σ) : Nats := (range p.count).filter p.isMeasured

/-- The solution at a position, if it is one. -/
def denoted (p : Performance σ) (s : Int) : Option σ := if 0 ≤ s then p.solutions[s.toNat]? else none

/-- The last survivor that does not stand behind a position. -/
def lastSurvivor (p : Performance σ) (s : Int) : Option Nat :=
  (p.survivors.filter fun (t : Nat) => (t : Int) ≤ s).getLast?

/-- The position that belongs to the last of the kept solutions up to `s`. -/
def movedTo (kept : Nats) (s : Int) : Int := (kept.countP fun (t : Nat) => (t : Int) ≤ s : Nat) - 1

/-- `q` has the solutions `kept` of `p`, in their order and with their speeds. -/
structure Kept (p : Performance σ) (kept : Nats) (q : Performance σ) : Prop where
  sublist : kept.Sublist (range p.count)
  sizes : q.sizes = p.sizes
  solutions : q.solutions.map some = kept.map (p.solutions[·]?)
  speed : ∀ (i s : Nat), kept[i]? = some s → ∀ point ∈ p.points, q.speed i point = p.speed s point

/-- What `p` is after some removals that spare some solutions. -/
structure Left (p : Performance σ) (spared : Nat → Bool) (kept : Nats) (q : Performance σ) : Prop
    extends Kept p kept q where
  spared_kept : ∀ s < p.count, spared s → s ∈ kept
  exact : q.exact = p.exact.map fun e => (e.1, { e.2 with solution := movedTo kept e.2.solution })

/-- Of a rising list, what is not above `s` comes first. -/
lemma filter_eq_take (hkept : kept.Pairwise (· < ·)) (s : Int) :
    (kept.filter fun (t : Nat) => (t : Int) ≤ s) = kept.take (kept.countP fun (t : Nat) => (t : Int) ≤ s) := by
  induction hkept with
  | nil => rfl
  | @cons a rest hlt _ ih =>
    by_cases ha : (a : Int) ≤ s
    · rw [filter_cons_of_pos (by simpa using ha), countP_cons_of_pos (by simpa using ha), ih,
        take_succ_cons]
    · have hnone : ∀ b ∈ a :: rest, ¬ (b : Int) ≤ s := by
        intro b hb
        obtain rfl | hb := mem_cons.mp hb
        · exact ha
        · have := hlt b hb
          omega
      rw [filter_eq_nil_iff.mpr (by simpa using hnone), countP_eq_zero.mpr (by simpa using hnone),
        take_zero]

lemma le_iff_lt_countP (hkept : kept.Pairwise (· < ·)) (hi : kept[i]? = some t) (s : Int) :
    (t : Int) ≤ s ↔ i < kept.countP fun (t : Nat) => (t : Int) ≤ s := by
  have hmem : t ∈ kept.filter (fun (t : Nat) => (t : Int) ≤ s) ↔ (t : Int) ≤ s := by
    simp [mem_of_getElem? hi]
  rw [← hmem, filter_eq_take hkept, mem_take_iff_getElem]
  obtain ⟨hlt, rfl⟩ := List.getElem?_eq_some_iff.mp hi
  have hnodup : kept.Nodup := hkept.imp ne_of_lt
  simp only [hnodup.getElem_inj_iff]
  exact ⟨fun ⟨j, hj, hji⟩ => by omega, fun h => ⟨i, by omega, rfl⟩⟩

lemma movedTo_of_getElem? (hkept : kept.Pairwise (· < ·)) (hi : kept[i]? = some t) : movedTo kept t = i := by
  have hat := (le_iff_lt_countP hkept hi t).mp le_rfl
  have hle := countP_le_length (p := fun (u : Nat) => (u : Int) ≤ t) (l := kept)
  -- The next one is above `t`, so the counting ends here.
  have hlast : kept.countP fun (u : Nat) => (u : Int) ≤ t = i + 1 := by
    by_contra hne
    have hlt : i + 1 < kept.length := by omega
    have hnext := le_iff_lt_countP hkept (getElem?_eq_getElem hlt) t
    have habove := pairwise_iff_getElem.mp hkept i (i + 1) (by omega) hlt (by omega)
    rw [(List.getElem?_eq_some_iff.mp hi).2] at habove
    omega
  rw [movedTo]
  omega

lemma movedTo_range {n : Nat} {s : Int} (hlo : -1 ≤ s) (hhi : s < n) : movedTo (range n) s = s := by
  have hiff := fun i (hi : i < n) =>
    le_iff_lt_countP pairwise_lt_range (getElem?_range hi) s
  have hle : (range n).countP fun (t : Nat) => (t : Int) ≤ s ≤ n := by
    simpa using countP_le_length (l := range n)
  unfold movedTo
  generalize (range n).countP fun (t : Nat) => (t : Int) ≤ s = c at hiff hle ⊢
  have hat := hiff c
  have hbefore := hiff (c - 1)
  omega

/-- Where an exact winner moves when the kept solution at `i` goes, too. -/
lemma movedTo_eraseIdx (hkept : kept.Pairwise (· < ·)) (hi : kept[i]? = some t) (s : Int) :
    movedTo (kept.eraseIdx i) s = if movedTo kept s ≥ i then movedTo kept s - 1 else movedTo kept s := by
  have hiff := le_iff_lt_countP hkept hi s
  obtain ⟨hlt, ht⟩ := List.getElem?_eq_some_iff.mp hi
  have hcount : kept.countP fun (t : Nat) => (t : Int) ≤ s =
      (kept.eraseIdx i).countP (fun (t : Nat) => (t : Int) ≤ s) + if (t : Int) ≤ s then 1 else 0 := by
    have hperm := (getElem_cons_eraseIdx_perm hlt).countP_eq fun (t : Nat) => decide ((t : Int) ≤ s)
    rw [ht, countP_cons] at hperm
    simpa using hperm.symm
  unfold movedTo
  split at hcount <;> split <;> omega

lemma others_eq_eraseIdx (n i : Nat) :
    ((range n).filter fun (k : Nat) => (k : Int) != i) = (range n).eraseIdx i := by
  induction n with
  | zero => rfl
  | succ n ih => grind [range_succ, eraseIdx_of_length_le]

lemma lt_of_mem_others {n i k : Nat} (hk : k ∈ (range n).eraseIdx i) : k < n := mem_range.mp (mem_of_mem_eraseIdx hk)

lemma map_getElem?_range {α : Type} (xs : List α) : (range xs.length).map (xs[·]?) = xs.map some :=
  ext_getElem? fun i => by grind

lemma Left.init (hrange : ∀ e ∈ p.exact, -1 ≤ e.2.solution ∧ e.2.solution < p.count) :
    Left p spared (range p.count) p where
  sublist := .refl _
  spared_kept s hs _ := mem_range.mpr hs
  sizes := rfl
  solutions := (map_getElem?_range p.solutions).symm
  speed i s hi point _ := by
    obtain ⟨_, rfl⟩ := List.getElem?_eq_some_iff.mp hi
    rw [getElem_range]
  exact := by
    conv_lhs => rw [← map_id p.exact]
    refine map_congr_left fun e he => ?_
    rw [movedTo_range (hrange e he).1 (hrange e he).2]
    rfl

variable (h : Left p spared kept q)
include h

lemma Left.count_eq : q.count = kept.length := by
  simpa [count] using congrArg length h.solutions

lemma Left.points_eq : q.points = p.points := by
  simp only [points, box, extents, h.sizes]

lemma Left.remove (hi : kept[i]? = some s) (hs : spared s = false) :
    Left p spared (kept.eraseIdx i) (q.remove i) where
  sublist := (eraseIdx_sublist kept i).trans h.sublist
  spared_kept t ht hspared := by
    refine mem_eraseIdx_iff_getElem?.mpr ?_
    obtain ⟨j, hj⟩ := getElem?_of_mem (h.spared_kept t ht hspared)
    refine ⟨j, ?_, hj⟩
    rintro rfl
    simp_all
  sizes := h.sizes
  solutions := by
    rw [Performance.remove, others_eq_eraseIdx, solutions_restrict fun _ => lt_of_mem_others, ← eraseIdx_map, count, map_getElem?_range, h.solutions, eraseIdx_map]
  speed j t hj point hp := by
    have hlen := h.count_eq
    -- Behind the place `i` every solution was one place further on.
    obtain ⟨k, hk, hkept⟩ : ∃ k, ((range q.count).eraseIdx i)[j]? = some k ∧ kept[k]? = some t := by
      grind
    rw [Performance.remove, others_eq_eraseIdx, ← h.speed k t hkept point hp]
    exact speed_restrict (fun _ => lt_of_mem_others) hk (h.points_eq ▸ hp)
  exact := by
    have hsorted : kept.Pairwise (· < ·) := pairwise_lt_range.sublist h.sublist
    simp only [Performance.remove, h.exact, map_map]
    refine map_congr_left fun e _ => ?_
    simp only [Function.comp_apply, movedTo_eraseIdx hsorted hi]
    split <;> rfl

lemma Left.count_remove (hi : kept[i]? = some s) (hs : spared s = false) : (q.remove i).count < q.count := by
  have hlt := (List.getElem?_eq_some_iff.mp hi).1
  rw [(h.remove hi hs).count_eq, h.count_eq, length_eraseIdx_of_lt hlt]
  omega

lemma Left.isMeasured_eq (hi : kept[i]? = some s) : q.isMeasured i = p.isMeasured s := by
  rw [Bool.eq_iff_iff, isMeasured, isMeasured, h.points_eq, all_eq_true, all_eq_true]
  exact forall₂_congr fun point hp => by rw [h.speed i s hi point hp]

omit h in
lemma findIdx?_speedsAt : (q.speedsAt point).findIdx? (· == 0) = none ↔ ∀ i < q.count,
    (q.speed i point == 0) = false := by
  simp [speedsAt]

lemma Left.invalid_some {i : Nat} (hq : q.invalid? = some i) : ∃ s, kept[i]? = some s ∧ p.isMeasured s = false := by
  obtain ⟨point, hp, hfind⟩ := exists_of_findSome?_eq_some hq
  obtain ⟨hi, hzero, -⟩ := findIdx?_eq_some_iff_getElem.mp hfind
  have hlt : i < kept.length := by simpa [speedsAt, h.count_eq] using hi
  refine ⟨kept[i], getElem?_eq_getElem hlt, ?_⟩
  rw [← h.isMeasured_eq (getElem?_eq_getElem hlt)]
  have hspeed : q.speed i point == 0 := by simpa [speedsAt] using hzero
  exact all_eq_false.mpr ⟨point, mem_reverse.mp hp, by simp [hspeed]⟩

omit h in
lemma Left.invalid_none (h : Left p p.isMeasured kept q) (hq : q.invalid? = none) : kept = p.survivors := by
  have hmeasured : ∀ s ∈ kept, p.isMeasured s := by
    intro s hs
    obtain ⟨i, hi⟩ := getElem?_of_mem hs
    rw [← h.isMeasured_eq hi, isMeasured, all_eq_true]
    intro point hp
    have hnone := findSome?_eq_none_iff.mp hq point (mem_reverse.mpr hp)
    have hlt : i < q.count := by rw [h.count_eq]; exact (List.getElem?_eq_some_iff.mp hi).1
    simp [findIdx?_speedsAt.mp hnone i hlt]
  have hsub : kept.Sublist p.survivors := by
    have hfilter := h.sublist.filter p.isMeasured
    rwa [filter_eq_self.mpr hmeasured] at hfilter
  have hsup : p.survivors ⊆ kept := by
    intro s hs
    obtain ⟨hlt, hs⟩ := mem_filter.mp hs
    exact h.spared_kept s (mem_range.mp hlt) hs
  exact hsub.eq_of_length_le (subperm_of_subset (nodup_range.filter _) hsup).length_le

omit h

/-- What removals keep as long as each keeps it; they end when nothing more is picked, or at a fault of picking. -/
lemma shrink_keeps {α : Type} (index : α → Nat) (pick : Performance σ → Result (Option α)) (Keeps : Performance σ → Prop)
    (hstep : ∀ q a, Keeps q → pick q = .ok (some a) →
      Keeps (q.remove (index a)) ∧ (q.remove (index a)).count < q.count) {n : Nat} (hq : Keeps q) (hn : q.count ≤ n) :
    Keeps (shrink index pick n q).left ∧ (∀ a, pick (shrink index pick n q).left ≠ .ok (some a)) ∧
    ∀ e, (shrink index pick n q).fault = some e → pick (shrink index pick n q).left = .error e := by
  induction n generalizing q with
  | zero => exact ⟨hq, fun a ha => by have := (hstep q a hq ha).2; omega, fun e he => by simp [shrink] at he⟩
  | succ n ih =>
    unfold shrink
    cases hp : pick q with
    | error e => exact ⟨hq, fun a ha => by simp [hp] at ha, fun e' he => by simpa [hp] using he⟩
    | ok a =>
      cases a with
      | none => exact ⟨hq, fun a ha => by simp [hp] at ha, fun e' he => by simp at he⟩
      | some a =>
        obtain ⟨hnext, hless⟩ := hstep q a hq hp
        exact ih hnext (by omega)

/-- Removals end with the survivors. -/
lemma Left.removeInvalid (h : Left p p.isMeasured kept p) :
    p.removeInvalid.fault = none ∧ Left p p.isMeasured p.survivors p.removeInvalid.left := by
  have hrun := shrink_keeps id (fun q => .ok q.invalid?) (fun q => ∃ kept, Left p p.isMeasured kept q) ?_ ⟨kept, h⟩ le_rfl
  · obtain ⟨⟨kept, hleft⟩, hlast, hfault⟩ := hrun
    have hnone := Option.eq_none_iff_forall_ne_some.mpr fun i hi => hlast i (congrArg Except.ok hi)
    exact ⟨Option.eq_none_iff_forall_ne_some.mpr fun e he => (by cases hfault e he), hleft.invalid_none hnone ▸ hleft⟩
  · rintro q i ⟨kept, h⟩ hq
    obtain ⟨s, hi, hs⟩ := h.invalid_some (Except.ok.inj hq)
    exact ⟨⟨_, h.remove hi hs⟩, h.count_remove hi hs⟩

lemma pairwise_survivors : p.survivors.Pairwise (· < ·) := pairwise_lt_range.filter _

lemma lastSurvivor_eq (s : Int) :
    p.lastSurvivor s = if 0 ≤ movedTo p.survivors s then p.survivors[(movedTo p.survivors s).toNat]? else none := by
  have hle := countP_le_length (p := fun (t : Nat) => (t : Int) ≤ s) (l := p.survivors)
  rw [lastSurvivor, filter_eq_take pairwise_survivors, getLast?_eq_getElem?, length_take_of_le hle, movedTo]
  cases p.survivors.countP fun (t : Nat) => (t : Int) ≤ s <;> simp

/-- The kept solutions by their positions. -/
lemma getElem?_solutions (h : q.solutions.map some = kept.map (p.solutions[·]?)) (i : Nat) :
    q.solutions[i]? = kept[i]?.bind (p.solutions[·]?) := by
  have hi := congrArg (·[i]?) h
  simp only [getElem?_map] at hi
  cases hq : q.solutions[i]? <;> cases hp : kept[i]? <;> simp_all

lemma denoted_movedTo (hq : Left p spared p.survivors q) (s : Int) :
    q.denoted (movedTo p.survivors s) = (p.lastSurvivor s).bind (p.solutions[·]?) := by
  rw [lastSurvivor_eq, denoted]
  split
  · exact getElem?_solutions hq.solutions _
  · rfl

lemma lastSurvivor_eq_self {s : Nat} : p.lastSurvivor s = some s ↔ s ∈ p.survivors := by
  constructor
  · intro h
    exact (mem_filter.mp (mem_of_getLast? h)).1
  · intro h
    obtain ⟨i, hi⟩ := getElem?_of_mem h
    rw [lastSurvivor_eq, movedTo_of_getElem? pairwise_survivors hi]
    simpa using hi

/-- **Survivors of removing invalid solutions**: without a fault, the solutions that have a speed at every
point are left, in their order and with their speeds. Every exact winner then denotes the last survivor that
is not behind the solution it denoted before: this is the same solution if and only if that one survives. -/
theorem removeInvalid_leaves_survivors (p : Performance σ)
    (hrange : ∀ e ∈ p.exact, -1 ≤ e.2.solution ∧ e.2.solution < p.count) :
    let q := p.removeInvalid.left
    p.removeInvalid.fault = none ∧ q.sizes = p.sizes ∧
    q.solutions.map some = p.survivors.map (p.solutions[·]?) ∧
    (∀ i s, p.survivors[i]? = some s → ∀ point ∈ p.points, q.speed i point = p.speed s point) ∧
    Forall₂ (fun e e' => e'.1 = e.1 ∧ e'.2.speed = e.2.speed ∧
      q.denoted e'.2.solution = (p.lastSurvivor e.2.solution).bind (p.solutions[·]?)) p.exact q.exact ∧
    ∀ s : Nat, p.lastSurvivor s = some s ↔ s ∈ p.survivors := by
  obtain ⟨hfault, hleft⟩ := (Left.init hrange).removeInvalid
  refine ⟨hfault, hleft.sizes, hleft.solutions, hleft.speed, ?_, fun s => lastSurvivor_eq_self⟩
  rw [hleft.exact, forall₂_map_right_iff]
  exact forall₂_same.mpr fun e _ => ⟨rfl, rfl, denoted_movedTo hleft e.2.solution⟩

/-- Three solutions at one size, where the second has no speed, which is the best for another size. -/
def gapInMiddle : Performance String :=
  { solutions := ["a", "b", "c"], sizes := [[16]], speeds := #[1, 0, 3], exact := [([5], ⟨1, 30⟩), ([6], ⟨2, 20⟩)] }

/-- The winner without a speed gives its size to the solution before it. -/
theorem gapInMiddle_leaves :
    (∀ e ∈ gapInMiddle.exact, -1 ≤ e.2.solution ∧ e.2.solution < gapInMiddle.count) ∧
    gapInMiddle.survivors = [0, 2] ∧
    ∃ e ∈ gapInMiddle.removeInvalid.left.exact, e.1 = [5] ∧
      gapInMiddle.removeInvalid.left.denoted e.2.solution = some "a" := by
  have hrange : ∀ e ∈ gapInMiddle.exact, -1 ≤ e.2.solution ∧ e.2.solution < gapInMiddle.count := by decide
  have hleft : gapInMiddle.survivors = [0, 2] := by decide +kernel
  obtain ⟨-, -, -, -, hexact, -⟩ := removeInvalid_leaves_survivors gapInMiddle hrange
  obtain ⟨e, rest, he, -, heq⟩ := forall₂_cons_left_iff.mp hexact
  rw [lastSurvivor, hleft] at he
  exact ⟨hrange, hleft, e, heq ▸ mem_cons_self, he.1, he.2.2⟩

end Performance

lemma Box.nodup_points {b : Box} (hb : ∀ r ∈ b, r.1 < r.2) : b.points.Nodup := by
  rw [points_eq fun r hr => (hb r hr).le]
  exact nodup_sections (forall_mem_map.mpr fun r _ => nodup_range')

/-- The indices are the digits of a position. -/
lemma gridPosition_inj {extents point point' : Nats} (h : (Box.ofExtents extents).Holds point)
    (h' : (Box.ofExtents extents).Holds point') (heq : gridPosition extents point = gridPosition extents point') :
    point = point' := by
  induction extents generalizing point point' with
  | nil => cases h; cases h'; rfl
  | cons n extents ih =>
    obtain _ | @⟨_, x, _, xs, hx, hxs⟩ := h
    obtain _ | @⟨_, y, _, ys, hy, hys⟩ := h'
    have hdigit : x = y := by simpa [gridPosition, mod_eq_of_lt hx.2, mod_eq_of_lt hy.2] using congrArg (· % n) heq
    rw [gridPosition, gridPosition, hdigit, add_left_cancel_iff] at heq
    rw [hdigit, ih hxs hys (Nat.eq_of_mul_eq_mul_left (zero_lt_of_lt hx.2) heq)]

/-- **A box lists its points once, and a table has a place for each solution at each point.** -/
theorem points_once {b : Box} (hb : ∀ r ∈ b, r.1 < r.2) :
    b.points.Nodup ∧ (∀ point, point ∈ b.points ↔ b.Holds point) ∧
    ∀ {σ : Type} (p : Performance σ), p.speeds.size = p.total * p.count → ∀ s < p.count, ∀ point ∈ p.points,
      p.serial s point < p.speeds.size ∧ ∀ s' < p.count, ∀ point' ∈ p.points,
        p.serial s point = p.serial s' point' → s = s' ∧ point = point' := by
  refine ⟨Box.nodup_points hb, fun _ => Box.mem_points fun r hr => (hb r hr).le, fun p hsize s hs point hp => ?_⟩
  -- The solution is the first digit of a place.
  have hdigits {s : Nat} {point : Nats} (hs : s < p.count) (hp : point ∈ p.points) :
      (Box.ofExtents (p.count :: p.extents)).Holds (s :: point) := .cons ⟨s.zero_le, hs⟩ ((Box.mem_points Box.ofExtents_le).mp hp)
  have hlt := gridPosition_lt (hdigits hs hp)
  rw [prod_cons, mul_comm, prod_eq_foldl, ← Performance.total, ← hsize] at hlt
  exact ⟨hlt, fun s' hs' point' hp' heq => cons.inj (gridPosition_inj (hdigits hs hp) (hdigits hs' hp') heq)⟩

/-- A box of two by three points, and two solutions on a grid of as many sizes. -/
theorem points_once_grid : [2, 6] ∈ Box.points [(1, 3), (4, 7)] ∧ (Box.points [(1, 3), (4, 7)]).Nodup ∧
    ∃ p : Performance Unit, p.points.length = 6 ∧ p.serial 1 [1, 2] < p.speeds.size :=
  have ⟨hnodup, hmem, hserial⟩ := points_once (b := [(1, 3), (4, 7)]) (by decide)
  have hp := hserial (⟨[(), ()], [[1, 2], [1, 2, 3]], .replicate 12 0, []⟩ : Performance Unit) (by decide) 1
    (by decide) [1, 2] (by decide)
  ⟨(hmem _).mpr (.cons (by decide) (.cons (by decide) .nil)), hnodup, _, by decide, hp.1⟩

end TensorForge
