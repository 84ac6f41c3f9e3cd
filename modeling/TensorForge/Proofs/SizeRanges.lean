import Mathlib.Algebra.BigOperators.Ring.List
import Mathlib.Data.List.Nodup
import Mathlib.Data.List.Sections
import Mathlib.Data.Nat.Choose.Basic
import Mathlib.Tactic.Ring
import TensorForge.Problem.Sizes

/-!
# Sizes of a range

The wheels of a range are turned like those of an odometer. What they have still to show is the invariant of the
enumeration: a turn takes the first of it away, so that all sizes of all progressions are met, each once
(`sizeRange_enumerates`).
-/

namespace TensorForge

open List Nat Wheel

lemma length_sections {α : Type} (L : List (List α)) : L.sections.length = (L.map length).prod := by
  induction L with
  | nil => rfl
  | cons l L ih => simp [ih, mul_comm]

lemma nodup_sections {α : Type} {L : List (List α)} (h : ∀ l ∈ L, l.Nodup) : L.sections.Nodup := by
  induction L with
  | nil => exact nodup_singleton _
  | cons l L ih =>
    rw [forall_mem_cons] at h
    refine nodup_flatMap.mpr ⟨fun s _ => h.1.map fun a b hab => (cons.inj hab).1, (ih h.2).imp fun hne => ?_⟩
    grind [List.Disjoint]

namespace Wheel

variable {w : Wheel} {ws : List Wheel}

structure Rises (w : Wheel) : Prop where
  stride_pos : 0 < w.stride
  growth_nonneg : 0 ≤ w.progression.growth

/-- The size after `k` strides, where each stride is larger by the growth than the one before. -/
def nth (w : Wheel) (k : Nat) : Int := w.size + w.stride * k + w.progression.growth * k.choose 2

lemma Rises.advance (h : w.Rises) : w.advance.Rises :=
  ⟨add_pos_of_pos_of_nonneg h.stride_pos h.growth_nonneg, h.growth_nonneg⟩

lemma nth_zero (w : Wheel) : w.nth 0 = w.size := by simp [nth]

lemma nth_succ (w : Wheel) (k : Nat) : w.nth (k + 1) = w.advance.nth k := by
  rw [nth, nth, choose_succ_succ' k 1, choose_one_right, advance]
  push_cast
  ring

lemma Rises.nth_lt (h : w.Rises) {j k : Nat} (hjk : j < k) : w.nth j < w.nth k := by
  refine strictMono_nat_of_lt_succ (f := w.nth) (fun k => ?_) hjk
  induction k generalizing w with
  | zero => simpa [nth] using h.stride_pos
  | succ k ih => simpa only [nth_succ] using ih h.advance

/-- With fuel for each number up to the maximum, the sizes up to it are shown. -/
lemma Rises.sizes_eq (h : w.Rises) : ∃ n, (∀ k, k < n ↔ w.nth k ≤ w.progression.max) ∧
    ∀ fuel : Nat, w.progression.max < w.size + fuel → w.sizes fuel = (range n).map w.nth := by
  induction hd : (w.progression.max + 1 - w.size).toNat using Nat.strongRecOn generalizing w with
  | ind d ih =>
    have hpos := h.stride_pos
    by_cases hle : w.size ≤ w.progression.max
    · obtain ⟨n, hn, hsizes⟩ := ih _ (by simp only [Wheel.advance]; omega) h.advance rfl
      refine ⟨n + 1, fun k => ?_, fun fuel hfuel => ?_⟩
      · cases k with
        | zero => simpa [nth_zero] using hle
        | succ k => rw [nth_succ, succ_lt_succ_iff, hn, Wheel.advance]
      · obtain ⟨fuel, rfl⟩ := exists_eq_add_one.mpr (show 0 < fuel by omega)
        have hrest := hsizes fuel (by simp only [Wheel.advance]; omega)
        rw [sizes, opt, if_pos hle, hrest, range_succ_eq_map, map_cons, nth_zero, map_map]
        exact congrArg _ (map_congr_left fun k _ => (w.nth_succ k).symm)
    · refine ⟨0, fun k => ?_, fun fuel _ => ?_⟩
      · obtain rfl | hk := k.eq_zero_or_pos
        · simpa [nth_zero] using hle
        · have := w.nth_zero ▸ h.nth_lt hk
          omega
      · cases fuel with
        | zero => rfl
        | succ fuel => rw [sizes, opt, if_neg hle]; rfl

/-- The sizes that a wheel has still to show. -/
def rest (w : Wheel) : Ints := w.sizes (w.progression.max + 1 - w.size).toNat

variable {fuel : Nat}

lemma Rises.rest_eq (h : w.Rises) (hfuel : w.progression.max < w.size + fuel) : w.sizes fuel = w.rest := by
  obtain ⟨n, -, hsizes⟩ := h.sizes_eq
  rw [rest, hsizes fuel hfuel, hsizes _ (by omega)]

lemma rest_of_lt (h : w.progression.max < w.size) : w.rest = [] := by
  rw [rest, Int.toNat_of_nonpos (by omega)]
  rfl

/-- A wheel that shows a size. -/
structure Runs (w : Wheel) : Prop extends w.Rises where
  restart : (start w.progression).Rises
  nonempty : w.progression.min ≤ w.progression.max
  size_le : w.size ≤ w.progression.max

lemma Runs.rest_cons (h : w.Runs) : w.rest = w.size :: w.advance.rest := by
  have hle := h.size_le
  have hpos := h.stride_pos
  obtain ⟨fuel, hfuel⟩ : ∃ fuel, (w.progression.max + 1 - w.size).toNat = fuel + 1 := exists_eq_add_one.mpr (by omega)
  rw [rest, hfuel, sizes, opt, if_pos hle, h.toRises.advance.rest_eq (by simp only [advance]; omega)]

lemma Runs.start (h : w.Runs) : (start w.progression).Runs := ⟨h.restart, h.restart, h.nonempty, h.nonempty⟩

/-- What a row of wheels shows after its sizes: the first wheel turns to its end, and then all round for each of
the sizes that the others show. -/
def later : List Wheel → List Ints
  | [] => []
  | w :: ws => w.advance.rest.map (· :: ws.map (·.size)) ++
      (later ws).flatMap fun sizes => (start w.progression).rest.map (· :: sizes)

lemma Runs.shows (h : w.Runs) (ws : List Wheel) : w.rest.map (· :: ws.map (·.size)) ++
    ((later ws).flatMap fun sizes => (Wheel.start w.progression).rest.map (· :: sizes)) =
      (w :: ws).map (·.size) :: later (w :: ws) := by
  rw [h.rest_cons]
  rfl

lemma turn_false (h : ∀ w ∈ ws, w.Runs) : turn false ws = (ws, false) := by
  induction ws with
  | nil => rfl
  | cons w ws ih =>
    rw [forall_mem_cons] at h
    simp [turn, ih h.2, not_lt.mpr h.1.size_le]

/-- A turn shows the first of what is to come, or says that there is no more. -/
lemma turn_true (h : ∀ w ∈ ws, w.Runs) : (later ws = [] ∧ (turn true ws).2) ∨
    ∃ vs, turn true ws = (vs, false) ∧ (∀ v ∈ vs, v.Runs) ∧ vs.length = ws.length ∧
      later ws = vs.map (·.size) :: later vs := by
  induction ws with
  | nil => exact .inl ⟨rfl, rfl⟩
  | cons w ws ih =>
    obtain ⟨hw, hws⟩ := forall_mem_cons.mp h
    by_cases hlt : w.advance.size > w.advance.progression.max
    · have hrest : w.advance.rest = [] := rest_of_lt hlt
      obtain ⟨hlater, hdone⟩ | ⟨vs, hturn, hruns, hlen, hlater⟩ := ih hws
      · exact .inl ⟨by simp [later, hrest, hlater], by simp [turn, hlt, hdone]⟩
      · refine .inr ⟨start w.progression :: vs, by simp only [turn, if_true, if_pos hlt, hturn]; rfl,
          forall_mem_cons.mpr ⟨hw.start, hruns⟩, by simp [hlen], ?_⟩
        rw [later, hrest, hlater, ← hw.start.shows]
        rfl
    · have hruns : w.advance.Runs := ⟨hw.toRises.advance, hw.restart, hw.nonempty, not_lt.mp hlt⟩
      refine .inr ⟨w.advance :: ws, by simp [turn, hlt, turn_false hws], forall_mem_cons.mpr ⟨hruns, hws⟩, rfl, ?_⟩
      rw [← hruns.shows]
      rfl

end Wheel

/-- Sizes that rise, and by more at each step if the stride grows. -/
structure Progression.Rising (p : Progression) : Prop where
  nonempty : p.min ≤ p.max
  stride_pos : 0 < p.stride
  growth_nonneg : 0 ≤ p.growth

namespace RangeEntry

variable {p : Progression} {ps : List Progression} {ws : List Wheel} {sizes : Ints}

lemma runs_start (h : p.Rising) : (start p).Runs :=
  ⟨⟨h.stride_pos, h.growth_nonneg⟩, ⟨h.stride_pos, h.growth_nonneg⟩, h.nonempty, h.nonempty⟩

lemma rest_start (h : p.Rising) (hfuel : fuel ≥ p.bound) : (start p).sizes fuel = (start p).rest := by
  refine (runs_start h).rest_eq ?_
  simp only [start, Progression.bound] at hfuel ⊢
  omega

lemma values_spec (h : p.Rising) : p.values.Nodup ∧ p.values ≠ [] ∧
    ∀ x, x ∈ p.values ↔ x ≤ p.max ∧ ∃ k : Nat, x = p.min + p.stride * k + p.growth * k.choose 2 := by
  obtain ⟨n, hn, hsizes⟩ := (runs_start h).sizes_eq
  have hvalues : p.values = (range n).map (start p).nth := hsizes _ (by simp only [start, Progression.bound]; omega)
  have hpos : 0 < n := (hn 0).mpr (by rw [Wheel.nth_zero]; exact h.nonempty)
  rw [hvalues]
  refine ⟨pairwise_lt_range.map _ fun j k hjk => ((runs_start h).nth_lt hjk).ne, by simpa using hpos.ne', fun x => ?_⟩
  simp only [mem_map, mem_range, hn]
  constructor
  · rintro ⟨k, hk, rfl⟩
    exact ⟨hk, k, rfl⟩
  · rintro ⟨hx, k, rfl⟩
    exact ⟨k, hx, rfl⟩

lemma later_start (h : ∀ p ∈ ps, p.Rising) :
    (ps.map start).map (·.size) :: later (ps.map start) = (ps.map (·.values)).sections := by
  induction ps with
  | nil => rfl
  | cons p ps ih =>
    rw [forall_mem_cons] at h
    change _ = (ps.map (·.values)).sections.flatMap fun sizes => p.values.map (· :: sizes)
    rw [← ih h.2, map_cons, ← (runs_start h.1).shows, Progression.values, rest_start h.1 le_rfl]
    rfl

lemma fill_sized (before : Ints) (hps : ps.length = sizes.length) (hws : ws.length = sizes.length) :
    fill (before ++ sizes) before.length (ps.map .sized) ws = some (before ++ ws.map (·.size)) := by
  induction sizes generalizing before ps ws with
  | nil => simp_all [fill]
  | cons x sizes ih =>
    obtain ⟨p, ps, rfl⟩ := exists_cons_of_length_eq_add_one hps
    obtain ⟨w, ws, rfl⟩ := exists_cons_of_length_eq_add_one hws
    simpa [fill] using ih (before ++ [w.size]) (succ.inj hps) (succ.inj hws)

/-- The enumeration gives the sizes of the wheels and then what they have still to show. -/
lemma enumerate_sized (hruns : ∀ w ∈ ws, w.Runs) (hps : ps.length = sizes.length) (hws : ws.length = sizes.length)
    (hfuel : (later ws).length < fuel) :
    enumerate (ps.map .sized) fuel sizes ws = some (ws.map (·.size) :: later ws) := by
  induction fuel generalizing ws sizes with
  | zero => cases hfuel
  | succ fuel ih =>
    have hfill : fill sizes 0 (ps.map .sized) ws = some (ws.map (·.size)) := fill_sized [] hps hws
    obtain ⟨hlater, hdone⟩ | ⟨vs, hturn, hvs, hlen, hlater⟩ := turn_true hruns
    · simp [enumerate, hfill, hlater, hdone]
    · rw [hlater, length_cons] at hfuel
      have hrest := ih hvs (hps.trans (hws.symm.trans (length_map (·.size)).symm)) (hlen.trans (length_map _).symm) (by omega)
      simp [enumerate, hfill, hturn, hrest, hlater]

lemma maxima_sized (before ps : List Progression) : maxima before (ps.map .sized) = some (ps.map (·.max)) := by
  induction ps generalizing before with
  | nil => rfl
  | cons p ps ih => simp [maxima, ih]

lemma progressions_sized (ps : List Progression) : progressions (ps.map .sized) = ps := by
  simp [progressions]

lemma bound_sized (h : ∀ p ∈ ps, p.Rising) : bound (ps.map .sized) = (ps.map (·.values)).sections.length := by
  rw [length_sections, map_map, prod_eq_foldl, foldl_map, bound, progressions_sized]
  refine foldl_ext _ _ _ fun n p hp => congrArg (n * ·) (max_eq_right ?_)
  exact length_pos_of_ne_nil (values_spec (h p hp)).2.1

end RangeEntry

namespace SizeRange

lemma elems_of_lt {maxima is : Ints} (h : ∀ i ∈ is, 0 ≤ i ∧ i < maxima.length) : ∃ n, elems maxima is = some n := by
  unfold elems
  generalize (1 : Int) = n
  induction is generalizing n with
  | nil => exact ⟨n, rfl⟩
  | cons i is ih =>
    rw [forall_mem_cons] at h
    have hpos : pos? maxima.length i = some i.toNat := by grind [pos?]
    have hi : i.toNat < maxima.length := by omega
    rw [foldlM_cons, hpos]
    simpa [hi] using ih h.2 (n * maxima[i.toNat])

open RangeEntry

/-- A range of rising progressions shows every choice of their sizes once, and neither the list of the sizes nor that
of an index would be longer with more fuel. -/
theorem sizeRange_enumerates {ps : List Progression} {c a b : Ints} (hne : ps ≠ []) (hps : ∀ p ∈ ps, p.Rising)
    (hidx : ∀ is ∈ [c, a, b], ∀ i ∈ is, 0 ≤ i ∧ i < ps.length) :
    ∃ r, ofEntries (ps.map .sized) c a b = some r ∧ r.problems.Nodup ∧
      (∀ sizes, sizes ∈ r.problems ↔ List.Forall₂ (fun x (p : Progression) =>
        x ≤ p.max ∧ ∃ k : Nat, x = p.min + p.stride * k + p.growth * k.choose 2) sizes ps) ∧
      r.problems.length = r.total ∧
      (∀ fuel ≥ RangeEntry.bound (ps.map .sized),
        enumerate (ps.map .sized) fuel (.replicate ps.length 0) (ps.map Wheel.start) = some r.problems) ∧
      ∀ p ∈ ps, ∀ fuel ≥ p.bound, (Wheel.start p).sizes fuel = p.values := by
  have henum (fuel : Nat) (h : fuel ≥ RangeEntry.bound (ps.map .sized)) :
      enumerate (ps.map .sized) fuel (.replicate ps.length 0) (ps.map Wheel.start) =
        some (ps.map (·.values)).sections := by
    rw [bound_sized hps, ← later_start hps] at h
    rw [← later_start hps]
    refine enumerate_sized ?_ (by simp) (by simp) h
    simpa using fun p hp => runs_start (hps p hp)
  have hproblems : RangeEntry.problems (ps.map .sized) = some (ps.map (·.values)).sections := by
    obtain ⟨p, ps, rfl⟩ := exists_cons_of_ne_nil hne
    simpa only [RangeEntry.problems, progressions_sized, length_map] using henum _ le_rfl
  have helems (is : Ints) (his : is ∈ [c, a, b]) : ∃ n, elems (ps.map (·.max)) is = some n :=
    elems_of_lt (by simpa using hidx is his)
  obtain ⟨x, hx⟩ := helems c (by simp)
  obtain ⟨y, hy⟩ := helems a (by simp)
  obtain ⟨z, hz⟩ := helems b (by simp)
  refine ⟨⟨ps.map .sized, ps.map (·.max), [x, y, z], _⟩, ?_, nodup_sections ?_, fun sizes => ?_, ?_, henum, fun p hp fuel h => ?_⟩
  · simp [ofEntries, maxima_sized, hx, hy, hz, hproblems]
  · simpa using fun p hp => (values_spec (hps p hp)).1
  · rw [mem_sections, forall₂_map_right_iff, forall₂_iff_zip, forall₂_iff_zip]
    exact and_congr_right fun _ => forall₂_congr fun x p => imp_congr_right fun hmem =>
      (values_spec (hps p (of_mem_zip hmem).2)).2.2 x
  · simp [total, counts, Function.comp_def, RangeEntry.count, length_sections, prod_eq_foldl]
  · rw [rest_start (hps p hp) h, Progression.values, rest_start (hps p hp) le_rfl]

/-- The sizes 1, 2, 5 and 10 with 5, 6 and 7. -/
theorem sizeRange_enumerates_grown : ∃ r, ofEntries ([⟨1, 1, 2, 10⟩, ⟨5, 1, 0, 7⟩].map .sized) [0, 1] [0, 1] [1, 0] = some r ∧
    r.problems.length = r.total ∧ [5, 6] ∈ r.problems := by
  have hrising : ∀ p ∈ [(⟨1, 1, 2, 10⟩ : Progression), ⟨5, 1, 0, 7⟩], p.Rising := by
    simp only [forall_mem_cons, not_mem_nil, false_imp_iff, implies_true, and_true]
    exact ⟨⟨by decide, by decide, by decide⟩, by decide, by decide, by decide⟩
  obtain ⟨r, hr, -, hmem, hlen, -⟩ := sizeRange_enumerates (by decide) hrising
    (c := [0, 1]) (a := [0, 1]) (b := [1, 0]) (by decide)
  exact ⟨r, hr, hlen, (hmem _).mpr (.cons ⟨by decide, 2, by decide⟩ (.cons ⟨by decide, 1, by decide⟩ .nil))⟩

end SizeRange

end TensorForge
