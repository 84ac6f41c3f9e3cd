import Mathlib.Data.Prod.Lex
import TensorForge.Proofs.InvalidSolutions

/-!
# Solutions that are kept

Two ways of choosing among measured solutions. Unimportant solutions are taken out one by one, and exact winners are
spared. Or only winners are kept, those of single sizes and the first best at every point of the grid.
-/

namespace TensorForge

open List

namespace Performance

variable {σ α : Type} {p q : Performance σ} {kept : Nats} {spared : Nat → Bool}
  {pick : Performance σ → Result (Option α)} {point : Nats} {index : α → Nat}

lemma removed_eq_nil {n : Nat} (h : ∀ a, pick q ≠ .ok (some a)) : (shrink index pick n q).removed = [] := by
  cases n with
  | zero => rfl
  | succ n =>
    unfold shrink
    cases hp : pick q with
    | error e => rfl
    | ok a =>
      cases a with
      | none => rfl
      | some a => exact absurd hp (h a)

/-- The exact winners of `q` denote the solutions that those of `p` denote. -/
def SameExact (p q : Performance σ) : Prop :=
  Forall₂ (fun e e' => e'.1 = e.1 ∧ e'.2.speed = e.2.speed ∧
    q.denoted e'.2.solution = p.denoted e.2.solution) p.exact q.exact

def SparesExact (p : Performance σ) (spared : Nat → Bool) : Prop :=
  ∀ e ∈ p.exact, ∃ s : Nat, e.2.solution = s ∧ s < p.count ∧ spared s

lemma Left.sameExact (h : Left p spared kept q) (hexact : p.SparesExact spared) : SameExact p q := by
  rw [SameExact, h.exact, forall₂_map_right_iff]
  refine forall₂_same.mpr fun e he => ⟨rfl, rfl, ?_⟩
  obtain ⟨s, hs, hlt, hspared⟩ := hexact e he
  obtain ⟨i, hi⟩ := getElem?_of_mem (h.spared_kept s hlt hspared)
  rw [hs, movedTo_of_getElem? (pairwise_lt_range.sublist h.sublist) hi]
  simp [denoted, getElem?_solutions h.solutions, hi]

/-! ## Unimportant solutions -/

/-- A podium of speeds that times can be reckoned from. -/
def Podium.Timed (d : Podium) : Prop := (d.best == 0) = false ∧ (d.second == 0) = false

lemma Podium.Timed.add {d : Podium} (h : d.Timed) (s : Nat) {x : Float} (hx : (x == 0) = false) :
    (d.add s x).Timed := by
  unfold Podium.add
  split
  · exact ⟨hx, h.1⟩
  · split
    · exact ⟨h.1, hx⟩
    · exact h

lemma timed_podium (h : ∀ s < p.count, (p.speed s point == 0) = false) : (p.podium point).Timed := by
  refine foldlRecOn (motive := Podium.Timed) _ _ ⟨by decide +kernel, by decide +kernel⟩ ?_
  intro d hd x hx
  refine hd.add x.2 ?_
  obtain ⟨s, hs, hspeed⟩ := mem_map.mp (fst_mem_of_mem_zipIdx hx)
  exact hspeed ▸ h s (mem_range.mp hs)

lemma map_solution_modify {items : List Importance} {w : Nat} {f : Importance → Importance}
    (h : ∀ i, (f i).solution = i.solution) : (items.modify w f).map (·.solution) = items.map (·.solution) := by
  refine ext_getElem? fun i => ?_
  rw [getElem?_map, getElem?_map, getElem?_modify]
  cases items[i]? with
  | none => rfl
  | some x => by_cases hw : w = i <;> simp [hw, h]

lemma Importances.add_ok (t : Importances) (operations : Int) {d : Podium} (hd : d.Timed) :
    ∃ t', t.add operations d = .ok t' ∧ t'.items.map (·.solution) = t.items.map (·.solution) := by
  unfold add timeAt
  simp only [hd.1, hd.2]
  cases d.winner with
  | none => exact ⟨t, rfl, rfl⟩
  | some w => exact ⟨_, rfl, map_solution_modify fun _ => rfl⟩

lemma foldlM_add_ok {points : List Nats} (h : ∀ point ∈ points, (p.podium point).Timed) (perStep : Int)
    (t : Importances) :
    ∃ t', points.foldlM (fun t point => t.add (p.operations perStep point) (p.podium point)) t = .ok t' ∧
      t'.items.map (·.solution) = t.items.map (·.solution) := by
  induction points generalizing t with
  | nil => exact ⟨t, rfl, rfl⟩
  | cons point points ih =>
    obtain ⟨next, hnext, hitems⟩ := t.add_ok (p.operations perStep point) (h point (by simp))
    obtain ⟨t', ht', hsame⟩ := ih (fun point hp => h point (by simp [hp])) next
    exact ⟨t', by rw [foldlM_cons, hnext]; exact ht', hsame.trans hitems⟩

/-- Where every solution has a speed, the least important one is found without a fault. -/
lemma leastImportant_ok (h : ∀ s < p.count, p.isMeasured s) (perStep : Int) : ∃ r, p.leastImportant perStep = .ok r ∧
      ∀ s, r = some s → s.solution < p.count ∧ p.isExactWinner s.solution = false := by
  have htimed : ∀ point ∈ p.points, (p.podium point).Timed := fun point hp => timed_podium fun s hs => by
    simpa using all_eq_true.mp (h s hs) point hp
  obtain ⟨t, ht, hitems⟩ := foldlM_add_ok htimed perStep { items := (range p.count).map fun s => { solution := s } }
  rw [map_map, Function.comp_def, map_id'] at hitems
  refine ⟨_, by rw [leastImportant, importances, ht]; rfl, fun s hs => ?_⟩
  obtain ⟨i, hi, rfl⟩ := Option.map_eq_some_iff.mp hs
  have hmem : i.solution ∈ t.items.map (·.solution) :=
    mem_map_of_mem ((mergeSort_perm _ _).mem_iff.mp (mem_of_find?_eq_some hi))
  have hspare : i.singular = false ∧ p.isExactWinner i.solution = false := by simpa using find?_some hi
  exact ⟨mem_range.mp (hitems ▸ hmem), hspare.2⟩

variable {perStep : Int} {small : Float → Result Bool}

/-- What may come of looking for an unimportant solution: at most the fault of the test of shares. -/
def Spares (p : Performance σ) (small : Float → Result Bool) : Result (Option Spare) → Prop
  | .error e => ∃ x, small x = .error e
  | .ok none => True
  | .ok (some s) => 1 < p.count ∧ s.solution < p.count ∧ p.isExactWinner s.solution = false

lemma unimportant_spares (h : ∀ s < p.count, p.isMeasured s) : p.Spares small (p.unimportant? perStep small) := by
  obtain ⟨r, hr, hspare⟩ := leastImportant_ok h perStep
  rw [unimportant?, hr]
  split
  · trivial
  · cases r with
    | none => trivial
    | some s =>
      simp only [bind, Except.bind]
      cases hb : small s.saved with
      | error e => exact ⟨s.saved, hb⟩
      | ok b =>
        simp only
        split
        · exact ⟨by omega, hspare s rfl⟩
        · trivial

lemma Left.measured (h : Left p spared kept q) (hp : ∀ s < p.count, p.isMeasured s) :
    ∀ i < q.count, q.isMeasured i := by
  intro i hi
  rw [h.count_eq] at hi
  rw [h.isMeasured_eq (getElem?_eq_getElem hi)]
  exact hp _ (mem_range.mp (h.sublist.subset (getElem_mem hi)))

/-- A kept exact winner stays one. -/
lemma Left.isExactWinner (h : Left p spared kept q) {i s : Nat} (hi : kept[i]? = some s)
    (hs : p.isExactWinner s) : q.isExactWinner i := by
  obtain ⟨e, he, heq⟩ := any_eq_true.mp hs
  have hmoved := movedTo_of_getElem? (pairwise_lt_range.sublist h.sublist) hi
  rw [Performance.isExactWinner, h.exact, any_map]
  refine any_eq_true.mpr ⟨e, he, ?_⟩
  simp_all

lemma sparesExact_isExactWinner (hrange : ∀ e ∈ p.exact, 0 ≤ e.2.solution ∧ e.2.solution < p.count) :
    p.SparesExact p.isExactWinner := by
  intro e he
  obtain ⟨hlo, hhi⟩ := hrange e he
  obtain ⟨s, hs⟩ := Int.eq_ofNat_of_zero_le hlo
  exact ⟨s, hs, by omega, any_eq_true.mpr ⟨e, he, by simp [hs]⟩⟩

/-- **Removing unimportant solutions is safe**: with a speed for every solution at every point and exact winners among
the solutions, removals stop with a fault only if the given test of shares has one, and otherwise they go on until
there is nothing more to remove. One solution at least is left, exact winners are never removed, and the solutions
that are left are in their order and have their speeds. Every exact winner denotes the same solution as before. -/
theorem removeLeastImportant_spares_winners (p : Performance σ) (perStep : Int) (small : Float → Result Bool)
    (hmeasured : ∀ s < p.count, p.isMeasured s)
    (hrange : ∀ e ∈ p.exact, 0 ≤ e.2.solution ∧ e.2.solution < p.count) :
    let r := p.removeLeastImportant perStep small
    let q := r.left
    (∀ e, r.fault = some e → ∃ x, small x = .error e) ∧ (q.removeLeastImportant perStep small).removed = [] ∧
    (0 < p.count → 0 < q.count) ∧ SameExact p q ∧
    ∃ kept, Kept p kept q ∧ ∀ s < p.count, p.isExactWinner s → s ∈ kept := by
  have hinit : Left p p.isExactWinner (range p.count) p := Left.init fun e he => by have := hrange e he; omega
  have hrun := shrink_keeps (·.solution) (·.unimportant? perStep small)
    (fun q => ∃ kept, Left p p.isExactWinner kept q ∧ (0 < p.count → 0 < kept.length)) ?_ ⟨_, hinit, by simp⟩ le_rfl
  · obtain ⟨⟨kept, hleft, hpos⟩, hlast, hfault⟩ := hrun
    refine ⟨fun e he => ?_, removed_eq_nil hlast, ?_, hleft.sameExact (sparesExact_isExactWinner hrange), kept, hleft.toKept,
      hleft.spared_kept⟩
    · have hspares : Spares _ small (.error e) := hfault e he ▸ unimportant_spares (hleft.measured hmeasured)
      exact hspares
    · rw [removeLeastImportant, hleft.count_eq]
      exact hpos
  · rintro q s ⟨kept, h, -⟩ hs
    obtain ⟨hcount, hlt, hwinner⟩ : Spares q small (.ok (some s)) := hs ▸ unimportant_spares (h.measured hmeasured)
    rw [h.count_eq] at hcount
    have hlt := h.count_eq ▸ hlt
    have hi := getElem?_eq_getElem hlt
    have hspared : p.isExactWinner kept[s.solution] = false := by
      by_contra hne
      simp [h.isExactWinner hi (by simpa using hne)] at hwinner
    have hlen := length_eraseIdx_of_lt hlt
    exact ⟨⟨_, h.remove hi hspared, by omega⟩, h.count_remove hi hspared⟩

/-- A solution that wins nothing before one that wins everything. -/
def neverFirst : Performance String :=
  { solutions := ["a", "b"], sizes := [[16]], speeds := #[1, 3], exact := [([5], ⟨1, 30⟩)] }

/-- The exact winner stays, whatever its new position is. -/
theorem neverFirst_spares_winner : (∀ s < neverFirst.count, neverFirst.isMeasured s) ∧
    (∀ e ∈ neverFirst.exact, 0 ≤ e.2.solution ∧ e.2.solution < neverFirst.count) ∧
    let q := (neverFirst.removeLeastImportant 2 fun _ => .ok true).left
    0 < q.count ∧ ∃ e ∈ q.exact, e.1 = [5] ∧ q.denoted e.2.solution = some "b" := by
  have hmeasured : ∀ s < neverFirst.count, neverFirst.isMeasured s := by decide +kernel
  have hrange : ∀ e ∈ neverFirst.exact, 0 ≤ e.2.solution ∧ e.2.solution < neverFirst.count := by decide
  obtain ⟨-, -, hpos, hexact, -⟩ :=
    removeLeastImportant_spares_winners neverFirst 2 (fun _ => .ok true) hmeasured hrange
  obtain ⟨e, rest, he, -, heq⟩ := forall₂_cons_left_iff.mp hexact
  exact ⟨hmeasured, hrange, hpos (by decide), e, heq ▸ mem_cons_self, he.1, he.2.2⟩

/-! ## Winners -/

section Order

open Float.Model

/-- The place of a floating-point number among all that are numbers. -/
def rank : UnpackedFloat → Option (ℤ ×ₗ ℤ ×ₗ ℤ)
  | .notANumber => none
  | .infinity .negative => some (toLex (-2, toLex (0, 0)))
  | .finite .negative m e _ => some (toLex (-1, toLex (-e, -m)))
  | .zero _ => some (toLex (0, toLex (0, 0)))
  | .finite .positive m e _ => some (toLex (1, toLex (e, m)))
  | .infinity .positive => some (toLex (2, toLex (0, 0)))

lemma lt_iff_rank {a b : UnpackedFloat} : a.lt b ↔ ∃ x y, rank a = some x ∧ rank b = some y ∧ x < y := by
  have hlt : ∀ (e e' : Int) (m m' : Nat), (compare e e').then (compare m m') = .lt ↔ e < e' ∨ e = e' ∧ m < m' := by
    intro e e' m m'
    rw [Ordering.then_eq_lt, compare_lt_iff_lt, compare_eq_iff_eq, compare_lt_iff_lt]
  have hgt : ∀ (e e' : Int) (m m' : Nat), (compare e e').then (compare m m') = .gt ↔ e' < e ∨ e = e' ∧ m' < m := by
    intro e e' m m'
    rw [Ordering.then_eq_gt, compare_gt_iff_gt, compare_eq_iff_eq, compare_gt_iff_gt]
  rcases a with (_ | _) | _ | _ | ⟨_ | _, m, e, _⟩ <;> rcases b with (_ | _) | _ | _ | ⟨_ | _, m', e', _⟩ <;>
    dsimp only [UnpackedFloat.lt, UnpackedFloat.compare, rank] <;> simp [Prod.Lex.toLex_lt_toLex, hlt, hgt]
  rfl

variable {x y z : Float}

lemma float_lt_iff : x < y ↔ ∃ i j, rank x.toModel.unpack = some i ∧ rank y.toModel.unpack = some j ∧ i < j := by
  rw [← lt_iff_rank]
  exact decide_eq_true_iff

lemma float_lt_trans (hxy : x < y) (hyz : y < z) : x < z := by
  rw [float_lt_iff] at *
  obtain ⟨i, j, hi, hj, hij⟩ := hxy
  obtain ⟨j', k, hj', hk, hjk⟩ := hyz
  obtain rfl : j = j' := Option.some.inj (hj.symm.trans hj')
  exact ⟨i, k, hi, hk, hij.trans hjk⟩

/-- What a number does not exceed is below what exceeds it. -/
lemma float_lt_of_not_lt {floor : Float} (hz : floor < z) (hxz : ¬ x < z) (hxy : x < y) : z < y := by
  rw [float_lt_iff] at *
  obtain ⟨-, k, -, hk, -⟩ := hz
  obtain ⟨i, j, hi, hj, hij⟩ := hxy
  have hle : ¬ i < k := fun h => hxz ⟨i, k, hi, hk, h⟩
  exact ⟨k, j, hk, hj, (not_lt.mp hle).trans_lt hij⟩

lemma float_lt_irrefl (x : Float) : ¬ x < x := by
  rw [float_lt_iff]
  rintro ⟨i, j, hi, hj, hij⟩
  exact hij.ne (Option.some.inj (hi.symm.trans hj))

end Order

/-- Among `n` speeds, `s` is the first one that no other exceeds. A speed of a million below zero or less is none. -/
structure FirstBest (speed : Nat → Float) (n s : Nat) : Prop where
  lt : s < n
  above : -1.0e6 < speed s
  best : ∀ t < n, ¬ speed s < speed t
  first : ∀ t < s, -1.0e6 < speed t → speed t < speed s

/-- What a podium says about the first `n` speeds. -/
structure Podium.Tells (d : Podium) (speed : Nat → Float) (n : Nat) : Prop where
  bound : ∀ t < n, ¬ d.best < speed t
  none : d.winner = none → d.best = -1.0e6
  some : ∀ s, d.winner = some s → d.best = speed s ∧ FirstBest speed n s

variable {speed : Nat → Float} {n s : Nat} {d : Podium}

lemma Podium.Tells.above (h : d.Tells speed n) {x : Float} (hx : d.best < x) : -1.0e6 < x := by
  cases hw : d.winner with
  | none => exact h.none hw ▸ hx
  | some s => exact float_lt_trans ((h.some s hw).1 ▸ (h.some s hw).2.above) hx

lemma Podium.Tells.add (h : d.Tells speed n) : (d.add n (speed n)).Tells speed (n + 1) := by
  by_cases hx : d.best < speed n
  · have hbound : ∀ t < n + 1, ¬ speed n < speed t := Nat.forall_lt_succ_right.mpr
      ⟨fun t ht hlt => h.bound t ht (float_lt_trans hx hlt), float_lt_irrefl _⟩
    have hbest : FirstBest speed (n + 1) n := ⟨Nat.lt_succ_self n, h.above hx, hbound, fun t ht habove =>
      float_lt_of_not_lt habove (h.bound t ht) hx⟩
    rw [Podium.add, if_pos hx]
    exact ⟨hbound, fun hw => (by cases hw), fun s hs => by cases hs; exact ⟨rfl, hbest⟩⟩
  · have hsame : (d.add n (speed n)).winner = d.winner ∧ (d.add n (speed n)).best = d.best := by
      rw [Podium.add, if_neg hx]
      split <;> exact ⟨rfl, rfl⟩
    have hbound := Nat.forall_lt_succ_right.mpr ⟨h.bound, hx⟩
    constructor <;> simp only [hsame]
    · exact hbound
    · exact h.none
    · intro s hs
      obtain ⟨heq, hfirst⟩ := h.some s hs
      exact ⟨heq, by have := hfirst.lt; omega, hfirst.above, heq ▸ hbound, hfirst.first⟩

lemma tells_podium (point : Nats) : (p.podium point).Tells (p.speed · point) p.count := by
  have hfold : ∀ n, ((range n).foldl (fun d s => d.add s (p.speed s point)) {} : Podium).Tells
      (p.speed · point) n := by
    intro n
    induction n with
    | zero => exact ⟨fun t ht => by omega, fun _ => rfl, fun s hs => by cases hs⟩
    | succ n ih =>
      rw [range_succ, foldl_append]
      exact ih.add
  have hzip : (p.speedsAt point).zipIdx = (range p.count).map fun s => (p.speed s point, s) :=
    ext_getElem? fun i => by by_cases hi : i < p.count <;> simp [speedsAt, hi]
  rw [podium, hzip, foldl_map]
  exact hfold p.count

/-- The podium is won by the first best. -/
lemma winner_podium_iff : (p.podium point).winner = some s ↔ FirstBest (p.speed · point) p.count s := by
  have htells := tells_podium (p := p) point
  refine ⟨fun h => (htells.some s h).2, fun h => ?_⟩
  cases hw : (p.podium point).winner with
  | none => exact absurd h.above (htells.none hw ▸ htells.bound s h.lt)
  | some w =>
    obtain ⟨-, hfirst⟩ := htells.some w hw
    have hw := h.best w hfirst.lt
    have hs := hfirst.best s h.lt
    have := h.first w
    have := hfirst.first s
    grind [h.above, hfirst.above]

/-- A kept first best stays the first best. -/
lemma Left.firstBest (h : Left p spared kept q) (hp : point ∈ p.points) {i : Nat}
    (hi : kept[i]? = some s) (hs : FirstBest (p.speed · point) p.count s) : FirstBest (q.speed · point) q.count i := by
  have hsorted : kept.Pairwise (· < ·) := pairwise_lt_range.sublist h.sublist
  have hat : ∀ j < q.count, ∃ t < p.count, (j < i → t < s) ∧ q.speed j point = p.speed t point := by
    intro j hj
    rw [h.count_eq] at hj
    obtain ⟨hlt, rfl⟩ := List.getElem?_eq_some_iff.mp hi
    exact ⟨kept[j], mem_range.mp (h.sublist.subset (getElem_mem hj)),
      pairwise_iff_getElem.mp hsorted j i hj hlt, h.speed j _ (getElem?_eq_getElem hj) point hp⟩
  have hlt : i < q.count := by rw [h.count_eq]; exact (List.getElem?_eq_some_iff.mp hi).1
  have hspeed := h.speed i s hi point hp
  refine ⟨hlt, hspeed ▸ hs.above, fun j hj => ?_, fun j hj habove => ?_⟩
  · obtain ⟨t, ht, -, heq⟩ := hat j hj
    rw [hspeed, heq]
    exact hs.best t ht
  · obtain ⟨t, -, hbefore, heq⟩ := hat j (by omega)
    rw [hspeed, heq]
    exact hs.first t (hbefore hj) (heq ▸ habove)

lemma mem_winners_iff : (s : Int) ∈ p.winners ↔
    p.isExactWinner s ∨ ∃ point ∈ p.points, FirstBest (p.speed · point) p.count s := by
  have hbest : ∀ point, p.bestAt point = s ↔ FirstBest (p.speed · point) p.count s := by
    intro point
    rw [← winner_podium_iff, bestAt]
    cases (p.podium point).winner with
    | none => simp
    | some w => simp
  simp [winners, isExactWinner, hbest, or_comm]

lemma renumber_ok {position : Int → Result Int} {f : Int → Int} {exact : List (Ints × ExactWinner)}
    (h : ∀ e ∈ exact, position e.2.solution = .ok (f e.2.solution)) :
    renumber position exact = (exact.map fun e => (e.1, { e.2 with solution := f e.2.solution }), none) := by
  induction exact with
  | nil => rfl
  | cons e rest ih => simp only [renumber, h e (by simp), ih fun e he => h e (by simp [he]), map_cons]

lemma mem_retained {wanted : Ints} : s ∈ p.retained wanted ↔ s < p.count ∧ (s : Int) ∈ wanted := by
  simp [retained]

lemma newPosition_eq (hkept : kept.Pairwise (· < ·)) (hs : s ∈ kept) (hn : s < n) :
    newPosition n kept s = .ok (movedTo kept s) := by
  obtain ⟨i, hi⟩ := getElem?_of_mem hs
  obtain ⟨hlt, hat⟩ := List.getElem?_eq_some_iff.mp hi
  have hfind : kept.findIdx? fun (k : Nat) => (k : Int) == s = some i := by
    rw [findIdx?_eq_some_iff_getElem]
    refine ⟨hlt, by simp [hat], fun j hj => ?_⟩
    have hless := pairwise_iff_getElem.mp hkept j i (by omega) hlt hj
    simpa using (hat ▸ hless).ne
  have hpos : ¬ (s : Int) < 0 := by omega
  rw [newPosition, if_neg hpos, movedTo_of_getElem? hkept hi]
  simp [hfind, hn]

/-- Keeping some solutions, with the exact winners among them, spares them. -/
lemma keep_left {wanted : Ints} (hexact : p.SparesExact (wanted.contains ·)) :
    (p.keep wanted).2 = none ∧ Left p (wanted.contains ·) (p.retained wanted) (p.keep wanted).1 := by
  have hsub : (p.retained wanted).Sublist (range p.count) := filter_sublist
  have hlt : ∀ s ∈ p.retained wanted, s < p.count := fun s hs => (mem_retained.mp hs).1
  have hnew : ∀ e ∈ p.exact, newPosition p.count (p.retained wanted) e.2.solution =
      .ok (movedTo (p.retained wanted) e.2.solution) := by
    intro e he
    obtain ⟨s, hs, hcount, hw⟩ := hexact e he
    rw [hs]
    exact newPosition_eq (pairwise_lt_range.sublist hsub) (mem_retained.mpr ⟨hcount, by simpa using hw⟩) hcount
  rw [keep, renumber_ok hnew]
  exact ⟨rfl, ⟨hsub, rfl, solutions_restrict hlt, fun i s hi point hp => speed_restrict hlt hi hp⟩,
    fun s hs hw => mem_retained.mpr ⟨hs, by simpa using hw⟩, rfl⟩

/-- **Keeping winners keeps the best**: with exact winners among the solutions, keeping the winners has no fault. The
solutions that are left are the exact winners and at every point the first best among the speeds above a million below
zero, in their order and with their speeds. Every exact winner denotes the same solution as before, and the first best
of a point is the first best there of what is left. -/
theorem keep_winners_keeps_best (p : Performance σ)
    (hrange : ∀ e ∈ p.exact, 0 ≤ e.2.solution ∧ e.2.solution < p.count) :
    let q := (p.keep p.winners).1
    (p.keep p.winners).2 = none ∧ SameExact p q ∧
    ∃ kept, Kept p kept q ∧
      (∀ s < p.count, s ∈ kept ↔ p.isExactWinner s ∨ ∃ point ∈ p.points, FirstBest (p.speed · point) p.count s) ∧
      ∀ point ∈ p.points, ∀ s, FirstBest (p.speed · point) p.count s →
        ∃ i, kept[i]? = some s ∧ FirstBest (q.speed · point) q.count i := by
  have hexact : p.SparesExact (p.winners.contains ·) := by
    intro e he
    obtain ⟨s, hs, hlt, hw⟩ := sparesExact_isExactWinner hrange e he
    exact ⟨s, hs, hlt, by simpa using mem_winners_iff.mpr (.inl hw)⟩
  obtain ⟨hfault, hleft⟩ := keep_left hexact
  have hmem : ∀ s < p.count, s ∈ p.retained p.winners ↔
      p.isExactWinner s ∨ ∃ point ∈ p.points, FirstBest (p.speed · point) p.count s := by
    intro s hs
    rw [mem_retained, mem_winners_iff, and_iff_right hs]
  refine ⟨hfault, hleft.sameExact hexact, p.retained p.winners, hleft.toKept, hmem, fun point hp s hs => ?_⟩
  obtain ⟨i, hi⟩ := getElem?_of_mem ((hmem s hs.lt).mpr (.inr ⟨point, hp, hs⟩))
  exact ⟨i, hi, hleft.firstBest hp hi hs⟩

/-- Of three solutions the first is an exact winner, and the last is the best. -/
def bestLast : Performance String :=
  { solutions := ["a", "b", "c"], sizes := [[16]], speeds := #[1, 2, 3], exact := [([5], ⟨0, 30⟩)] }

theorem bestLast_keeps_best :
    (∀ e ∈ bestLast.exact, 0 ≤ e.2.solution ∧ e.2.solution < bestLast.count) ∧
    ∃ kept : List Nat, 0 ∈ kept ∧ 2 ∈ kept ∧
      (bestLast.keep bestLast.winners).1.solutions.map some = kept.map (bestLast.solutions[·]?) := by
  have hrange : ∀ e ∈ bestLast.exact, 0 ≤ e.2.solution ∧ e.2.solution < bestLast.count := by decide
  have hbest : FirstBest (bestLast.speed · [0]) bestLast.count 2 := winner_podium_iff.mp (by decide +kernel)
  obtain ⟨-, -, kept, hkept, hmem, -⟩ := keep_winners_keeps_best bestLast hrange
  exact ⟨hrange, kept, (hmem 0 (by decide)).mpr (.inl (by decide)),
    (hmem 2 (by decide)).mpr (.inr ⟨[0], by decide, hbest⟩), hkept.solutions⟩

/-- One solution with a speed of two millions below zero. -/
def farBelow : Performance String := { solutions := ["a"], sizes := [[16]], speeds := #[-2.0e6] }

/-- The only solution is the best at the only point, and it is not kept. -/
theorem farBelow_keeps_none : farBelow.points = [[0]] ∧
    (∀ t < farBelow.count, ¬ farBelow.speed 0 [0] < farBelow.speed t [0]) ∧
    (farBelow.keep farBelow.winners).1.solutions = [] := by
  refine ⟨by decide, by decide +kernel, by decide +kernel⟩

end Performance

end TensorForge
