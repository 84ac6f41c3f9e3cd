import TensorForge.Parameters
import TensorForge.Proofs.Accumulators
import TensorForge.Solution.LocalMemory

/-!
# Tiles of matrix instructions

Blocks and waves are derived from the work group by divisions and minima. They hold all threads of the work group
exactly when nothing is cut off on the way (`shortForm_keeps_threads_iff`), and the long form comes back from the work
group that stands for it only with one wave, or all blocks, in a column (`longForm_as_written_iff`). A thread stores
its tile in vectors, each element in one (`elems_cover`).
-/

namespace TensorForge.Tile

open Int Parameters

variable {m n k b bm bn t0 t1 w0 w1 g0 g1 : Int} {type : Text}

lemma quot_of_pos (a : Int) (hb : 0 < b) : quot a b = .ok (a / b) := by
  simp [quot, hb.ne', fdiv_eq_ediv_of_nonneg a hb.le]

/-- The shapes are square, and a column of blocks fills a wave or a part of it. -/
lemma shape_cases (h : [m, n, k, b] ∈ shapesOf type) :
    n = m ∧ (m = 32 ∨ m = 16 ∨ m = 4 ∧ b = 4 * outputsOf 4 (type == "D")) ∧ 0 < b ∧ m * b ∣ 64 := by
  have hall : ∀ s ∈ matrixShapes, ∀ ns ∈ s.2, ns.getD 1 0 = ns.getD 0 0 ∧
      (ns.getD 0 0 = 32 ∨ ns.getD 0 0 = 16 ∨ ns.getD 0 0 = 4 ∧ ns.getD 3 0 = 4 * outputsOf 4 (s.1 == "D")) ∧
      0 < ns.getD 3 0 ∧ ns.getD 0 0 * ns.getD 3 0 ∣ 64 := by decide
  rw [shapesOf] at h
  cases hf : matrixShapes.find? (·.1 == type) with
  | none => simp [hf] at h
  | some s =>
    obtain rfl : s.1 = type := by simpa using List.find?_some hf
    exact hall s (List.mem_of_find?_eq_some hf) _ (by simpa [hf] using h)

/-- Macro tiles and threads of an arrangement. -/
lemma threadLayout_ends (hs : [m, n, k, b] ∈ shapesOf type) (bm bn t0 t1 w0 w1 : Int) :
    ∃ y, threadLayout ⟨m, n, k, b, bm, bn⟩ w0 w1 t0 t1 64 (outputsOf m (type == "D")) = .ok y ∧
      y.group0 * y.tile0 = m * bm * t0 * w0 ∧ y.group1 * y.tile1 = n * bn * t1 * w1 ∧
      (bm * bn = b → y.group0 * y.group1 = 64 * w0 * w1) := by
  obtain ⟨rfl, rfl | rfl | ⟨rfl, rfl⟩, -⟩ := shape_cases hs
  · exact ⟨⟨bm * t0 * 16, bn * t1, w0 * 2, w1 * 32⟩, rfl, by ring, by ring, fun _ => by ring⟩
  · exact ⟨⟨bm * t0 * 4, bn * t1, w0 * 4, w1 * 16⟩, rfl, by ring, by ring, fun _ => by ring⟩
  -- Of four rows a thread holds all, or one in double precision.
  · obtain ⟨o, c, ho, hpos, hc⟩ : ∃ o c, outputsOf 4 (type == "D") = o ∧ 0 < o ∧ 4 = o * c := by
      cases type == "D"
      · exact ⟨4, 1, rfl, by decide, rfl⟩
      · exact ⟨1, 4, rfl, by decide, rfl⟩
    have hq : w0 * 4 * bm / o = w0 * c * bm := by
      rw [hc, show w0 * (o * c) * bm = w0 * c * bm * o by ring, mul_ediv_cancel _ hpos.ne']
    rw [ho]
    refine ⟨⟨t0 * o, t1, w0 * c * bm, w1 * 4 * bn⟩, ?_, ?_, by ring, fun h => ?_⟩
    · simp [threadLayout, quot_of_pos _ hpos, hq]
    · calc w0 * c * bm * (t0 * o) = o * c * bm * t0 * w0 := by ring
        _ = 4 * bm * t0 * w0 := by rw [← hc]
    · calc w0 * c * bm * (w1 * 4 * bn) = 4 * c * (bm * bn) * w0 * w1 := by ring
        _ = 16 * (o * c) * w0 * w1 := by rw [h]; ring
        _ = 64 * w0 * w1 := by rw [← hc]; ring

/-- What `arrange` finds for `rows` rows of instructions and `waves` waves. -/
def arranged (m n k b rows waves t0 t1 : Int) : MatrixWaves :=
  let w0 := min (rows / min rows b) waves
  { block := ⟨m, n, k, b, min rows b, b / min rows b⟩, group0 := w0, group1 := waves / w0, tile0 := t0
    tile1 := t1 / n, inputs := m * k * b / 64 }

lemma ediv_pos {a c : Int} (hc : 0 < c) (h : c ≤ a) : 0 < a / c := (Int.le_ediv_iff_mul_le hc).2 (by omega)

/-- Without threads for a whole wave no wave is counted, and the waves are divided by none. -/
lemma arrange_eq (hm : 0 < m) (hn : 0 < n) (hb : 0 < b) (hg : 0 ≤ g0 * g1) (k t0 t1 : Int) :
    arrange m n k b g0 g1 t0 t1 64 = if g0 * g1 < 64 then .error .divisionByZero
      else .ok (arranged m n k b (max m g0 / m) (g0 * g1 / 64) t0 t1) := by
  have hmax : (if g0 < m then m else g0) = max m g0 := by omega
  have hrows : 0 < max m g0 / m := ediv_pos hm (le_max_left ..)
  have hbm : 0 < min (max m g0 / m) b := by omega
  have hcols : 0 < max m g0 / m / min (max m g0 / m) b := ediv_pos hbm (min_le_left ..)
  have hall (a : Int) : quot a 64 = .ok (a / 64) := quot_of_pos a (by decide)
  simp only [arrange, hmax, bind, Except.bind, quot_of_pos _ hm, quot_of_pos _ hbm, quot_of_pos _ hn, hall]
  by_cases h : g0 * g1 < 64
  · rw [if_pos h, show g0 * g1 / 64 = 0 by omega, min_eq_right hcols.le]
    rfl
  · have hpos : 0 < min (max m g0 / m / min (max m g0 / m) b) (g0 * g1 / 64) := by omega
    rw [if_neg h, quot_of_pos _ hpos]
    rfl

lemma mul_ediv_eq_iff {a c : Int} : c * (a / c) = a ↔ c ∣ a := ⟨fun h => ⟨_, h.symm⟩, Int.mul_ediv_cancel'⟩

/-- No block and no thread of the work group is lost. -/
def KeepsThreads (x : MatrixWaves) (y : ThreadLayout) (threads : Int) : Prop :=
  x.block.bm * x.block.bn = x.block.b ∧ y.group0 * y.group1 = 64 * x.group0 * x.group1 ∧
    y.group0 * y.group1 = threads

/-- Blocks and threads of a work group: a short form keeps them exactly when each division comes out even. -/
theorem shortForm_keeps_threads_iff (hs : [m, n, k, b] ∈ shapesOf type) (h0 : 0 < g0) (h1 : 0 < g1) :
    (g0 * g1 < 64 → arrange m n k b g0 g1 t0 t1 64 = .error .divisionByZero) ∧
    (64 ≤ g0 * g1 → ∃ x y, arrange m n k b g0 g1 t0 t1 64 = .ok x ∧
      threadLayout x.block x.group0 x.group1 x.tile0 x.tile1 64 (outputsOf m (type == "D")) = .ok y ∧
      (KeepsThreads x y (g0 * g1) ↔ x.block.bm ∣ b ∧ 64 ∣ g0 * g1 ∧ x.group0 ∣ g0 * g1 / 64)) := by
  obtain ⟨hmn, hm, hb, -⟩ := shape_cases hs
  have heq := arrange_eq (by omega : 0 < m) (by omega : 0 < n) hb (mul_pos h0 h1).le k t0 t1
  refine ⟨fun h => by rw [heq, if_pos h], fun h => ?_⟩
  rw [if_neg (by omega)] at heq
  generalize hx : arranged m n k b (max m g0 / m) (g0 * g1 / 64) t0 t1 = x at heq
  have hbn : x.block.bn = b / x.block.bm := by rw [← hx]; rfl
  have hw1 : x.group1 = g0 * g1 / 64 / x.group0 := by rw [← hx]; rfl
  obtain ⟨y, hy, -, -, hthreads⟩ := threadLayout_ends hs x.block.bm x.block.bn x.tile0 x.tile1 x.group0 x.group1
  refine ⟨x, y, heq, by rw [← hy, ← hx]; rfl, ?_⟩
  rw [KeepsThreads, hbn, show x.block.b = b by rw [← hx]; rfl, mul_ediv_eq_iff]
  constructor
  · rintro ⟨hd, hw, hall⟩
    rw [hw, hw1, mul_assoc] at hall
    refine ⟨hd, ⟨_, hall.symm⟩, mul_ediv_eq_iff.1 ?_⟩
    omega
  · rintro ⟨hd, hg, hw⟩
    have ht := hthreads (by rw [hbn]; exact mul_ediv_eq_iff.2 hd)
    refine ⟨hd, ht, ?_⟩
    rw [ht, hw1, mul_assoc, mul_ediv_eq_iff.2 hw, mul_ediv_eq_iff.2 hg]

/-- Three rows of four blocks leave one out. -/
theorem shortForm_three_rows : [16, 16, 1, 4] ∈ shapesOf "S" ∧ ∃ x y,
    arrange 16 16 1 4 48 4 1 16 64 = .ok x ∧
    threadLayout x.block x.group0 x.group1 x.tile0 x.tile1 64 (outputsOf 16 ("S" == "D")) = .ok y ∧
    ¬ KeepsThreads x y (48 * 4) := by
  have hs : [16, 16, 1, 4] ∈ shapesOf "S" := by decide
  obtain ⟨x, y, hx, hy, h⟩ := (@shortForm_keeps_threads_iff 16 16 1 4 1 16 48 4 "S" hs (by decide)
    (by decide)).2 (by decide)
  refine ⟨hs, x, y, hx, hy, fun hk => ?_⟩
  cases hx
  exact absurd (h.1 hk).1 (by decide)

lemma arranged_as_written {x : MatrixWaves} (hx : arranged m n k b (bm * w0) (w0 * w1) t0 t1 = x) (hbm : 0 < bm)
    (hd : bm ≤ b) (h0 : 0 < w0) (h1 : 0 < w1) (h : w0 = 1 ∨ bm = b) :
    x.block.bm = bm ∧ x.block.bn = b / bm ∧ x.group0 = w0 ∧ x.group1 = w1 := by
  have hrows : min (bm * w0) b = bm := by
    obtain rfl | rfl := h
    · rw [mul_one, min_eq_left hd]
    · exact min_eq_right (le_mul_of_one_le_right hbm.le h0)
  have hw : min (bm * w0 / bm) (w0 * w1) = w0 := by
    rw [mul_ediv_cancel_left _ hbm.ne']
    exact min_eq_left (le_mul_of_one_le_right h0.le h1)
  simp only [← hx, arranged, hrows, hw, mul_ediv_cancel_left _ h0.ne', and_self]

/-- Blocks, waves, macro tiles and threads are those that a long form names. -/
def AsWritten (x : MatrixWaves) (y : ThreadLayout) (bm t0 t1 w0 w1 : Int) : Prop :=
  let bn := x.block.b / bm
  (x.block.bm = bm ∧ x.block.bn = bn ∧ x.group0 = w0 ∧ x.group1 = w1) ∧ x.tile0 = t0 ∧ x.tile1 = t1 ∧
    y.group0 * y.tile0 = x.block.m * bm * t0 * w0 ∧ y.group1 * y.tile1 = x.block.n * bn * t1 * w1 ∧
    y.group0 * y.group1 = 64 * w0 * w1

/-- The rows that the long form asks for go into the blocks first, and only what is left over into waves. -/
theorem longForm_as_written_iff (hs : [m, n, k, b] ∈ shapesOf type) (hbm : 0 < bm) (hd : bm ∣ b)
    (h0 : 0 < w0) (h1 : 0 < w1) :
    ∃ l x y, longForm 64 [m, n, k, b, bm, t0, t1, w0, w1] = some (.ok l) ∧
      arrange m n k b l.group0 l.group1 l.tile0 l.tile1 64 = .ok x ∧
      threadLayout x.block x.group0 x.group1 x.tile0 x.tile1 64 (outputsOf m (type == "D")) = .ok y ∧
      (AsWritten x y bm t0 t1 w0 w1 ↔ w0 = 1 ∨ bm = b) := by
  obtain ⟨hmn, hm, hb, hfit⟩ := shape_cases hs
  have hm' : 0 < m := by omega
  have hg : 0 < bm * m * w0 := mul_pos (mul_pos hbm hm') h0
  -- The second side of the work group is a whole number, as the rows of a column divide a wave.
  obtain ⟨c, hc⟩ : bm * m ∣ 64 := (Int.mul_comm .. ▸ Int.mul_dvd_mul_left m hd).trans hfit
  have hq : w0 * w1 * 64 / (bm * m * w0) = w1 * c := by
    rw [hc, show w0 * w1 * (bm * m * c) = w1 * c * (bm * m * w0) by ring, mul_ediv_cancel _ hg.ne']
  have hall : bm * m * w0 * (w1 * c) = w0 * w1 * 64 := by rw [hc]; ring
  have hpos : 0 < w0 * w1 := mul_pos h0 h1
  have hrows : bm * m * w0 = bm * w0 * m := by ring
  have hge : m ≤ bm * w0 * m := le_mul_of_one_le_left hm'.le (mul_pos hbm h0)
  have heq := arrange_eq hm' (by omega : 0 < n) hb (by omega : 0 ≤ bm * m * w0 * (w1 * c)) k t0 (t1 * n)
  rw [hall, if_neg (by omega), hrows, max_eq_right hge, mul_ediv_cancel _ hm'.ne',
    mul_ediv_cancel _ (by decide)] at heq
  have hl : longForm 64 [m, n, k, b, bm, t0, t1, w0, w1] = some (.ok ⟨t0, t1 * n, bm * w0 * m, w1 * c⟩) := by
    simp only [longForm, quot_of_pos _ hg, hq]
    rw [hrows]
    rfl
  have htile1 : t1 * n / n = t1 := mul_ediv_cancel _ (by omega)
  generalize hx : arranged m n k b (bm * w0) (w0 * w1) t0 (t1 * n) = x at heq
  obtain ⟨y, hy, ht0, ht1, hthreads⟩ :=
    threadLayout_ends hs x.block.bm x.block.bn x.tile0 x.tile1 x.group0 x.group1
  refine ⟨_, x, y, hl, heq, by rw [← hy, ← hx]; rfl, ?_, fun h => ?_⟩
  · rintro ⟨⟨hblock, -⟩, -⟩
    obtain h | h := min_choice (bm * w0) b <;> rw [← hx] at hblock
    · have : bm * w0 = bm * 1 := by rw [mul_one, ← h]; exact hblock
      exact .inl (Int.eq_of_mul_eq_mul_left hbm.ne' this)
    · exact .inr (hblock.symm.trans h)
  · obtain ⟨e1, e2, e3, e4⟩ := arranged_as_written hx hbm (le_of_dvd hb hd) h0 h1 h
    have et1 : x.tile1 = t1 := by rw [← hx]; exact htile1
    rw [e1, e3] at ht0
    rw [e2, e4, et1] at ht1
    rw [e1, e2, e3, e4] at hthreads
    subst hx
    exact ⟨⟨e1, e2, e3, e4⟩, rfl, htile1, ht0, ht1, hthreads (Int.mul_ediv_cancel' hd)⟩

/-- Two waves of one block in a column become one wave of both blocks. -/
theorem longForm_two_waves : ∃ l x y, longForm 64 [32, 32, 1, 2, 1, 1, 1, 2, 2] = some (.ok l) ∧
    arrange 32 32 1 2 l.group0 l.group1 l.tile0 l.tile1 64 = .ok x ∧
    threadLayout x.block x.group0 x.group1 x.tile0 x.tile1 64 (outputsOf 32 ("S" == "D")) = .ok y ∧
    ¬ AsWritten x y 1 1 1 2 2 := by
  obtain ⟨l, x, y, hl, hx, hy, h⟩ := @longForm_as_written_iff 32 32 1 2 1 1 1 2 2 "S" (by decide) (by decide)
    (by decide) (by decide) (by decide)
  exact ⟨l, x, y, hl, hx, hy, fun hw => absurd (h.1 hw) (by decide)⟩

end TensorForge.Tile

namespace TensorForge.Assembly.Store

open Emit Int List

/-- The vectors of rows and columns in a tile of a thread, its extents and the widest vector it is stored in. -/
structure Tile where
  (rowVec colVec rows cols widest : Int)

def Tile.of (k : KernelSpec) : Tile :=
  match k.matrix with
  | some m =>
    let (cols, rows) := if m.m == 4 then (m.waveTile0 * m.outVecWidth, m.waveTile1)
      else (m.bm * m.waveTile0 * (m.m * m.n / k.waveSize), m.bn * m.waveTile1)
    ⟨1, m.outVecWidth, rows, cols, k.storeVecWidth⟩
  | none => ⟨k.vecWidth, k.vecWidth, k.threadTile1, k.threadTile0, k.vecWidth⟩

def Tile.cells (t : Tile) (width : Int) (e : Elem) : List (Int × Int) :=
  (upTo width).map fun i => (e.vc1 + t.rowVec * e.d1, i + (e.vc0 + t.colVec * e.d0))

/-- A row is its vectors, and they are their parts. -/
lemma columns_once {width parts : Int} (hw : 0 < width) (hp : 0 < width * parts) (vectors row : Int) :
    (upTo vectors).flatMap (fun d => (multiplesBelow (width * parts) width).flatMap fun s =>
      (upTo width).map fun i => (row, i + (s + width * parts * d))) =
    (upTo (width * parts * vectors)).map (row, ·) := by
  have hparts : (width * parts + width - 1) / width = parts := by
    rw [Int.add_sub_assoc, Int.add_comm, add_mul_ediv_left _ _ hw.ne', ediv_eq_zero_of_lt (by omega) (by omega), Int.zero_add]
  rw [← Acc.upTo_mul hp.le, map_flatMap]
  congr 1
  funext d
  rw [← Acc.upTo_digits hw.le, map_flatMap, multiplesBelow, hparts, flatMap_map]
  congr 1
  funext j
  simp [Int.mul_add, Int.mul_assoc, Int.mul_comm j]

/-- Every element of a thread's tile is in one vector, at the edge and elsewhere. -/
theorem elems_cover (k : KernelSpec) (edge : Bool) {t : Tile} (ht : t = .of k) {width : Int}
    (hwidth : width = storeWidth k edge t.widest) (hpos : 0 < width) (hdvd : width ∣ t.colVec) (hvec : 0 < t.colVec)
    (hcols : t.colVec ∣ t.cols) (hrows : t.rowVec ∣ t.rows) :
    ∃ es, elems k edge = pure (width, es) ∧
      (es.flatMap (t.cells width)).Perm ((upTo t.rows).flatMap fun r => (upTo t.cols).map (r, ·)) := by
  obtain ⟨parts, hparts⟩ := hdvd
  obtain ⟨vectors, hvectors⟩ := hcols
  obtain ⟨groups, hgroups⟩ := hrows
  have hrow := hparts ▸ hvec
  cases hm : k.matrix with
  | some m =>
    simp only [Tile.of, hm] at ht
    subst ht
    simp only at hwidth hparts hvectors hvec
    have hq : quotient (m.outVecWidth * vectors) m.outVecWidth = pure vectors := by
      rw [quotient, if_neg (by simp [hvec.ne']), fdiv_eq_ediv_of_nonneg _ hvec.le, mul_ediv_cancel_left _ hvec.ne']
    refine ⟨_, by simp only [elems, hm, hvectors, hq, ← hwidth]; rfl, ?_⟩
    simp only [flatMap_assoc, hvectors]
    refine Perm.flatMap_left _ fun r _ => ?_
    rw [hparts, ← columns_once hpos hrow]
    cases k.srcSwap <;> simp only [Bool.false_eq_true, if_false, if_true, flatMap_assoc, flatMap_map, Tile.cells,
      Int.zero_add, Int.one_mul]
    · exact .refl _
    · exact Acc.flatMap_flatMap_perm ..
  | none =>
    simp only [Tile.of, hm] at ht
    subst ht
    simp only at hwidth hparts hvectors hvec hgroups
    have heven : evenWidth k edge k.vecWidth = pure width := by
      rw [evenWidth, ← hwidth, hparts]
      cases edge <;> simp [hpos.ne', check]
    refine ⟨_, by simp only [elems, hm, heven]; rfl, ?_⟩
    simp only [hvectors, hgroups, mul_ediv_cancel_left _ hvec.ne', flatMap_assoc, flatMap_map, Tile.cells]
    rw [← Acc.upTo_mul hvec.le groups, flatMap_assoc]
    simp only [flatMap_map, hparts, columns_once hpos hrow]
    exact .refl _

/-- Four by four elements in halves of vectors. -/
theorem elems_cover_halves :
    let k : KernelSpec := { (default : KernelSpec) with
      vecStore := true, vecWidth := 4, threadTile0 := 4, threadTile1 := 4, assertFree0 := 2 }
    storeWidth k true 4 = 2 ∧ ∃ es, elems k true = pure (2, es) ∧
      (es.flatMap (Tile.cells (.of k) 2)).Perm ((upTo 4).flatMap fun r => (upTo 4).map (r, ·)) :=
  ⟨by decide, elems_cover _ _ rfl (by decide) (by decide) (by decide) (by decide) (by decide) (by decide)⟩

end TensorForge.Assembly.Store
