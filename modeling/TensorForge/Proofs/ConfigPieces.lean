import TensorForge.Proofs.Returns
import TensorForge.Proofs.SizeTables
import TensorForge.Tuning.Split

/-!
# Pieces of a benchmark configuration

A configuration lists entries, each a problem type with groups of benchmarks, and a group lists the sizes
to measure in the first of its final steps. Splitting cuts the sizes of every group into runs and writes
one piece for each: the runs of a group are its sizes in order, and a piece is the configuration with that
one group, where everything but the final steps stays as it was. Of the final steps a piece has the sizes
alone: what else the first step says is not in it, and no other step is (`Piece.group`).
-/

namespace TensorForge.Split

open Gen List Table

lemma flatten_runs {α : Type} (n : Nat) (count : Nat) (xs : List α) (h : xs.length ≤ count * n) :
    ((range count).map fun i => (xs.drop (i * n)).take n).flatten = xs := by
  induction count generalizing xs with
  | zero => simpa [eq_comm] using h
  | succ count ih =>
    have hrest := ih (xs.drop n) (by rw [length_drop]; rw [Nat.succ_mul] at h; omega)
    simp only [drop_drop] at hrest
    rw [range_succ_eq_map, map_cons, map_map, flatten_cons, Nat.zero_mul, drop_zero]
    simp only [Function.comp_def, Nat.succ_mul, Nat.add_comm _ n]
    rw [hrest, take_append_drop]

variable {n : Nat} (hn : 0 < n)
include hn

lemma chunks_eq (xs : Values) :
    chunks n xs = (range ((xs.length + n - 1) / n)).map fun i => (xs.drop (i * n)).take n := by
  rw [chunks, if_neg (by omega)]
  rfl

lemma flatten_chunks (xs : Values) : (chunks n xs).flatten = xs := by
  rw [chunks_eq hn]
  refine flatten_runs n _ xs ?_
  have := Nat.div_add_mod' (xs.length + n - 1) n
  have := Nat.mod_lt (xs.length + n - 1) hn
  omega

lemma length_of_mem_chunks {xs run : Values} (h : run ∈ chunks n xs) : 0 < run.length ∧ run.length ≤ n := by
  rw [chunks_eq hn] at h
  obtain ⟨i, hi, rfl⟩ := mem_map.mp h
  have hlast := (Nat.le_div_iff_mul_le hn).mp (mem_range.mp hi)
  rw [Nat.succ_mul] at hlast
  rw [length_take, length_drop]
  omega

omit hn

abbrev finalKey : Text := "BenchmarkFinalParameters"

/-- A group of benchmarks: its first final step lists sizes. -/
structure Group where
  (params first : Table)
  (others sizes : Values)
  untyped : params.has "OperationType" = false
  final : params.get? finalKey = some (.list (.dict first :: others))
  listed : first.get? "ProblemSizes" = some (.list sizes)
  measured : sizes ≠ []

/-- A problem type among the groups of benchmarks for it. -/
structure Entry where
  type : Table
  typed : type.has "OperationType"
  (before after : List Group)

namespace Entry

variable (e : Entry)

def groups : List Group := e.before ++ e.after

def parts (groups : List Group) : Values := groups.map fun g => .dict g.params

def value : Value := .list (parts e.before ++ .dict e.type :: parts e.after)

end Entry

/-- The configuration of one group with a run of its sizes. -/
structure Piece (config : Table) (e : Entry) (g : Group) (run : Values) (out : Table) : Prop where
  rest : out.erase (.str problemsKey) = config.erase (.str problemsKey)
  group : ∃ params : Table, out.get? problemsKey = some (.list [.list [.dict e.type, .dict params]]) ∧
    params.erase (.str finalKey) = g.params.erase (.str finalKey) ∧
    params.get? finalKey = some (.list [.record [("ProblemSizes", .list run)]])

/-- The pieces of a group: its sizes in order, in runs of at most `n`. -/
def Cut (n : Nat) (config : Table) (x : Entry × Group) (pieces : Tables) : Prop :=
  ∃ runs : List Values, runs.flatten = x.2.sizes ∧ (∀ run ∈ runs, 0 < run.length ∧ run.length ≤ n) ∧
    Forall₂ (Piece config x.1 x.2) runs pieces

variable {config : Table} {e : Entry} {g : Group}

variable {v : Value}

lemma returns_lookup {t : Table} {key : Text} (h : t.get? key = some v) : Returns (fetch t key) v := by
  rw [fetch, h]
  exact .pure' v

lemma returns_nth {xs : Values} {i : Nat} (h : xs[i]? = some v) : Returns (nth xs i) v := by
  rw [nth]
  simp only [show ¬(i : Int) < 0 by omega, if_false, Int.toNat_natCast, h]
  exact .pure' v

/-- The configuration of a whole entry, and of a group of it. -/
def entryPiece (config : Table) (e : Entry) : Table := withProblems config (.list [e.value])

def groupPiece (config : Table) (e : Entry) (g : Group) : Table :=
  withProblems (entryPiece config e) (.list [.list [.dict e.type, .dict g.params]])

def runPiece (config : Table) (e : Entry) (g : Group) (run : Values) : Table :=
  withProblems (groupPiece config e g) (.list [.list [.dict e.type,
    .dict (g.params.set finalKey (.list [.record [("ProblemSizes", .list run)]]))]])

lemma piece_runPiece (config : Table) (e : Entry) (g : Group) (run : Values) :
    Piece config e g run (runPiece config e g run) where
  rest := by simp only [runPiece, groupPiece, entryPiece, withProblems, erase_set]
  group := ⟨_, get?_set .., erase_set .., get?_set ..⟩

lemma returns_byProblem {entries : List Entry} (h : config.get? problemsKey = some (.list (entries.map (·.value)))) :
    Returns (byProblem config) (entries.map (entryPiece config)) := by
  refine .bind' (returns_lookup h) (.bind' (.pure' _) ?_)
  rw [map_map]
  exact .pure' _

lemma returns_onlyProblem (parts : Values) :
    Returns (onlyProblem (withProblems config (.list [.list parts]))) parts :=
  .bind' (returns_lookup (get?_set ..)) (.bind' (.pure' _) (.bind' (.pure' _) (.bind' (.pure' _) (.pure' _))))

lemma returns_firstPlace (gs : List Group) (rest : Values) (i : Nat) :
    Returns (firstPlace isProblemType (Entry.parts gs ++ .dict e.type :: rest) i) (some (i + gs.length)) := by
  induction gs generalizing i with
  | nil =>
    refine .bind' (.pure' _) ?_
    rw [e.typed]
    exact .pure' _
  | cons g gs ih =>
    refine .bind' (.pure' _) ?_
    rw [g.untyped, length_cons, ← Nat.add_assoc, Nat.add_right_comm]
    exact ih (i + 1)

lemma returns_byGroup (config : Table) (e : Entry) :
    Returns (byGroup (entryPiece config e)) (e.groups.map (groupPiece config e)) := by
  refine .bind' (returns_onlyProblem _) (.bind' (returns_firstPlace e.before _ 0) (.bind' (returns_nth (v := .dict e.type) ?_) ?_))
  · simp [Entry.parts]
  · rw [Nat.zero_add, eraseIdx_append_of_length_le (by simp [Entry.parts])]
    simp only [Entry.parts, length_map, Nat.sub_self, eraseIdx_cons_zero, ← map_append, map_map]
    exact .pure' _

lemma returns_isIn {t : Table} {key : Text} (h : t.get? key = some v) :
    Returns (Value.isIn key (.dict t)) true := by
  have hany : t.any fun e => Value.same e.1 key := by
    induction t with
    | nil => cases h
    | cons e t ih =>
      rw [get?_cons] at h
      by_cases he : Value.same e.1 key
      · simp [he]
      · rw [if_neg he] at h
        simp [ih h]
  exact fun s => ⟨s, congrArg (EStateM.Result.ok · s) hany⟩

lemma returns_bySizes (hn : 0 < n) (config : Table) (e : Entry) (g : Group) :
    Returns (bySizes n (groupPiece config e g)) ((chunks n g.sizes).map (runPiece config e g)) := by
  have hplaces : Returns (lastPlaces [.dict e.type, .dict g.params] 0 none none) (some 0, some 1) := by
    have hfinal : g.params.has finalKey := by rw [has, g.final]; rfl
    simp only [lastPlaces, e.typed, g.untyped, hfinal]
    exact .pure' _
  have hsizes : ((g.sizes.length : Int) != 0) := by simpa using g.measured
  refine .bind' (returns_onlyProblem _) (.bind' hplaces (.bind' (.pure' _) (.bind' (returns_nth (i := 0) rfl)
    (.bind' (returns_nth (i := 1) rfl) (.bind' (.pure' _) (.bind' (returns_lookup g.final) (.bind' (.pure' _)
    (.bind' (returns_nth (i := 0) rfl) (.bind' (returns_isIn g.listed) (.bind' (.pure' _) (.bind' (.pure' _)
    (.bind' (returns_lookup g.listed) (.bind' (.pure' _) ?_)))))))))))))
  rw [hsizes]
  refine .bind' (.pure' _) (.bind' (.pure' _) ?_)
  rw [if_neg (by simp; omega)]
  exact .pure' _

/-- Splitting gives every group of every entry the pieces of its runs, in order. -/
theorem split_keeps_all_sizes (hn : 0 < n) {entries : List Entry}
    (h : config.get? problemsKey = some (.list (entries.map (·.value)))) :
    ∃ outs : List (List Table), Returns (all n config) outs.flatten ∧
      Forall₂ (Cut n config) (entries.flatMap fun e => e.groups.map (e, ·)) outs := by
  refine ⟨_, .bind' (returns_byProblem h) (.bind' (a := entries.map fun e => e.groups.map (groupPiece config e)) ?_
    (.bind' (a := (entries.flatMap fun e => e.groups.map (e, ·)).map fun x =>
      (chunks n x.2.sizes).map (runPiece config x.1 x.2)) ?_ (.pure' _))), ?_⟩
  · rw [mapM_map]
    exact .mapM fun e _ => returns_byGroup config e
  · have hgroups : (entries.map fun e => e.groups.map (groupPiece config e)).flatten =
        (entries.flatMap fun e => e.groups.map (e, ·)).map fun x => groupPiece config x.1 x.2 := by
      simp only [flatMap_def, map_flatten, map_map, Function.comp_def]
    rw [hgroups, mapM_map]
    exact .mapM fun x _ => returns_bySizes hn config x.1 x.2
  · refine forall₂_map_right_iff.mpr (forall₂_same.mpr fun x _ => ?_)
    refine ⟨_, flatten_chunks hn x.2.sizes, fun run => length_of_mem_chunks hn, ?_⟩
    exact forall₂_map_right_iff.mpr (forall₂_same.mpr fun run _ => piece_runPiece config x.1 x.2 run)

/-- Three sizes, behind which the group names another final step. -/
def threeSizes : Group where
  params := [("BenchmarkFinalParameters", .list [.record [("ProblemSizes", .ints [1, 2, 3])], .null])]
  first := [("ProblemSizes", .ints [1, 2, 3])]
  others := [.null]
  sizes := [1, 2, 3]
  untyped := rfl
  final := rfl
  listed := rfl
  measured := nofun

def oneEntry : Entry := { type := [("OperationType", "GEMM")], typed := rfl, before := [threeSizes], after := [] }

theorem three_sizes_in_pairs : ∃ outs : List (List Table),
    Returns (all 2 [("BenchmarkProblems", .list [oneEntry.value])]) outs.flatten ∧
      Forall₂ (Cut 2 [("BenchmarkProblems", .list [oneEntry.value])]) [(oneEntry, threeSizes)] outs :=
  @split_keeps_all_sizes 2 _ Nat.two_pos [oneEntry] rfl

end TensorForge.Split
