import TensorForge.Library.Logic
import TensorForge.Proofs.Returns
import TensorForge.Proofs.SizeRanges
import TensorForge.Proofs.SizeTables
import TensorForge.Tuning.Plan

/-!
# Data that is changed in place

Two operations change what they are given. The assignment of parameters settles its lists: choices with a single
value are taken out, and a later call does not find them. A logic file holds numbers for the element types, which
are put into the problem type itself, where a solution that shares it finds no types any more.
Main statements: `settled_lists_kept_iff`, `perms_product` and `create_returns_iff`.
-/

namespace TensorForge.Choices

open List Tells Value

variable (e : Value × Value)

/-- Settling leaves the choice in its list. -/
def stays : Bool := 2 ≤ e.2.items.length || e.1.same "ProblemSizes"

def left (t : Table) : Tables := if (t.filter stays).isEmpty && !t.isEmpty then [] else [t.filter stays]
def leftOf (list : Tables) : Tables := list.flatMap left

/-- At least one value is listed. -/
def Given : Prop := ∃ x xs, e.2 = .list (x :: xs)

def All (p : Value × Value → Prop) (lists : List Tables) : Prop := ∀ l ∈ lists, ∀ t ∈ l, ∀ e ∈ t, p e

/-- The first values of the choices that do not stay. -/
def taken (t : Table) : Table := (t.filter (!stays ·)).map fun e => (e.1, e.2.items.headD .null)

/-- A pass over a list takes the values that are found in its members and leaves what `leave` says. -/
lemma foldlM_passes {α β : Type} {f : Table × List β → α → Gen (Table × List β)} {found : α → Table}
    {leave : α → List β} {l : List α}
    (h : ∀ s, ∀ x ∈ l, Tells (f s x) (s.1.update (taken (found x)), s.2 ++ leave x)) (s : Table × List β) :
    Tells (l.foldlM f s) (s.1.update (taken (l.flatMap found)), s.2 ++ l.flatMap leave) := by
  induction l generalizing s with
  | nil => simpa [taken, Table.update] using .pure' s
  | cons x l ih =>
    have hrest := ih (fun s y hy => h s y (by simp [hy])) (s.1.update (taken (found x)), s.2 ++ leave x)
    rw [foldlM_cons]
    exact .bind' (h s x (by simp)) (by simpa [taken, Table.update] using hrest)

lemma settle_tells (single : Table) {t : Table} (h : ∀ e ∈ t, Given e) :
    Tells (settle single t) (single.update (taken t), t.filter stays) := by
  have heq : (single.update (taken t), t.filter stays) =
      (single.update (taken (t.flatMap ([·]))), t.flatMap fun e => [e].filter stays) := by
    rw [← filter_flatMap, flatMap_singleton']
  rw [heq]
  refine foldlM_passes (fun s e he => ?_) (single, [])
  obtain ⟨k, _⟩ := e
  obtain ⟨x, xs, rfl⟩ := h _ he
  have hsingle : (decide (((x :: xs).length : Int) < 2) && !k.same "ProblemSizes") = !stays (k, .list (x :: xs)) := by
    have hlen : ((x :: xs).length : Int) < 2 ↔ ¬2 ≤ (x :: xs).length := by omega
    rw [stays, Bool.not_or, decide_eq_decide.mpr hlen, decide_not]
    rfl
  -- A list that is not empty passes both checks before the test.
  show Tells (ite ((decide (_ < 2) && _) = true) (pure _) (pure _)) _
  rw [hsingle]
  cases hs : stays (k, .list (x :: xs)) <;> simpa [taken, hs, Table.update, items, items?] using .pure' _

variable {lists : List Tables}

lemma settleAll_tells (h : All Given lists) :
    Tells (settleAll [] lists) (Table.update [] (taken (lists.flatMap flatten)), lists.map leftOf) := by
  rw [map_eq_flatMap]
  refine foldlM_passes (fun s l hl => ?_) ([], [])
  rw [← flatMap_id]
  refine .bind' (foldlM_passes (fun s t ht => .bind' (settle_tells s.1 (h l hl t ht)) ?_) (s.1, [])) (.pure' _)
  show Tells (pure (_, ite _ _ _)) (_, s.2 ++ ite _ _ _)
  split <;> simpa [*] using .pure' _

lemma all_leftOf (h : All Given lists) : All (fun e => stays e ∧ Given e) (lists.map leftOf) := by
  intro _ hleft t ht e he
  obtain ⟨l, hl, rfl⟩ := mem_map.mp hleft
  obtain ⟨t', ht', hmem⟩ := mem_flatMap.mp ht
  rw [left] at hmem
  split at hmem
  · cases hmem
  · obtain rfl := mem_singleton.mp hmem
    obtain ⟨he, hstay⟩ := mem_filter.mp he
    exact ⟨hstay, h l hl t' ht' e he⟩

/-- Settling finds nothing where all choices stay. -/
lemma settleAll_stays (h : All Given lists) (hs : All (stays ·) lists) : Tells (settleAll [] lists) ([], lists) := by
  have hleft (l : Tables) (hl : l ∈ lists) : leftOf l = l := by
    refine (flatMap_congr fun t ht => ?_).trans (flatMap_singleton' l)
    rw [left, filter_eq_self.mpr (hs l hl t ht), Bool.and_not_self]
    rfl
  have hnone : taken (lists.flatMap flatten) = [] := by
    rw [taken, filter_eq_nil_iff.mpr]
    · rfl
    · intro e he
      obtain ⟨l, hl, he⟩ := mem_flatMap.mp he
      obtain ⟨t, ht, he⟩ := mem_flatten.mp he
      simp [hs l hl t ht e he]
  have hrun := settleAll_tells h
  rwa [hnone, map_congr_left hleft, map_id'] at hrun

/-- **Settling changes the given lists** unless no choice in them has a single value, and settling what it left
finds no value: a second call with the same lists sees those of the first no more. -/
theorem settled_lists_kept_iff {lists : List (List Table)} (h : All Given lists) :
    ∃ single left, Tells (settleAll [] lists) (single, left) ∧ (left = lists ↔ All (stays ·) lists) ∧
      Tells (settleAll [] left) ([], left) := by
  have hleft := all_leftOf h
  have hstays : All (stays ·) (lists.map leftOf) := fun l hl t ht e he => (hleft l hl t ht e he).1
  refine ⟨_, _, settleAll_tells h, ⟨fun he => he ▸ hstays, fun hs => ?_⟩,
    settleAll_stays (fun l hl t ht e he => (hleft l hl t ht e he).2) hstays⟩
  exact congrArg Prod.snd ((settleAll_tells h).returns.unique (settleAll_stays h hs).returns)

def oneDepth : List Tables := [[[("DepthU", .ints [16])]]]

theorem oneDepth_lost : ∃ single left, Tells (settleAll [] oneDepth) (single, left) ∧ left ≠ oneDepth := by
  have hgiven : All Given oneDepth := by simp [All, Given, oneDepth, ints]
  obtain ⟨single, left, hrun, hkept, -⟩ := settled_lists_kept_iff hgiven
  refine ⟨single, left, hrun, fun h => absurd (hkept.mp h) ?_⟩
  simp [All, stays, oneDepth, ints, items, items?, same]

/-- No name is listed twice. -/
def Named (t : Table) : Prop := (t.map (·.1)).Pairwise fun j k => j.same k = false

lemma put_of_new {out : Table} {k : Value} (h : ∀ e ∈ out, e.1.same k = false) (v : Value) :
    out.put k v = out ++ [(k, v)] := by
  induction out with
  | nil => rfl
  | cons e out ih => simp [Table.put, h e (by simp), ih fun d hd => h d (by simp [hd])]

lemma update_of_named {out t : Table} (h : Named (out ++ t)) : out.update t = out ++ t := by
  induction t generalizing out with
  | nil => simp [Table.update]
  | cons e t ih =>
    have hnew : out.put e.1 e.2 = out ++ [e] := put_of_new (fun d hd => by
      simp only [Named, map_append, pairwise_append] at h
      exact h.2.2 _ (mem_map_of_mem hd) _ (by simp)) _
    calc (out.put e.1 e.2).update t = (out ++ [e]) ++ t := by rw [hnew]; exact ih (by simpa using h)
      _ = out ++ e :: t := by simp

variable {choices : Tables} {t : Table}

/-- All combinations of one value for each name; the values of the first name change fastest. -/
def product (t : Table) : Tables := sections (t.map fun e => e.2.items.map (e.1, ·))

/-- The combination with the number `i`, whose digits are the places of the values. -/
def picked : Table → Nat → Table
  | [], _ => []
  | e :: t, i => (e.1, e.2.items.getD (i % e.2.items.length) .null) :: picked t (i / e.2.items.length)

lemma map_picked (h : ∀ e ∈ t, Given e) :
    (List.range (t.map (·.2.items.length)).prod).map (picked t) = product t := by
  induction t with
  | nil => rfl
  | cons e t ih =>
    obtain ⟨x, xs, hx⟩ := h e (by simp)
    have hpos : 0 < e.2.items.length := by simp [hx, items, items?]
    have hmul (m : Nat) : List.range (e.2.items.length * m) = (List.range m).flatMap fun j =>
        (List.range e.2.items.length).map (e.2.items.length * j + ·) := by
      induction m with
      | zero => rfl
      | succ m ih => rw [Nat.mul_succ, range_add, ih, range_succ, flatMap_append, flatMap_singleton]
    rw [product, map_cons, map_cons, prod_cons, hmul, sections, ← product, ← ih fun d hd => h d (by simp [hd]),
      map_flatMap, flatMap_map]
    congr 1
    funext j
    refine ext_getElem (by simp) fun r hr _ => ?_
    have hr : r < e.2.items.length := by simpa using hr
    simp [picked, Nat.mod_eq_of_lt hr, Nat.mul_add_div hpos, Nat.div_eq_of_lt hr, hr]

lemma combos_tells (h : All Given [choices]) : Tells (combos choices) (choices.flatten.map (·.2.items.length)).prod := by
  rw [prod_eq_foldl, foldl_map, foldl_flatten]
  refine .foldlM (fun n t ht => .foldlM (fun n e he => ?_) n) 1
  obtain ⟨k, _⟩ := e
  obtain ⟨x, xs, rfl⟩ := h _ mem_cons_self t ht _ he
  exact .pure' _

/-- Takes a value of the choice, and leaves the digits for those behind. -/
def pick (s : Table × Nat) (e : Value × Value) : Table × Nat :=
  (s.1.put e.1 (e.2.items.getD (s.2 % e.2.items.length) .null), s.2 / e.2.items.length)

lemma foldl_pick (out t : Table) (i : Nat) : (t.foldl pick (out, i)).1 = out.update (picked t i) := by
  induction t generalizing out i with
  | nil => rfl
  | cons e t ih => exact ih ..

lemma combination_tells (h : All Given [choices]) (i : Nat) :
    Tells (combination choices i) (Table.update [] (picked choices.flatten i)) := by
  rw [← foldl_pick, foldl_flatten]
  refine .bind' (.foldlM (fun s t ht => .foldlM (fun s e he => ?_) s) _) (.pure' _)
  obtain ⟨k, _⟩ := e
  obtain ⟨x, xs, rfl⟩ := h _ mem_cons_self t ht _ he
  have hlt : s.2 % (x :: xs).length < (x :: xs).length := Nat.mod_lt _ (by simp)
  have hvalue : valueAt (.list (x :: xs)) (s.2 % (x :: xs).length) = pure ((x :: xs).getD (s.2 % (x :: xs).length) .null) := by
    simp only [valueAt, Gen.items, pure_bind, Gen.nth, if_neg (Int.not_lt.mpr (Int.natCast_nonneg _)), Int.toNat_natCast,
      getD_eq_getElem?_getD, getElem?_eq_getElem hlt, Option.getD_some]
  show Tells (valueAt (.list (x :: xs)) (s.2 % (x :: xs).length) >>= fun v =>
    pure (Table.put s.1 k v, s.2 / (x :: xs).length)) _
  rw [hvalue]
  exact .pure' _

lemma map_fst_picked (t : Table) (i : Nat) : (picked t i).map (·.1) = t.map (·.1) := by
  induction t generalizing i with
  | nil => rfl
  | cons e t ih => simp [picked, ih]

/-- **All combinations, and no choice lost.** Of choices with different names all combinations of one value for each
are returned, and each once if no value is listed twice. Settling returns the values of the choices that have one,
and leaves all others in their places. -/
theorem perms_product (h : All Given [choices]) (hn : Named choices.flatten) :
    Returns (perms choices) (product choices.flatten) ∧
      ((∀ e ∈ choices.flatten, e.2.items.Nodup) → (product choices.flatten).Nodup) ∧
    ∀ lists, All Given lists → let single := taken (lists.flatMap flatten)
      Tells (settleAll [] lists) (Table.update [] single, lists.map leftOf) ∧
        (Named (lists.flatMap flatten) → Table.update [] single = single) := by
  refine ⟨?_, fun hv => nodup_sections fun l hl => ?_, fun lists hl => ⟨?_, fun hn => ?_⟩⟩
  · have hflat : ∀ e ∈ choices.flatten, Given e := fun e he => by
      obtain ⟨t, ht, he⟩ := mem_flatten.mp he
      exact h _ mem_cons_self t ht e he
    rw [← map_picked hflat]
    refine .bind' (combos_tells h).returns (.mapM fun i _ => ?_)
    have hrun := (combination_tells h i).returns
    rwa [update_of_named (by rwa [nil_append, Named, map_fst_picked]), nil_append] at hrun
  · obtain ⟨e, he, rfl⟩ := mem_map.mp hl
    exact (hv e he).map fun v w hvw => (Prod.ext_iff.mp hvw).2
  · exact settleAll_tells hl
  · refine update_of_named ?_
    rw [nil_append, Named, taken, map_map]
    exact Pairwise.sublist (filter_sublist.map _) hn

def widthAndDepths : List Tables := [[[("VectorWidth", .ints [4])], [("DepthU", .ints [8, 16])]]]

theorem perms_product_depths : Returns (perms widthAndDepths.flatten)
      [[("VectorWidth", 4), ("DepthU", 8)], [("VectorWidth", 4), ("DepthU", 16)]] ∧
    Tells (settleAll [] widthAndDepths) ([("VectorWidth", 4)], [[[("DepthU", .ints [8, 16])]]]) := by
  have hgiven : All Given widthAndDepths := by simp [All, Given, widthAndDepths, ints]
  obtain ⟨hperms, -, hsettle⟩ := @perms_product widthAndDepths.flatten (by simpa [All, widthAndDepths] using hgiven)
    (by unfold Named; decide)
  exact ⟨hperms, (hsettle _ hgiven).1⟩

end TensorForge.Choices

namespace TensorForge.Logic

/-- The element types are there. -/
def Typed (t : Table) : Prop :=
  ∀ key ∈ ["DataType", "DestDataType", "ComputeDataType"], ∃ d : DataType, t.get? key = some (.dataType d)

lemma numbered_typed {t : Table} (h : Typed t) : ∃ t', numbered t = .ok t' ∧ numbered t' = .error .noField := by
  obtain ⟨d, hd⟩ := h DT (by simp)
  obtain ⟨e, he⟩ := h DDT (by simp)
  obtain ⟨c, hc⟩ := h CDT (by simp)
  refine ⟨((t.set DT (.int d.code)).set DDT (.int e.code)).set CDT (.int c.code), ?_, ?_⟩
  · simp [numbered, DT, DDT, CDT, bind, Except.bind, hd, he, hc, Table.get?_set_of_ne]
    rfl
  · simp [numbered, DT, DDT, CDT, bind, Except.bind, Table.get?_set, Table.get?_set_of_ne]

lemma isOk_bind_pure {α β ε : Type} (x : Except ε α) (f : α → β) : (x >>= fun a => pure (f a)).isOk = x.isOk := by
  cases x <;> rfl

lemma isOk_mapM {α β ε : Type} (f : α → Except ε β) (l : List α) : (l.mapM f).isOk = l.all fun a => (f a).isOk := by
  induction l with
  | nil => rfl
  | cons a l ih =>
    rw [List.mapM_cons, List.all_cons, ← ih]
    cases f a with
    | error e => rfl
    | ok b => cases l.mapM f <;> rfl

/-- **A logic file is made** exactly if no solution shares the problem type that it holds, and never from what is
left of that problem type. -/
theorem create_returns_iff (schedule architecture devices : Value) {f : Findings} (hp : Typed f.problem.state)
    (hs : ∀ s ∈ f.solutions ++ f.tileSolutions, Typed s.problem.state) :
    ((create schedule architecture devices f).isOk ↔ ∀ s ∈ f.solutions ++ f.tileSolutions, s.shared = false) ∧
    ∃ state, numbered f.problem.state = .ok state ∧
      create schedule architecture devices { f with problem := { f.problem with state } } = .error .noField := by
  obtain ⟨state, hstate, hagain⟩ := numbered_typed hp
  refine ⟨?_, state, hstate, by simp only [create, hagain]; rfl⟩
  have hsolution (s : Solution) (h : s ∈ f.solutions ++ f.tileSolutions) :
      (numbered (if s.shared then state else s.problem.state)).isOk = !s.shared := by
    cases s.shared with
    | true => exact congrArg Except.isOk hagain
    | false =>
      obtain ⟨_, hok, -⟩ := numbered_typed (hs s h)
      exact congrArg Except.isOk hok
  rw [create, hstate]
  show Except.isOk (List.mapM _ _ >>= fun _ => pure _) = true ↔ _
  rw [isOk_bind_pure, isOk_mapM, List.all_eq_true]
  exact forall₂_congr fun s h => by rw [isOk_bind_pure, hsolution s h, Bool.not_eq_true']

def oneType : ProblemType where
  state := ["DataType", "DestDataType", "ComputeDataType"].map fun key => (.str key, .dataType ⟨.single, 0⟩)

theorem shared_type_lost : (create .null .null .null
    { problem := oneType, solutions := [{ problem := oneType, state := [], shared := true }], indexOrder := .null
      exact := [], range := .null }).isOk = false := by
  have htyped : Typed oneType.state := by simp [Typed, oneType, Table.get?_cons, Value.same]
  refine Bool.eq_false_iff.mpr fun h => ?_
  have := (create_returns_iff _ _ _ htyped (by simpa using htyped)).1.mp h
  simp at this

end TensorForge.Logic
