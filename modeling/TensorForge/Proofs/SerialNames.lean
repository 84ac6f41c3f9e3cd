import Mathlib.Algebra.BigOperators.Group.List.Lemmas
import Mathlib.Algebra.Order.BigOperators.GroupWithZero.List
import TensorForge.Proofs.InvalidSolutions
import TensorForge.Proofs.NameReading

/-!
# Serial names

A serial name is a letter and a number of fixed width. The number has a digit for every parameter: the place of its
value among the values that occur. The bases are the numbers of values, so that a number stands for one choice of
values. Main statement: `serial_names_unique`.
-/

namespace TensorForge.Sorting

open List

variable {α ε : Type} {lt : α → α → Except ε Bool} {x : α} {xs : List α}

lemma insertDown_perm (h : ∀ y ∈ xs, ∃ b, lt x y = .ok b) : ∃ ys, insertDown lt x xs = .ok ys ∧ ys ~ x :: xs := by
  induction xs with
  | nil => exact ⟨[x], rfl, .refl _⟩
  | cons y xs ih =>
    obtain ⟨ys, hys, hperm⟩ := ih fun z hz => h z (mem_cons_of_mem y hz)
    obtain ⟨b, hb⟩ := h y mem_cons_self
    rw [insertDown, hb, hys]
    cases b with
    | true => exact ⟨y :: ys, rfl, (hperm.cons y).trans (.swap x y xs)⟩
    | false => exact ⟨x :: y :: xs, rfl, .refl _⟩

lemma stable_perm (h : ∀ x ∈ xs, ∀ y ∈ xs, ∃ b, lt x y = .ok b) : ∃ ys, stable lt xs = .ok ys ∧ ys ~ xs := by
  have hfold (rest done : List α) (hsub : done ++ rest ⊆ xs) :
      ∃ ys, rest.foldlM (fun acc x => insertDown lt x acc) done = .ok ys ∧ ys ~ done ++ rest := by
    induction rest generalizing done with
    | nil => exact ⟨done, rfl, by simp⟩
    | cons x rest ih =>
      obtain ⟨acc, hacc, hperm⟩ := insertDown_perm fun y (hy : y ∈ done) =>
        h x (hsub (by simp)) y (hsub (by simp [hy]))
      have hmove : acc ++ rest ~ done ++ x :: rest := (hperm.append_right rest).trans perm_middle.symm
      obtain ⟨ys, hys, hperm'⟩ := ih acc fun y hy => hsub (hmove.mem_iff.mp hy)
      rw [foldlM_cons, hacc]
      exact ⟨ys, hys, hperm'.trans hmove⟩
  obtain ⟨ys, hys, hperm⟩ := hfold xs [] (by simp)
  exact ⟨ys.reverse, by rw [stable, hys]; rfl, (reverse_perm ys).trans hperm⟩

end TensorForge.Sorting

namespace TensorForge.Naming

open List Nat Value

/-- Any two values can be compared, or all are tables; the values equal to a value are equal to each other. -/
structure Comparable (vs : Values) : Prop where
  ordered : (∀ v ∈ vs, ∃ es, v = .dict es) ∨ ∀ v ∈ vs, ∀ w ∈ vs, ∃ b, less v w = .ok b
  refl : ∀ v ∈ vs, same v v
  congr : ∀ v ∈ vs, ∀ w ∈ vs, same v w → ∀ u ∈ vs, same v u = same w u

lemma comparable_map {α : Type} [BEq α] [LawfulBEq α] {f : α → Value} (hsame : ∀ a b, same (f a) (f b) = (a == b))
    (hless : ∀ a b, ∃ c, less (f a) (f b) = .ok c) (xs : List α) : Comparable (xs.map f) := by
  constructor <;> simp only [forall_mem_map, hsame, beq_iff_eq]
  · exact .inr fun a _ b _ => hless a b
  · exact fun a _ => trivial
  · exact fun a _ b _ h c _ => by rw [h]

/-- Numbers, truth values, texts and lists of numbers are comparable among themselves. -/
lemma comparable_kinds : (∀ ns : Ints, Comparable (ns.map .int)) ∧ (∀ bs : List Bool, Comparable (bs.map .bool)) ∧
    (∀ ss : Texts, Comparable (ss.map .str)) ∧ ∀ ls : List Ints, Comparable (ls.map ints) := by
  refine ⟨comparable_map same_int fun _ _ => ⟨_, rfl⟩, comparable_map (by simp [same]) fun _ _ => ⟨_, rfl⟩,
    comparable_map (by simp [same]) fun a b => ⟨a < b, by rw [less]⟩, comparable_map (fun a b => ?_) fun a b => ?_⟩
  · rw [ints, ints, same]
    induction a generalizing b <;> cases b <;> simp_all [sameItems, same_int]
  · rw [ints, ints, less]
    induction a generalizing b with
    | nil => cases b <;> simp [lessItems]
    | cons m a ih =>
      cases b with
      | nil => simp [lessItems]
      | cons n b =>
        simp only [map_cons, lessItems]
        split
        · exact ih b
        · exact ⟨_, rfl⟩

/-- `listed` has the values `vs`, each at least once. -/
def Lists (vs listed : Values) : Prop := (∀ v ∈ listed, v ∈ vs) ∧ ∀ v ∈ vs, ∃ w ∈ listed, same v w

variable {vs listed : Values} {v w : Value}

lemma lists_eraseDupsBy (h : ∀ v ∈ vs, same v v) : Lists vs (vs.eraseDupsBy same) := by
  have hloop (rest seen : Values) (hrest : ∀ v ∈ rest, same v v) :
      (∀ v ∈ eraseDupsBy.loop same rest seen, v ∈ rest ∨ v ∈ seen) ∧ (∀ v ∈ seen, v ∈ eraseDupsBy.loop same rest seen) ∧
        ∀ v ∈ rest, ∃ w ∈ eraseDupsBy.loop same rest seen, same v w := by
    induction rest generalizing seen with
    | nil => simp [eraseDupsBy.loop]
    | cons v rest ih =>
      have hrest' := (forall_mem_cons.mp hrest).2
      have hkeep := ih seen hrest'
      have hadd := ih (v :: seen) hrest'
      rw [eraseDupsBy.loop]
      split <;> grind
  obtain ⟨hsub, -, hfound⟩ := hloop vs [] h
  exact ⟨fun v hv => (hsub v hv).resolve_right not_mem_nil, hfound⟩

lemma lists_sortValues (h : Comparable vs) :
    ∃ listed, sortValues (vs.eraseDupsBy same) = .ok listed ∧ Lists vs listed := by
  obtain ⟨hsub, hfound⟩ := lists_eraseDupsBy h.refl
  unfold sortValues
  split
  · exact ⟨_, rfl, hsub, hfound⟩
  next hnot =>
    have hless : ∀ v ∈ vs.eraseDupsBy same, ∀ w ∈ vs.eraseDupsBy same, ∃ b, less v w = .ok b := by
      obtain htables | hless := h.ordered
      · intro v hv
        obtain ⟨u, rest, hvs⟩ := exists_cons_of_ne_nil (ne_nil_of_mem hv)
        obtain ⟨es, rfl⟩ := htables u (hsub u (by simp [hvs]))
        exact absurd hvs (hnot es rest)
      · exact fun v hv w hw => hless v (hsub v hv) w (hsub w hw)
    obtain ⟨ys, hys, hperm⟩ := Sorting.stable_perm hless
    exact ⟨ys, hys, fun v hv => hsub v (hperm.mem_iff.mp hv),
      fun v hv => (hfound v hv).imp fun w hw => ⟨hperm.mem_iff.mpr hw.1, hw.2⟩⟩

/-- The place of a value among those listed. -/
def placeOf (listed : Values) (v : Value) : Nat := listed.findIdx (same v)

lemma placeOf_congr (h : ∀ u ∈ listed, same v u = same w u) : placeOf listed v = placeOf listed w := by
  unfold placeOf
  induction listed with
  | nil => rfl
  | cons u rest ih =>
    rw [findIdx_cons, findIdx_cons, h u mem_cons_self, ih fun x hx => h x (mem_cons_of_mem u hx)]

section Place

variable (h : Lists vs listed) (hv : v ∈ vs)

include h hv

lemma Lists.placeOf_lt : placeOf listed v < listed.length := findIdx_lt_length_of_exists (h.2 v hv)

lemma Lists.indexOf?_eq : indexOf? v listed = some (placeOf listed v) :=
  findIdx?_eq_some_iff_findIdx_eq.mpr ⟨h.placeOf_lt hv, rfl⟩

/-- Equal values have one place, and others have another. -/
lemma Lists.placeOf_eq_iff (hc : Comparable vs) (hw : w ∈ vs) : placeOf listed v = placeOf listed w ↔ same v w := by
  have hat {u : Value} (hu : u ∈ vs) : ∃ x ∈ vs, listed[placeOf listed u]? = some x ∧ same u x := by
    have hlt := h.placeOf_lt hu
    exact ⟨_, h.1 _ (getElem_mem hlt), getElem?_eq_getElem hlt, findIdx_getElem⟩
  constructor
  · intro heq
    obtain ⟨x, hx, hget, hvx⟩ := hat hv
    obtain ⟨y, hy, hget', hwy⟩ := hat hw
    obtain rfl : y = x := by simpa [heq, hget'] using hget
    rw [hc.congr v hv y hy hvx w hw, ← hc.congr w hw y hy hwy w hw, hc.refl w hw]
  · exact fun hs => placeOf_congr fun u hu => hc.congr v hv w hw hs u (h.1 u hu)

end Place

variable {s : Serial} {values : Text → Values} {state : Table} {states : Tables} {keys : Texts} {key : Text}

/-- A digit counts by the product of the bases before it. -/
lemma foldlM_addDigit {place : Text → Nat} (hvalues : ∀ key ∈ keys, s.values.lookup key = some (values key))
    (hplace : ∀ key ∈ keys, indexOf? (state.or key) (values key) = some (place key)) (n factor : Nat)
    (last : Option Nat) : ∃ more, keys.foldlM (s.addDigit state) (n, factor, last) =
      .ok (n + factor * gridPosition (keys.map fun key => (values key).length) (keys.map place), more) := by
  induction keys generalizing n factor last with
  | nil => exact ⟨_, rfl⟩
  | cons key keys ih =>
    rw [forall_mem_cons] at hvalues hplace
    obtain ⟨more, hmore⟩ := ih hvalues.2 hplace.2 (n + place key * factor) (factor * (values key).length)
      (some (place key))
    have hstep : s.addDigit state (n, factor, last) key =
        .ok (n + place key * factor, factor * (values key).length, some (place key)) := by
      simp [Serial.addDigit, hvalues.1, hplace.1]
      rfl
    rw [foldlM_cons, hstep, map_cons, map_cons, gridPosition]
    refine ⟨more, hmore.trans ?_⟩
    rw [mul_comm (place key), add_assoc, mul_assoc, ← mul_add]

lemma zeroPadded_ofNat (width n : Nat) :
    Text.zeroPadded width n = .ofList (replicate (width - n.repr.length) '0' ++ toDigits 10 n) := by
  simp [Text.zeroPadded, Text.padLeft, ← String.toList_inj, EmbedFile.toList_pushn, repr_eq_ofList_toDigits, toString,
    Int.repr, Int.not_lt.2]

lemma length_zeroPadded {n m : Nat} (h : n ≤ m) : (Text.zeroPadded m.repr.length n).length = m.repr.length := by
  have hpos : 0 < m.repr.length := by simp [repr_eq_ofList_toDigits, length_toDigits_pos]
  have hle : n.repr.length ≤ m.repr.length :=
    (length_repr_le_iff hpos).mpr (h.trans_lt ((length_repr_le_iff hpos).mp le_rfl))
  have hdigits : (toDigits 10 n).length = n.repr.length := by simp [repr_eq_ofList_toDigits]
  simp [zeroPadded_ofNat, hdigits, Nat.sub_add_cancel hle]

lemma zeroPadded_inj {width n m : Nat} (h : Text.zeroPadded width n = Text.zeroPadded width m) : n = m := by
  have hread (k : Nat) : ofDigitChars 10 (Text.zeroPadded width k).toList 0 = k := by
    rw [zeroPadded_ofNat, String.toList_ofList, ofDigitChars_append, ofDigitChars_replicate_zero, Nat.mul_zero,
      ofDigitChars_toDigits (by decide) (by decide)]
  rw [← hread n, h, hread]

/-- A list is numbered by the values that it has. -/
lemma ofStates_lists (h : ∀ key ∈ allNames states, Comparable (valuesOf states key)) :
    ∃ (s : Serial) (values : Text → Values), Serial.ofStates states = .ok s ∧
      s.digits = ((allNames states).map fun key => (values key).length).prod.repr.length ∧
      ∀ key ∈ allNames states, s.values.lookup key = some (values key) ∧ Lists (valuesOf states key) (values key) := by
  choose! values hsort hlists using fun key hkey => lists_sortValues (h key hkey)
  refine ⟨⟨(allNames states).map fun key => (key, values key), _⟩, values, ?_, rfl,
    fun key hkey => ⟨lookup_graph values hkey, hlists key hkey⟩⟩
  rw [Serial.ofStates, SizeTable.mapM_ok (g := fun key => (key, values key)) fun key hkey => by rw [hsort key hkey]; rfl,
    prod_eq_foldl, foldl_map]
  show Except.ok _ = _
  rw [foldl_map]
  rfl

lemma or_mem_valuesOf (hs : state ∈ states) (hkey : key ∈ parameterNames state) :
    state.or key ∈ valuesOf states key := by
  have hname : key ∈ state.names := mem_of_mem_filter ((mergeSort_perm ..).mem_iff.mp hkey)
  obtain ⟨v, hv⟩ := Option.isSome_iff_exists.mp ((has_iff_mem_names state key).mpr hname)
  exact mem_filterMap.mpr ⟨state, hs, by rw [hv, Table.or, hv]; rfl⟩

/-- **A serial name stands for one choice of values.** The states have the parameters `keys`. -/
theorem serial_names_unique (letter : Text) (states : Tables) (keys : Texts) (hkeys : keys.Nodup)
    (hstates : ∀ s ∈ states, parameterNames s = keys) (hvalues : ∀ key ∈ keys, Comparable (valuesOf states key)) :
    ∃ (serial : Serial) (width : Nat) (name : Table → Text), Serial.ofStates states = .ok serial ∧ ∀ s ∈ states,
      serial.name letter s = .ok (name s) ∧ (name s).length = width ∧
      ∀ t ∈ states, name s = name t ↔ ∀ key ∈ keys, same (s.or key) (t.or key) := by
  have hnames : ∀ key ∈ allNames states, key ∈ keys := fun key hkey => by
    obtain ⟨s, hs, hkey⟩ := mem_flatMap.mp (mem_eraseDups.mp hkey)
    rwa [hstates s hs] at hkey
  obtain ⟨serial, values, hserial, hdigits, hlists⟩ := ofStates_lists fun key hkey => hvalues key (hnames key hkey)
  let bases (names : Texts) := names.map fun key => (values key).length
  let digits (s : Table) := keys.map fun key => placeOf (values key) (s.or key)
  refine ⟨serial, letter.length + serial.digits,
    fun s => letter ++ Text.zeroPadded serial.digits (gridPosition (bases keys) (digits s)), hserial, fun s hs => ?_⟩
  have hall {s : Table} (hs : s ∈ states) : ∀ key ∈ keys, key ∈ allNames states ∧ s.or key ∈ valuesOf states key :=
    fun key hkey => by
      rw [← hstates s hs] at hkey
      exact ⟨mem_eraseDups.mpr (mem_flatMap.mpr ⟨s, hs, hkey⟩), or_mem_valuesOf hs hkey⟩
  have hlists : ∀ key ∈ keys, serial.values.lookup key = some (values key) ∧ Lists (valuesOf states key) (values key) :=
    fun key hkey => hlists key (hall hs key hkey).1
  have hholds {s : Table} (hs : s ∈ states) : (Box.ofExtents (bases keys)).Holds (digits s) := by
    simp only [Box.Holds, Box.ofExtents, bases, digits, map_map, forall₂_map_left_iff, forall₂_map_right_iff,
      forall₂_same]
    exact fun key hkey => ⟨Nat.zero_le _, (hlists key hkey).2.placeOf_lt (hall hs key hkey).2⟩
  refine ⟨?_, ?_, fun t ht => ?_⟩
  · obtain ⟨more, hmore⟩ := foldlM_addDigit (fun key hkey => (hlists key hkey).1)
      (fun key hkey => (hlists key hkey).2.indexOf?_eq (hall hs key hkey).2) 0 1 none
    rw [Serial.name, Serial.number, hstates s hs, hmore, Nat.zero_add, Nat.one_mul]
    rfl
  · -- each key is counted once among all names, so the number has no more digits than the product of all bases
    have hprod : (bases keys).prod ∣ (bases (allNames states)).prod := by
      obtain ⟨l, hperm, hsub⟩ := subperm_of_subset hkeys fun key hkey => (hall hs key hkey).1
      rw [← (hperm.map _).prod_eq]
      exact (hsub.map _).prod_dvd_prod
    have hpos : 0 < (bases (allNames states)).prod := prod_pos fun n hn => by
      obtain ⟨key, hkey, rfl⟩ := mem_map.mp hn
      exact Nat.zero_lt_of_lt ((hlists key (hnames key hkey)).2.placeOf_lt (hall hs key (hnames key hkey)).2)
    rw [String.length_append, hdigits,
      length_zeroPadded ((gridPosition_lt (hholds hs)).le.trans (Nat.le_of_dvd hpos hprod))]
  · have hsame : digits s = digits t ↔ ∀ key ∈ keys, same (s.or key) (t.or key) :=
      map_inj_left.trans (forall₂_congr fun key hkey =>
        (hlists key hkey).2.placeOf_eq_iff (hall hs key hkey).2 (hvalues key hkey) (hall ht key hkey).2)
    rw [← hsame]
    constructor
    · intro heq
      exact gridPosition_inj (hholds hs) (hholds ht) (zeroPadded_inj (by simpa [← String.toList_inj] using heq))
    · intro heq
      simp only [heq]

/-- The unroll depth and the number of parts of a launch. -/
def launch (depth parts : Int) : Table := [("DepthU", depth), ("GlobalSplitU", parts)]

/-- Three launches have three names, though each value occurs twice. -/
theorem serial_names_unique_launches : ∃ (serial : Serial) (name : Table → Text),
    Serial.ofStates [launch 8 1, launch 16 1, launch 8 4] = .ok serial ∧
    serial.name "S" (launch 8 1) = .ok (name (launch 8 1)) ∧ name (launch 8 1) ≠ name (launch 8 4) := by
  have hkeys (d n : Int) : parameterNames (launch d n) = ["DepthU", "GlobalSplitU"] := by
    have hfilter : (launch d n).names.filter Parameters.isParameter = ["DepthU", "GlobalSplitU"] := rfl
    rw [parameterNames, hfilter]
    exact mergeSort_of_pairwise (by decide)
  obtain ⟨serial, _, name, hserial, hnames⟩ := serial_names_unique "S" [launch 8 1, launch 16 1, launch 8 4]
    ["DepthU", "GlobalSplitU"] (by decide) (by simp [hkeys])
    (forall_mem_cons.mpr ⟨comparable_kinds.1 [8, 16, 8], forall_mem_singleton.mpr (comparable_kinds.1 [1, 1, 4])⟩)
  obtain ⟨hname, -, hiff⟩ := hnames (launch 8 1) (by simp)
  exact ⟨serial, name, hserial, hname, fun heq => absurd ((hiff (launch 8 4) (by simp)).mp heq) (by decide)⟩

end TensorForge.Naming
