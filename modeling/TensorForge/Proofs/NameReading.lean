import Mathlib.Data.List.TakeWhile
import TensorForge.Proofs.EmbeddedBytes
import TensorForge.Proofs.Returns
import TensorForge.Proofs.SizeTables
import TensorForge.Solution.Naming

/-!
# Names tell kernels apart

The name of a kernel is its fixed part and, for each required parameter, the letters of the parameter with its
abbreviated value. Numbers end where their digits end, so such names can be read back: two kernels have one
name exactly if they agree in the fixed part and in all required parameters, where texts count by their
upper-case letters only (`name_eq_iff`). Tables and tuples are written without separators and are left out.
Architectures and their names determine each other, too (`names_round_trip`).
-/

namespace TensorForge.Naming

open List Nat Parameters Table Value

variable {p : Char → Bool} (xs : Texts)

/-- Texts of one kind of characters end where a character of another kind stands. -/
lemma append_inj_of_kind {xs ys us vs : Chars} (hx : ∀ c ∈ xs, p c) (hy : ∀ c ∈ ys, p c)
    (hu : ∀ c ∈ us.head?, p c = false) (hv : ∀ c ∈ vs.head?, p c = false) (h : xs ++ us = ys ++ vs) :
    xs = ys ∧ us = vs := by
  have taken {xs us : Chars} (hx : ∀ c ∈ xs, p c) (hu : ∀ c ∈ us.head?, p c = false) :
      (xs ++ us).takeWhile p = xs := by
    rw [takeWhile_append_of_pos hx]
    cases us with
    | nil => simp
    | cons c us => simp [hu c rfl]
  have heq : xs = ys := by rw [← taken hx hu, h, taken hy hv]
  exact ⟨heq, by simpa [heq] using h⟩

def inNumber (c : Char) : Bool := c.isDigit || c == 'n' || c == '-'

/-- What stands behind a value: nothing, or an underscore and something that is no number. -/
def Follows (us : Chars) : Prop :=
  us = [] ∨ ∃ ds c vs, us = '_' :: (ds ++ c :: vs) ∧ (∀ d ∈ ds, inNumber d) ∧ inNumber c = false ∧ c ≠ '_'

lemma Follows.head {us : Chars} (h : Follows us) : us = [] ∨ ∃ vs, us = '_' :: vs := by
  obtain rfl | ⟨ds, c, vs, rfl, -⟩ := h
  · exact .inl rfl
  · exact .inr ⟨_, rfl⟩

/-- Texts of values that can be told from what stands behind them. -/
def Separable (a b : Chars) : Prop :=
  ∀ us vs, Follows us → Follows vs → a ++ us = b ++ vs → a = b ∧ us = vs

lemma separable_of_kind (hp : p '_' = false) {a b : Chars} (ha : ∀ c ∈ a, p c) (hb : ∀ c ∈ b, p c) :
    Separable a b := by
  intro us vs hu hv h
  have ends {us : Chars} (hu : Follows us) : ∀ c ∈ us.head?, p c = false := by
    obtain rfl | ⟨vs, rfl⟩ := hu.head <;> simp [hp]
  exact append_inj_of_kind ha hb (ends hu) (ends hv) h

/-- Further numbers of a list, and what stands behind them. -/
def further (us : Chars) : Chars := xs.flatMap ('_' :: ·.toList) ++ us

variable {us vs : Chars}

lemma further_cons (x : Text) (xs : Texts) (us : Chars) :
    further (x :: xs) us = '_' :: (x.toList ++ further xs us) := by simp [further]

lemma further_head (hu : Follows us) (xs : Texts) : further xs us = [] ∨ ∃ ws, further xs us = '_' :: ws := by
  cases xs with
  | nil => exact hu.head
  | cons x xs => exact .inr ⟨_, further_cons x xs us⟩

lemma further_ends (hu : Follows us) (xs : Texts) : ∀ c ∈ (further xs us).head?, inNumber c = false := by
  obtain h | ⟨ws, h⟩ := further_head hu xs <;> simp [h, inNumber]

/-- Something that is no number does not begin a list of numbers. -/
lemma ne_further (hu : Follows us) (hv : Follows vs) {y : Text} (hy : ∀ c ∈ y.toList, inNumber c)
    (ys : Texts) : us ≠ further (y :: ys) vs := by
  rw [further_cons]
  rintro rfl
  obtain h | ⟨ds, c, ws, h, hds, hc, hne⟩ := hu
  · cases h
  · obtain ⟨-, htail⟩ := append_inj_of_kind hy hds (further_ends hv ys) (by simpa using hc) (cons.inj h).2
    obtain hend | ⟨vs, hend⟩ := further_head hv ys
    · simp [hend] at htail
    · rw [hend] at htail
      exact hne (cons.inj htail).1.symm

variable {xs ys : Texts} (n : Nat)

lemma further_inj (hu : Follows us) (hv : Follows vs)
    (hx : ∀ x ∈ xs, ∀ c ∈ x.toList, inNumber c) (hy : ∀ y ∈ ys, ∀ c ∈ y.toList, inNumber c)
    (h : further xs us = further ys vs) : xs = ys ∧ us = vs := by
  induction xs generalizing ys with
  | nil =>
    cases ys with
    | nil => exact ⟨rfl, h⟩
    | cons y ys => exact absurd h (ne_further hu hv (hy y (by simp)) ys)
  | cons x xs ih =>
    cases ys with
    | nil => exact absurd h.symm (ne_further hv hu (hx x (by simp)) xs)
    | cons y ys =>
      rw [further_cons, further_cons] at h
      obtain ⟨heq, htail⟩ := append_inj_of_kind (hx x (by simp)) (hy y (by simp)) (further_ends hu xs)
        (further_ends hv ys) (cons.inj h).2
      obtain rfl := String.toList_inj.mp heq
      obtain ⟨rfl, rfl⟩ := ih (fun x hx' => hx x (by simp [hx'])) (fun y hy' => hy y (by simp [hy'])) htail
      exact ⟨rfl, rfl⟩

lemma toList_joined (us : Chars) :
    '_' :: (("_".intercalate xs).toList ++ us) = if xs = [] then '_' :: us else further xs us := by
  induction xs with
  | nil => simp
  | cons x xs ih =>
    cases xs with
    | nil => simp [further]
    | cons y ys =>
      simp only [further_cons] at ih ⊢
      simpa using ih

/-- Numbers that are joined by underscores can be read back. -/
lemma joined_inj (hu : Follows us) (hv : Follows vs)
    (hx : ∀ x ∈ xs, x ≠ "" ∧ ∀ c ∈ x.toList, inNumber c) (hy : ∀ y ∈ ys, y ≠ "" ∧ ∀ c ∈ y.toList, inNumber c)
    (h : ("_".intercalate xs).toList ++ us = ("_".intercalate ys).toList ++ vs) : xs = ys ∧ us = vs := by
  -- a text that begins with a number is not what follows a value
  have apart {us vs : Chars} (hu : Follows us) {y : Text} (hy : y ≠ "" ∧ ∀ c ∈ y.toList, inNumber c)
      (ys : Texts) : '_' :: us ≠ further (y :: ys) vs := by
    rw [further_cons]
    intro h
    obtain ⟨c, cs, hc⟩ : ∃ c cs, y.toList = c :: cs := exists_cons_of_ne_nil (by simpa using hy.1)
    have hnum := hy.2 c (by simp [hc])
    obtain rfl | ⟨ws, rfl⟩ := hu.head
    · simp [hc] at h
    · rw [hc] at h
      obtain rfl : '_' = c := (cons.inj (cons.inj h).2).1
      exact absurd hnum (by decide)
  have h' := congrArg ('_' :: ·) h
  simp only [toList_joined] at h'
  cases xs with
  | nil =>
    cases ys with
    | nil => exact ⟨rfl, by simpa using h⟩
    | cons y ys => exact absurd (by simpa using h') (apart hu (hy y (by simp)) ys)
  | cons x xs =>
    cases ys with
    | nil => exact absurd (by simpa using h'.symm) (apart hv (hx x (by simp)) xs)
    | cons y ys =>
      exact further_inj hu hv (fun x hmem => (hx x hmem).2) (fun y hmem => (hy y hmem).2) h'

lemma inNumber_repr : ∀ c ∈ n.repr.toList, inNumber c := by
  intro c hc
  rw [toList_repr] at hc
  simp [inNumber, isDigit_of_mem_toDigits (by decide) (by decide) hc]

lemma abbreviateInt_ofNat : abbreviateInt n = n.repr := by
  simp [abbreviateInt, toString, Int.repr]

lemma abbreviateInt_negSucc : abbreviateInt (.negSucc n) = "n" ++ (n + 1).repr := by
  simp [abbreviateInt, toString]

lemma inNumber_abbreviateInt (n : Int) : abbreviateInt n ≠ "" ∧ ∀ c ∈ (abbreviateInt n).toList, inNumber c := by
  cases n with
  | ofNat n =>
    rw [Int.ofNat_eq_natCast, abbreviateInt_ofNat]
    exact ⟨repr_ne_empty, inNumber_repr n⟩
  | negSucc n =>
    rw [abbreviateInt_negSucc]
    refine ⟨by simp, fun c hc => ?_⟩
    rw [String.toList_append, mem_append] at hc
    obtain hc | hc := hc
    · obtain rfl : c = 'n' := by simpa using hc
      decide
    · exact inNumber_repr _ c hc

lemma repr_inj {m n : Nat} (h : m.repr = n.repr) : m = n := by
  have hdigits := congrArg (ofDigitChars 10 ·.toList 0) h
  simpa [toList_repr] using hdigits

lemma abbreviateInt_inj {m n : Int} (h : abbreviateInt m = abbreviateInt n) : m = n := by
  have apart (m n : Nat) : abbreviateInt (.negSucc m) ≠ abbreviateInt n := by
    rw [abbreviateInt_negSucc, abbreviateInt_ofNat]
    intro h
    have hn : 'n' ∈ n.repr.toList := by simp [← h]
    rw [toList_repr] at hn
    exact absurd (isDigit_of_mem_toDigits (by decide) (by decide) hn) (by decide)
  cases m <;> cases n
  case ofNat.ofNat m n => rw [repr_inj h]
  case ofNat.negSucc m n => exact absurd h.symm (apart n m)
  case negSucc.ofNat m n => exact absurd h (apart m n)
  case negSucc.negSucc m n =>
    simp only [abbreviateInt_negSucc] at h
    have := repr_inj (String.append_right_inj _ |>.mp h)
    simp_all

/-- The letters of a text that names keep. -/
def capitals (s : Text) : Text := .ofList (s.toList.filter Text.isUpper)

/-- Values of one kind whose texts can be told from what follows: numbers, texts and lists of numbers. -/
inductive Kin : Value → Value → Prop where
  | numbers {v w : Value} {m n : Int} (hv : v.asInt? = some m) (hw : w.asInt? = some n) : Kin v w
  | texts (s t : Text) : Kin (.str s) (.str t)
  | lists {xs ys : Values} (hx : ∀ x ∈ xs, x.asInt?.isSome) (hy : ∀ y ∈ ys, y.asInt?.isSome) :
    Kin (.list xs) (.list ys)

/-- Equal values; texts are compared by their capitals. -/
def alike : Value → Value → Bool
  | .str s, .str t => capitals s == capitals t
  | v, w => same v w

def numberText (v : Value) : Text := abbreviateInt (v.asInt?.getD 0)

variable {key : Text} {v w : Value}

lemma returns_number (hkey : key ≠ "ISA") (hv : v.asInt?.isSome) :
    Returns (abbreviateValue key v) (numberText v) := by
  cases v <;> simp [asInt?] at hv
  case bool b => cases b <;> simp [abbreviateValue, hkey] <;> exact .pure' _
  case int n => simpa [abbreviateValue, hkey] using .pure' _

lemma returns_numbers (hkey : key ≠ "ISA") {xs : Values} (hx : ∀ x ∈ xs, x.asInt?.isSome) :
    Returns (abbreviateItems key xs) (xs.map numberText) := by
  induction xs with
  | nil => simpa [abbreviateItems] using .pure' _
  | cons x xs ih =>
    exact .bind' (returns_number hkey (hx x (by simp))) (.bind' (ih fun y hy => hx y (by simp [hy])) (.pure' _))

lemma numberText_eq_iff (hv : v.asInt?.isSome) (hw : w.asInt?.isSome) : numberText v = numberText w ↔ same v w := by
  have hnum : numberText v = numberText w ↔ v.asInt?.getD 0 = w.asInt?.getD 0 :=
    ⟨abbreviateInt_inj, congrArg abbreviateInt⟩
  rw [hnum]
  cases v <;> simp [asInt?] at hv <;> cases w <;> simp [asInt?] at hw
  case bool.bool a b => cases a <;> cases b <;> simp [asInt?, same]
  all_goals simp [asInt?, same]

def valueText : Value → Text
  | .str s => capitals s
  | .list xs => "_".intercalate (xs.map numberText)
  | v => numberText v

/-- The texts of kindred values can be told from what follows, and are equal exactly if the values are alike. -/
lemma Kin.abbreviated (hkey : key ≠ "ISA") (h : Kin v w) :
    Returns (abbreviateValue key v) (valueText v) ∧ Returns (abbreviateValue key w) (valueText w) ∧
      Separable (valueText v).toList (valueText w).toList ∧ (valueText v = valueText w ↔ alike v w) := by
  cases h with
  | numbers hv hw =>
    have text {v : Value} {n : Int} (hv : v.asInt? = some n) : v.asInt?.isSome ∧ valueText v = numberText v := by
      cases v <;> simp [asInt?] at hv <;> exact ⟨rfl, rfl⟩
    rw [(text hv).2, (text hw).2]
    refine ⟨returns_number hkey (text hv).1, returns_number hkey (text hw).1,
      separable_of_kind (p := inNumber) (by decide) (inNumber_abbreviateInt _).2 (inNumber_abbreviateInt _).2, ?_⟩
    rw [numberText_eq_iff (text hv).1 (text hw).1, alike]
    rintro s t rfl
    simp [asInt?] at hv
  | texts s t =>
    refine ⟨by simpa [abbreviateValue, hkey] using .pure' _, by simpa [abbreviateValue, hkey] using .pure' _,
      separable_of_kind (p := Text.isUpper) (by decide) ?_ ?_, by simp [alike, valueText]⟩
    all_goals simp [valueText, capitals]
  | @lists xs ys hx hy =>
    have texts (zs : Values) : ∀ z ∈ zs.map numberText, z ≠ "" ∧ ∀ c ∈ z.toList, inNumber c := by
      intro z hz
      obtain ⟨v, -, rfl⟩ := mem_map.mp hz
      exact inNumber_abbreviateInt _
    have hinj {us vs} (hu : Follows us) (hv : Follows vs) := joined_inj hu hv (texts xs) (texts ys)
    refine ⟨by simpa [abbreviateValue, hkey] using .bind' (returns_numbers hkey hx) (.pure' _),
      by simpa [abbreviateValue, hkey] using .bind' (returns_numbers hkey hy) (.pure' _),
      fun us vs hu hv h => (hinj hu hv h).imp_left fun h => by rw [valueText, h, valueText], ?_⟩
    rw [alike, same, sameItems_iff fun x hmem y hmem' => (numberText_eq_iff (hx x hmem) (hy y hmem')).symm]
    · exact ⟨fun h => (hinj (.inl rfl) (.inl rfl) (congrArg (·.toList ++ []) h)).1, fun h => by rw [valueText, h, valueText]⟩
    · intro s t h
      cases h

/-- The letters of a parameter are no number. -/
def lettered (key : Text) : Bool :=
  match (abbreviateName key).toList.dropWhile inNumber with
  | c :: _ => c != '_'
  | [] => false

variable {keys : Texts}

lemma follows_further (hl : ∀ key ∈ keys, lettered key) (f : Text → Text) :
    Follows (further (keys.map fun key => abbreviateName key ++ f key) []) := by
  cases keys with
  | nil => exact .inl rfl
  | cons key keys =>
    have hkey := hl key (by simp)
    have hsplit := takeWhile_append_dropWhile (p := inNumber) (l := (abbreviateName key).toList)
    have hhead := head_dropWhile_not (l := (abbreviateName key).toList) inNumber
    unfold lettered at hkey
    cases hdrop : (abbreviateName key).toList.dropWhile inNumber with
    | nil => simp [hdrop] at hkey
    | cons c cs =>
      simp only [hdrop] at hkey hsplit hhead
      refine .inr ⟨(abbreviateName key).toList.takeWhile inNumber, c, cs ++ ((f key).toList ++
        further (keys.map fun key => abbreviateName key ++ f key) []), ?_,
        fun d hd => mem_takeWhile_imp hd, hhead nofun, by simpa using hkey⟩
      rw [map_cons, further_cons, String.toList_append]
      conv => lhs; rw [← hsplit]
      simp

lemma parts_inj {f g : Text → Text} (hl : ∀ key ∈ keys, lettered key)
    (hsep : ∀ key ∈ keys, Separable (f key).toList (g key).toList)
    (h : further (keys.map fun key => abbreviateName key ++ f key) [] =
      further (keys.map fun key => abbreviateName key ++ g key) []) : ∀ key ∈ keys, f key = g key := by
  induction keys with
  | nil => nofun
  | cons key keys ih =>
    have hl' : ∀ key ∈ keys, lettered key := fun key hkey => hl key (by simp [hkey])
    simp only [map_cons, further_cons, String.toList_append, append_assoc] at h
    have hvalue := append_cancel_left (cons.inj h).2
    obtain ⟨heq, hrest⟩ := hsep key (by simp) _ _ (follows_further hl' f) (follows_further hl' g)
      (by simpa only [String.toList_append] using hvalue)
    intro k hk
    obtain rfl | hk := mem_cons.mp hk
    · exact String.toList_inj.mp heq
    · exact ih hl' (fun key hkey => hsep key (by simp [hkey])) (by simpa only [String.toList_append] using hrest) k hk

/-- Texts that can be told from anything that stands behind them. -/
def Sealed (a b : Text) : Prop := ∀ us vs : Chars, a.toList ++ us = b.toList ++ vs → a = b ∧ us = vs

lemma Sealed.refl (a : Text) : Sealed a a := fun _ _ h => ⟨rfl, append_cancel_left h⟩

lemma Sealed.append {a b c d : Text} (h : Sealed a b) (h' : Sealed c d) : Sealed (a ++ c) (b ++ d) := by
  intro us vs heq
  simp only [String.toList_append, append_assoc] at heq
  obtain ⟨rfl, hrest⟩ := h _ _ heq
  obtain ⟨rfl, htail⟩ := h' _ _ hrest
  exact ⟨rfl, htail⟩

lemma sealed_of_stop {a b : Text} (ha : '_' ∉ a.toList) (hb : '_' ∉ b.toList) : Sealed (a ++ "_") (b ++ "_") := by
  intro us vs h
  have plain {a : Text} (ha : '_' ∉ a.toList) : ∀ c ∈ a.toList, c != '_' := fun c hc => by
    simp only [bne_iff_ne]
    rintro rfl
    exact ha hc
  simp only [String.toList_append, append_assoc] at h
  obtain ⟨heq, htail⟩ := append_inj_of_kind (p := (· != '_')) (plain ha) (plain hb) (by simp) (by simp) h
  exact ⟨by rw [String.toList_inj.mp heq], by simpa using htail⟩

lemma not_mem_intercalate {d : Char} {sep : Text} (hsep : d ∉ sep.toList) {xs : Texts}
    (hx : ∀ x ∈ xs, d ∉ x.toList) : d ∉ (sep.intercalate xs).toList := by
  induction xs with
  | nil => simp
  | cons x xs ih =>
    have ih := ih fun y hy => hx y (by simp [hy])
    cases xs with
    | nil => simpa using hx x (by simp)
    | cons y ys =>
      simp only [String.intercalate_cons_cons, String.toList_append, mem_append, not_or]
      exact ⟨⟨hx x (by simp), hsep⟩, ih⟩

lemma underscore_not_mem_toString (n : Int) : '_' ∉ (toString n).toList := by
  have digits (n : Nat) : '_' ∉ n.repr.toList := fun h => absurd (inNumber_repr n _ h) (by decide)
  cases n with
  | ofNat n => exact digits n
  | negSucc n => simp [Int.repr]

/-- A kernel whose fixed part can be written: the extents of its tile and of its instruction are numbers. -/
structure Sized (s : Table) : Prop where
  tile : tileKeys.all s.has → ∀ key ∈ tileKeys, (s.or key).asInt?.isSome
  instruction : s.has "MatrixInstM" → ∀ key ∈ instructionKeys, (s.or key).asInt?.isSome

def extent (s : Table) (key : Text) : Text := toString ((s.or key).asInt?.getD 0)

def extentsText (given : Bool) (letters : Text) (keys : Texts) (s : Table) : Text :=
  if given then letters ++ "x".intercalate (keys.map (extent s)) ++ "_" else ""

variable {s : Table}

lemma returns_fetch (h : s.has key) : Returns (.fetch s key) (s.or key) := by
  obtain ⟨v, hv⟩ := Option.isSome_iff_exists.mp h
  simpa [Gen.fetch, Table.or, hv] using .pure' _

lemma returns_extents {given : Bool} (letters : Text) (h : given → ∀ key ∈ keys, (s.or key).asInt?.isSome) :
    Returns (extents given letters keys s) (extentsText given letters keys s) := by
  cases given
  case false => exact .pure' _
  refine .bind' (.mapM fun key hkey => ?_) (.pure' _)
  have hnum := h rfl key hkey
  have hhas : s.has key := by
    rw [Table.or] at hnum
    cases hget : s.get? key with
    | none => simp [hget, asInt?] at hnum
    | some v => simp [has, hget]
  refine .bind' (returns_fetch hhas) (.bind' (a := (s.or key).asInt?.getD 0) ?_ (.pure' _))
  cases hv : s.or key <;> simp [hv, asInt?] at hnum <;> exact .pure' _

lemma sealed_extents (given : Bool) {letters : Text} (hl : '_' ∉ letters.toList) (keys : Texts)
    (s t : Table) : Sealed (extentsText given letters keys s) (extentsText given letters keys t) := by
  cases given
  case false => exact .refl _
  have plain (s : Table) : '_' ∉ (letters ++ "x".intercalate (keys.map (extent s))).toList := by
    rw [String.toList_append, mem_append, not_or]
    refine ⟨hl, not_mem_intercalate (by decide) fun x hx => ?_⟩
    obtain ⟨key, -, rfl⟩ := mem_map.mp hx
    exact underscore_not_mem_toString _
  exact sealed_of_stop (plain s) (plain t)

lemma has_iff_mem_names (s : Table) (key : Text) : s.has key ↔ key ∈ s.names := by
  have hkey (v : Value) : v.asStr? = some key ↔ same v key := by cases v <;> simp [asStr?, same]
  simp only [names, mem_filterMap, hkey]
  induction s with
  | nil => simp [has, get?, Table.find?]
  | cons e s ih =>
    rw [has, get?_cons]
    split <;> simp_all [has]

variable (problem : Option Text)

def fixedText (s : Table) : Text :=
  (problem.map (· ++ "_")).getD "" ++ extentsText (tileKeys.all s.has) "MT" tileKeys s ++
    extentsText (s.has "MatrixInstM") "MI" instructionKeys s ++
    match s.get? "LdcEqualsLdd" with
    | some v => if v.truthy then "SE_" else "SN_"
    | none => ""

lemma returns_fixedPart (hs : Sized s) : Returns (fixedPart problem s) (fixedText problem s) :=
  .bind' (returns_extents "MT" hs.tile) (.bind' (returns_extents "MI" hs.instruction) (.pure' _))

lemma sealed_fixedText {s t : Table} (hkeys : s.names = t.names) :
    Sealed (fixedText problem s) (fixedText problem t) := by
  have hhas (key : Text) : s.has key = t.has key := by
    rw [Bool.eq_iff_iff, has_iff_mem_names, has_iff_mem_names, hkeys]
  have hall : tileKeys.all s.has = tileKeys.all t.has := by rw [funext hhas]
  refine (Sealed.append (.append (.refl _) ?_) ?_).append ?_
  · exact hall ▸ sealed_extents _ (by decide) _ _ _
  · exact hhas _ ▸ sealed_extents _ (by decide) _ _ _
  · have houtput := hhas "LdcEqualsLdd"
    have plain (b : Bool) : '_' ∉ (if b then "SE" else "SN").toList := by cases b <;> decide
    have written (b : Bool) : (if b then "SE_" else "SN_") = (if b then "SE" else "SN") ++ "_" := by cases b <;> decide
    simp only [has] at houtput
    cases hs : s.get? "LdcEqualsLdd" <;> cases ht : t.get? "LdcEqualsLdd" <;> simp [hs, ht] at houtput
    case none.none => exact .refl _
    case some.some v w =>
      simp only [written]
      exact sealed_of_stop (plain _) (plain _)

variable {r : Required}

lemma mem_set {key k : Text} {b b' : Bool} (h : (k, b') ∈ r.set key b) : (k, b') ∈ r ∨ (k = key ∧ b' = b) := by
  rw [Required.set] at h
  split at h
  · obtain ⟨e, he, heq⟩ := mem_map.mp h
    split at heq
    · simp_all
    · exact .inl (heq ▸ he)
  · simpa using h

lemma mem_of_mem_foldl_set (keys : Texts) {k : Text}
    (h : (k, true) ∈ keys.foldl (fun r key => r.set key false) r) : (k, true) ∈ r := by
  induction keys generalizing r with
  | nil => exact h
  | cons key keys ih => simpa using mem_set (ih h)

lemma parameter_of_mem_differing {others : Tables} {first : Table}
    (h : differing others first = .ok r) (hkey : (key, true) ∈ r) : isParameter key := by
  fun_induction differing others first generalizing r with
  | case1 => simp_all
  | case2 =>
    rename_i ih
    simp only [bind, Except.bind] at h
    split at h
    · cases h
    next marked hmarked =>
      split at h
      · cases h
      next more hmore =>
        obtain rfl := Except.ok.inj h
        split at hkey
        · obtain heq | hkey := mem_cons.mp hkey
          · obtain ⟨rfl, rfl⟩ := Prod.mk.inj heq
            by_contra hp
            cases (if_neg hp).symm.trans hmarked
          · exact ih hmore hkey
        · exact ih hmore hkey
  | case3 _ _ _ ih => exact ih h hkey

variable {states : Tables}

/-- The required parameters are parameters of kernels, and the mark of a kernel. -/
lemma parameter_of_required (h : required states = .ok r) (hkey : r.has key) :
    isParameter key ∨ key = "Kernel" := by
  have hmem : (key, true) ∈ r := by
    obtain ⟨⟨k, b⟩, he, heq⟩ := any_eq_true.mp hkey
    simp_all
  cases states with
  | nil => simp_all [required]
  | cons first others =>
    simp only [required] at h
    cases hd : differing others first with
    | error e => simp [hd] at h
    | ok base =>
      obtain rfl := Except.ok.inj (hd ▸ h)
      obtain hmem | ⟨rfl, -⟩ := mem_set hmem
      · exact .inl (parameter_of_mem_differing hd (mem_of_mem_foldl_set unnamed hmem))
      · exact .inr rfl

set_option maxRecDepth 100000 in
lemma lettered_domains : ∀ d ∈ domains, d.1 = "MACInstruction" ∨ lettered d.1 := by decide +kernel

lemma lettered_of_required (h : required states = .ok r) (hkey : r.has key) (hne : key ≠ "MACInstruction") :
    lettered key := by
  obtain hp | rfl := parameter_of_required h hkey
  · obtain ⟨d, hd, heq⟩ := any_eq_true.mp hp
    obtain rfl := eq_of_beq heq
    exact (lettered_domains d hd).resolve_left hne
  · decide +kernel

def namedKeys (s : Table) (r : Required) : Texts :=
  (sortTexts s.names).filter fun key => r.has key && !key.startsWith "_"

lemma mem_namedKeys : key ∈ namedKeys s r ↔ key ∈ s.names ∧ r.has key ∧ key.startsWith "_" = false := by
  simp [namedKeys, sortTexts]

def partsText (s : Table) (keys : Texts) : Text :=
  "_".intercalate (keys.map fun key => abbreviateName key ++ valueText (s.or key))

lemma returns_minimal (hs : Sized s)
    (hvalue : ∀ key ∈ namedKeys s r, Returns (abbreviateValue key (s.or key)) (valueText (s.or key))) :
    Returns (minimal problem s r) (fixedText problem s ++ partsText s (namedKeys s r)) := by
  refine .bind' (returns_fixedPart problem hs) (.bind' (.mapM fun key hkey => ?_) (.pure' _))
  have hhas := (has_iff_mem_names s key).mpr (mem_namedKeys.mp hkey).1
  exact .bind' (returns_fetch hhas) (.bind' (hvalue key hkey) (.pure' _))

lemma partsText_inj {s t : Table} (hl : ∀ key ∈ keys, lettered key)
    (hsep : ∀ key ∈ keys, Separable (valueText (s.or key)).toList (valueText (t.or key)).toList)
    (h : partsText s keys = partsText t keys) : ∀ key ∈ keys, valueText (s.or key) = valueText (t.or key) := by
  have h' := congrArg (fun x => '_' :: (x.toList ++ [])) h
  simp only [partsText, toList_joined, map_eq_nil_iff] at h'
  split at h'
  · simp [*]
  · exact parts_inj hl hsep h'

/-- Two kernels with the same parameters have one name exactly if they agree in the fixed part and in every
parameter that the naming requires. -/
theorem name_eq_iff {states : List Table} {r : Required} (hr : required states = .ok r) (problem : Option String)
    {s t : Table} (hkeys : s.names = t.names) (hs : Sized s) (ht : Sized t)
    (hkin : ∀ key ∈ s.names, r.has key → key ≠ "ISA" ∧ key ≠ "MACInstruction" ∧ Kin (s.or key) (t.or key)) :
    ∃ a b f g, Returns (minimal problem s r) a ∧ Returns (minimal problem t r) b ∧
      Returns (fixedPart problem s) f ∧ Returns (fixedPart problem t) g ∧
      (a = b ↔ f = g ∧ ∀ key ∈ s.names, r.has key → key.startsWith "_" = false → alike (s.or key) (t.or key)) := by
  have hnamed : namedKeys t r = namedKeys s r := by rw [namedKeys, namedKeys, hkeys]
  have hvalue (key : String) (hkey : key ∈ namedKeys s r) :=
    have hkin := hkin key (mem_namedKeys.mp hkey).1 (mem_namedKeys.mp hkey).2.1
    hkin.2.2.abbreviated hkin.1
  have hlettered : ∀ key ∈ namedKeys s r, lettered key := fun key hkey =>
    have hreq := (mem_namedKeys.mp hkey).2.1
    lettered_of_required hr hreq (hkin key (mem_namedKeys.mp hkey).1 hreq).2.1
  refine ⟨_, _, _, _, returns_minimal problem hs fun key hkey => (hvalue key hkey).1,
    returns_minimal problem ht fun key hkey => (hvalue key (hnamed ▸ hkey)).2.1, returns_fixedPart problem hs,
    returns_fixedPart problem ht, ?_⟩
  rw [hnamed]
  constructor
  · intro h
    obtain ⟨hfixed, hrest⟩ := sealed_fixedText problem hkeys _ _ (by simpa using congrArg String.toList h)
    have htexts := partsText_inj hlettered (fun key hkey => (hvalue key hkey).2.2.1) (String.toList_inj.mp hrest)
    refine ⟨hfixed, fun key hmem hreq hplain => ?_⟩
    have hkey := mem_namedKeys.mpr ⟨hmem, hreq, hplain⟩
    exact (hvalue key hkey).2.2.2.mp (htexts key hkey)
  · rintro ⟨hfixed, halike⟩
    have htexts : ∀ key ∈ namedKeys s r, valueText (s.or key) = valueText (t.or key) := fun key hkey =>
      have ⟨hmem, hreq, hplain⟩ := mem_namedKeys.mp hkey
      (hvalue key hkey).2.2.2.mpr (halike key hmem hreq hplain)
    rw [hfixed, partsText, partsText, map_congr_left fun key hkey => by rw [htexts key hkey]]

/-- A kernel with a tile, a vector width and a work group. -/
def wide (width : Int) : Table :=
  [(.str "MacroTile0", .int 64), (.str "MacroTile1", .int 32), (.str "DepthU", .int 16),
   (.str "VectorWidth", .int width), (.str "WorkGroup", .list [.int 16, .int width])]

theorem wide_named_apart : ∃ r a b, required [wide 2, wide 4] = .ok r ∧ Returns (minimal none (wide 2) r) a ∧
    Returns (minimal none (wide 4) r) b ∧ a ≠ b := by
  have hr : required [wide 2, wide 4] = .ok ((required [wide 2, wide 4]).toOption.getD []) := rfl
  obtain ⟨a, b, f, g, ha, hb, -, -, h⟩ := name_eq_iff hr none (s := wide 2) (t := wide 4) rfl
    ⟨by decide, by decide⟩ ⟨by decide, by decide⟩ fun key hkey hreq => by
      have hkey : key = "VectorWidth" ∨ key = "WorkGroup" := by revert key; decide +kernel
      obtain rfl | rfl := hkey
      · exact ⟨by decide, by decide, .numbers rfl rfl⟩
      · exact ⟨by decide, by decide, .lists (by decide) (by decide)⟩
  refine ⟨_, a, b, hr, ha, hb, fun e => ?_⟩
  exact absurd ((h.mp e).2 "VectorWidth" (by decide) (by decide) (by decide +kernel)) (by decide)

end TensorForge.Naming

namespace TensorForge.Isa

open EmbedFile List Nat Text

lemma digit_spec : ∀ b ∈ [10, 16], ∀ d < b, digit? b d.digitChar = some d ∧
    readInt? b (.singleton d.digitChar) = some ↑d ∧ isBlank d.digitChar = false ∧ d.digitChar ∉ ['_', '-', '+'] := by decide

lemma readDigits_digit {d : Nat} (hd : d < 10) (t : Chars) (acc : Nat) (after : Bool) :
    readDigits 10 (d.digitChar :: t) acc after = readDigits 10 t (acc * 10 + d) true := by
  obtain ⟨hdigit, -, -, hne⟩ := digit_spec 10 (by decide) d hd
  rw [readDigits.eq_3 _ _ _ _ _ fun h => hne (by simp [h]), hdigit]
  rfl

lemma toDigits_spec (n : Nat) : (∀ t after, readDigits 10 (toDigits 10 n ++ t) 0 after = readDigits 10 t n true) ∧
    ∀ c ∈ toDigits 10 n, isBlank c = false ∧ c ∉ ['_', '-', '+'] := by
  induction n using Nat.strongRecOn with | ind n ih
  by_cases hn : n < 10
  · simpa [toDigits_of_lt_base hn, readDigits_digit hn] using (digit_spec 10 (by decide) n hn).2.2
  · obtain ⟨hread, hmem⟩ := ih (n / 10) (by omega)
    have hlast := mod_lt n (show 0 < 10 by decide)
    rw [toDigits_of_base_le (by decide) (Nat.not_lt.1 hn)]
    refine ⟨fun t after => ?_, forall_mem_append.2 ⟨hmem, forall_mem_singleton.2 (digit_spec 10 (by decide) _ hlast).2.2⟩⟩
    rw [append_assoc, hread, singleton_append, readDigits_digit hlast, div_add_mod']

lemma readInt?_toDigits (n : Nat) : readInt? 10 (.ofList (toDigits 10 n)) = some ↑n := by
  obtain ⟨hread, hplain⟩ := toDigits_spec n
  have htrim : trim (.ofList (toDigits 10 n)) = .ofList (toDigits 10 n) := by
    simpa [trimLeft] using trim_append (s := "") (w := .ofList (toDigits 10 n))
      (by simpa using fun c hc => (hplain c hc).1) (by simp)
  have hvalue := hread [] false
  rw [append_nil] at hvalue
  rw [readInt?, signed, htrim, String.toList_ofList]
  split
  next h => exact absurd (hplain '-' (by simp [h])).2 (by decide)
  next h => exact absurd (hplain '+' (by simp [h])).2 (by decide)
  next => rw [hvalue]; rfl

/-- Digits are those of a number unless a zero stands before others. -/
lemma exists_toDigits {ds : Nats} (hne : ds ≠ []) (hds : ∀ d ∈ ds, d < 10) (hzero : ds.head? = some 0 → ds = [0]) :
    ∃ n, ds.map digitChar = toDigits 10 n := by
  induction ds using reverseRecOn with
  | nil => exact absurd rfl hne
  | append_singleton ds d ih =>
    have hd := hds d (by simp)
    cases ds with
    | nil => exact ⟨d, (toDigits_of_lt_base hd).symm⟩
    | cons c ds =>
      have hc : c ≠ 0 := by rintro rfl; simp at hzero
      obtain ⟨n, hn⟩ := ih (by simp) (fun c hc => hds c (mem_append_left _ hc)) (by simp [hc])
      have hpos : 0 < n := by
        refine Nat.pos_of_ne_zero fun h => ?_
        have hfirst : ∀ c < 10, c ≠ 0 → c.digitChar ≠ '0' := by decide
        simp [h, hfirst c (hds c (by simp)) hc] at hn
      exact ⟨10 * n + d, by
        rw [map_append, hn, ← toDigits_append_toDigits (by decide) hpos hd, toDigits_of_lt_base hd]; rfl⟩

section

variable {n m s : Nat} (hm : m < 10) (hs : s < 16)
include hm hs

lemma name_eq : name ⟨n, m, s⟩ = "gfx" ++ .ofList (toDigits 10 n ++ [m.digitChar, s.digitChar]) := by
  simp [name, hexText, hexDigits, toString, Int.repr, repr_eq_ofList_toDigits, toDigits_of_lt_base hm,
    toDigits_of_lt_base hs, ← String.toList_inj, Int.not_lt.2]

lemma read_name : read (name ⟨n, m, s⟩) = .found ⟨n, m, s⟩ := by
  have hminor := (digit_spec 10 (by decide) m hm).2
  have hstep := (digit_spec 16 (by decide) s hs).2
  have hrun (t : Chars) : (toDigits 10 n ++ t).takeWhile (!isBlank ·) = toDigits 10 n ++ t.takeWhile (!isBlank ·) :=
    takeWhile_append_of_pos fun c hc => by simp [(toDigits_spec n).2 c hc]
  have hbody : nameBody? (name ⟨n, m, s⟩).toList = some (toDigits 10 n ++ [m.digitChar, s.digitChar]) := by
    simp [name_eq hm hs, nameBody?, hrun, hminor, hstep, Nat.succ_le_iff, length_toDigits_pos]
  simp [read, hbody, readInt?_toDigits, hminor, hstep]

end

/-- **Architectures and plain names determine each other.** -/
theorem names_round_trip {m s : Nat} (hm : m < 10) (hs : s < 16) :
    (∀ n : Nat, read (name ⟨n, m, s⟩) = .found ⟨n, m, s⟩) ∧
    ∀ ds : Nats, ds ≠ [] → (∀ d ∈ ds, d < 10) → (ds.head? = some 0 → ds = [0]) →
      let text := "gfx" ++ .ofList ((ds ++ [m, s]).map digitChar)
      ∃ i, read text = .found i ∧ i.name = text := by
  refine ⟨fun n => read_name hm hs, fun ds hne hds hzero => ?_⟩
  obtain ⟨n, hn⟩ := exists_toDigits hne hds hzero
  rw [map_append, hn]
  exact ⟨_, name_eq hm hs ▸ read_name hm hs, name_eq hm hs⟩

theorem names_round_trip_mixed : read (name ⟨9, 0, 10⟩) = .found ⟨9, 0, 10⟩ ∧
    ∃ i, read "gfx90a" = .found i ∧ i.name = "gfx90a" :=
  have h := names_round_trip (m := 0) (s := 10) (by decide) (by decide)
  ⟨h.1 9, h.2 [9] (by decide) (by decide) (by decide)⟩

end TensorForge.Isa
