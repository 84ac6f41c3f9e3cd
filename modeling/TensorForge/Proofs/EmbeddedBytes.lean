import Mathlib.Data.List.Induction
import TensorForge.Host.Generator

/-!
# Embedded bytes

The list of bytes that is written for a data symbol is read back, line by line (`embed_reads_back`).
-/

namespace TensorForge.EmbedFile

open List Nat Text

def digitOf (c : Char) : Option Nat := "0123456789abcdef".toList.idxOf? c

/-- Reads a list of bytes from behind its opening brace to the closing one, the bytes of each line by themselves. A byte
has two digits, and a comma stands between any two bytes. -/
def byteLines : Chars → Option (List Nats)
  | ' ' :: cs => byteLines cs
  | '\n' :: cs => (byteLines cs).map ([] :: ·)
  | '\x7d' :: _ => some [[]]
  | '0' :: 'x' :: a :: b :: '\x7d' :: _ => do return [[16 * (<- digitOf a) + (<- digitOf b)]]
  | '0' :: 'x' :: a :: b :: ',' :: cs => do
    let n := 16 * (<- digitOf a) + (<- digitOf b)
    (byteLines cs).map (.modifyHead (n :: ·))
  | _ => none

lemma digitOf_digitChar : ∀ n < 16, digitOf n.digitChar = some n := by decide

lemma toList_pushn (c : Char) (k : Nat) : ("".pushn c k).toList = replicate k c := by
  induction k with
  | zero => rfl
  | succ k ih => rw [replicate_succ', ← ih]; exact String.toList_push _

variable {n : Nat} {bs : Nats} {t : Chars}

lemma toList_literal (hn : n < 256) :
    (literal n).toList = ['0', 'x', (n / 16).digitChar, (n % 16).digitChar] := by
  have hdigits : replicate (2 - (toDigits 16 n).length) '0' ++ toDigits 16 n =
      [(n / 16).digitChar, (n % 16).digitChar] := by
    by_cases h : n < 16
    · rw [toDigits_of_lt_base h, div_eq_of_lt h, mod_eq_of_lt h]
      rfl
    · rw [toDigits_of_base_le (by decide) (by omega), toDigits_of_lt_base (by omega)]
      rfl
  simp [literal, padLeft, hexDigits, toList_pushn, hdigits]

lemma byteLines_blanks (k : Nat) : byteLines (replicate k ' ' ++ t) = byteLines t := by
  induction k with
  | zero => rfl
  | succ k ih => exact ih

/-- One byte and what ends it. -/
lemma byteLines_literal (hn : n < 256) :
    byteLines ((literal n).toList ++ '\x7d' :: t) = some [[n]] ∧
    byteLines ((literal n).toList ++ ',' :: t) = (byteLines t).map (modifyHead (n :: ·)) := by
  have hvalue : 16 * (n / 16) + n % 16 = n := div_add_mod n 16
  have hlow := digitOf_digitChar (n % 16) (mod_lt n (by decide))
  have hhigh := digitOf_digitChar (n / 16) (by omega)
  simp only [toList_literal hn, cons_append, nil_append, byteLines, hlow, hhigh]
  simp [hvalue]

/-- The bytes of a row come before all that is read on its line. -/
lemma byteLines_listing (hbs : ∀ n ∈ bs, n < 256) (hne : bs ≠ []) {r : Option (List Nats)}
    (h : ∀ n < 256, byteLines ((literal n).toList ++ t) = r.map (modifyHead (n :: ·))) :
    byteLines ((listing (bs.map literal)).toList ++ t) = r.map (modifyHead (bs ++ ·)) := by
  induction bs with
  | nil => exact absurd rfl hne
  | cons n bs ih =>
    obtain ⟨hn, hbs⟩ := forall_mem_cons.mp hbs
    cases bs with
    | nil => exact h n hn
    | cons m bs =>
      have hrow : (listing ((n :: m :: bs).map literal)).toList ++ t =
          (literal n).toList ++ ',' :: ' ' :: ((listing ((m :: bs).map literal)).toList ++ t) := by
        simp [listing]
      rw [hrow, (byteLines_literal hn).2, byteLines, ih hbs (cons_ne_nil m bs), Option.map_map]
      congr
      funext rows
      cases rows <;> rfl

lemma unblank {w : Text} (h : w.toList.any isBlank = false) : ∀ c ∈ w.toList, isBlank c = false := by
  simpa using h

/-- The lines as they are appended to the file. -/
def block (f : EmbedFile) (ls : Texts) : Text := .join (ls.map (f.indented · ++ "\n"))

section Suffix

variable {f : EmbedFile} {s w : Text} (hw : ∀ c ∈ w.toList, isBlank c = false) (hne : w.toList ≠ [])
include hw hne

lemma trim_append : trim (s ++ w) = trimLeft s ++ w := by
  have stop {w : Chars} (hw : ∀ c ∈ w, isBlank c = false) (hne : w ≠ []) (cs : Chars) :
      (w ++ cs).dropWhile isBlank = w ++ cs := by
    obtain ⟨c, w, rfl⟩ := exists_cons_of_ne_nil hne
    exact dropWhile_cons_of_neg (by simp [hw])
  have hleft : (s.toList ++ w.toList).dropWhile isBlank = s.toList.dropWhile isBlank ++ w.toList := by
    have hdrop := stop hw hne []
    rw [append_nil] at hdrop
    rw [dropWhile_append, hdrop]
    split <;> simp_all
  have hright := stop (w := w.toList.reverse) (by simpa using hw) (by simpa using hne)
  simp [trim, trimLeft, hleft, hright]

lemma indented_append : ∃ t, f.indented (s ++ w) = t ++ w := by
  rw [indented, trim_append hw hne]
  split
  · exact ⟨_, rfl⟩
  · exact ⟨_, (String.append_assoc ..).symm⟩

lemma toList_indented (hs : s.toList.head? = some '0') :
    (f.indented (s ++ w)).toList = replicate f.level.toNat ' ' ++ (s.toList ++ w.toList) := by
  obtain ⟨cs, hcs⟩ := head?_eq_some_iff.mp hs
  have hdrop : (trimLeft s).toList = s.toList := by rw [trimLeft, String.toList_ofList, hcs]; rfl
  have hplain : (trimLeft s ++ w).startsWith "#" = false := by
    simp [hdrop, hcs]
  simp only [indented, trim_append hw hne, hplain]
  simp [toList_pushn, hdrop]

end Suffix

lemma parts_append {w : Chars} (hw : '\n' ∉ w) : ∃ ps q, parts '\n' (t ++ w) = ps ++ [q ++ w] := by
  induction t with
  | nil =>
    refine ⟨[], [], ?_⟩
    induction w with
    | nil => rfl
    | cons c w ih => simp_all [parts]; grind
  | cons c t ih =>
    obtain ⟨ps, q, ih⟩ := ih
    simp only [parts, cons_append, foldr_cons] at ih ⊢
    rw [ih]
    split
    · exact ⟨[] :: ps, q, rfl⟩
    · cases ps with
      | nil => exact ⟨[], c :: q, rfl⟩
      | cons p ps => exact ⟨(c :: p) :: ps, q, rfl⟩

variable {f : EmbedFile}

/-- A text that ends without a blank is written up to its end. -/
lemma write_run {s w : Text} (hw : ∀ c ∈ w.toList, isBlank c = false) (hne : w.toList ≠ []) :
    ∃ t, (write (s ++ w)).run f = .ok () { f with text := f.text ++ (t ++ w ++ "\n") } := by
  obtain ⟨ps, q, hps⟩ := parts_append (t := s.toList) fun h => Bool.noConfusion (hw '\n' h)
  obtain ⟨t, ht⟩ := indented_append (f := f) (s := .ofList q) hw hne
  refine ⟨.join ((ps.map .ofList).map (f.indented · ++ "\n")) ++ t, ?_⟩
  have hlast : String.ofList (q ++ w.toList) = .ofList q ++ w := by simp
  rw [write, lines, String.toList_append, hps]
  simp [ht, String.append_assoc]

section Rows

variable (hbs : ∀ n ∈ bs, n < 256) (hne : bs ≠ [])
include hbs hne

lemma head_listing : (listing (bs.map literal)).toList.head? = some '0' := by
  obtain ⟨n, bs, rfl⟩ := exists_cons_of_ne_nil hne
  have := toList_literal (forall_mem_cons.mp hbs).1
  cases bs <;> simp [listing, this]

lemma byteLines_row {w : Text} (hw : ∀ c ∈ w.toList, isBlank c = false) (hw' : w.toList ≠ [])
    {r : Option (List Nats)}
    (h : ∀ n < 256, byteLines ((literal n).toList ++ (w.toList ++ t)) = r.map (modifyHead (n :: ·))) :
    byteLines ((f.indented (listing (bs.map literal) ++ w)).toList ++ t) = r.map (modifyHead (bs ++ ·)) := by
  rw [toList_indented hw hw' (head_listing hbs hne), append_assoc, byteLines_blanks, append_assoc,
    byteLines_listing hbs hne h]

end Rows

lemma byteLines_rows (fuel : Nat) (hfuel : bs.length ≤ fuel) (hbs : ∀ n ∈ bs, n < 256) (hne : bs ≠ []) :
    ∃ rows, byteLines (f.block (byteRows "\x7d);" fuel bs)).toList = some rows ∧
      rows.flatten = bs ∧ ∀ row ∈ rows, row.length ≤ 16 := by
  induction fuel generalizing bs with
  | zero => exact absurd (length_eq_zero_iff.mp (le_zero.mp hfuel)) hne
  | succ fuel ih =>
    have hrow : ∀ m ∈ bs.take 16, m < 256 := fun m hm => hbs m (mem_of_mem_take hm)
    have hfirst : bs.take 16 ≠ [] := by simpa using hne
    have hshort : (bs.take 16).length ≤ 16 := length_take_le 16 bs
    rw [byteRows, block]
    split
    · next hrest =>
      have hall : bs.take 16 = bs := take_of_length_le (by simpa using hrest)
      rw [hall] at hshort ⊢
      refine ⟨[bs], ?_, flatten_singleton, by simpa using hshort⟩
      have hread := byteLines_row hbs hne (unblank rfl) (by decide) (f := f) (w := "\x7d);") (t := ['\n'])
        (r := some [[]]) fun n hn => (byteLines_literal hn).1
      simpa [String.join_cons] using hread
    · next hrest =>
      have hfuel' : (bs.drop 16).length ≤ fuel := by grind
      obtain ⟨rows, hrows, hflat, hlen⟩ := ih hfuel' (fun n hn => hbs n (mem_of_mem_drop hn)) (by simpa using hrest)
      refine ⟨bs.take 16 :: rows, ?_, by simp [hflat], forall_mem_cons.mpr ⟨hshort, hlen⟩⟩
      have hread := byteLines_row hrow hfirst (unblank rfl) (by decide) (f := f) (w := ",")
        fun n hn => (byteLines_literal (t := '\n' :: (f.block (byteRows "\x7d);" fuel (bs.drop 16))).toList) hn).2
      rw [byteLines, hrows] at hread
      simpa [block] using hread

/-- What is written from the opening brace on reads as the bytes, with at most sixteen of them on a line. -/
lemma initializer_run (start : Text) {stop : Text} (hbs : ∀ n ∈ bs, n < 256)
    (hstop : ∀ c ∈ stop.toList, isBlank c = false) (hfirst : stop.toList.head? = some '\x7d') : ∃ head body rows,
      (initializer start stop bs).run f = .ok () { f with text := f.text ++ (head ++ "\x7b" ++ body) } ∧
      byteLines body.toList = some rows ∧ (∀ row ∈ rows, row.length ≤ 16) ∧ rows.flatten = bs := by
  unfold initializer
  split
  · next hempty =>
    obtain ⟨u, hu⟩ := write_run (f := f) (s := start) (w := "\x7b" ++ stop) (by simpa using ⟨rfl, hstop⟩) (by simp)
    obtain ⟨t, ht⟩ := head?_eq_some_iff.mp hfirst
    refine ⟨u, stop ++ "\n", [[]], ?_, by simp [ht, byteLines], by simp, (isEmpty_iff.mp hempty).symm⟩
    simpa [String.append_assoc] using hu
  · next hempty =>
    obtain ⟨u, hu⟩ := write_run (f := f) (s := start) (w := "\x7b") (unblank rfl) (by decide)
    obtain ⟨rows, hrows, hflat, hlen⟩ := byteLines_rows (f := { f with levels := (f.step + f.level) :: f.levels })
      bs.length (Nat.le_refl _) hbs (by simpa using hempty)
    refine ⟨u, "\n" ++ block _ (byteRows "\x7d);" bs.length bs), [] :: rows, ?_,
      by rw [String.toList_append]; exact congrArg (Option.map ([] :: ·)) hrows, by simpa using hlen, hflat⟩
    rw [EStateM.run_bind, hu]
    simp only [← String.append_assoc]
    rfl

/-- Whatever bytes are embedded, the text behind the opening brace reads as these bytes and the zero that terminates
them. -/
theorem embed_reads_back (f : EmbedFile) (type : String) (bytes : List UInt8) (terminated : Bool)
    (note key : Option String) : ∃ head body tail rows,
      (embed type (bytes.map (·.toNat)) terminated note key).run f =
        .ok () { f with text := f.text ++ head ++ "\x7b" ++ body ++ tail } ∧
      byteLines body.toList = some rows ∧ (∀ row ∈ rows, row.length ≤ 16) ∧
      rows.flatten = bytes.map (·.toNat) ++ if terminated then [0] else [] := by
  have hbytes : ∀ n ∈ bytes.map (·.toNat) ++ (if terminated then [0] else []), n < 256 := by
    have hlt (b : UInt8) := b.toNat_lt
    grind
  obtain ⟨t, l, start, stop, hopen, hstop, hfirst⟩ : ∃ t l start stop,
      (embed type (bytes.map (·.toNat)) terminated note key).run f =
        (initializer start stop (bytes.map (·.toNat) ++ if terminated then [0] else []) >>= fun _ => leave none).run
          { f with text := f.text ++ t, levels := l :: f.levels } ∧
      (∀ c ∈ stop.toList, isBlank c = false) ∧ stop.toList.head? = some '\x7d' := by
    -- a comment makes one more block of lines
    cases note <;> cases key
    · exact ⟨_, _, _, _, rfl, unblank rfl, rfl⟩
    · exact ⟨_, _, _, _, rfl, unblank rfl, rfl⟩
    all_goals exact ⟨_ ++ _, _, _, _, by rw [← String.append_assoc]; rfl, unblank rfl, rfl⟩
  obtain ⟨tail, hclose⟩ : ∃ tail, ∀ text, (leave none).run { f with text, levels := l :: f.levels } =
      .ok () { f with text := text ++ tail } := ⟨f.block ["\x7d // anonymous namespace"], fun _ => rfl⟩
  obtain ⟨head, body, rows, hrun, hread⟩ :=
    initializer_run (f := { f with text := f.text ++ t, levels := l :: f.levels }) start hbytes hstop hfirst
  refine ⟨t ++ head, body, tail, rows, ?_, hread⟩
  rw [hopen, EStateM.run_bind, hrun]
  simp only [← String.append_assoc]
  exact hclose _

end TensorForge.EmbedFile
