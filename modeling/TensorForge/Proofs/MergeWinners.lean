import TensorForge.Library.Merge
import TensorForge.Proofs.Returns
import TensorForge.Proofs.SizeTables
import Mathlib.Data.Int.Order.Basic
import Mathlib.Data.List.Induction
import Mathlib.Order.Lattice

/-!
# The faster kernel wins

When two tables are merged without force, each size of either table is in the result with the speed
and the kernel of its faster entry. Main statements: `gathered_absorb`, what bringing one entry into
the pool does to the entries of every size, and from it `merged_at`, what the merged table says about
a size.

A size that a table gives more than once is reduced to the entries that stand for it before speeds are
looked at (`SizeTable.standing`), so the fastest of several entries in one table may be lost.
-/

namespace TensorForge.Merge

open Int List SizeTable Value

abbrev Entries := List (Value × Table)

/-- What a view says about a size. -/
def entriesAt (v : List (SizeKey × Value × Table)) (k : SizeKey) : Entries :=
  (v.filter fun x => x.1.same k).map (·.2)

/-- Two entries with the same speed and equal kernels. -/
def Matches (a b : Value × Table) : Prop := a.1 = b.1 ∧ Alike a.2 b.2

lemma matches_refl (a : Value × Table) : Matches a a := ⟨rfl, .inl rfl⟩

variable (new : Entries)

/-- An entry as it was, or one that was brought in and has an equal kernel. -/
def Taken (a b : Value × Table) : Prop := a = b ∨ b ∈ new ∧ Matches a b

lemma Taken.toMatches {new : Entries} {a b : Value × Table} (h : Taken new a b) : Matches a b :=
  h.elim (fun h => h ▸ matches_refl a) .right

/-- What becomes of the entries of a size: without old ones the new ones are taken, otherwise a new one
whose speed beats that of the last old one takes its place. -/
def settle (beats : Value → Value → Bool) (old new : Entries) : Entries :=
  match old.getLast? with
  | none => new
  | some o => old.dropLast ++ [new.foldl (fun cur n => if beats o.1 n.1 then n else cur) o]

variable {beats : Value → Value → Bool} (kernels : Tables) {k : SizeKey}

lemma settle_nil : settle beats [] new = new := rfl

lemma settle_done (old : Entries) : settle beats old [] = old := by
  cases old using reverseRecOn <;> simp [settle]

lemma settle_concat (old new : Entries) (o : Value × Table) : settle beats (old ++ [o]) new =
      old ++ [new.foldl (fun cur n => if beats o.1 n.1 then n else cur) o] := by
  simp [settle]

lemma entriesAt_viewOf (es : List SizeEntry) (k : SizeKey) :
    entriesAt (viewOf kernels es) k = (es.filter fun e => e.key.same k).map (served kernels) := by
  rw [entriesAt, viewOf, filter_map, map_map]
  rfl

section Prefix

variable {kernels kernels' : Tables} {sizes : List SizeEntry} (hr : Resolved kernels sizes) (h : kernels <+: kernels')

include hr h

lemma viewOf_prefix : viewOf kernels' sizes = viewOf kernels sizes := by
  refine map_congr_left fun e he => ?_
  obtain ⟨more, rfl⟩ := h
  obtain ⟨hlo, hhi⟩ := hr e he
  rw [served, served, getD_eq_getElem?_getD, getElem?_append_left (by omega),
    getD_eq_getElem?_getD]

lemma resolved_extend : Resolved kernels' sizes := by
  intro e he
  have := h.length_le
  have := hr e he
  omega

end Prefix

/-- Kernels that continue those of a pool and have one equal to `kernel` at place `i`. -/
structure Stored (kernel : Table) (p : Pool) (kernels : Tables) (i : Nat) : Prop where
  kept : p.kernels <+: kernels
  lt : i < kernels.length
  numbered : Numbered kernels
  unmarked : ∀ k ∈ kernels, Unmarked k
  alike : Alike (bare (kernels.getD i [])) (bare kernel)

/-- A kernel that is added is in the pool afterwards under its index, or one equal to it is. -/
lemma addKernel_ok {p : Pool} {kernel : Table} (hn : Numbered p.kernels)
    (hu : ∀ k ∈ p.kernels, Unmarked k) (hk : Unmarked kernel) :
    ∃ (p' : Pool) (i : Nat) (known : Bool), p.addKernel kernel = .ok (p', (i : Int), known) ∧
      p'.sizes = p.sizes ∧ Stored kernel p p'.kernels i := by
  unfold Pool.addKernel addKernel
  cases hfind : p.kernels.find? fun k => sameKernel k kernel with
  | some k =>
    have hmem := mem_of_find?_eq_some hfind
    have hsame : sameKernel k kernel := by simpa using find?_some hfind
    obtain ⟨i, hi⟩ := getElem?_of_mem hmem
    refine ⟨p, i, true, ?_, rfl, prefix_rfl, (List.getElem?_eq_some_iff.mp hi).1, hn, hu, ?_⟩
    · simp only [indexOf_of_numbered hn hi]
      rfl
    · rw [getD_eq_getElem?_getD, hi, Option.getD_some, (hu k hmem).bare_eq, hk.bare_eq]
      exact .inr hsame
  | none =>
    refine ⟨{ p with kernels := p.kernels ++ [withIndex kernel p.kernels.length] }, p.kernels.length,
      false, rfl, rfl, prefix_append .., by simp, ?_, ?_, ?_⟩
    · intro i k hik
      rw [getElem?_append] at hik
      split at hik
      · exact hn i k hik
      · next hge =>
        have hi : i = p.kernels.length := by
          have := (List.getElem?_eq_some_iff.mp hik).1
          simp at this
          omega
        subst hi
        simp only [Nat.sub_self, getElem?_cons_zero, Option.some.injEq] at hik
        rw [← hik, withIndex, Table.get?_set]
    · exact forall_mem_append.mpr ⟨hu, by simpa using hk.withIndex _⟩
    · left
      simp [bare_withIndex]

/-- The last entry with a size splits the list; behind it the size does not come again. -/
lemma split_of_find? {α : Type} {c : α → Bool} {l : List α} {a : α} {i : Nat}
    (h : l.zipIdx.reverse.find? (fun x => c x.1) = some (a, i)) :
    ∃ front back, l = front ++ a :: back ∧ i = front.length ∧ c a ∧ ∀ b ∈ back, c b = false := by
  obtain ⟨ha, later, before, hsplit, hlater⟩ := find?_eq_some_iff_append.mp h
  rw [reverse_eq_iff, reverse_append, reverse_cons, append_assoc, singleton_append] at hsplit
  refine ⟨before.reverse.map (·.1), later.reverse.map (·.1), ?_, ?_, ha, by simpa using hlater⟩
  · simpa using congrArg (map Prod.fst) hsplit
  · have hi : l.zipIdx[before.length]? = some (a, i) := by simp [hsplit]
    rw [getElem?_zipIdx, Option.map_eq_some_iff] at hi
    obtain ⟨_, -, ⟨⟩⟩ := hi
    simp

/-- Speeds are compared, and whether the new one replaces the old one is as `beats` says. -/
def Decided (beats : Value → Value → Bool) (force : Bool) (old new : Value) : Prop :=
  ∃ better, less old new = .ok better ∧ (better || force) = beats old new

variable {α : Type} [LinearOrder α] {rank : Value → α}

/-- The speeds of entries are compared as numbers are. -/
def Ranked (rank : Value → α) (sizes : List SizeEntry) : Prop :=
  ∀ a ∈ sizes, ∀ b ∈ sizes, less a.speed b.speed = .ok (decide (rank a.speed < rank b.speed))

/-- Kernels without marks that are numbered by their places, and entries that refer to them. -/
structure Tidy (sizes : List SizeEntry) : Prop where
  numbered : Numbered kernels
  unmarked : ∀ k ∈ kernels, Unmarked k
  resolved : Resolved kernels sizes
  exact : ExactKeys sizes

/-- The pool after the entries `done` of a new table were brought into an old one. -/
structure Gathered (beats : Value → Value → Bool) (old new : SizeTable) (done : List SizeEntry) (p : Pool) : Prop
    extends Tidy p.kernels p.sizes where
  /-- The old entries keep their places, and behind them are only sizes that were not known. -/
  places : ∃ front back, p.sizes = front ++ back ∧ front.map (·.key) = old.sizes.map (·.key) ∧
    ∀ o ∈ back, ∀ b ∈ old.sizes, b.key.same o.key = false
  keys : ∀ o ∈ p.sizes, ∃ e ∈ old.sizes ++ done, o.key = e.key
  settled : ∀ k : SizeKey, k.Exact → Forall₂ (Taken (entriesAt (viewOf new.kernels new.sizes) k))
    (entriesAt (viewOf p.kernels p.sizes) k)
    (settle beats (entriesAt (viewOf old.kernels old.sizes) k) (entriesAt (viewOf new.kernels done) k))

/-- The last entry `o` of an old table for the size of the entry `e`. -/
structure Found (old : SizeTable) (e : SizeEntry) (front : List SizeEntry) (o : SizeEntry) (back : List SizeEntry) : Prop where
  split : old.sizes = front ++ o :: back
  same : o.key.same e.key
  others : ∀ b ∈ back, b.key.same e.key = false

section Absorb

variable {old new : SizeTable} {done front back : List SizeEntry} {p : Pool} {e o : SizeEntry}
  {kernels : Tables} {i : Nat}

lemma entriesAt_viewOf_concat (es : List SizeEntry) (e : SizeEntry) (k : SizeKey) :
    entriesAt (viewOf kernels (es ++ [e])) k =
      entriesAt (viewOf kernels es) k ++ if e.key.same k then [served kernels e] else [] := by
  rw [entriesAt_viewOf, entriesAt_viewOf, filter_append, map_append]
  cases h : e.key.same k <;> simp [h]

lemma Stored.taken (h : Stored (new.kernels.getD e.kernel.toNat []) p kernels i) (he : e ∈ new.sizes) (hek : e.key.same k) (c : SizeEntry) :
    Taken (entriesAt (viewOf new.kernels new.sizes) k) (served kernels { c with kernel := (i : Int), speed := e.speed })
      (served new.kernels e) :=
  .inr ⟨mem_map_of_mem (mem_filter.mpr ⟨mem_map_of_mem he, hek⟩), rfl, h.alike⟩

/-- The last entry of a size is the last that a table says about it. -/
lemma entriesAt_viewOf_last (ho : o.key.same k) (hback : ∀ b ∈ back, b.key.same k = false) :
    entriesAt (viewOf kernels (front ++ o :: back)) k = entriesAt (viewOf kernels front) k ++ [served kernels o] := by
  have hnil : back.filter (fun b => b.key.same k) = [] := by simpa using hback
  simp [entriesAt_viewOf, ho, hnil]

lemma entriesAt_viewOf_other (ho : o.key.same k = false) :
    entriesAt (viewOf kernels (front ++ o :: back)) k = entriesAt (viewOf kernels (front ++ back)) k := by
  simp [entriesAt_viewOf, ho]

lemma modify_append_cons {α : Type} (front back : List α) (a : α) (f : α → α) :
    (front ++ a :: back).modify front.length f = front ++ f a :: back := by
  induction front with
  | nil => rfl
  | cons b front ih => simpa using ih

lemma settle_known (X D : Entries) (oldKernels newKernels : Tables) (o e : SizeEntry) :
    settle beats (X ++ [served oldKernels o]) (D ++ [served newKernels e]) =
      if beats o.speed e.speed then X ++ [served newKernels e] else settle beats (X ++ [served oldKernels o]) D := by
  rw [settle_concat, settle_concat, foldl_append]
  show X ++ [if beats o.speed e.speed then served newKernels e else _] = _
  split <;> rfl

lemma entriesAt_old (hold : ExactKeys old.sizes) (he : e.key.Exact) (hk : k.Exact) (hf : Found old e front o back)
    (hek : e.key.same k) : entriesAt (viewOf old.kernels old.sizes) k =
      entriesAt (viewOf old.kernels front) k ++ [served old.kernels o] := by
  rw [hf.split]
  refine entriesAt_viewOf_last ?_ fun b hb => ?_
  · rw [← SizeKey.same_congr_right he hk (hold o (by simp [hf.split])) hek, hf.same]
  · rw [← SizeKey.same_congr_right he hk (hold b (by simp [hf.split, hb])) hek, hf.others b hb]

lemma forall₂_concat_left {α β : Type} {R : α → β → Prop} {xs : List α} {ys : List β} {a c : α} {b d : β}
    (h : Forall₂ R (xs ++ [a]) (ys ++ [b])) (hcd : R c d) : Forall₂ R (xs ++ [c]) (ys ++ [d]) := by
  have hlen : xs.length = ys.length := by simpa using h.length_eq
  have hxy : Forall₂ R xs ys := by
    have := forall₂_take xs.length h
    rwa [take_left, hlen, take_left] at this
  exact rel_append hxy (.cons hcd .nil)

variable (h : Gathered beats old new done p)

include h

lemma Gathered.keys_concat (e : SizeEntry) : ∀ o ∈ p.sizes, ∃ d ∈ old.sizes ++ (done ++ [e]), o.key = d.key := by
  intro o ho
  obtain ⟨d, hd, hk⟩ := h.keys o ho
  exact ⟨d, by rw [← append_assoc]; exact mem_append_left _ hd, hk⟩

variable (hold : ExactKeys old.sizes) (he : e.key.Exact)

include hold he

/-- Where a size of the old table stands in the pool. -/
lemma Gathered.split (hf : Found old e front o back) : ∃ front' c back' rest, p.sizes = front' ++ c :: (back' ++ rest) ∧ front'.length = front.length ∧
      (front' ++ c :: back').map (·.key) = old.sizes.map (·.key) ∧ c.key = o.key ∧
      (∀ r ∈ rest, ∀ b ∈ old.sizes, b.key.same r.key = false) ∧ ∀ r ∈ back' ++ rest, r.key.same e.key = false := by
  obtain ⟨all, rest, hp, hkeys, hrest⟩ := h.places
  have ho : o ∈ old.sizes := by simp [hf.split]
  rw [hf.split, map_append, map_eq_append_iff] at hkeys
  obtain ⟨front', tail, rfl, hfront, htail⟩ := hkeys
  obtain ⟨c, back', rfl, hc, hb⟩ := map_eq_cons_iff.mp htail
  refine ⟨front', c, back', rest, by rw [hp]; simp, ?_, ?_, hc, hrest, forall_mem_append.mpr ⟨fun r hr => ?_, fun r hr => ?_⟩⟩
  · simpa using congrArg length hfront
  · simp [hf.split, hfront, hc, hb]
  · have hmem : r.key ∈ back.map (·.key) := hb ▸ mem_map_of_mem hr
    obtain ⟨b, hb', hbr⟩ := mem_map.mp hmem
    rw [← hbr]
    exact hf.others b hb'
  · have hr' : r.key.Exact := h.exact r (by simp [hp, hr])
    rw [← Bool.not_eq_true]
    intro hsame
    have hor : o.key.same r.key = false := hrest r hr o ho
    rw [SizeKey.same_congr_right hr' he (hold o ho) hsame, hf.same] at hor
    cases hor

lemma Gathered.keep (hf : Found old e front o back) (hslow : ¬beats o.speed e.speed) :
    Gathered beats old new (done ++ [e]) p := by
  refine { h with keys := h.keys_concat e, settled := fun k hk => ?_ }
  rw [entriesAt_viewOf_concat]
  by_cases hek : e.key.same k
  · have hlast := entriesAt_old hold he hk hf hek
    rw [if_pos hek, hlast, settle_known, if_neg hslow, ← hlast]
    exact h.settled k hk
  · rw [if_neg hek, append_nil]
    exact h.settled k hk

variable (hmem : e ∈ new.sizes)

include hmem

lemma Gathered.replace (hf : Found old e front o back) (hfast : beats o.speed e.speed)
    (hs : Stored (new.kernels.getD e.kernel.toNat []) p kernels i) : Gathered beats old new (done ++ [e])
      ⟨kernels, p.sizes.modify front.length fun s => { s with kernel := (i : Int), speed := e.speed }⟩ := by
  obtain ⟨front', c, back', rest, hp, hlen, hkeys, hc, hrest, hother⟩ := h.split hold he hf
  have ho : o ∈ old.sizes := by simp [hf.split]
  let c' : SizeEntry := { c with kernel := (i : Int), speed := e.speed }
  have hsizes : p.sizes.modify front.length (fun s => { s with kernel := (i : Int), speed := e.speed }) =
      front' ++ c' :: (back' ++ rest) := by
    rw [hp, ← hlen, modify_append_cons]
  have hall : ∀ {P : SizeEntry → Prop}, P c' → (∀ d ∈ p.sizes, P d) → ∀ d ∈ front' ++ c' :: (back' ++ rest), P d := by
    intro P hc' hrest d hd
    rw [hp] at hrest
    simp only [mem_append, mem_cons] at hd hrest
    rcases hd with hd | rfl | hd
    · exact hrest d (.inl hd)
    · exact hc'
    · exact hrest d (.inr (.inr hd))
  have hcp : c ∈ p.sizes := by simp [hp]
  have hview := viewOf_prefix h.resolved hs.kept
  rw [hsizes]
  refine ⟨⟨hs.numbered, hs.unmarked, hall ⟨natCast_nonneg i, ofNat_lt.mpr hs.lt⟩ (resolved_extend h.resolved hs.kept),
    hall (h.exact c hcp) h.exact⟩, ⟨front' ++ c' :: back', rest, by simp, ?_, hrest⟩,
    hall (h.keys_concat e c hcp) (h.keys_concat e), fun k hk => ?_⟩
  · rw [← hkeys]
    simp [c']
  · have hset := h.settled k hk
    rw [← hview, hp] at hset
    rw [entriesAt_viewOf_concat]
    by_cases hek : e.key.same k
    · have hlast := entriesAt_old hold he hk hf hek
      have hck : c.key.same k := by
        rw [hc, ← SizeKey.same_congr_right he hk (hold o ho) hek, hf.same]
      have hother' : ∀ r ∈ back' ++ rest, r.key.same k = false := by
        intro r hr
        rw [← SizeKey.same_congr_right he hk (h.exact r (by simp [hp, mem_append.mp hr])) hek]
        exact hother r hr
      rw [if_pos hek, hlast, settle_known, if_pos hfast, entriesAt_viewOf_last (o := c') hck hother']
      rw [hlast, settle_concat, entriesAt_viewOf_last hck hother'] at hset
      exact forall₂_concat_left hset (hs.taken hmem hek c)
    · have hck : c.key.same k = false := by
        rw [hc, SizeKey.same_congr_left (hold o ho) he hk hf.same]
        simpa using hek
      rw [if_neg hek, append_nil, entriesAt_viewOf_other (o := c') hck]
      rwa [entriesAt_viewOf_other hck] at hset

lemma Gathered.append (hnone : ∀ b ∈ old.sizes, b.key.same e.key = false) (hs : Stored (new.kernels.getD e.kernel.toNat []) p kernels i) :
    Gathered beats old new (done ++ [e]) ⟨kernels, p.sizes ++ [{ e with kernel := (i : Int) }]⟩ := by
  obtain ⟨front, back, hp, hkeys, hback⟩ := h.places
  have hall : ∀ {P : SizeEntry → Prop} {l : List SizeEntry}, P { e with kernel := (i : Int) } → (∀ d ∈ l, P d) →
      ∀ d ∈ l ++ [{ e with kernel := (i : Int) }], P d := fun he hl => forall_mem_append.mpr ⟨hl, by simpa⟩
  refine ⟨⟨hs.numbered, hs.unmarked, hall ⟨natCast_nonneg i, ofNat_lt.mpr hs.lt⟩ (resolved_extend h.resolved hs.kept),
    hall he h.exact⟩, ⟨front, back ++ [{ e with kernel := (i : Int) }], by simp [hp], hkeys, hall hnone hback⟩,
    hall ⟨e, by simp, rfl⟩ (h.keys_concat e), fun k hk => ?_⟩
  have hset := h.settled k hk
  rw [entriesAt_viewOf_concat, entriesAt_viewOf_concat, viewOf_prefix h.resolved hs.kept]
  by_cases hek : e.key.same k
  · have hnil : entriesAt (viewOf old.kernels old.sizes) k = [] := by
      rw [entriesAt_viewOf, map_eq_nil_iff, filter_eq_nil_iff]
      intro b hb
      rw [← SizeKey.same_congr_right he hk (hold b hb) hek, hnone b hb]
      exact nofun
    rw [hnil] at hset ⊢
    rw [if_pos hek, if_pos hek]
    exact rel_append hset (.cons (hs.taken hmem hek e) .nil)
  · rw [if_neg hek, if_neg hek, append_nil, append_nil]
    exact hset

/-- One step: an entry is brought into the pool, and the pool says the right thing about every size. -/
lemma gathered_absorb {force : Bool} (hless : ∀ o ∈ old.sizes, Decided beats force o.speed e.speed)
    (hkernel : Unmarked (new.kernels.getD e.kernel.toNat [])) : ∃ p' outcome where?,
      p.absorb force old.sizes e (new.kernels.getD e.kernel.toNat []) = .ok (p', outcome, where?) ∧
      Gathered beats old new (done ++ [e]) p' ∧ ∀ w ∈ where?, ∃ i : Nat, w.1 = (i : Int) ∧ i < p'.kernels.length := by
  unfold Pool.absorb
  obtain ⟨p1, i, known, hadd, hsizes, hs⟩ := addKernel_ok h.numbered h.unmarked hkernel
  split
  · next o place hlast =>
    obtain ⟨front, back, hsplit, rfl, ho, hback⟩ :=
      split_of_find? (c := (·.key.same e.key)) (l := old.sizes) hlast
    obtain ⟨better, hbetter, hbeats⟩ := hless o (by simp [hsplit])
    rw [hbetter]
    by_cases hfast : beats o.speed e.speed
    · simp only [hbeats, hfast, bind, Except.bind, hadd, hsizes]
      refine ⟨_, _, _, rfl, h.replace hold he hmem ⟨hsplit, ho, hback⟩ hfast hs, ?_⟩
      rintro w ⟨⟩
      exact ⟨i, rfl, hs.lt⟩
    · simp only [hbeats, hfast, bind, Except.bind]
      exact ⟨p, _, _, rfl, h.keep hold he ⟨hsplit, ho, hback⟩ hfast, nofun⟩
  · next hlast =>
    have hnone : ∀ b ∈ old.sizes, b.key.same e.key = false := by
      rw [← zipIdx_map_fst 0 old.sizes, forall_mem_map]
      simpa using hlast
    simp only [bind, Except.bind, hadd, hsizes]
    refine ⟨_, _, _, rfl, h.append hold he hmem hnone hs, ?_⟩
    rintro w ⟨⟩
    exact ⟨i, rfl, hs.lt⟩

end Absorb

section Reports

variable (policy : Policy) {kernels : Tables}

lemma tells_tell {policy : Policy} {level : Int} {words : Texts} {ending : Text} :
    Tells (tell policy level words ending) () :=
  .ite' (.say _) (.pure' _)

lemma tells_print (e : SizeEntry) (o : Outcome) : Tells (o.print policy e) () := by
  cases o <;> exact tells_tell

lemma tells_printKernel {i : Nat} (hi : i < kernels.length) (known : Bool) :
    Tells (printKernel policy kernels i known) () := by
  have hnth : Gen.nth (kernels.map .dict) (i : Int) = pure (.dict kernels[i]) := by
    simp [Gen.nth, not_lt.mpr (natCast_nonneg i), hi]
  unfold printKernel
  rw [hnth]
  exact .bind' tells_tell (.bind' (.pure' _) (.bind' (.pure' _) tells_tell))

lemma findKernel_ok (hn : Numbered kernels) {i : Int} (hlo : 0 ≤ i)
    (hhi : i < kernels.length) : findKernel kernels i = .ok (kernels.getD i.toNat [], false) := by
  obtain ⟨n, rfl⟩ := eq_ofNat_of_zero_le hlo
  have hlt : n < kernels.length := by omega
  have hget : kernels[n]? = some kernels[n] := getElem?_eq_getElem hlt
  have hneg : ¬((n : Int) < 0) := by omega
  simp only [findKernel, hneg, if_false, hhi, toNat_natCast, hget,
    indexOf_of_numbered hn hget, getD_eq_getElem?_getD]
  simp [bind, Except.bind, same, pure, Except.pure]

lemma tells_kernelOf (hn : Numbered kernels) {i : Int} (hlo : 0 ≤ i)
    (hhi : i < kernels.length) : Tells (kernelOf policy kernels i) (kernels.getD i.toNat []) := by
  unfold kernelOf
  simp only [findKernel_ok hn hlo hhi]
  exact .bind' (.ofExcept _) (.pure' _)

lemma tells_classified {t : SizeTable} (hn : Numbered t.kernels) (hr : Resolved t.kernels t.sizes) :
    ∃ sizes, Tells (classified policy t) sizes :=
  Tells.mapM_exists fun e he =>
    ⟨_, .bind' (tells_kernelOf policy hn (hr e he).1 (hr e he).2) (.pure' _)⟩

lemma tells_warnOfDoubles (what : Text) (sizes tagged : List SizeEntry) :
    Tells (warnOfDoubles policy what sizes tagged) () :=
  .ite' tells_tell (.pure' _)

lemma tells_trimmed (what : Text) (t : SizeTable) :
    Tells (trimmed policy what t) { t with sizes := trim t.sizes } := by
  exact .ite' (.bind' tells_tell (.pure' _)) (.pure' _)

lemma tells_withoutUnused {t t' : SizeTable} (h : t.withoutUnused = .ok t')
    (hn : Numbered t.kernels) (what : Text) :
    Tells (withoutUnused policy what t) (t', t.kernels.length - t'.kernels.length) := by
  have hunused : ∃ ks, t.unused = .ok ks ∧ ∀ k ∈ ks, ∃ v, indexOf k = .ok v := by
    refine ⟨_, by rw [unused, marked_eq hn.number]; rfl, fun k hk => ?_⟩
    simp only [mem_map, mem_filter, Prod.exists] at hk
    obtain ⟨k, used, ⟨⟨k', hk', heq⟩, -⟩, rfl⟩ := hk
    cases heq
    obtain ⟨i, hi⟩ := getElem?_of_mem hk'
    exact ⟨_, indexOf_of_numbered hn hi⟩
  obtain ⟨ks, hks, hindex⟩ := hunused
  unfold withoutUnused
  rw [hks, h]
  refine .bind' (.ofExcept _) (.bind' (.forIn_unit fun k hk => ?_) (.bind' (.ofExcept _) (.pure' _)))
  obtain ⟨v, hv⟩ := hindex k hk
  rw [hv]
  exact .bind' (.ofExcept _) (.bind' tells_tell (.pure' _))

end Reports

/-- The policy under which the faster kernel wins and sizes lose their strides. -/
def winnerPolicy (verbosity : Int) : Policy := { force := false, trim := true, byClass := false, verbosity }

/-- A table whose kernels are numbered by their places, whose entries refer to kernels of it, and whose
sizes are compared without rounding. -/
structure WellFormed (t : SizeTable) : Prop where
  numbered : Numbered t.kernels
  resolved : Resolved t.kernels t.sizes
  exact : ExactKeys t.sizes

lemma mem_trim {es : List SizeEntry} {e : SizeEntry} (h : e ∈ trim es) : ∃ o ∈ es, e = o.short := by
  obtain ⟨o, ho, rfl⟩ := mem_map.mp ((trimFrom_sublist [] es).mem h)
  exact ⟨o, ho, rfl⟩

lemma mem_of_viewOf_eq {kernels kernels' : Tables} {es es' : List SizeEntry}
    (h : viewOf kernels' es' = viewOf kernels es) {e : SizeEntry} (he : e ∈ es') :
    ∃ o ∈ es, o.key = e.key ∧ o.speed = e.speed := by
  have hmem : (e.key, served kernels' e) ∈ viewOf kernels es := h ▸ mem_map_of_mem he
  obtain ⟨o, ho, heq⟩ := mem_map.mp hmem
  simp only [Prod.mk.injEq, served] at heq
  exact ⟨o, ho, heq.1, heq.2.1⟩

/-- A table without strides and unused kernels. -/
structure Cleaned (t t' : SizeTable) : Prop extends Tidy t'.kernels t'.sizes where
  fields : t'.fields = t.fields
  sizes : ∀ e ∈ t'.sizes, ∃ o ∈ t.sizes, e.key = o.key.trimmed ∧ e.speed = o.speed
  entries : ∀ k : SizeKey, k.Exact → k.isLong = false →
    entriesAt (viewOf t'.kernels t'.sizes) k = (standing t.sizes k).map (served t.kernels)

variable {t : SizeTable} {base new : SizeTable}

lemma cleaned_ok (h : WellFormed t) :
    ∃ t', SizeTable.withoutUnused { t with sizes := trim t.sizes } = .ok t' ∧ Cleaned t t' := by
  have hr : Resolved t.kernels (trim t.sizes) := by
    intro e he
    obtain ⟨o, ho, rfl⟩ := mem_trim he
    exact h.resolved o ho
  obtain ⟨t', ht', hn', hr', hu', hfields, hview⟩ :=
    withoutUnused_ok (t := { t with sizes := trim t.sizes }) h.numbered hr
  have hsizes : ∀ e ∈ t'.sizes, ∃ o ∈ t.sizes, e.key = o.key.trimmed ∧ e.speed = o.speed := by
    intro e he
    obtain ⟨o, ho, hkey, hspeed⟩ := mem_of_viewOf_eq hview he
    obtain ⟨d, hd, rfl⟩ := mem_trim ho
    exact ⟨d, hd, hkey.symm, hspeed.symm⟩
  refine ⟨t', ht', ⟨hn', hu', hr', fun e he => ?_⟩, hfields, hsizes, fun k hk hs => ?_⟩
  · obtain ⟨o, ho, hkey, -⟩ := hsizes e he
    rw [hkey]
    exact (h.exact o ho).trimmed
  · rw [hview, entriesAt_viewOf, filter_trim hk hs h.exact, map_map]
    rfl

lemma gathered_start {old : SizeTable} (h : Tidy old.kernels old.sizes) (new : SizeTable) :
    Gathered beats old new [] { kernels := old.kernels, sizes := old.sizes } := by
  refine ⟨h, ⟨old.sizes, [], by simp, rfl, nofun⟩, fun o ho => ⟨o, by simpa, rfl⟩, fun k _ => ?_⟩
  rw [show viewOf new.kernels [] = [] from rfl, show entriesAt [] k = [] from rfl, settle_done]
  exact forall₂_same.mpr fun x _ => .inl rfl

/-- The run: all entries of a new table are brought into an old one. -/
lemma gathered_all {old new : SizeTable} (policy : Policy)
    (hold : Tidy old.kernels old.sizes) (hnew : Tidy new.kernels new.sizes)
    (hless : ∀ o ∈ old.sizes, ∀ e ∈ new.sizes, Decided beats policy.force o.speed e.speed) :
    ∃ p, Tells (new.sizes.foldlM (fun (pool : Pool) e => do
        let kernel ← kernelOf policy new.kernels e.kernel
        let (pool, outcome, where?) ← .ofExcept (pool.absorb policy.force old.sizes e kernel)
        outcome.print policy e
        match where? with
        | some (index, known) => printKernel policy pool.kernels index known
        | none => pure ()
        return pool) { kernels := old.kernels, sizes := old.sizes }) p ∧
      Gathered beats old new new.sizes p := by
  refine Tells.foldlM_inv (Gathered beats old new) (fun done e p he hp => ?_) (gathered_start hold new)
  obtain ⟨hlo, hhi⟩ := hnew.resolved e he
  have hmem : new.kernels.getD e.kernel.toNat [] ∈ new.kernels := by
    rw [getD_eq_getElem?_getD, getElem?_eq_getElem (by omega)]
    exact getElem_mem _
  obtain ⟨p', outcome, where?, habsorb, hp', hwhere⟩ :=
    gathered_absorb hp hold.exact (hnew.exact e he) he (fun o ho => hless o ho e he)
      (hnew.unmarked _ hmem)
  refine ⟨p', .bind' (tells_kernelOf policy hnew.numbered hlo hhi) ?_, hp'⟩
  rw [habsorb]
  refine .bind' (.ofExcept _) (.bind' (tells_print policy e outcome) ?_)
  cases where? with
  | none => exact .pure' _
  | some w =>
    obtain ⟨i, hw, hi⟩ := hwhere w rfl
    obtain ⟨index, known⟩ := w
    cases hw
    exact .bind' (tells_printKernel policy hi known) (.pure' _)

/-- What a table offers for a size once its duplicates are dropped. -/
def offers (t : SizeTable) (k : SizeKey) : Entries :=
  (standing t.sizes k).map (served t.kernels)

/-- The merge returns a table, and says of each size what `settle` makes of the two tables' offers. -/
lemma merged_by (beats : Value → Value → Bool) (force : Bool) (hb : WellFormed base)
    (hn : WellFormed new) (hr : ∀ o ∈ base.sizes, ∀ e ∈ new.sizes, Decided beats force o.speed e.speed)
    (verbosity : Int) :
    ∃ m, Tells (tables { winnerPolicy verbosity with force } base new) m ∧ Numbered m.table.kernels ∧
      Resolved m.table.kernels m.table.sizes ∧ (∀ k ∈ m.table.kernels, Unmarked k) ∧ m.table.fields = base.fields ∧
      (∀ o ∈ m.table.sizes, ∃ e ∈ base.sizes ++ new.sizes, o.key = e.key.trimmed) ∧
      ∀ k : SizeKey, k.Exact → k.isLong = false →
        Forall₂ (Taken (offers new k)) (entriesAt (viewOf m.table.kernels m.table.sizes) k)
          (settle beats (offers base k) (offers new k)) := by
  obtain ⟨old, hold, hcold⟩ := cleaned_ok hb
  obtain ⟨fresh, hfresh, hcfresh⟩ := cleaned_ok hn
  have hless : ∀ o ∈ old.sizes, ∀ e ∈ fresh.sizes, Decided beats force o.speed e.speed := by
    intro o ho e he
    obtain ⟨o', ho', -, hos⟩ := hcold.sizes o ho
    obtain ⟨e', he', -, hes⟩ := hcfresh.sizes e he
    rw [hos, hes]
    exact hr o' ho' e' he'
  let policy := { winnerPolicy verbosity with force }
  obtain ⟨p, hp, hg⟩ := gathered_all policy hcold.toTidy hcfresh.toTidy hless
  obtain ⟨t, ht, htn, htr, htu, hfields, hview⟩ :=
    withoutUnused_ok (t := { old with kernels := p.kernels, sizes := p.sizes }) hg.numbered hg.resolved
  obtain ⟨baseTagged, hbt⟩ := tells_classified policy hb.numbered hb.resolved
  obtain ⟨newTagged, hnt⟩ := tells_classified policy hn.numbered hn.resolved
  have hrun : Tells (tables policy base new) {
      table := t
      sizesAdded := (p.sizes.length : Int) - old.sizes.length
      kernelsAdded := (p.kernels.length : Int) - old.kernels.length
      kernelsRemoved := ((p.kernels.length - t.kernels.length : Nat) : Int) +
        (base.kernels.length - old.kernels.length : Nat) } := by
    refine .bind' tells_tell (.bind' tells_tell (.bind' hbt (.bind' hnt ?_)))
    refine .bind' (tells_warnOfDoubles _ _ _ _) (.bind' (tells_warnOfDoubles _ _ _ _) ?_)
    refine .bind' (.pure' _) (.bind' (tells_trimmed _ _ _) (.bind' (tells_trimmed _ _ _) ?_))
    refine .bind' (tells_withoutUnused _ hold hb.numbered _) ?_
    refine .bind' (tells_withoutUnused _ hfresh hn.numbered _) ?_
    refine .bind' hp (.bind' tells_tell (.bind' tells_tell ?_))
    exact .bind' (tells_withoutUnused _ ht hg.numbered _) (.pure' _)
  refine ⟨_, hrun, htn, htr, htu, hfields.trans hcold.fields, fun o ho => ?_, fun k hk hs => ?_⟩
  · obtain ⟨d, hd, hdo, -⟩ := mem_of_viewOf_eq hview ho
    obtain ⟨c, hc, hcd⟩ := hg.keys d hd
    rw [← hdo, hcd]
    rcases mem_append.mp hc with hc | hc
    · obtain ⟨e, he, hce, -⟩ := hcold.sizes c hc
      exact ⟨e, by simp [he], hce⟩
    · obtain ⟨e, he, hce, -⟩ := hcfresh.sizes c hc
      exact ⟨e, by simp [he], hce⟩
  · have hset := hg.settled k hk
    rw [hcold.entries k hk hs, hcfresh.entries k hk hs] at hset
    rw [hview]
    exact hset

/-- Without force the faster entry is taken. -/
lemma merged_at (hb : WellFormed base) (hn : WellFormed new) (hr : Ranked rank (base.sizes ++ new.sizes))
    (verbosity : Int) : ∃ m, Returns (tables (winnerPolicy verbosity) base new) m ∧ Numbered m.table.kernels ∧
      Resolved m.table.kernels m.table.sizes ∧
      (∀ o ∈ m.table.sizes, ∃ e ∈ base.sizes ++ new.sizes, o.key = e.key.trimmed) ∧
      ∀ k : SizeKey, k.Exact → k.isLong = false → Forall₂ Matches (entriesAt (viewOf m.table.kernels m.table.sizes) k)
          (settle (fun a b => decide (rank a < rank b)) (offers base k) (offers new k)) := by
  obtain ⟨m, hm, hmn, hmr, -, -, hkeys, hat⟩ := merged_by (fun a b => decide (rank a < rank b)) false hb hn
    (fun o ho e he => ⟨_, hr o (by simp [ho]) e (by simp [he]), Bool.or_false _⟩) verbosity
  exact ⟨m, hm.returns, hmn, hmr, hkeys, fun k hk hs => (hat k hk hs).imp fun _ _ => Taken.toMatches⟩

/-- All that a table says about a size without strides. -/
def allOffers (t : SizeTable) (k : SizeKey) : Entries :=
  (t.sizes.filter fun e => e.key.trimmed.same k).map (served t.kernels)

/-- An entry is one of those offered, and none of them is faster. -/
def Wins (x : Value × Table) (offered : Entries) : Prop :=
  ∃ o ∈ offered, Matches x o ∧ ∀ o' ∈ offered, less o.1 o'.1 = .ok false

lemma settle_ne_nil {old new : Entries} (h : old ≠ [] ∨ new ≠ []) : settle beats old new ≠ [] := by
  cases old using reverseRecOn with
  | nil => simpa [settle_nil] using h
  | append_singleton old o => simp [settle_concat]

/-- Of at most one entry on either side the faster stays. -/
lemma settle_single (rank : Value → α) {old new : Entries} (ho : old.length ≤ 1) (hn : new.length ≤ 1)
    (h : old ≠ [] ∨ new ≠ []) :
    ∃ o ∈ old ++ new, settle (fun a b => decide (rank a < rank b)) old new = [o] ∧ ∀ o' ∈ old ++ new, ¬rank o.1 < rank o'.1 := by
  match old, new with
  | [], [] => simp at h
  | [], [n] => exact ⟨n, by simp, rfl, by simp⟩
  | [o], [] => exact ⟨o, by simp, rfl, by simp⟩
  | [o], [n] =>
    by_cases hlt : rank o.1 < rank n.1
    · exact ⟨n, by simp, by simp [settle, hlt], by simpa using le_of_lt hlt⟩
    · exact ⟨o, by simp, by simp [settle, hlt], by simpa using hlt⟩
  | _ :: _ :: _, _ => simp at ho
  | _, _ :: _ :: _ => simp at hn

lemma mem_offers {o : Value × Table} (h : o ∈ offers t k) : ∃ e ∈ t.sizes, o.1 = e.speed := by
  obtain ⟨e, he, rfl⟩ := mem_map.mp h
  exact ⟨e, mem_of_mem_standing he, rfl⟩

lemma offers_of_single (h : (allOffers t k).length ≤ 1) : offers t k = allOffers t k := by
  rw [allOffers, length_map] at h
  rw [offers, standing_of_single h, allOffers]

lemma offers_ne_nil (h : ∃ e ∈ base.sizes ++ new.sizes, e.key.trimmed.same k) :
    offers base k ≠ [] ∨ offers new k ≠ [] := by
  obtain ⟨e, he, hk⟩ := h
  have hmem := mem_append.mp he
  exact hmem.imp fun he => by simpa [offers] using standing_ne_nil he hk
    fun he => by simpa [offers] using standing_ne_nil he hk

/-- Whole numbers as the numbers that they are. -/
def intRank : Value → Int
  | .int n => n
  | _ => 0

lemma ranked_of_int {sizes : List SizeEntry} (h : ∀ e ∈ sizes, ∃ n, e.speed = .int n) : Ranked intRank sizes := by
  intro a ha b hb
  obtain ⟨m, hm⟩ := h a ha
  obtain ⟨n, hn⟩ := h b hb
  rw [hm, hn]
  show Except.ok (some (compare m n) == some .lt) = .ok (decide (m < n))
  by_cases hmn : m < n
  · simp [compare_lt_iff_lt.mpr hmn, hmn]
  · simp [compare_lt_iff_lt, hmn]

def namedKernel (index : Int) (name : Text) : Table :=
  [(indexKey, .int index), (.str "SolutionNameMin", .str name)]

variable (size : Ints)

def intKey : SizeKey := { size := size.map .int }

lemma intKey_exact : (intKey size).Exact := by
  intro v hv
  obtain ⟨n, -, rfl⟩ := mem_map.mp hv
  rfl

def intEntry (kernel speed : Int) : SizeEntry :=
  { key := intKey size, kernel, speed := .int speed }

def oneKernel : SizeTable :=
  { fields := [], kernels := [namedKernel 0 "A"]
    sizes := [intEntry [16, 16, 1, 16] 0 3, intEntry [8, 8, 1, 8] 0 2] }

def oneStride : SizeTable :=
  { fields := [], kernels := [namedKernel 0 "B"], sizes := [intEntry [16, 16, 1, 16, 16, 16, 16, 16] 0 5] }

def twoStrides : SizeTable :=
  { fields := [], kernels := [namedKernel 0 "A", namedKernel 1 "B"]
    sizes := [intEntry [16, 16, 1, 16, 16, 16, 16, 16] 0 1, intEntry [16, 16, 1, 16, 32, 32, 32, 32] 1 5] }

def noSizes : SizeTable := { fields := [], kernels := [], sizes := [] }

lemma wellFormed_of_int (hn : t.kernels = renumber t.kernels)
    (hr : Resolved t.kernels t.sizes) (hk : ∀ e ∈ t.sizes, ∃ size, e.key = intKey size) : WellFormed t := by
  refine ⟨hn ▸ numbered_renumber t.kernels, hr, fun e he => ?_⟩
  obtain ⟨size, hsize⟩ := hk e he
  exact hsize ▸ intKey_exact size

lemma oneKernel_wellFormed : WellFormed oneKernel :=
  wellFormed_of_int rfl (by unfold Resolved; decide) (by simp [oneKernel, intEntry])

lemma oneStride_wellFormed : WellFormed oneStride :=
  wellFormed_of_int rfl (by unfold Resolved; decide) (by simp [oneStride, intEntry])

lemma twoStrides_wellFormed : WellFormed twoStrides :=
  wellFormed_of_int rfl (by unfold Resolved; decide) (by simp [twoStrides, intEntry])

lemma noSizes_wellFormed : WellFormed noSizes := ⟨nofun, nofun, nofun⟩

/-- **The faster kernel wins**: merging two well-formed tables without force returns a table that gives
each size of either table without its strides, and no other. A size for which each table has at most one
entry left when duplicates are dropped is given once, with the speed and the kernel of the faster one; in
particular a size that each table gives at most once. -/
theorem merge_keeps_faster {base new : SizeTable} (hb : WellFormed base) (hn : WellFormed new)
    (hr : Ranked rank (base.sizes ++ new.sizes)) (verbosity : Int) :
    ∃ m, Returns (tables (winnerPolicy verbosity) base new) m ∧ Numbered m.table.kernels ∧
      Resolved m.table.kernels m.table.sizes ∧
      (∀ o ∈ m.table.sizes, ∃ e ∈ base.sizes ++ new.sizes, o.key = e.key.trimmed) ∧
      ∀ k : SizeKey, k.Exact → k.isLong = false →
        (∃ e ∈ base.sizes ++ new.sizes, e.key.trimmed.same k = true) →
        entriesAt (viewOf m.table.kernels m.table.sizes) k ≠ [] ∧
        ((offers base k).length ≤ 1 → (offers new k).length ≤ 1 →
          ∃ x, entriesAt (viewOf m.table.kernels m.table.sizes) k = [x] ∧
            Wins x (offers base k ++ offers new k)) ∧
        ((allOffers base k).length ≤ 1 → (allOffers new k).length ≤ 1 →
          ∃ x, entriesAt (viewOf m.table.kernels m.table.sizes) k = [x] ∧
            Wins x (allOffers base k ++ allOffers new k)) := by
  obtain ⟨m, hm, hmn, hmr, hkeys, hat⟩ := merged_at hb hn hr verbosity
  refine ⟨m, hm, hmn, hmr, hkeys, fun k hk hs hgiven => ?_⟩
  have hset := hat k hk hs
  have hsome := offers_ne_nil hgiven
  have hone : (offers base k).length ≤ 1 → (offers new k).length ≤ 1 →
      ∃ x, entriesAt (viewOf m.table.kernels m.table.sizes) k = [x] ∧
        Wins x (offers base k ++ offers new k) := by
    intro hbase hnew
    obtain ⟨o, ho, hsettle, hmax⟩ := settle_single rank hbase hnew hsome
    rw [hsettle] at hset
    obtain ⟨x, rest, hx, hrest, heq⟩ := forall₂_cons_right_iff.mp hset
    rw [forall₂_nil_right_iff.mp hrest] at heq
    have hspeed : ∀ o ∈ offers base k ++ offers new k, ∃ e ∈ base.sizes ++ new.sizes, o.1 = e.speed := by
      intro o ho
      rcases mem_append.mp ho with ho | ho
      · obtain ⟨e, he, hoe⟩ := mem_offers ho
        exact ⟨e, by simp [he], hoe⟩
      · obtain ⟨e, he, hoe⟩ := mem_offers ho
        exact ⟨e, by simp [he], hoe⟩
    refine ⟨x, heq, o, ho, hx, fun o' ho' => ?_⟩
    obtain ⟨e, he, hoe⟩ := hspeed o ho
    obtain ⟨e', he', hoe'⟩ := hspeed o' ho'
    have hle := hmax o' ho'
    rw [hoe, hoe'] at hle ⊢
    rw [hr e he e' he', decide_eq_false hle]
  refine ⟨fun hnil => ?_, hone, fun hbase hnew => ?_⟩
  · rw [hnil] at hset
    exact settle_ne_nil hsome (forall₂_nil_left_iff.mp hset)
  · rw [offers_of_single hbase, offers_of_single hnew] at hone
    exact hone hbase hnew

/-- A size that both tables give is served by the kernel of the new one, which is faster. -/
theorem merge_oneStride :
    WellFormed oneKernel ∧ WellFormed oneStride ∧
    ∃ m, Returns (tables (winnerPolicy 1) oneKernel oneStride) m ∧
      ∃ x, entriesAt (viewOf m.table.kernels m.table.sizes) (intKey [16, 16, 1, 16]) = [x] ∧
        x.1 = .int 5 := by
  refine ⟨oneKernel_wellFormed, oneStride_wellFormed, ?_⟩
  obtain ⟨m, hm, -, -, -, hat⟩ := merge_keeps_faster oneKernel_wellFormed oneStride_wellFormed
    (ranked_of_int (by simp [oneKernel, oneStride, intEntry])) 1
  obtain ⟨-, -, hone⟩ := hat (intKey [16, 16, 1, 16]) (intKey_exact _) rfl
    ⟨intEntry [16, 16, 1, 16] 0 3, by simp [oneKernel], rfl⟩
  obtain ⟨x, hx, o, ho, hxo, hmax⟩ := hone (by decide) (by decide)
  refine ⟨m, hm, x, hx, ?_⟩
  rw [show allOffers oneKernel _ ++ allOffers oneStride _ =
    [(.int 3, bare (namedKernel 0 "A")), (.int 5, bare (namedKernel 0 "B"))] from rfl] at ho hmax
  simp only [mem_cons, not_mem_nil, or_false] at ho
  rcases ho with rfl | rfl
  · have hfast : (.ok true : Except Fault Bool) = .ok false := hmax _ (.tail _ (.head _))
    cases hfast
  · exact hxo.1

/-- Duplicates are dropped whatever their speeds: of a size that a table gives twice with strides the
first entry stays, so the merged table need not have the fastest. -/
theorem duplicates_lose_fastest :
    WellFormed twoStrides ∧ WellFormed noSizes ∧
    ¬∃ m, Returns (tables (winnerPolicy 1) twoStrides noSizes) m ∧
      ∃ x, entriesAt (viewOf m.table.kernels m.table.sizes) (intKey [16, 16, 1, 16]) = [x] ∧
        Wins x (allOffers twoStrides (intKey [16, 16, 1, 16]) ++
          allOffers noSizes (intKey [16, 16, 1, 16])) := by
  refine ⟨twoStrides_wellFormed, noSizes_wellFormed, ?_⟩
  rintro ⟨m, hm, x, hx, o, -, hxo, hmax⟩
  obtain ⟨m', hm', -, -, -, hat⟩ := merged_at twoStrides_wellFormed noSizes_wellFormed
    (ranked_of_int (by simp [twoStrides, noSizes, intEntry])) 1
  cases hm.unique hm'
  -- the table keeps the first entry, of speed 1, and offers one of speed 5
  have hkept : Forall₂ Matches [x] [(.int 1, bare (namedKernel 0 "A"))] :=
    hx ▸ hat (intKey [16, 16, 1, 16]) (intKey_exact _) rfl
  have hslow : o.1 = .int 1 := hxo.1 ▸ (forall₂_cons.mp hkept).1.1
  have hfast := hmax (.int 5, bare (namedKernel 1 "B")) (.tail _ (.head _))
  rw [hslow] at hfast
  have hless : (.ok true : Except Fault Bool) = .ok false := hfast
  cases hless

end TensorForge.Merge
