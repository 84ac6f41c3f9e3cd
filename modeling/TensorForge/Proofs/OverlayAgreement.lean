import TensorForge.Proofs.MergeWinners

/-!
# A forced merge lays a table over another one

There are two ways to bring a table into another one so that it wins for all of its sizes: a forced merge,
which drops unused kernels and renumbers the others, and `Overlay.merged`, which keeps all kernels. Both say
of each size what `laidOver` says: what the new table says, or what the old one says if the new one does not
know the size. Their results differ only in the field that marks kernels in use, which a merge drops.
-/

namespace TensorForge.Merge

open Function List Overlay SizeTable Table Value SizeEntry

def isIndex (e : Value × Value) : Bool := same e.1 indexKey

lemma countP_withIndex (kernel : Table) (n : Nat) :
    (withIndex kernel n).countP isIndex = max 1 (kernel.countP isIndex) := by
  unfold withIndex
  induction kernel with
  | nil => rfl
  | cons e kernel ih =>
    obtain ⟨k, w⟩ := e
    rw [set_cons]
    by_cases hk : same k indexKey
    · simp only [countP_cons, isIndex, hk, if_true]
      omega
    · simpa [isIndex, hk] using ih

variable {kernel : Table} {t : SizeTable}

lemma length_withIndex (h : kernel.countP isIndex ≤ 1) (n : Nat) : (withIndex kernel n).length =
    (kernel.erase indexKey).length + 1 := by
  have hsplit := length_eq_countP_add_countP isIndex (l := withIndex kernel n)
  rw [countP_withIndex, max_eq_left h, countP_eq_length_filter] at hsplit
  rw [← erase_set kernel "SolutionIndex" (.int n), hsplit, Nat.add_comm]
  congr 2
  exact filter_congr fun e _ => by simp [isIndex]

lemma entriesIn_iff {es fs : Table} : entriesIn es fs ↔
    ∀ e ∈ es, ∃ f ∈ fs, same e.1 f.1 ∧ same e.2 f.2 := by
  induction es with
  | nil => simp [entriesIn]
  | cons e es ih => simp [entriesIn, ih]

/-- Kernels that are equal under one number are equal without it. -/
lemma alike_of_same {a b : Table} (ha : a.countP isIndex ≤ 1) (hb : b.countP isIndex ≤ 1) (hua : Unmarked a)
    (hub : Unmarked b) {n : Nat} (h : same (.dict (withIndex a n)) (.dict (withIndex b n))) :
    Alike (bare a) (bare b) := by
  simp only [same, Bool.and_eq_true, beq_iff_eq, entriesIn_iff, length_withIndex ha,
    length_withIndex hb] at h
  obtain ⟨hlen, hin⟩ := h
  right
  rw [hua.bare_eq, hub.bare_eq]
  simp only [same, Bool.and_eq_true, beq_iff_eq, entriesIn_iff]
  refine ⟨by omega, fun e he => ?_⟩
  rw [← erase_set a "SolutionIndex" (.int n)] at he
  obtain ⟨hmem, hkey⟩ := mem_filter.mp he
  obtain ⟨f, hf, hk, hv⟩ := hin e hmem
  refine ⟨f, ?_, hk, hv⟩
  rw [← erase_set b "SolutionIndex" (.int n)]
  refine mem_filter.mpr ⟨hf, ?_⟩
  -- a key that is equal to one that stays is not the number's
  rw [Bool.not_eq_true', ← Bool.not_eq_true]
  intro hindex
  have hfk : f.1 = indexKey := by cases hf : f.1 <;> simp_all [same]
  rw [hfk] at hk
  simp [hk] at hkey

/-- What a new table says about a size, or the old one if the new one says nothing. -/
def laidOver (base new : SizeTable) (k : SizeKey) : Entries :=
  if allOffers new k = [] then allOffers base k else allOffers new k

/-- A table as a file gives it: its entries refer to kernels by their places, its sizes have four or eight
components and are distinct without their strides, and its kernels have one number at most and no mark. -/
structure Listed (t : SizeTable) : Prop where
  resolved : Resolved t.kernels t.sizes
  exact : ExactKeys t.sizes
  lengths : ∀ e ∈ t.sizes, e.key.kind = none ∧ (e.key.size.length = 4 ∨ e.key.size.length = 8)
  distinct : t.sizes.Pairwise fun a b => a.key.trimmed.same b.key.trimmed = false
  numbers : ∀ k ∈ t.kernels, k.countP isIndex ≤ 1
  unmarked : ∀ k ∈ t.kernels, Unmarked k

section Listed

variable {k : SizeKey}

lemma served_renumber (kernels : Tables) (e : SizeEntry) : served (renumber kernels) e = served kernels e := by
  rw [served, served, getD_eq_getElem?_getD, getElem?_renumber, getD_eq_getElem?_getD]
  cases kernels[e.kernel.toNat]? <;> simp [bare_withIndex]

lemma wellFormed_reindexed (hr : Resolved t.kernels t.sizes) (he : ExactKeys t.sizes) : WellFormed t.reindexed where
  numbered := numbered_renumber t.kernels
  resolved e he := by simpa [reindexed, renumber] using hr e he
  exact := he

lemma Listed.wellFormed (h : Listed t) : WellFormed t.reindexed := wellFormed_reindexed h.resolved h.exact

lemma allOffers_reindexed : allOffers t.reindexed k = allOffers t k :=
  map_congr_left fun e _ => served_renumber t.kernels e

lemma offers_reindexed (h : (allOffers t k).length ≤ 1) : offers t.reindexed k = allOffers t k := by
  rw [← allOffers_reindexed] at h ⊢
  exact offers_of_single h

lemma allOffers_le (hexact : ExactKeys t.sizes)
    (hdistinct : t.sizes.Pairwise fun a b => a.key.trimmed.same b.key.trimmed = false) (hk : k.Exact) :
    (allOffers t k).length ≤ 1 := by
  rw [allOffers]
  generalize hgiven : t.sizes.filter (fun e => e.key.trimmed.same k) = given
  rcases given with _ | ⟨a, _ | ⟨b, rest⟩⟩
  · simp
  · simp
  · -- two entries for one size have the same size
    have hpair := hdistinct.filter fun e => e.key.trimmed.same k
    rw [hgiven] at hpair
    have hmem : ∀ e ∈ a :: b :: rest, e ∈ t.sizes ∧ e.key.trimmed.same k := by
      intro e he
      rwa [← hgiven, mem_filter] at he
    obtain ⟨ha, hak⟩ := hmem a (by simp)
    obtain ⟨hb, hbk⟩ := hmem b (by simp)
    have hab := rel_of_pairwise_cons hpair (by simp : b ∈ b :: rest)
    rw [SizeKey.same_congr_right (hexact b hb).trimmed hk (hexact a ha).trimmed hbk, hak] at hab
    cases hab

lemma Listed.allOffers_le (h : Listed t) (hk : k.Exact) : (allOffers t k).length ≤ 1 :=
  Merge.allOffers_le h.exact h.distinct hk

end Listed

section Overlay

variable {base new : SizeTable}

/-- Where a kernel of a new table is found: an old kernel is equal to it, or it is one of those added. -/
lemma places_spec (old : Tables) {fresh : Tables} (next : Nat) {j : Nat} (h : fresh[j]? = some kernel) :
    ∃ i, (places old fresh next).1[j]? = some i ∧
      ((∃ k, old[i]? = some k ∧ same (.dict k) (.dict kernel)) ∨
        next ≤ i ∧ (places old fresh next).2[i - next]? = some kernel) := by
  induction fresh generalizing next j with
  | nil => simp at h
  | cons first more ih =>
    rw [places]
    cases hfind : old.findIdx? fun k => same (.dict k) (.dict first) with
    | some i =>
      cases j with
      | zero =>
        cases h
        obtain ⟨hi, hsame, -⟩ := findIdx?_eq_some_iff_getElem.mp hfind
        exact ⟨i, rfl, .inl ⟨_, getElem?_eq_getElem hi, hsame⟩⟩
      | succ j => exact ih next h
    | none =>
      cases j with
      | zero =>
        cases h
        exact ⟨next, rfl, .inr ⟨le_refl _, by simp⟩⟩
      | succ j =>
        obtain ⟨i, hi, hold | ⟨hle, hnew⟩⟩ := ih (next + 1) h
        · exact ⟨i, hi, .inl hold⟩
        · refine ⟨i, hi, .inr ⟨by omega, ?_⟩⟩
          rwa [show i - next = i - (next + 1) + 1 by omega]

/-- The kernels of an overlay, and the places of the new table's kernels among them. -/
def laidPlaces (base new : SizeTable) : Nats × Tables :=
  let plain := base.kernels.map (withIndex · 0)
  places plain (new.kernels.map (withIndex · 0)) plain.length

def laidKernels (base new : SizeTable) : Tables :=
  renumber (base.kernels.map (withIndex · 0) ++ (laidPlaces base new).2)

/-- The entries that an overlay takes from the new table, and those that it keeps. -/
def laidEntries (base new : SizeTable) : List SizeEntry :=
  (new.sizes.map short).map (moved (laidPlaces base new).1)

def keptEntries (base new : SizeTable) : List SizeEntry :=
  (base.sizes.map short).filter fun e => !(laidEntries base new).any fun n => n.key.same e.key

variable (indices : Nats) (e : SizeEntry)

lemma moved_eq : ∃ i, ∀ key, moved indices { e with key } = { e with key, kernel := i } := by
  unfold moved
  by_cases hlo : e.kernel < 0
  · exact ⟨e.kernel, fun key => if_pos hlo⟩
  · cases hget : indices[e.kernel.toNat]? with
    | none => exact ⟨e.kernel, fun key => by simp [hget]⟩
    | some i => exact ⟨i, fun key => by simp [hlo, hget]⟩

lemma moved_short : moved indices e.short = (moved indices e).short := by
  obtain ⟨i, hi⟩ := moved_eq indices e
  rw [short, hi e.key.trimmed, hi e.key]
  rfl

lemma moved_key : (moved indices e).key = e.key := by
  obtain ⟨i, hi⟩ := moved_eq indices e
  rw [hi e.key]

variable {e}

lemma served_laid
    (h : (base.kernels.map (withIndex · 0) ++ (laidPlaces base new).2)[e.kernel.toNat]? = some (withIndex kernel 0)) :
    served (laidKernels base new) e = (e.speed, bare kernel) := by
  rw [laidKernels, served_renumber, served_eq h, bare_withIndex]

/-- Old entries keep their kernels. -/
lemma served_old (hb : Listed base) (he : e ∈ base.sizes) :
    served (laidKernels base new) e = served base.kernels e := by
  have hlt : e.kernel.toNat < base.kernels.length := by have := hb.resolved e he; omega
  apply served_laid
  rw [getElem?_append_left (by simpa using hlt)]
  simp [hlt]

lemma allOffers_eq_nil {k : SizeKey} : allOffers t k = [] ↔ ∀ e ∈ t.sizes, e.key.trimmed.same k = false := by
  simp [allOffers]

/-- An old entry is replaced exactly if the new table gives its size. -/
lemma any_laidEntries (hn : Listed new) {a k : SizeKey} (ha : a.Exact) (hk : k.Exact) (hak : a.same k) :
    ((laidEntries base new).any fun n => n.key.same a) = !decide (allOffers new k = []) := by
  rw [Bool.eq_iff_iff, Bool.not_eq_true', decide_eq_false_iff_not, allOffers_eq_nil]
  simp only [laidEntries, any_map, any_eq_true, comp_apply, moved_key, not_forall,
    Bool.not_eq_false, exists_prop]
  refine exists_congr fun n => and_congr_right fun hmem => ?_
  rw [← SizeKey.same_congr_right ha hk (hn.exact n hmem).trimmed hak]
  rfl

variable (hb : Listed base) (hn : Listed new)

include hb hn

/-- New entries are moved to kernels that are equal to their own. -/
lemma served_moved (he : e ∈ new.sizes) :
    Matches (served (laidKernels base new) (moved (laidPlaces base new).1 e)) (served new.kernels e) := by
  obtain ⟨hlo, hhi⟩ := hn.resolved e he
  have hlt : e.kernel.toNat < new.kernels.length := by omega
  have hkernel : (new.kernels.map (withIndex · 0))[e.kernel.toNat]? =
      some (withIndex new.kernels[e.kernel.toNat] 0) := by simp [hlt]
  obtain ⟨i, hi, hplace⟩ := places_spec (base.kernels.map (withIndex · 0))
    (base.kernels.map (withIndex · 0)).length hkernel
  have hmoved : moved (laidPlaces base new).1 e = { e with kernel := (i : Int) } := by
    rw [moved, if_neg (by omega)]
    simp only [laidPlaces, hi]
  rw [hmoved, served_eq (getElem?_eq_getElem hlt)]
  obtain ⟨k, hk, hsame⟩ | ⟨hle, hadded⟩ := hplace
  · rw [getElem?_map, Option.map_eq_some_iff] at hk
    obtain ⟨b, hb', rfl⟩ := hk
    have hlen := (List.getElem?_eq_some_iff.mp hb').1
    have hget : (base.kernels.map (withIndex · 0) ++ (laidPlaces base new).2)[(i : Int).toNat]? =
        some (withIndex b 0) := by
      rw [Int.toNat_natCast, getElem?_append_left (by simpa using hlen), getElem?_map, hb']
      rfl
    rw [served_laid hget]
    exact ⟨rfl, alike_of_same (hb.numbers b (mem_of_getElem? hb')) (hn.numbers _ (getElem_mem hlt))
      (hb.unmarked b (mem_of_getElem? hb')) (hn.unmarked _ (getElem_mem hlt)) hsame⟩
  · rw [served_laid (by rw [Int.toNat_natCast, getElem?_append_right hle]; exact hadded)]
    exact matches_refl _

lemma laid_at (k : SizeKey) :
    Forall₂ Matches (entriesAt (viewOf (laidKernels base new) (laidEntries base new)) k) (allOffers new k) := by
  rw [entriesAt_viewOf, laidEntries, allOffers, map_map, filter_map, map_map,
    forall₂_map_left_iff, forall₂_map_right_iff]
  have hkey : (fun e => (moved (laidPlaces base new).1 e.short).key.same k) =
      fun e : SizeEntry => e.key.trimmed.same k := by
    funext e
    rw [moved_key]
    rfl
  simp only [comp_def, hkey]
  refine forall₂_same.mpr fun e he => ?_
  rw [moved_short]
  exact served_moved hb hn (mem_filter.mp he).1

lemma kept_at {k : SizeKey} (hk : k.Exact) :
    entriesAt (viewOf (laidKernels base new) (keptEntries base new)) k =
      if allOffers new k = [] then allOffers base k else [] := by
  have hkept : ∀ e ∈ base.sizes, (e.key.trimmed.same k && !(laidEntries base new).any fun n => n.key.same e.key.trimmed) =
      (e.key.trimmed.same k && decide (allOffers new k = [])) := by
    intro e he
    by_cases hek : e.key.trimmed.same k
    · simp [any_laidEntries hn (hb.exact e he).trimmed hk hek]
    · simp [hek]
  rw [entriesAt_viewOf, keptEntries, filter_filter, filter_map, map_map]
  simp only [comp_def, short]
  rw [filter_congr hkept]
  split
  next h =>
    simp only [h, decide_true, Bool.and_true]
    exact map_congr_left fun e he => served_old (e := e) hb (mem_filter.mp he).1
  next h => simp [h]

/-- Of each size an overlay says what the new table says, or else what the old one says. -/
lemma overlay_at (hne : new.sizes ≠ []) :
    ∃ kernels sizes, merged base.kernels new.kernels (base.sizes.map short)
        (new.sizes.map short) = .ok (kernels, sizes) ∧
      (∀ o ∈ sizes, ∃ e ∈ base.sizes ++ new.sizes, o.key = e.key.trimmed) ∧ ∀ k : SizeKey, k.Exact →
        Forall₂ Matches (entriesAt (viewOf kernels sizes) k) (laidOver base new k) := by
  have hempty : (laidEntries base new).isEmpty = false := by simpa [laidEntries] using hne
  refine ⟨laidKernels base new, keptEntries base new ++ laidEntries base new, ?_, fun o ho => ?_, fun k hk => ?_⟩
  · unfold merged
    exact if_neg (Bool.eq_false_iff.mp hempty)
  · rcases mem_append.mp ho with ho | ho
    · obtain ⟨e, he, rfl⟩ := mem_map.mp (mem_filter.mp ho).1
      exact ⟨e, by simp [he], rfl⟩
    · simp only [laidEntries, map_map, mem_map] at ho
      obtain ⟨e, he, rfl⟩ := ho
      exact ⟨e, by simp [he], moved_key ..⟩
  · rw [entriesAt_viewOf, filter_append, map_append, ← entriesAt_viewOf, ← entriesAt_viewOf, kept_at hb hn hk, laidOver]
    have hlaid := laid_at hb hn k
    split
    · next hnil =>
      rw [hnil, forall₂_nil_right_iff] at hlaid
      rw [hlaid, append_nil]
      exact forall₂_same.mpr fun x _ => matches_refl x
    · exact hlaid

end Overlay

/-- Reading a listed table for an overlay drops the strides of its sizes. -/
lemma returns_shortSizes (h : Listed t) : Returns (shortSizes (.list (t.sizes.map SizeEntry.toValue)))
      ((t.sizes.map .short).map SizeEntry.toValue) := by
  rw [map_map]
  refine .bind' (.pure' _) ?_
  rw [mapM_map]
  refine .mapM fun e he => ?_
  obtain ⟨hkind, hlen⟩ := h.lengths e he
  obtain ⟨⟨kind, size⟩, kernel, speed⟩ := e
  cases hkind
  refine .bind' (.pure' _) (.bind' (.pure' _) (.ite' (fun hlong => ?_) fun hshort => ?_))
  · have hlen : size.length = 8 := hlen.resolve_left fun h => by simp [h] at hlong
    have htrim : SizeKey.trimmed { size } = { size := size.take 4 } := by
      simp [SizeKey.trimmed, SizeKey.isLong, SizeKey.length, hlen]
    rw [comp_apply, short, htrim]
    exact .bind' (.pure' _) (.pure' _)
  · have hlen : size.length = 4 := hlen.resolve_right fun h => by simp [h] at hshort
    rw [comp_apply, short_of_not_isLong (by simp [SizeKey.isLong, SizeKey.length, hlen])]
    exact .pure' _

/-- The policy under which new entries replace old ones and sizes lose their strides. -/
def forcedPolicy (verbosity : Int) : Policy := { winnerPolicy verbosity with force := true }

lemma settle_forced {old new : Entries} (ho : old.length ≤ 1) (hn : new.length ≤ 1) :
    settle (fun _ _ => true) old new = if new = [] then old else new := by
  match old, new with
  | [], [] | [], [_] | [_], [] | [_], [_] => rfl
  | _ :: _ :: _, _ => simp at ho
  | _, _ :: _ :: _ => simp at hn

/-- **A forced merge agrees with an overlay**: for listed tables with comparable speeds, of which the new one
has a size, both ways give a table. Both read sizes without strides, and of each size both say the same one
thing: the speed and the kernel of the new table, or of the old one if the new one does not give the size. -/
theorem forced_merge_agrees_overlay {base new : SizeTable} (hb : Listed base) (hn : Listed new)
    (hne : new.sizes ≠ [])
    (hless : ∀ o ∈ base.sizes, ∀ e ∈ new.sizes, ∃ better, less o.speed e.speed = .ok better)
    (verbosity : Int) :
    ∃ m kernels sizes, Returns (tables (forcedPolicy verbosity) base.reindexed new.reindexed) m ∧
      Returns (shortSizes (.list (base.sizes.map SizeEntry.toValue)))
        ((base.sizes.map SizeEntry.short).map SizeEntry.toValue) ∧
      Returns (shortSizes (.list (new.sizes.map SizeEntry.toValue)))
        ((new.sizes.map SizeEntry.short).map SizeEntry.toValue) ∧
      merged base.kernels new.kernels (base.sizes.map SizeEntry.short)
        (new.sizes.map SizeEntry.short) = .ok (kernels, sizes) ∧
      (∀ o ∈ m.table.sizes ++ sizes, ∃ e ∈ base.sizes ++ new.sizes, o.key = e.key.trimmed) ∧
      ∀ k : SizeKey, k.Exact → k.isLong = false →
        (laidOver base new k).length ≤ 1 ∧
        Forall₂ Matches (entriesAt (viewOf m.table.kernels m.table.sizes) k) (laidOver base new k) ∧
        Forall₂ Matches (entriesAt (viewOf kernels sizes) k) (laidOver base new k) := by
  obtain ⟨m, hm, -, -, -, -, hmkeys, hmat⟩ := merged_by (fun _ _ => true) true hb.wellFormed hn.wellFormed
    (fun o ho e he => (hless o ho e he).imp fun b hless => ⟨hless, Bool.or_true b⟩) verbosity
  obtain ⟨kernels, sizes, hlaid, hkeys, hat⟩ := overlay_at hb hn hne
  refine ⟨m, kernels, sizes, hm.returns, returns_shortSizes hb, returns_shortSizes hn, hlaid, fun o ho => ?_,
    fun k hk hs => ?_⟩
  · exact (mem_append.mp ho).elim (hmkeys o) (hkeys o)
  · have hbase := hb.allOffers_le hk
    have hnew := hn.allOffers_le hk
    have hset := (hmat k hk hs).imp fun _ _ => Taken.toMatches
    rw [offers_reindexed hbase, offers_reindexed hnew, settle_forced hbase hnew] at hset
    refine ⟨?_, hset, hat k hk⟩
    unfold laidOver
    split <;> assumption

lemma listed_of_int (hr : Resolved t.kernels t.sizes) (hk : ∀ e ∈ t.sizes, ∃ size, e.key = intKey size)
    (hl : ∀ e ∈ t.sizes, e.key.size.length = 4 ∨ e.key.size.length = 8)
    (hd : t.sizes.Pairwise fun a b => a.key.trimmed.same b.key.trimmed = false)
    (hn : ∀ k ∈ t.kernels, ∃ i name, k = namedKernel i name) : Listed t where
  resolved := hr
  exact e he := by
    obtain ⟨size, hsize⟩ := hk e he
    exact hsize ▸ intKey_exact size
  lengths e he := by
    obtain ⟨size, hsize⟩ := hk e he
    exact ⟨hsize ▸ rfl, hl e he⟩
  distinct := hd
  numbers k hk := by
    obtain ⟨i, name, rfl⟩ := hn k hk
    exact le_refl 1
  unmarked k hk := by
    obtain ⟨i, name, rfl⟩ := hn k hk
    simp [Unmarked, namedKernel, same]

lemma less_oneStride : ∀ o ∈ oneKernel.sizes, ∀ e ∈ oneStride.sizes, ∃ better, less o.speed e.speed = .ok better := by
  intro o ho e he
  simp only [oneKernel, oneStride, mem_cons, not_mem_nil, or_false] at ho he
  rcases ho with rfl | rfl <;> subst he <;> exact ⟨true, rfl⟩

/-- A size of both tables is served by the kernel of the new one in both ways. -/
theorem forced_oneStride :
    Listed oneKernel ∧ Listed oneStride ∧
    ∃ m kernels sizes, Returns (tables (forcedPolicy 1) oneKernel.reindexed oneStride.reindexed) m ∧
      merged oneKernel.kernels oneStride.kernels (oneKernel.sizes.map SizeEntry.short)
        (oneStride.sizes.map SizeEntry.short) = .ok (kernels, sizes) ∧
      Forall₂ Matches (entriesAt (viewOf m.table.kernels m.table.sizes) (intKey [16, 16, 1, 16]))
        [(.int 5, bare (namedKernel 0 "B"))] ∧
      Forall₂ Matches (entriesAt (viewOf kernels sizes) (intKey [16, 16, 1, 16]))
        [(.int 5, bare (namedKernel 0 "B"))] := by
  have hb : Listed oneKernel := listed_of_int oneKernel_wellFormed.resolved (by simp [oneKernel, intEntry])
    (by decide) (by decide) (by simp [oneKernel])
  have hn : Listed oneStride := listed_of_int oneStride_wellFormed.resolved (by simp [oneStride, intEntry])
    (by decide) (by decide) (by simp [oneStride])
  obtain ⟨m, kernels, sizes, hm, -, -, hlaid, -, hat⟩ :=
    forced_merge_agrees_overlay hb hn (by decide) less_oneStride 1
  obtain ⟨-, hmerge, hover⟩ := hat (intKey [16, 16, 1, 16]) (intKey_exact _) rfl
  exact ⟨hb, hn, m, kernels, sizes, hm, hlaid, hmerge, hover⟩

def markedKernel : SizeTable :=
  { oneKernel with kernels := [namedKernel 0 "A" ++ [(markKey, .int 5)]] }

/-- A merge drops the mark of an old kernel, which an overlay keeps: no kernel of the merged table is equal to
the one that serves a size in the overlay. -/
theorem merge_drops_mark :
    ∃ m kernels sizes, Returns (tables (forcedPolicy 1) markedKernel.reindexed oneStride.reindexed) m ∧
      merged markedKernel.kernels oneStride.kernels (markedKernel.sizes.map SizeEntry.short)
        (oneStride.sizes.map SizeEntry.short) = .ok (kernels, sizes) ∧
      ∃ e ∈ sizes, e.key = intKey [8, 8, 1, 8] ∧ ∀ k ∈ m.table.kernels,
        same (.dict ((kernels.getD e.kernel.toNat []).erase indexKey)) (.dict (k.erase indexKey)) = false := by
  have hb : WellFormed markedKernel.reindexed := wellFormed_of_int rfl (by unfold Resolved; decide)
    (by simp [reindexed, markedKernel, oneKernel, intEntry])
  obtain ⟨m, hm, -, -, hunmarked, -⟩ := merged_by (fun _ _ => true) true hb oneStride_wellFormed
    (fun o ho e he => (less_oneStride o ho e he).imp fun b hless => ⟨hless, Bool.or_true b⟩) 1
  refine ⟨m, _, _, hm.returns, rfl, intEntry [8, 8, 1, 8] 0 2, .head _, rfl, fun k hk => ?_⟩
  rw [Bool.eq_false_iff]
  intro hsame
  simp only [same, Bool.and_eq_true, entriesIn_iff] at hsame
  obtain ⟨f, hf, hmark, -⟩ := hsame.2 (markKey, .int 5) (.tail _ (.head _))
  have hfree := hunmarked k hk f (mem_filter.mp hf).1
  obtain ⟨key, value⟩ := f
  cases key <;> simp_all [same]

end TensorForge.Merge
