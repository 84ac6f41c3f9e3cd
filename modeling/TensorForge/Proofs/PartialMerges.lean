import TensorForge.Proofs.OverlayAgreement

/-!
# Merging many files

A list of files is merged one by one into the first. Main statements:

* `merge_order_free`: without force the order of the files does not matter. Of each size the result has the
  fastest entry that some file gives, whatever was merged, dropped and renumbered on the way (`Sums.step`).
* `long_sizes_by_order`: this needs sizes of fewer than twelve components. Each merge drops four of at least
  eight components, so a longer size is cut as often as it is merged.
-/

namespace TensorForge.Merge

open Files List SizeTable Value

lemma ofValue_toValue {t : SizeTable} (hf : sizeField < t.fields.length) (hk : ∀ e ∈ t.sizes, e.key.kind = none) :
    ∃ fields, ofValue t.toValue = .ok { t with fields } ∧ fields.length = t.fields.length := by
  have hsizes : (t.sizes.map SizeEntry.toValue).mapM SizeEntry.ofValue = .ok t.sizes := by
    rw [mapM_map, mapM_ok (g := id), map_id]
    rintro ⟨⟨kind, size⟩, kernel, speed⟩ he
    cases hk _ he
    rfl
  have hkernels : (t.kernels.map dict).mapM asTable = .ok t.kernels := by
    rw [mapM_map, mapM_ok (g := id), map_id]
    exact fun _ _ => rfl
  simp only [sizeField] at hf
  simp only [ofValue, toValue, fieldItems, sizeField, kernelField, length_set, hf,
    getElem?_set_self, ne_eq, Nat.reduceEqDiff, not_false_eq_true, getElem?_set_ne,
    show 5 < t.fields.length by omega]
  simp only [bind, Except.bind, hsizes, hkernels]
  exact ⟨_, rfl, by simp⟩

variable {α : Type} [LinearOrder α] {rank : Value → α} {inputs : List SizeTable} {t new : SizeTable} {k : SizeKey}
  {e : SizeEntry}

/-- All that tables say about a size without strides. -/
def offered (inputs : List SizeTable) (k : SizeKey) : Entries := inputs.flatMap (allOffers · k)

/-- A table with a place for sizes, whose entries refer to kernels by their places and whose sizes have fewer
than twelve components, which are compared without rounding. -/
structure Sound (t : SizeTable) : Prop where
  fields : sizeField < t.fields.length
  resolved : Resolved t.kernels t.sizes
  exact : ExactKeys t.sizes
  lengths : ∀ e ∈ t.sizes, e.key.kind = none ∧ e.key.size.length < 12

/-- A table as a file gives it: its sizes are distinct without their strides. -/
structure Partial (t : SizeTable) : Prop extends Sound t where
  distinct : t.sizes.Pairwise fun a b => a.key.trimmed.same b.key.trimmed = false

/-- Nothing of nothing, or one entry that wins among all. -/
def Best (kept all : Entries) : Prop := (kept = [] ∧ all = []) ∨ ∃ x, kept = [x] ∧ Wins x all

/-- A table that has of each size the best entry of the inputs. -/
structure Sums (inputs : List SizeTable) (t : SizeTable) : Prop extends Sound t where
  best : ∀ k : SizeKey, k.Exact → k.isLong = false → Best (allOffers t k) (offered inputs k)

variable {kept all : Entries}

lemma Best.length_le (h : Best kept all) : kept.length ≤ 1 := by
  rcases h with ⟨rfl, -⟩ | ⟨x, rfl, -⟩ <;> simp

lemma Best.nil_iff (h : Best kept all) : kept = [] ↔ all = [] := by
  rcases h with ⟨rfl, rfl⟩ | ⟨x, rfl, o, ho, -⟩
  · rfl
  · simp [ne_nil_of_mem ho]

lemma Best.perm {all' : Entries} (h : Best kept all) (hp : all.Perm all') : Best kept all' := by
  rcases h with ⟨rfl, rfl⟩ | ⟨x, rfl, o, ho, hxo, hmax⟩
  · exact .inl ⟨rfl, hp.nil_eq.symm⟩
  · exact .inr ⟨x, rfl, o, hp.mem_iff.mp ho, hxo, fun o' ho' => hmax o' (hp.mem_iff.mpr ho')⟩

/-- Of two best entries none is faster. -/
lemma Best.not_less {kept' : Entries} (h : Best kept all) (h' : Best kept' all) {x x' : Value × Table} (hx : x ∈ kept) (hx' : x' ∈ kept') : less x.1 x'.1 = .ok false := by
  obtain ⟨rfl, -⟩ | ⟨y, rfl, o, -, hyo, hmax⟩ := h
  · cases hx
  obtain ⟨rfl, -⟩ | ⟨y', rfl, o', ho', hyo', -⟩ := h'
  · cases hx'
  cases mem_singleton.mp hx
  cases mem_singleton.mp hx'
  rw [hyo.1, hyo'.1]
  exact hmax o' ho'

lemma short_trimmed (hkind : k.kind = none) (hlen : k.size.length < 12) :
    k.trimmed.isLong = false ∧ k.trimmed.kind = none ∧ k.trimmed.size.length < 12 := by
  unfold SizeKey.trimmed
  split <;> simp_all [SizeKey.isLong, SizeKey.length]
  omega

lemma mem_offered {o : Value × Table} (h : o ∈ offered inputs k) : ∃ e ∈ inputs.flatMap (·.sizes), o.1 = e.speed := by
  obtain ⟨t, ht, ho⟩ := mem_flatMap.mp h
  obtain ⟨e, he, rfl⟩ := mem_map.mp ho
  exact ⟨e, mem_flatMap.mpr ⟨t, ht, (mem_filter.mp he).1⟩, rfl⟩

lemma less_offered (hr : Ranked rank (inputs.flatMap (·.sizes))) {a b : Value × Table} (ha : a ∈ offered inputs k)
    (hb : b ∈ offered inputs k) : less a.1 b.1 = .ok (decide (rank a.1 < rank b.1)) := by
  obtain ⟨d, hd, had⟩ := mem_offered ha
  obtain ⟨e, he, hbe⟩ := mem_offered hb
  rw [had, hbe]
  exact hr d hd e he

/-- The speeds of a sum are speeds of its inputs. -/
lemma Sums.speed (h : Sums inputs t) (he : e ∈ t.sizes) : ∃ d ∈ inputs.flatMap (·.sizes), e.speed = d.speed := by
  obtain ⟨hkind, hlen⟩ := h.lengths e he
  have hexact := (h.exact e he).trimmed
  have hmem : served t.kernels e ∈ allOffers t e.key.trimmed :=
    mem_map_of_mem (mem_filter.mpr ⟨he, (SizeKey.same_iff hexact hexact).mpr ⟨rfl, rfl⟩⟩)
  obtain ⟨hnil, -⟩ | ⟨x, hx, o, ho, hxo, -⟩ := h.best _ hexact (short_trimmed hkind hlen).1
  · rw [hnil] at hmem
    cases hmem
  · rw [hx, mem_singleton] at hmem
    obtain ⟨d, hd, hod⟩ := mem_offered ho
    exact ⟨d, hd, by rw [← hod, ← hxo.1, ← hmem]; rfl⟩

lemma Sums.start (h : Partial t) (hr : Ranked rank t.sizes) : Sums [t] t := by
  refine ⟨h.toSound, fun k hk _ => ?_⟩
  have hle := allOffers_le h.exact h.distinct hk
  have hone : offered [t] k = allOffers t k := flatMap_singleton ..
  match hall : allOffers t k with
  | [] => exact .inl ⟨rfl, hone.trans hall⟩
  | [x] =>
    have hx : x ∈ offered [t] k := by simp [hone, hall]
    refine .inr ⟨x, rfl, x, hx, matches_refl x, fun o ho => ?_⟩
    rw [hone, hall, mem_singleton] at ho
    subst ho
    have hself : less o.1 o.1 = .ok (decide (rank o.1 < rank o.1)) := less_offered (by simpa) hx hx
    rwa [decide_eq_false (lt_irrefl _)] at hself
  | _ :: _ :: _ => simp [hall] at hle

/-- What a merge makes of one size: the entry of the sum so far, or the new one if it is faster. -/
lemma best_step {merged old fresh before : Entries}
    (hless : ∀ a ∈ before ++ fresh, ∀ b ∈ before ++ fresh, less a.1 b.1 = .ok (decide (rank a.1 < rank b.1)))
    (hold : Best old before) (hnew : fresh.length ≤ 1)
    (hset : Forall₂ (Taken fresh) merged (settle (fun a b => decide (rank a < rank b)) old fresh)) :
    Best merged (before ++ fresh) := by
  have hlen := hold.length_le
  by_cases hnil : old = [] ∧ fresh = []
  · obtain ⟨rfl, rfl⟩ := hnil
    rw [settle_nil, forall₂_nil_right_iff] at hset
    exact .inl ⟨hset, by simpa [Best] using hold⟩
  obtain ⟨o, ho, hsettle, hmax⟩ := settle_single rank hlen hnew (by simpa [imp_iff_not_or] using hnil)
  rw [hsettle] at hset
  obtain ⟨x, rest, hx, hrest, rfl⟩ := forall₂_cons_right_iff.mp hset
  rw [forall₂_nil_right_iff.mp hrest]
  refine .inr ⟨x, rfl, ?_⟩
  -- the entry of the sum stands for all entries before it
  have hfirst : ∀ b ∈ before, ∃ y ∈ old, rank b.1 ≤ rank y.1 := by
    intro b hb
    obtain ⟨-, rfl⟩ | ⟨y, rfl, c, hc, hyc, hle⟩ := hold
    · cases hb
    · have := hle b hb
      rw [hless c (by simp [hc]) b (by simp [hb])] at this
      exact ⟨y, by simp, by rw [hyc.1]; simpa using this⟩
  have hall : ∀ b ∈ before ++ fresh, rank b.1 ≤ rank o.1 := by
    intro b hb
    rcases mem_append.mp hb with hb | hb
    · obtain ⟨y, hy, hle⟩ := hfirst b hb
      exact le_trans hle (not_lt.mp (hmax y (by simp [hy])))
    · exact not_lt.mp (hmax b (by simp [hb]))
  have hwins : ∀ c ∈ before ++ fresh, Matches x c → c.1 = o.1 → Wins x (before ++ fresh) := by
    intro c hc hxc heq
    refine ⟨c, hc, hxc, fun b hb => ?_⟩
    rw [hless c hc b hb, heq, decide_eq_false (not_lt.mpr (hall b hb))]
  by_cases hof : o ∈ fresh
  · exact hwins o (by simp [hof]) hx.toMatches rfl
  · have hxo : x = o := hx.resolve_right fun h => hof h.1
    obtain ⟨rfl, -⟩ | ⟨y, rfl, c, hc, hyc, -⟩ := hold
    · exact absurd ho (by simpa using hof)
    · have hoy : o = y := by simpa [hof] using ho
      exact hwins c (by simp [hc]) (by rw [hxo, hoy]; exact hyc) (by rw [hoy]; exact hyc.1.symm)

/-- One step: merging a table into the sum of tables gives the sum with it, without strides. -/
lemma Sums.step (ht : Sums inputs t) (hn : Partial new)
    (hr : Ranked rank ((inputs ++ [new]).flatMap (·.sizes))) (verbosity : Int) :
    ∃ m, Tells (tables (winnerPolicy verbosity) t.reindexed new.reindexed) m ∧ Sums (inputs ++ [new]) m.table ∧
      ∀ e ∈ m.table.sizes, e.key.isLong = false := by
  have hless : ∀ o ∈ t.reindexed.sizes, ∀ e ∈ new.reindexed.sizes,
      Decided (fun a b => decide (rank a < rank b)) false o.speed e.speed := by
    intro o ho e he
    obtain ⟨d, hd, hod⟩ := ht.speed ho
    rw [hod]
    exact ⟨_, hr d (by simp_all) e (by simp_all [reindexed]), Bool.or_false _⟩
  obtain ⟨m, hm, -, hmr, -, hfields, hkeys, hat⟩ := merged_by (fun a b => decide (rank a < rank b)) false
    (wellFormed_reindexed ht.resolved ht.exact) (wellFormed_reindexed hn.resolved hn.exact) hless verbosity
  have hkey : ∀ o ∈ m.table.sizes, o.key.Exact ∧ o.key.isLong = false ∧ o.key.kind = none ∧ o.key.size.length < 12 := by
    intro o ho
    obtain ⟨e, he, heq⟩ := hkeys o ho
    rw [heq]
    rcases mem_append.mp he with he | he
    · exact ⟨(ht.exact e he).trimmed, short_trimmed (ht.lengths e he).1 (ht.lengths e he).2⟩
    · exact ⟨(hn.exact e he).trimmed, short_trimmed (hn.lengths e he).1 (hn.lengths e he).2⟩
  refine ⟨m, hm, ⟨⟨hfields ▸ ht.fields, hmr, fun o ho => (hkey o ho).1, fun o ho => (hkey o ho).2.2⟩, fun k hk hs => ?_⟩,
    fun o ho => (hkey o ho).2.1⟩
  have hmerged : allOffers m.table k = entriesAt (viewOf m.table.kernels m.table.sizes) k := by
    rw [entriesAt_viewOf, allOffers]
    congr 1
    exact filter_congr fun o ho => by rw [SizeKey.trimmed_of_not_isLong (hkey o ho).2.1]
  have hold := ht.best k hk hs
  have hnew := allOffers_le hn.exact hn.distinct hk
  have hset := hat k hk hs
  rw [offers_reindexed hold.length_le, offers_reindexed hnew, ← hmerged] at hset
  have happend : offered (inputs ++ [new]) k = offered inputs k ++ allOffers new k := by simp [offered]
  rw [happend]
  exact best_step (fun a ha b hb => less_offered hr (happend ▸ ha) (happend ▸ hb)) hold hnew hset

/-- The table in a file. -/
def tableIn? (w : Workspace) (file : Text) : Option SizeTable :=
  match w.read? file with
  | some (.text text) => (Yaml.read text >>= ofValue).toOption
  | _ => none

variable {s : Session} {file first : Text} {files others : Texts} (verbosity : Int)

lemma prints_load (h : tableIn? s.workspace file = some t) :
    ∃ v, ofValue v = .ok t ∧ Prints s (load file) v := by
  unfold tableIn? at h
  split at h
  · next text hfile =>
    cases hread : Yaml.read text with
    | error f => simp [hread, bind, Except.bind, Except.toOption] at h
    | ok v =>
      refine ⟨v, ?_, fun log => ⟨log, ?_⟩⟩
      · cases hv : ofValue v <;> simp_all [bind, Except.bind, Except.toOption]
      · have hfile : ({ s with log } : Session).workspace.read? file = some (.text text) := hfile
        unfold load
        rw [EStateM.run_bind, isFile_run hfile]
        show (read file >>= fun text => Gen.ofExcept (Yaml.read text)).run _ = _
        rw [EStateM.run_bind, read_run hfile]
        simp only [hread]
        rfl
  · cases h

/-- One step: a file is read and merged into what the files before it made. -/
lemma prints_mergePartial {made : Value} {m : Merged} (hmade : ofValue made = .ok t)
    (hfile : tableIn? s.workspace file = some new)
    (hm : Tells (tables (winnerPolicy verbosity) t.reindexed new.reindexed) m) :
    Prints s (mergePartial (winnerPolicy verbosity) (made, some false) file) (m.table.toValue, some false) := by
  obtain ⟨v, hv, hload⟩ := prints_load hfile
  have hdata : data (winnerPolicy verbosity) made v = tables (winnerPolicy verbosity) t.reindexed new.reindexed := by
    unfold data
    rw [hmade, hv]
    rfl
  refine .bind' (.of_tells (.say _)) (.bind' hload (.of_tells (.bind' ?_ (.bind' (.say _) (.pure' _)))))
  exact hdata ▸ hm

/-- The run: files that are merged one by one give the sum of their tables. -/
lemma prints_merges {w : Workspace} (hw : s.workspace = w)
    (hfiles : ∀ f ∈ files, ∃ t, tableIn? w f = some t ∧ Partial t)
    (hr : Ranked rank ((inputs ++ files.filterMap (tableIn? w)).flatMap (·.sizes))) {made : Value}
    (hmade : ofValue made = .ok t) (ht : Sums inputs t) :
    ∃ made' t', Prints s (files.foldlM (mergePartial (winnerPolicy verbosity)) (made, some false)) (made', some false) ∧
      ofValue made' = .ok t' ∧ Sums (inputs ++ files.filterMap (tableIn? w)) t' ∧
      (files ≠ [] ∨ (∀ e ∈ t.sizes, e.key.isLong = false) → ∀ e ∈ t'.sizes, e.key.isLong = false) := by
  induction files generalizing inputs made t with
  | nil => exact ⟨made, t, .of_tells (.pure' _), hmade, by simpa, fun h => h.resolve_left (absurd rfl)⟩
  | cons f files ih =>
    obtain ⟨new, hf, hnew⟩ := hfiles f (by simp)
    rw [filterMap_cons_some hf, append_cons] at hr ⊢
    have hr' : Ranked rank ((inputs ++ [new]).flatMap (·.sizes)) := by
      intro a ha b hb
      rw [flatMap_append] at hr
      exact hr a (mem_append_left _ ha) b (mem_append_left _ hb)
    obtain ⟨m, hm, hsum, hshort⟩ := ht.step hnew hr' verbosity
    obtain ⟨fields, hread, hlen⟩ := ofValue_toValue hsum.fields fun e he => (hsum.lengths e he).1
    obtain ⟨made', t', hrun, hmade', ht', hshort'⟩ := ih (fun f hf => hfiles f (by simp [hf])) hr hread
      ⟨⟨hlen ▸ hsum.fields, hsum.resolved, hsum.exact, hsum.lengths⟩, hsum.best⟩
    exact ⟨made', t', .bind' (prints_mergePartial verbosity hmade (hw ▸ hf) hm) hrun, hmade', ht', fun _ => hshort' (.inr hshort)⟩

/-- The first file and the others give the sum of all tables. -/
lemma prints_mergeAll {w : Workspace} (hw : s.workspace = w) (hfiles : ∀ f ∈ first :: others, ∃ t, tableIn? w f = some t ∧ Partial t)
    (hr : Ranked rank (((first :: others).filterMap (tableIn? w)).flatMap (·.sizes))) :
    ∃ v t, Prints s (mergeAll first others (some false) (winnerPolicy verbosity)) v ∧ ofValue v = .ok t ∧
      Sums ((first :: others).filterMap (tableIn? w)) t ∧ (others ≠ [] → ∀ e ∈ t.sizes, e.key.isLong = false) := by
  obtain ⟨base, hf, hbase⟩ := hfiles first (by simp)
  rw [filterMap_cons_some hf] at hr ⊢
  have hr' : Ranked rank base.sizes := fun a ha b hb => hr a (by simp [ha]) b (by simp [hb])
  obtain ⟨v, hv, hload⟩ := prints_load (hw ▸ hf)
  obtain ⟨v', t, hrun, hv', ht, hshort⟩ := prints_merges verbosity hw (fun f hf => hfiles f (by simp [hf])) hr hv
    (.start hbase hr')
  exact ⟨v', t, .bind' hload (.bind' (.of_tells (.say _)) (.bind' hrun (.of_tells (.pure' _)))), hv', ht,
    fun h => hshort (.inl h)⟩

/-- **The order of files does not matter**: merging files without force, in any order, returns a table. Both
orders give the same sizes, and each with one entry of the files that no other beats; so the speeds of both are
equal. -/
theorem merge_order_free {first' : String} {others' : List String} (hperm : (first :: others).Perm (first' :: others'))
    (hfiles : ∀ f ∈ first :: others, ∃ t, tableIn? s.workspace f = some t ∧ Partial t)
    (hr : Ranked rank (((first :: others).filterMap (tableIn? s.workspace)).flatMap (·.sizes))) (verbosity : Int) :
    ∃ v v' t t' s₁ s₂,
      (mergeAll first others (some false) (winnerPolicy verbosity)).run s = .ok v s₁ ∧
      (mergeAll first' others' (some false) (winnerPolicy verbosity)).run s = .ok v' s₂ ∧
      ofValue v = .ok t ∧ ofValue v' = .ok t' ∧
      (others ≠ [] → ∀ e ∈ t.sizes ++ t'.sizes, e.key.isLong = false) ∧
      ∀ k : SizeKey, k.Exact → k.isLong = false →
        let all := offered ((first :: others).filterMap (tableIn? s.workspace)) k
        Best (allOffers t k) all ∧ Best (allOffers t' k) all ∧ (allOffers t k = [] ↔ allOffers t' k = []) ∧
        ∀ x ∈ allOffers t k, ∀ x' ∈ allOffers t' k,
          less x.1 x'.1 = .ok false ∧ less x'.1 x.1 = .ok false := by
  have hinputs := hperm.filterMap (tableIn? s.workspace)
  have hsizes := hinputs.flatMap_right (·.sizes)
  obtain ⟨v, t, hrun, hv, ht, hshort⟩ := prints_mergeAll verbosity rfl hfiles hr
  obtain ⟨v', t', hrun', hv', ht', hshort'⟩ := prints_mergeAll verbosity rfl
    (fun f hf => hfiles f (hperm.mem_iff.mpr hf))
    (fun a ha b hb => hr a (hsizes.mem_iff.mpr ha) b (hsizes.mem_iff.mpr hb))
  obtain ⟨log, h1⟩ := hrun s.log
  obtain ⟨log', h2⟩ := hrun' s.log
  refine ⟨v, v', t, t', _, _, h1, h2, hv, hv', fun hne => ?_, fun k hk hs => ?_⟩
  · have hne' : others' ≠ [] := by
      rintro rfl
      exact hne (length_eq_zero_iff.mp (by simpa using hperm.length_eq))
    exact forall_mem_append.mpr ⟨hshort hne, hshort' hne'⟩
  · have hbest := ht.best k hk hs
    have hbest' := (ht'.best k hk hs).perm (hinputs.flatMap_right (allOffers · k)).symm
    exact ⟨hbest, hbest', hbest.nil_iff.trans hbest'.nil_iff.symm, fun x hx x' hx' =>
      ⟨hbest.not_less hbest' hx hx', hbest'.not_less hbest hx' hx⟩⟩

/-- A logic file with one kernel. -/
def logicText (kernel sizes : Text) : FileBody :=
  .text ("[0,0,0,0,0,[\x7bK: " ++ kernel ++ "\x7d],0,[" ++ sizes ++ "]]")

def twoFiles : Session :=
  { settings := []
    workspace := { files :=
      [("/work/a", logicText "A" "[[9,9,1,9,9,9,9,9],[0,3]]"), ("/work/b", logicText "B" "[[9,9,1,9],[0,5]]")] } }

lemma twoFiles_tables : ∀ f ∈ ["a", "b"], ∃ h : (tableIn? twoFiles.workspace f).isSome,
    let t := (tableIn? twoFiles.workspace f).get h
    (sizeField < t.fields.length ∧ (∀ e ∈ t.sizes, 0 ≤ e.kernel ∧ e.kernel < t.kernels.length) ∧
      (∀ e ∈ t.sizes, ∀ v ∈ e.key.size, v.isExact) ∧ ∀ e ∈ t.sizes, e.key.kind = none ∧ e.key.size.length < 12) ∧
    (t.sizes.Pairwise fun a b => a.key.trimmed.same b.key.trimmed = false) ∧
    ∀ e ∈ t.sizes, (match e.speed with | .int _ => true | _ => false) = true := by
  decide +kernel

/-- A size with strides in one file and without them in the other. -/
theorem twoFiles_any_order : ∃ v v' t t' s₁ s₂,
    (mergeAll "a" ["b"] (some false) (winnerPolicy 0)).run twoFiles = .ok v s₁ ∧
    (mergeAll "b" ["a"] (some false) (winnerPolicy 0)).run twoFiles = .ok v' s₂ ∧
    ofValue v = .ok t ∧ ofValue v' = .ok t' ∧ allOffers t (intKey [9, 9, 1, 9]) ≠ [] ∧
    ∀ x ∈ allOffers t (intKey [9, 9, 1, 9]), ∀ x' ∈ allOffers t' (intKey [9, 9, 1, 9]),
      less x.1 x'.1 = .ok false ∧ less x'.1 x.1 = .ok false := by
  have htables : ∀ f ∈ ["a", "b"], ∃ t, tableIn? twoFiles.workspace f = some t ∧ Partial t ∧
      ∀ e ∈ t.sizes, ∃ n, e.speed = .int n := by
    intro f hf
    obtain ⟨h, ⟨hfields, hresolved, hexact, hlengths⟩, hdistinct, hints⟩ := twoFiles_tables f hf
    refine ⟨_, (Option.some_get h).symm, ⟨⟨hfields, hresolved, hexact, hlengths⟩, hdistinct⟩, fun e he => ?_⟩
    have := hints e he
    split at this
    · next n hn => exact ⟨n, hn⟩
    · cases this
  have hr : Ranked intRank ((["a", "b"].filterMap (tableIn? twoFiles.workspace)).flatMap (·.sizes)) := by
    refine ranked_of_int fun e he => ?_
    obtain ⟨t, ht, he⟩ := mem_flatMap.mp he
    obtain ⟨f, hf, hft⟩ := mem_filterMap.mp ht
    obtain ⟨t', ht', -, hints⟩ := htables f hf
    cases hft.symm.trans ht'
    exact hints e he
  obtain ⟨v, v', t, t', s₁, s₂, h, h', hv, hv', -, hk⟩ := merge_order_free (.swap "b" "a" [])
    (fun f hf => (htables f hf).imp fun _ h => ⟨h.1, h.2.1⟩) hr 0
  obtain ⟨hbest, -, -, htie⟩ := hk (intKey [9, 9, 1, 9]) (intKey_exact _) rfl
  have hsome : (offered (["a", "b"].filterMap (tableIn? twoFiles.workspace)) (intKey [9, 9, 1, 9])).isEmpty = false := by
    decide +kernel
  exact ⟨v, v', t, t', s₁, s₂, h, h', hv, hv', fun hnil => by simp [hbest.nil_iff.mp hnil] at hsome, htie⟩

def threeFiles : Session :=
  { settings := []
    workspace := { files :=
      [("/work/a", logicText "A" "[[1,2,3,4,5,6,7,8,9,1,2,3],[0,1]]"), ("/work/b", logicText "B" "[[9,9,1,9],[0,1]]"),
       ("/work/c", logicText "C" "[[8,8,1,8],[0,1]]")] } }

/-- The numbers of components of the sizes that a merge makes. -/
def lengthsMade (first : Text) (others : Texts) : Nats :=
  match (mergeAll first others (some false) (winnerPolicy 0)).run threeFiles with
  | .ok v _ => ((ofValue v).toOption.elim [] (·.sizes)).map (·.key.size.length)
  | .error _ _ => []

/-- A size of twelve components is cut once if it comes last, and twice if it comes first. -/
theorem long_sizes_by_order : lengthsMade "a" ["b", "c"] = [4, 4, 4] ∧ lengthsMade "b" ["c", "a"] = [4, 4, 8] := by
  decide +kernel

end TensorForge.Merge
