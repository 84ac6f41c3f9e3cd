import Mathlib.Algebra.BigOperators.Ring.Finset
import Mathlib.Algebra.Order.BigOperators.Group.Finset
import TensorForge.Proofs.WaitCounts

/-!
# Waits for operands

Operations on local memory finish in the order in which they are started. A wait that lets as many of
them be outstanding as its count says is early enough when the count is not above the number of
operations behind the last read that brings operands. The main theorem says when that is so: always,
unless the iteration itself starts a read for a later iteration in front of a read for itself. The count
takes all such reads for reads that come behind.
-/

namespace TensorForge.Assembly.Interleave

open Arranged Asm Asm.Item List Nat Spread

section Behind

variable {α β : Type} {q : α → Bool} (l : List α)

/-- How many entries stand behind the last one with `q`; all of them when there is none. -/
def behindLast (q : α → Bool) (l : List α) : Nat := l.foldl (fun n a => if q a then 0 else n + 1) 0

lemma behindLast_concat (a : α) : behindLast q (l ++ [a]) = if q a then 0 else behindLast q l + 1 := by
  rw [behindLast, foldl_append]
  rfl

lemma behindLast_append_none {l2 : List α} (h : ∀ a ∈ l2, q a = false) (l1 : List α) :
    behindLast q (l1 ++ l2) = behindLast q l1 + l2.length := by
  induction l2 using reverseRecOn with
  | nil => simp
  | append_singleton l a ih =>
    rw [← append_assoc, behindLast_concat, h a (by simp), ih fun b hb => h b (by simp [hb])]
    simp [add_assoc]

lemma behindLast_append_some {l2 : List α} (h : ∃ a ∈ l2, q a) (l1 : List α) :
    behindLast q (l1 ++ l2) = behindLast q l2 := by
  induction l2 using reverseRecOn with
  | nil => simp at h
  | append_singleton l a ih =>
    rw [← append_assoc, behindLast_concat, behindLast_concat]
    split
    · rfl
    next ha =>
      rw [ih]
      obtain ⟨b, hb, hqb⟩ := h
      obtain hb | hb := mem_append.mp hb
      · exact ⟨b, hb, hqb⟩
      · rw [mem_singleton.mp hb] at hqb
        exact absurd hqb ha

lemma behindLast_map (f : β → α) (l : List β) : behindLast q (l.map f) = behindLast (fun b => q (f b)) l := by
  rw [behindLast, foldl_map, behindLast]

/-- All entries without `q` are behind the last one with it exactly when none of them comes before one
with it. -/
lemma countP_le_behindLast_iff :
    (l.countP fun a => !q a) ≤ behindLast q l ↔ ¬∃ a b, [a, b].Sublist l ∧ q a = false ∧ q b := by
  induction l using reverseRecOn with
  | nil => simp
  | append_singleton l c ih =>
    rw [behindLast_concat, countP_append, countP_singleton]
    cases hc : q c with
    | true =>
      simp only [Bool.not_true, Bool.false_eq_true, if_false, if_true, add_zero, le_zero, countP_eq_zero]
      constructor
      · rintro hall ⟨a, b, hsub, ha, -⟩
        obtain hmem | hmem := mem_append.mp (hsub.subset (mem_cons_self ..))
        · exact hall a hmem (by simp [ha])
        · rw [mem_singleton.mp hmem, hc] at ha
          cases ha
      · intro hno a ha hqa
        exact hno ⟨a, c, (singleton_sublist.mpr ha).append (.refl [c]), by simpa using hqa, hc⟩
    | false =>
      simp only [Bool.not_false, Bool.false_eq_true, if_false, if_true, add_le_add_iff_right, ih]
      refine not_congr ⟨fun ⟨a, b, hsub, hab⟩ => ⟨a, b, hsub.trans (sublist_append_left l [c]), hab⟩, ?_⟩
      rintro ⟨a, b, hsub, ha, hb⟩
      obtain ⟨l1, l2, heq, h1, h2⟩ := sublist_append_iff.mp hsub
      obtain rfl | rfl := sublist_singleton.mp h2
      · rw [append_nil] at heq
        exact ⟨a, b, heq ▸ h1, ha, hb⟩
      · -- the last of the two has `q`, the last entry has not
        have hlast : [a, b].getLast? = (l1 ++ [c]).getLast? := by rw [heq]
        simp at hlast
        rw [hlast, hc] at hb
        cases hb

end Behind

variable {k : KernelSpec} {m : MatrixSpec} {n : Bool → Int} {limit : Int} {ofA : Item → Bool} {p : Pending}
  {x : Iter} {o : Ordered}

/-- Whether the reads of an input that iteration `t` starts bring operands of iteration `u`. Iterations of
the run of the loop before have negative numbers, so that its last one, which reads ahead, has `-1`. -/
def feeds (k : KernelSpec) (isA : Bool) (t u : Int) : Bool :=
  (t + k.prefetchedReads) * served k isA ≤ u && u < (t + k.prefetchedReads + 1) * served k isA

lemma feeds_iff (isA : Bool) (t u : Int) : feeds k isA t u ↔ t = dataIter k isA u := by
  rw [feeds, Bool.and_eq_true, decide_eq_true_eq, decide_eq_true_eq, add_mul _ 1, one_mul,
    ← Int.ediv_eq_iff_of_pos (served_pos k isA), dataIter]
  omega

/-- Whether an operation that is started in an iteration brings operands of iteration `u`. -/
def brings (k : KernelSpec) (ofA : Item → Bool) (u : Int) (op : Int × Item) : Bool :=
  op.2.isRead && feeds k (ofA op.2) op.1 u

/-- An iteration starts a read for a later iteration in front of a read for itself. -/
def Overtakes (k : KernelSpec) (ofA : Item → Bool) (x : Iter) : Prop :=
  ∃ a b, [a, b].Sublist (readOps k x) ∧
    brings k ofA x.u (x.u, a) = false ∧ brings k ofA x.u (x.u, b)

variable {u : Int} {op : Int × Item}

lemma not_brings (h : lastDataIter k u < op.1) : brings k ofA u op = false := by
  rw [brings, Bool.and_eq_false_iff]
  refine .inr (Bool.eq_false_iff.mpr fun hf => ?_)
  have := dataIter_le_last k (ofA op.2) u
  rw [(feeds_iff _ _ _).mp hf] at h
  omega

lemma not_brings_of_isWrite (h : op.2.isWrite) : brings k ofA u op = false := by
  rw [brings, Bool.and_eq_false_iff]
  refine .inl (Bool.eq_false_iff.mpr fun hr => ?_)
  rw [not_isWrite_of_isRead hr] at h
  cases h

lemma lastDataIter_le (k : KernelSpec) (hu : 0 ≤ u) : lastDataIter k u ≤ u - k.prefetchedReads := by
  have hA := Int.ediv_le_self (served k true) hu
  have hB := Int.ediv_le_self (served k false) hu
  rw [lastDataIter, dataIter, dataIter]
  omega

lemma Checked.dataIter_lt_readsEnd (h : Checked k m) (hlt : u < k.loopIters) (isA : Bool) :
    dataIter k isA u < readsEnd k isA := by
  have hmul := h.readsEnd_mul isA
  have : u / served k isA < readsEnd k isA + k.prefetchedReads :=
    Int.ediv_lt_of_lt_mul (served_pos k isA) (by omega)
  rw [dataIter]
  omega

/-- The operations on local memory that an iteration starts, and those in front of its wait. -/
def Arranged.started (a : Arranged) : List (Int × Item) := (localOps (a.before ++ a.after)).map (a.u, ·)

def Arranged.startedBefore (a : Arranged) : List (Int × Item) := (localOps a.before).map (a.u, ·)

/-- Iterations of a loop are put in order one after the other from a plan on. -/
inductive Arranges (k : KernelSpec) (n : Bool → Int) (limit : Int) (ofA : Item → Bool) (p : Pending) :
    List Arranged → Pending → Prop
  | start : Arranges k n limit ofA p [] p
  | step {done : List Arranged} {q q' : Pending} {x : Iter} {a : Arranged} {st st' : State} :
      Arranges k n limit ofA p done q → Fed k n ofA x → x.u = done.length → x.u < k.loopIters →
      Ready k n limit st → (arrange q x).run st = .ok (a, q') st' → Arranges k n limit ofA p (done ++ [a]) q'

/-- The reads that go with an iteration. -/
def readsAt (k : KernelSpec) (n : Bool → Int) (u : Int) : Int :=
  (if readsInput k true u then n true else 0) + if readsInput k false u then n false else 0

/-- What an iteration has started: all its reads and writes, and behind the reads for this tile as many
writes as are noted. -/
structure Arranged.Complete (k : KernelSpec) (n : Bool → Int) (p : Pending) (noted : Int) (t : Nat) (a : Arranged) :
    Prop where
  u : a.u = t
  length : (a.started.length : Int) = readsAt k n t + writesAt p t
  tail : (t : Int) < k.loopIters - k.prefetchedReads → ∃ pre post, localOps (a.before ++ a.after) = pre ++ post ∧
    (∀ i ∈ post, i.isWrite) ∧ (post.length : Int) = noted

/-- What is known when iterations of a loop are put in order. -/
structure Ran (k : KernelSpec) (n : Bool → Int) (p : Pending) (done : List Arranged) (q : Pending) : Prop where
  plan : q = { p with skippable := q.skippable }
  size : q.skippable.size = k.loopIters.toNat
  fresh : ∀ t, done.length ≤ t → q.skippable.getD t 0 = 0
  complete : ∀ (t : Nat) (a : Arranged), done[t]? = some a → a.Complete k n p (q.skippable.getD t 0) t

lemma Ran.start (hp : p.Planned k m) : Ran k n p [] p where
  plan := rfl
  size := by simp [hp.skippable]
  fresh t _ := by
    rw [hp.skippable, Array.getD_eq_getD_getElem?, Array.getElem?_replicate]
    split <;> rfl
  complete t a h := by simp at h

variable {a : Arranged} {done : List Arranged}

lemma Ran.step {q : Pending} (h : Ran k n p done q) (hx : Fed k n ofA x)
    (hu : x.u = done.length) (hlt : x.u < k.loopIters) (ho : o.Starts k x (p.writes.getD x.u.toNat []))
    (ha : a.u = x.u) (hbefore : a.before = o.before.toList) (hafter : a.after = o.after.toList) :
    Ran k n p (done ++ [a]) { p with skippable := q.skippable.modify x.u.toNat (· + o.skippable) } := by
  have hi : x.u.toNat = done.length := by omega
  rw [hi] at ho ⊢
  refine ⟨rfl, by simp [h.size], fun t ht => ?_, fun t b hb => ?_⟩
  · rw [length_append] at ht
    simp only [getD_modify]
    rw [if_neg (by simp at ht; omega), h.fresh t (by simp at ht; omega)]
  · simp only [getD_modify]
    obtain hlt' | hle := lt_or_ge t done.length
    · rw [getElem?_append_left hlt'] at hb
      rw [if_neg (by omega)]
      exact h.complete t b hb
    · rw [getElem?_append_right hle] at hb
      obtain ⟨ht, rfl⟩ := List.getElem?_eq_some_iff.mp hb
      obtain rfl : t = done.length := by simp at ht; omega
      rw [if_pos ⟨rfl, by rw [h.size]; omega⟩, h.fresh _ le_rfl, zero_add]
      refine ⟨?_, ?_, fun hlt => ?_⟩
      · simp [ha, hu]
      · simp only [Nat.sub_self, getElem_cons_zero, started, length_map]
        rw [hbefore, hafter, length_localOps, ho.readsAll, ho.writesAll, cast_add, hx.length, hu, readsAt, writesAt]
      · simp only [Nat.sub_self, getElem_cons_zero]
        rw [hbefore, hafter]
        exact ho.tail (by omega)

/-- Iterations that are put in order one after the other start what goes with them. -/
lemma Arranges.ran {q : Pending} (h : Scheduled k m) (hp : p.Planned k m)
    (hn : ∀ isA, 0 < n isA) (hrun : Arranges k n limit ofA p done q) : Ran k n p done q := by
  induction hrun with
  | start => exact .start hp
  | @step done q q' x a st st' _ hx hu hlt hst hstep ih =>
    rw [ih.plan] at hstep
    obtain ⟨-, o, ho, ha, hbefore, hafter, hq', -⟩ :=
      (arrange_ends h hp hn hx (by omega) hlt q.skippable).of_ok hst hstep
    rw [show q' = _ from hq']
    exact ih.step hx hu hlt ho ha hbefore hafter

lemma sum_ite_lt (c R : Int) (lo hi : Nat) (h : (lo : Int) ≤ min (hi : Int) R) :
    ∑ t ∈ .Ico lo hi, (if (t : Int) < R then c else 0) = c * (min (hi : Int) R - lo) := by
  have hfilter : (Finset.Ico lo hi).filter (fun t : Nat => (t : Int) < R) = .Ico lo (min hi R.toNat) := by
    ext t
    simp only [Finset.mem_filter, Finset.mem_Ico]
    omega
  have hcard : ((min hi R.toNat - lo : Nat) : Int) = min (hi : Int) R - lo := by omega
  rw [← Finset.sum_filter, hfilter, Finset.sum_const, card_Ico, nsmul_eq_mul, hcard, mul_comm]

section Counted

variable (h : Checked k m) {u : Nat} (hn : ∀ isA, 0 < n isA) (hlt : (u : Int) < k.loopIters)
  (hlast : lastDataIter k u < u)

include h hn hlt hlast

lemma Checked.countedReads_le (isA : Bool) : countedReads k n u isA ≤
    ∑ t ∈ Finset.Ico (lastDataIter k u + 1).toNat u, if readsInput k isA t then n isA else 0 := by
  have hpos := hn isA
  rw [countedReads]
  split
  · exact Finset.sum_nonneg fun t _ => by split <;> omega
  next hd =>
    have hend := h.dataIter_lt_readsEnd hlt isA
    have hnonneg := h.lastDataIter_nonneg (u := u) (by omega)
    calc n isA * (min (u : Int) (readsEnd k isA) - lastDataIter k u - 1)
        = ∑ t ∈ Finset.Ico (lastDataIter k u + 1).toNat u, if (t : Int) < readsEnd k isA then n isA else 0 := by
          rw [sum_ite_lt _ _ _ _ (by omega), Int.toNat_of_nonneg hnonneg]
          ring
      _ ≤ _ := Finset.sum_le_sum fun t _ => by
          by_cases ht : (t : Int) < readsEnd k isA
          · rw [if_pos ht, if_pos ((h.readsInput_iff isA t).mpr (.inl ht))]
          · rw [if_neg ht]
            split <;> omega

/-- The count is not above what is started behind the last reads that are used: everything in the
iterations between, what stands in front of the wait, and the writes behind those reads. -/
lemma Checked.counted_le (hw : 0 ≤ o.writes) {skip : Int} (h0 : 0 ≤ skip)
    (hskip : k.prefetchedReads ≠ 0 → skippedWrites p (lastDataIter k u) ≤ skip) : counted k n p o u ≤ skip +
      ∑ t ∈ .Ico (lastDataIter k u + 1).toNat u, (readsAt k n t + writesAt p t) + (o.reads + o.writes) := by
  have hA := h.countedReads_le hn hlt hlast true
  have hB := h.countedReads_le hn hlt hlast false
  simp only [readsAt, Finset.sum_add_distrib]
  rw [counted, Int.toNat_natCast]
  push_cast
  omega

end Counted

variable {share : Items} {q : Pending}

lemma Arranged.length_startedBefore (ho : o.Starts k x share)
    (hbefore : a.before = o.before.toList) : (a.startedBefore.length : Int) = o.reads + o.writes := by
  rw [startedBefore, length_map, hbefore, length_localOps, ho.reads, ho.writes]
  rfl

section Ran

variable (h : Ran k n p done q)

include h

lemma Ran.length_started {lo : Nat} (hlo : lo ≤ done.length) :
    (((done.drop lo).flatMap started).length : Int) =
      ∑ t ∈ Finset.Ico lo done.length, (readsAt k n t + writesAt p t) := by
  induction hlo using decreasingInduction with
  | self => simp
  | of_succ t ht ih =>
    rw [drop_eq_getElem_cons ht, flatMap_cons, length_append, cast_add, ih,
      (h.complete t _ (getElem?_eq_getElem ht)).length, Finset.sum_eq_sum_Ico_succ_bot ht]

lemma Ran.le_of_started (lo : Nat) (hop : op ∈ (done.drop lo).flatMap started) : (lo : Int) ≤ op.1 := by
  obtain ⟨a, ha, hop⟩ := mem_flatMap.mp hop
  obtain ⟨i, hi⟩ := mem_iff_getElem?.mp ha
  rw [getElem?_drop] at hi
  obtain ⟨o, -, rfl⟩ := mem_map.mp hop
  rw [(h.complete _ a hi).u]
  omega

variable (ofA : Item → Bool) (hk : Checked k m) (hlt : (done.length : Int) < k.loopIters)
  (hlast : lastDataIter k done.length < done.length)

include hk hlt hlast

/-- Where the last reads that are used stand: behind them come only operations that bring no operands, as
many as are in the iterations between and in front of the wait, and the writes that are noted. -/
lemma Ran.split_started : ∃ pre post : List (Int × Item), done.flatMap started = pre ++ post ∧
      (∀ op ∈ post, brings k ofA done.length op = false) ∧
      ∃ skip : Int, 0 ≤ skip ∧ (k.prefetchedReads ≠ 0 → skippedWrites q (lastDataIter k done.length) ≤ skip) ∧
        (post.length : Int) = skip +
          ∑ t ∈ .Ico (lastDataIter k done.length + 1).toNat done.length, (readsAt k n t + writesAt p t) := by
  have hnonneg := hk.lastDataIter_nonneg (u := done.length) (by omega)
  by_cases hD : lastDataIter k done.length < 0
  · -- the reads that are used are of the run before, and nothing is noted for its last iteration yet
    have hlo : (lastDataIter k done.length + 1).toNat = 0 := by omega
    rw [hlo]
    refine ⟨[], done.flatMap started, rfl, fun op hop => ?_, 0, le_rfl, fun _ => ?_, ?_⟩
    · have := h.le_of_started 0 (by simpa using hop)
      exact not_brings (by omega)
    · rw [skippedWrites, h.size, h.fresh _ (by omega)]
    · have := h.length_started (zero_le done.length)
      rw [drop_zero] at this
      omega
  · obtain ⟨d, hd⟩ := Int.eq_ofNat_of_zero_le (by omega : 0 ≤ lastDataIter k done.length)
    have hlt' : d < done.length := by omega
    have hle := lastDataIter_le k (u := done.length) (by omega)
    obtain ⟨hu, -, htail⟩ := h.complete d _ (getElem?_eq_getElem hlt')
    obtain ⟨pre, post, heq, hpost, hlen⟩ := htail (by omega)
    have hlo : (lastDataIter k done.length + 1).toNat = d + 1 := by omega
    rw [hlo]
    refine ⟨(done.take d).flatMap started ++ pre.map (done[d].u, ·),
      post.map (done[d].u, ·) ++ (done.drop (d + 1)).flatMap started, ?_, fun op hop => ?_, post.length,
      by omega, fun _ => ?_, ?_⟩
    · rw [← append_assoc, append_assoc _ _ (map _ post), ← map_append, ← heq, append_assoc]
      conv_lhs => rw [← take_append_drop d done, drop_eq_getElem_cons hlt']
      rw [flatMap_append]
      rfl
    · obtain hop | hop := mem_append.mp hop
      · obtain ⟨o, ho, rfl⟩ := mem_map.mp hop
        exact not_brings_of_isWrite (hpost o ho)
      · have := h.le_of_started (d + 1) hop
        exact not_brings (by push_cast at this; omega)
    · rw [hlen, hd]
      rfl
    · rw [length_append, length_map, cast_add, h.length_started hlt']

lemma Ran.skippedWrites_modify (hp : k.prefetchedReads ≠ 0) (f : Int → Int) :
    skippedWrites { p with skippable := q.skippable.modify done.length f } (lastDataIter k done.length) =
      skippedWrites q (lastDataIter k done.length) := by
  simp only [skippedWrites, Array.size_modify, getD_modify]
  rw [if_neg]
  rintro ⟨heq, -⟩
  split at heq
  next hD =>
    have hp1 : k.prefetchedReads = 1 := hk.prefetchedReads.resolve_left hp
    have hle := dataIter_le_last k true done.length
    have hpos := served_pos k true
    have hbound := Int.lt_ediv_add_one_mul_self (done.length : Int) hpos
    have hserved := hk.served_lt hp1 true
    have hdiv : (done.length : Int) / served k true = 0 := by
      have := Int.ediv_nonneg (by omega : (0 : Int) ≤ done.length) hpos.le
      rw [dataIter] at hle
      omega
    rw [hdiv] at hbound
    have hone := hk.lastDataIter_nonneg (u := done.length) (by omega)
    rw [h.size] at heq
    omega
  · omega

/-- The wait of an iteration whose operands were all read in iterations before is early enough. -/
lemma Ran.counted_le_behindLast (hn : ∀ isA, 0 < n isA) (ho : o.Starts k x share) (ha : a.u = done.length) (hbefore : a.before = o.before.toList)
    (past : List (Int × Item)) (f : Int → Int) :
    counted k n { p with skippable := q.skippable.modify done.length f } o done.length ≤
      behindLast (brings k ofA done.length) (past ++ done.flatMap started ++ a.startedBefore) := by
  obtain ⟨pre, post, heq, hpost, skip, h0, hskip, hlen⟩ := h.split_started ofA hk hlt hlast
  have hcount := hk.counted_le (p := { p with skippable := q.skippable.modify done.length f }) (o := o) hn hlt hlast
    (by rw [ho.writes]; omega) h0 fun hp => by rw [h.skippedWrites_modify hk hlt hlast hp]; exact hskip hp
  have hfront := length_startedBefore (a := a) ho hbefore
  have hnone : ∀ op ∈ post ++ a.startedBefore, brings k ofA done.length op = false := by
    intro op hop
    obtain hop | hop := mem_append.mp hop
    · exact hpost op hop
    · obtain ⟨i, -, rfl⟩ := mem_map.mp hop
      exact not_brings (by simpa [ha] using hlast)
  rw [heq, ← append_assoc, append_assoc _ post, behindLast_append_none hnone, length_append]
  have hwrites : ∀ t, writesAt { p with skippable := q.skippable.modify done.length f } t = writesAt p t := fun _ => rfl
  simp only [hwrites] at hcount
  omega

end Ran

lemma countP_ofA (ofA : Item → Bool) (g : Bool → Bool) (l : Items) :
    l.countP (fun i => g (ofA i)) = (if g true then l.countP (ofA · == true) else 0) +
      (if g false then l.countP (ofA · == false) else 0) := by
  induction l with
  | nil => simp
  | cons i l ih =>
    rw [countP_cons, countP_cons, countP_cons, ih]
    cases ofA i <;> cases g true <;> cases g false <;> simp <;> omega

/-- The reads of an input that are not for the iteration itself are those that the count has. -/
lemma Checked.countedReads_own (h : Checked k m) (hlt : u < k.loopIters) (hlast : lastDataIter k u = u)
    (isA : Bool) : (if !feeds k isA u u then if readsInput k isA u then n isA else 0 else 0) =
      countedReads k n u isA + if readsInput k isA u then n isA else 0 := by
  have hle := dataIter_le_last k isA u
  have hend := h.dataIter_lt_readsEnd hlt isA
  rw [countedReads, hlast]
  by_cases hf : feeds k isA u u
  · have hd := (feeds_iff isA u u).mp hf
    rw [if_neg (by simp [hf]), if_neg (by omega), if_pos ((h.readsInput_iff isA u).mpr (.inl (by omega))),
      min_eq_left (by omega)]
    ring
  · have hd : u ≠ dataIter k isA u := fun hd => hf ((feeds_iff isA u u).mpr hd)
    have hbefore : dataIter k isA u < u := by omega
    rw [if_pos (by simp [hf]), if_pos hbefore, zero_add]

variable {ws : Items}

/-- The count of an iteration that reads its own operands: the reads that are not for it, and the writes. -/
lemma Checked.counted_own (h : Checked k m) (hp : k.prefetchedReads = 0) (hx : Fed k n ofA x)
    (hlt : x.u < k.loopIters) (hlast : lastDataIter k x.u = x.u) (ho : o.Starts k x share)
    (hbefore : localOps o.before.toList = readOps k x ++ ws) (hws : ∀ i ∈ ws, i.isWrite)
    (q : Pending) : counted k n q o x.u =
      ((readOps k x).countP fun i => !brings k ofA x.u (x.u, i) : Nat) +
        if 0 < k.scheduleLocalWrite then (ws.length : Int) else 0 := by
  have hreads : o.reads = ((readOps k x).length : Int) := by
    rw [ho.reads, hbefore, countP_append, countP_isRead_of_writes hws, countP_eq_length.mpr hx.reads]
    simp
  have hwrites : o.writes = (ws.length : Int) := by
    rw [ho.writes, hbefore, countP_append, countP_isWrite_of_reads hx.reads, countP_eq_length.mpr hws]
    simp
  have hother : (readOps k x).countP (fun i => !brings k ofA x.u (x.u, i)) =
      (readOps k x).countP fun i => !feeds k (ofA i) x.u x.u :=
    countP_congr fun i hi => by simp [brings, hx.reads i hi]
  have hA := h.countedReads_own (n := n) hlt hlast true
  have hB := h.countedReads_own (n := n) hlt hlast false
  have hlen := hx.length
  rw [← hx.each true] at hA hlen
  rw [← hx.each false] at hB hlen
  rw [hother, countP_ofA ofA fun isA => !feeds k isA x.u x.u, counted, Finset.Ico_eq_empty (by omega),
    Finset.sum_empty, cast_add, cast_ite, cast_ite, cast_zero]
  omega

lemma Fed.exists_read (hx : Fed k n ofA x) {isA : Bool} (hpos : 0 < n isA) (hr : readsInput k isA x.u) :
    ∃ i ∈ readOps k x, ofA i = isA := by
  have heach := hx.each isA
  rw [if_pos hr] at heach
  obtain ⟨i, hi, hof⟩ := countP_pos_iff.mp (by omega : 0 < (readOps k x).countP (ofA · == isA))
  exact ⟨i, hi, by simpa using hof⟩

lemma Fed.readsInput_of_mem (hx : Fed k n ofA x) {i : Item} (hi : i ∈ readOps k x) :
    readsInput k (ofA i) x.u := by
  have heach := hx.each (ofA i)
  have hpos : 0 < (readOps k x).countP (ofA · == ofA i) := countP_pos_iff.mpr ⟨i, hi, by simp⟩
  by_contra hr
  rw [if_neg hr] at heach
  omega

lemma Overtakes.lt (h : Checked k m) (hp : k.prefetchedReads = 0) (hx : Fed k n ofA x) (hu : 0 ≤ x.u)
    (hlt : x.u < k.loopIters) (hov : Overtakes k ofA x) : x.u + 1 < k.loopIters := by
  obtain ⟨a, b, hsub, ha, -⟩ := hov
  have hmem := hsub.subset (mem_cons_self ..)
  have hread := (h.readsInput_iff _ _).mp (hx.readsInput_of_mem hmem)
  have hmul := h.readsEnd_mul (ofA a)
  have hpos := served_pos k (ofA a)
  have hwide : served k (ofA a) ≠ 1 := by
    intro hone
    have hdata : x.u = dataIter k (ofA a) x.u := by rw [dataIter, hone, hp, Int.ediv_one, sub_zero]
    rw [brings, hx.reads a hmem, (feeds_iff _ _ _).mpr hdata] at ha
    cases ha
  have hle := Int.mul_le_mul (by omega : x.u + 1 ≤ readsEnd k (ofA a) + k.prefetchedReads)
    (by omega : 2 ≤ served k (ofA a)) (by omega) (by omega)
  omega

/-- The wait of an iteration that reads its own operands is early enough unless a read for a later
iteration overtakes one of them and the limit does not help. -/
lemma own_iff (h : Scheduled k m) (hplan : p.Planned k m) (hp : k.prefetchedReads = 0) (hn : ∀ isA, 0 < n isA)
    (hx : Fed k n ofA x) (hu : 0 ≤ x.u) (hlt : x.u < k.loopIters) (hlast : lastDataIter k x.u = x.u)
    (ho : o.Starts k x (p.writes.getD x.u.toNat [])) (ha : a.u = x.u)
    (hbefore : a.before = o.before.toList) (past : List (Int × Item)) (q : Pending) :
    min (counted k n q o x.u) limit ≤ behindLast (brings k ofA x.u) (past ++ a.startedBefore) ↔
      ¬(Overtakes k ofA x ∧ behindLast (brings k ofA x.u) (past ++ a.startedBefore) < limit) := by
  obtain ⟨ws, hfront, hws⟩ := ho.atOnce hp hlt
  have hexists : ∃ op ∈ (readOps k x).map (x.u, ·), brings k ofA x.u op := by
    obtain ⟨isA, hdata⟩ : ∃ isA, dataIter k isA x.u = x.u := by
      obtain hA | hB : dataIter k true x.u = x.u ∨ dataIter k false x.u = x.u := by
        rw [lastDataIter] at hlast
        omega
      · exact ⟨true, hA⟩
      · exact ⟨false, hB⟩
    have hend := h.dataIter_lt_readsEnd hlt isA
    obtain ⟨i, hi, rfl⟩ := hx.exists_read (hn isA) ((h.readsInput_iff isA _).mpr (.inl (by omega)))
    exact ⟨_, mem_map_of_mem hi, by rw [brings, hx.reads i hi, (feeds_iff _ _ _).mpr hdata.symm]; rfl⟩
  have hbehind : behindLast (brings k ofA x.u) (past ++ a.startedBefore) =
      behindLast (fun i => brings k ofA x.u (x.u, i)) (readOps k x) + ws.length := by
    have hnone : ∀ op ∈ ws.map (x.u, ·), brings k ofA x.u op = false := by
      intro op hop
      obtain ⟨i, hi, rfl⟩ := mem_map.mp hop
      exact not_brings_of_isWrite (hws i hi)
    rw [startedBefore, hbefore, ha, hfront, map_append, ← append_assoc, behindLast_append_none hnone,
      behindLast_append_some hexists, behindLast_map, length_map]
  have hiff := countP_le_behindLast_iff (q := fun i => brings k ofA x.u (x.u, i)) (readOps k x)
  rw [hbehind, h.counted_own hp hx hlt hlast ho hfront hws q]
  by_cases hov : Overtakes k ofA x
  · have hmore : ¬(_ ≤ _) := fun hc => hiff.mp hc hov
    simp only [hov, true_and]
    split
    · omega
    next hnot =>
      -- writes are not counted, but there are none either: all of them go with the last iteration
      have hnil : ws = [] := by
        have hall := ho.writesAll
        rw [hplan.atEnd hp (by have := h.writes; omega) _ (by have := hov.lt h.toChecked hp hx hu hlt; omega),
          localOps_append, countP_append, hfront, countP_append, countP_eq_length.mpr hws,
          localOps_nil, length_nil] at hall
        exact eq_nil_of_length_eq_zero (by omega)
      rw [hnil, length_nil]
      omega
  · have hall := hiff.mpr hov
    simp only [hov, false_and, not_false_eq_true, iff_true]
    split <;> omega

/-- The operations on local memory that are started up to the wait of an iteration, behind those of the
past. -/
def startedUpTo (past : List (Int × Item)) (done : List Arranged) (a : Arranged) : List (Int × Item) :=
  past ++ done.flatMap started ++ a.startedBefore

def onePerRead : MatrixSpec := { (default : MatrixSpec) with inputPerThread := 1, waveTile0 := 1, waveTile1 := 1 }

/-- A read serves two iterations for the first input, and one for the second. -/
def unevenKernel : KernelSpec :=
  { (default : KernelSpec) with
    matrix := some onePerRead, a := { (default : Input) with tlu := false }, b := { (default : Input) with tlu := true }
    innerUnroll := 1, localReadVectorWidth := 2, loopIters := 4, prefetchLocalRead := 4, prefetchGlobalRead := 1
    depthULdsDivisor := 1, scheduleIterAlg := 3 }

def unevenState : State :=
  let caps : Table := [(.str "MaxLgkmcnt", .int 15), (.str "MaxVmcnt", .int 63)]
  { session := { settings := [(.str "CurrentISA", .int 9), (.str "AsmCaps", .dict [(.int 9, .dict caps)])] }
    k := unevenKernel, name := "", asmCaps := caps
    a := { toInput := unevenKernel.a, readsPerIter := 1 }, b := { toInput := unevenKernel.b, readsPerIter := 1 } }

/-- One read for each input, which their latencies tell apart. -/
def unevenIter (u : Int) : Iter :=
  { u, reads := [modul "LocalReadDoA_I0" [.inst (.localRead 1) ""], modul "LocalReadDoB_I0" [.inst (.localRead 2) ""]]
    wait := .counts {} }

def isFirstInput : Item → Bool
  | .inst (.localRead 1) _ => true
  | _ => false

lemma unevenKernel_scheduled : Scheduled unevenKernel onePerRead := by
  refine ⟨⟨rfl, ?_, ?_, ?_, ?_, ?_, ?_, ?_⟩, ?_, ?_, ?_, ?_, ?_⟩ <;> decide

lemma unevenIter_fed (h : u = 0 ∨ u = 1) : Fed unevenKernel (fun _ => 1) isFirstInput (unevenIter u) := by
  have hreads : readOps unevenKernel (unevenIter u) = [.inst (.localRead 1) "", .inst (.localRead 2) ""] := rfl
  refine ⟨⟨rfl, rfl, rfl, rfl, rfl, nofun⟩, ?_, ?_, rfl⟩
  · simp [hreads, isRead]
  · rw [hreads]
    obtain rfl | rfl := h <;> decide

lemma unevenState_ready : Ready unevenKernel (fun _ => 1) 15 unevenState := ⟨rfl, rfl, rfl, rfl, rfl, rfl⟩

/-- The kernel's loop can be planned and its first iterations put in order; behind the read that brings
the operands of the second nothing is started before its wait. -/
lemma unevenKernel_runs : ∃ p st₁ a q st₂ b q' st₃, (spread {} 0 0).run unevenState = .ok p st₁ ∧
    (arrange p (unevenIter 0)).run unevenState = .ok (a, q) st₂ ∧
    (arrange q (unevenIter 1)).run unevenState = .ok (b, q') st₃ ∧
      behindLast (brings unevenKernel isFirstInput 1) (startedUpTo [] [a] b) = 0 :=
  ⟨_, _, _, _, _, _, _, _, rfl, rfl, rfl, by decide +kernel⟩

/-- **A wait comes early enough, except where a read is overtaken.** Let loads and writes be spread over the
iterations of a loop, and its iterations be put in order one after the other. Then the count of the wait of
an iteration is at most the number of operations on local memory that are started behind the last read that
brings its operands, whatever was started before the loop, exactly unless the iteration starts a read for a
later one in front of a read for itself and the limit of counts is above that number. -/
theorem wait_covers_iff (h : Scheduled k m) {kept : Pending} (hkept : kept.Kept) {first first' : State}
    (hfirst : first.k = k) {writeEnd part : Int} (hplan : (spread kept writeEnd part).run first = .ok p first')
    (hn : ∀ isA, 0 < n isA) (hrun : Arranges k n limit ofA p done q) (hx : Fed k n ofA x) (hu : x.u = done.length)
    (hlt : x.u < k.loopIters) {st st' : State} (hst : Ready k n limit st) {a : Arranged} {q' : Pending}
    (hstep : (arrange q x).run st = .ok (a, q') st') {w : Item.Wait} (hw : x.wait = .counts w)
    (past : List (Int × Item)) :
    ∃ w', a.wait = .counts w' ∧
      (w'.lgkmcnt ≤ behindLast (brings k ofA x.u) (startedUpTo past done a) ↔
        ¬(Overtakes k ofA x ∧ behindLast (brings k ofA x.u) (startedUpTo past done a) < limit)) := by
  have hp : p.Planned k m :=
    ((spread_ends (P := fun st => st.k = k) hkept (fun _ _ h => h) (fun _ h => h) h.matrix h.tiles
      (by have := h.iters; omega) h.whole h.alg h.tileAhead writeEnd part).of_ok hfirst hplan).2
  have hran := hrun.ran h hp hn
  rw [hran.plan] at hstep
  obtain ⟨-, o, ho, ha, hbefore, -, hq', hwait⟩ := (arrange_ends h hp hn hx (by omega) hlt q.skippable).of_ok hst hstep
  obtain ⟨w', hw', hcount⟩ := hwait w hw
  refine ⟨w', hw', ?_⟩
  rw [hcount, startedUpTo]
  have hle := lastDataIter_le k (u := x.u) (by omega)
  have hahead := h.prefetchedReads
  by_cases hlast : lastDataIter k x.u < x.u
  · -- the operands were read in iterations before
    have hnot : ¬Overtakes k ofA x := fun ⟨_, b, _, _, hb⟩ => by
      have hno : brings k ofA x.u (x.u, b) = false := not_brings hlast
      rw [hno] at hb
      cases hb
    rw [hu] at hlast hlt ha
    have hcovered := hran.counted_le_behindLast ofA h.toChecked hlt hlast hn ho ha hbefore past (· + o.skippable)
    rw [hq', hu, Int.toNat_natCast]
    simp only [hnot, false_and, not_false_eq_true, iff_true]
    exact (min_le_left _ _).trans hcovered
  · have hnone : k.prefetchedReads = 0 := by omega
    exact own_iff h hp hnone hn hx (by omega) hlt (by omega) ho ha hbefore _ _

/-- The second iteration of the kernel waits too late: a read for the third overtakes one for itself. -/
theorem unevenKernel_waits_late : ∃ p st₁ a q st₂ b q' st₃, (spread {} 0 0).run unevenState = .ok p st₁ ∧
    (arrange p (unevenIter 0)).run unevenState = .ok (a, q) st₂ ∧
    (arrange q (unevenIter 1)).run unevenState = .ok (b, q') st₃ ∧
    Overtakes unevenKernel isFirstInput (unevenIter 1) ∧ ∃ w, b.wait = .counts w ∧
      ¬w.lgkmcnt ≤ behindLast (brings unevenKernel isFirstInput 1) (startedUpTo [] [a] b) := by
  obtain ⟨p, st₁, a, q, st₂, b, q', st₃, hplan, ha, hb, hzero⟩ := unevenKernel_runs
  have hover : Overtakes unevenKernel isFirstInput (unevenIter 1) :=
    ⟨.inst (.localRead 1) "", .inst (.localRead 2) "", .refl _, by decide, by decide⟩
  have hkept : ({} : Pending).Kept :=
    ⟨nofun, nofun, nofun, rfl, by rintro _ ⟨⟩; exact nofun, by rintro _ ⟨⟩; exact nofun⟩
  obtain ⟨w, hw, hiff⟩ := wait_covers_iff unevenKernel_scheduled hkept rfl hplan (fun _ => Int.one_pos)
    (.step .start (unevenIter_fed (.inl rfl)) rfl (by decide) unevenState_ready ha) (unevenIter_fed (.inr rfl)) rfl
    (by decide) unevenState_ready hb rfl []
  refine ⟨p, st₁, a, q, st₂, b, q', st₃, hplan, ha, hb, hover, w, hw, fun hle => hiff.mp hle ⟨hover, ?_⟩⟩
  change (behindLast (brings unevenKernel isFirstInput 1) (startedUpTo [] [a] b) : Int) < 15
  rw [hzero]
  decide

end TensorForge.Assembly.Interleave
