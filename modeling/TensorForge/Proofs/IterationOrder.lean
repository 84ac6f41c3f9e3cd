import TensorForge.Proofs.Emitting
import TensorForge.Proofs.LocalOps

/-!
# What an iteration starts

Between the matrix instructions of an iteration its reads from local memory and its share of the writes
are placed, a few before each instruction. A step before one instruction starts some reads and some
writes, takes them off what is left and counts them; a run over all instructions starts every read.
The theorems say where the operations stand relative to the wait of the iteration and that the three
counts kept on the way are right.
-/

namespace TensorForge.Assembly

open Asm Asm.Item List Nat

/-- What an iteration has besides reads, loads and writes starts nothing on local memory. -/
structure Iter.Idle (x : Iter) : Prop where
  pointerWrites : localOps x.pointerWrites = []
  pointerReads : localOps x.pointerReads = []
  waitWrites : localOps x.waitWrites = []
  sync : localOps x.sync = []
  mac : localOps x.mac = []
  packs : ∀ p ∈ x.packs, localOps p.items = []

namespace Interleave

open Rest

lemma localReads_leaf {o : Item} (h : leaves o = [o]) : o.localReads = if o.isRead then 1 else 0 := by
  rw [localReads_eq, h, countP_singleton]

lemma takeReads_count (last : Bool) (left : Int) {l : Items} (hl : ∀ o ∈ l, leaves o = [o]) :
    (takeReads last left l).2.2 = ((takeReads last left l).1.countP isRead : Int) := by
  induction l generalizing left with
  | nil => rfl
  | cons i l ih =>
    rw [takeReads]
    split
    · rfl
    · have hi := localReads_leaf (hl i (by simp))
      have ih' := fun left => ih left fun o ho => hl o (by simp [ho])
      cases hr : i.isRead <;> simp [hi, hr, ih']

lemma takeReads_all (last : Bool) (left : Int) {l : Items} (hl : ∀ o ∈ l, leaves o = [o])
    (h : (l.countP isRead : Int) ≤ left) : (takeReads last left l).2.1.countP isRead = 0 := by
  induction l generalizing left with
  | nil => rfl
  | cons i l ih =>
    rw [takeReads]
    split
    next hc =>
      simp only [Bool.and_eq_true, beq_iff_eq] at hc
      show (i :: l).countP isRead = 0
      omega
    next =>
      have hi := localReads_leaf (hl i (by simp))
      have ih' := fun left => ih left fun o ho => hl o (by simp [ho])
      cases hr : i.isRead <;> simp only [hr, countP_cons] at h <;> simp only [hi, hr]
      · exact ih' left (by simpa using h)
      · exact ih' (left - 1) (by simp at h; omega)

variable {f : Items → Items} (hf : Sifts f) {P : State → Prop} {k : KernelSpec} {m : MatrixSpec} {s : Slots} {x : Iter} {c : Spot}
  {r r' : Rest} {first clear : Bool}

/-- Of an iteration only reads, loads and writes are seen. -/
structure Iter.Unseen (f : Items → Items) (x : Iter) : Prop where
  between : f (x.pointerWrites ++ x.pointerReads ++ (x.waitWrites ++ x.sync)) = []
  mac : f (leavesOf x.mac) = []
  packs : ∀ p ∈ x.packs, f (leavesOf p.items) = []

/-- What is placed at once before a matrix instruction, the reads `taken` and the rest: reads for the next tile come last. -/
def chunk (c : Spot) (taken rest : Items) : Items := if c.forNext then rest ++ taken else taken ++ rest

lemma appendList_assoc (code : Array Item) (a b : Items) : code ++ a ++ b = code ++ (a ++ b) :=
  Array.toList_inj.mp (by simp)

lemma Rest.put_put (r : Rest) (a b : Items) : (r.put a).put b = r.put (a ++ b) := by
  obtain ⟨_, _ | _⟩ := r <;> simp [put, appendList_assoc]

@[simp] lemma Rest.put_nil (r : Rest) : r.put [] = r := by
  obtain ⟨_, _ | _⟩ := r <;> simp [put]

lemma Rest.put_ite {p : Prop} [Decidable p] (r : Rest) (items : Items) :
    (if p then r.put items else r) = r.put (if p then items else []) := by
  split <;> simp

lemma Rest.putWrites_zero (r : Rest) : r.putWrites 0 first clear = r := by
  obtain ⟨_, _ | _⟩ := r <;> simp [putWrites, put, total]

lemma Rest.putWrites_add (r : Rest) (n m : Nat) :
    (r.putWrites n first clear).putWrites m first clear = r.putWrites (n + m) first clear := by
  have htake : r.writes.take (n + m) = r.writes.take n ++ (r.writes.drop n).take m := take_add
  obtain ⟨_, _ | _⟩ := r <;> cases first <;> cases clear <;>
    simp [putWrites, put, htake, total_eq_sum, Int.add_assoc, appendList_assoc]

/-- From `r` to `r'` the loads `loaded`, the first of those that are left, are placed. -/
def Rest.Loads (r r' : Rest) (loaded : Items) : Prop :=
  ∃ rest, r.loads = loaded ++ rest ∧ r' = { r with loads := rest }.put loaded

lemma Rest.Loads.trans {r1 r2 : Rest} {a b : Items} (h : r.Loads r1 a) (h' : r1.Loads r2 b) : r.Loads r2 (a ++ b) := by
  obtain ⟨rest, hrest, rfl⟩ := h
  obtain ⟨rest', hrest', rfl⟩ := h'
  refine ⟨rest', ?_, ?_⟩
  · rw [hrest, append_assoc]
    exact congrArg _ hrest'
  · rw [← put_put]
    rfl

lemma Rest.loads_moveLoads {p : Prop} [Decidable p] {f : Items → Items × Items}
    (h : (f r.loads).1 ++ (f r.loads).2 = r.loads) : ∃ loaded, r.Loads (if p then r.moveLoads f else r) loaded := by
  split
  · exact ⟨_, _, h.symm, rfl⟩
  · exact ⟨[], r.loads, rfl, (put_nil r).symm⟩

lemma Rest.loads_putLoads (k : KernelSpec) (s : Slots) (c : Spot) (r : Rest) : ∃ loaded, r.Loads (r.putLoads k s c) loaded ∧
    (c.index = s.loadEnd → Unloaded (r.putLoads k s c).loads) ∧ (c.last → (r.putLoads k s c).loads = []) := by
  have h1 : r.Loads (r.moveLoads (splitAt s.loadsPerStep.toNat)) _ := ⟨_, by simp [splitAt_eq], rfl⟩
  unfold putLoads
  generalize r.moveLoads (splitAt s.loadsPerStep.toNat) = q at *
  obtain ⟨_, h2⟩ : ∃ loaded, q.Loads (q.endLoads k s c) loaded :=
    loads_moveLoads (by split <;> simp [takeLoads_append])
  obtain ⟨_, h3⟩ := loads_moveLoads (r := q.endLoads k s c) (p := c.last) (f := (·, [])) (by simp)
  have hend : c.index = s.loadEnd → Unloaded (q.endLoads k s c).loads := fun hc => by
    unfold endLoads
    rw [if_pos (by simpa using hc)]
    split
    · exact nofun
    · exact unloaded_takeLoads q.loads
  refine ⟨_, (h1.trans h2).trans h3, fun hc => ?_, fun hc => by rw [hc]; rfl⟩
  split
  · exact nofun
  · exact hend hc

/-- All writes are placed at the place of the last, and a group of them from that of the first on when no
load stands in the way. -/
lemma Rest.putDue_eq (s : Slots) (c : Spot) (clear : Bool) (r : Rest) : ∃ n, r.putDue s c clear = r.putWrites n c.first clear ∧
    (c.index = s.writeEnd → r.writes.length ≤ n) ∧
    (s.writeStart ≤ c.index → Unloaded r.loads → s.writesPerStep.toNat ≤ n) ∧
    (0 < n → c.index = s.writeEnd ∨ Unloaded r.loads) := by
  have hgroup : ∃ n, r.putGroup s c clear = r.putWrites n c.first clear ∧
      (s.writeStart ≤ c.index → Unloaded r.loads → s.writesPerStep.toNat ≤ n) ∧ (0 < n → Unloaded r.loads) := by
    have hdue : (decide (c.index ≥ s.writeStart) && !r.loadsLeft) = true ↔ s.writeStart ≤ c.index ∧ Unloaded r.loads := by
      simp [← loadsLeft_eq_false]
    unfold putGroup
    split
    next h => exact ⟨_, rfl, fun _ _ => le_refl _, fun _ => (hdue.mp h).2⟩
    next h => exact ⟨0, r.putWrites_zero.symm, fun hc hu => absurd (hdue.mpr ⟨hc, hu⟩) h, nofun⟩
  obtain ⟨n, hn, hfew, hfree⟩ := hgroup
  unfold putDue
  rw [hn]
  split
  next h =>
    refine ⟨_, putWrites_add .., fun _ => ?_, fun hc hu => (hfew hc hu).trans (Nat.le_add_right _ _), fun _ => .inl (by simpa using h)⟩
    simp [putWrites, put]
    omega
  next h => exact ⟨n, rfl, fun hc => absurd (by simpa using hc) h, hfew, fun h => .inr (hfree h)⟩

section Packing

variable {Q : Item → Prop} {q : Packer}

lemma Packer.one_ends {per : Nat} (hq : ∀ i ∈ q.items, Q i) :
    Ends P (q.one per) fun t => (∀ i ∈ t.1, Q i) ∧ ∀ i ∈ t.2.items, Q i := by
  refine .ite' (fun _ => .throw' trivial _) fun _ => .pure' ⟨?_, ?_⟩
  · exact fun i hi => hq i (take_subset _ _ hi)
  · exact fun i hi => hq i (drop_subset _ _ hi)

variable (hplain : ∀ params c, Q (plain params c))

include hplain

lemma Packer.fill_ends {per : Nat} {need : Int} (fuel : Nat) {acc : Array Item} (hq : ∀ i ∈ q.items, Q i)
    (hacc : ∀ i ∈ acc.toList, Q i) :
    Ends P (fill per need fuel q acc) fun t => (∀ i ∈ t.1.toList, Q i) ∧ ∀ i ∈ t.2.items, Q i := by
  induction fuel generalizing q acc with
  | zero => exact .pure' ⟨hacc, hq⟩
  | succ fuel ih =>
    refine .ite' (fun _ => .pure' ⟨hacc, hq⟩) fun _ => .ite' (fun _ => ?_) fun _ => ?_
    · refine ih hq ?_
      rw [Array.toList_push]
      exact forall_mem_append.mpr ⟨hacc, by simp [hplain]⟩
    · refine .bind' (one_ends hq) fun t ht => ih ht.2 ?_
      rw [Array.toList_appendList]
      exact forall_mem_append.mpr ⟨hacc, ht.1⟩

/-- What is placed is packing code, a remark or waits. -/
lemma Packer.step_ends (htext : ∀ text, Q (comment0 text)) {a b : Side} {i : Int} (hq : ∀ i ∈ q.items, Q i) :
    Ends P (q.step k m a b i) fun t => (∀ i ∈ t.1.toList, Q i) ∧ ∀ i ∈ t.2.items, Q i := by
  refine .ite' (fun _ => .pure' ⟨nofun, hq⟩) fun _ => ?_
  refine .bind' .quotient' fun _ _ => .bind' .quotient' fun row _ => ?_
  refine .bind' (R := fun t : Array Item × Packer => (∀ i ∈ t.1.toList, Q i) ∧ ∀ i ∈ t.2.items, Q i) ?_ fun t ht =>
    fill_ends hplain _ ht.2 ht.1
  refine .foldlM_inv (fun _ (t : Array Item × Packer) => (∀ i ∈ t.1.toList, Q i) ∧ ∀ i ∈ t.2.items, Q i) ?_
    ⟨by simp [htext], hq⟩
  intro done b rest t _ ht
  refine .ite' (fun _ => .pure' ht) fun _ => .bind' (one_ends ht.2) fun t' ht' => ?_
  refine .pure' ⟨?_, ht'.2⟩
  rw [Array.toList_appendList]
  exact forall_mem_append.mpr ⟨ht.1, ht'.1⟩

omit hplain

lemma packOrder_ends {joinedA joinedB : Nat} {packs : List Packing} (h : ∀ p ∈ packs, ∀ i ∈ leavesOf p.items, Q i) :
    Ends P (packOrder k joinedA joinedB packs) fun all => ∀ i ∈ all, Q i := by
  have hleaves : ∀ name, ∀ i ∈ packLeaves packs name, Q i := by
    intro name
    unfold packLeaves
    split
    next p hp => exact h p (mem_of_find?_eq_some hp)
    next => exact nofun
  have hdealt : ∀ {rows per j : Nat} {first : Bool} {name : Text},
      ∀ i ∈ dealt rows per first j (packLeaves packs name), Q i := fun i hi => by
    simp only [dealt, mem_map, mem_filter] at hi
    obtain ⟨⟨j, e⟩, ⟨hj, -⟩, rfl⟩ := hi
    exact hleaves _ _ ((mem_zipIdx hj).2.2 ▸ getElem_mem _)
  refine .bind' (.mapM_all (Q := fun l => ∀ i ∈ l, Q i) fun i _ => ?_) fun rounds hr => .pure' ?_
  · refine .ite' (fun _ => .throw_bind trivial _ _) fun _ => .pure' ?_
    simp only [mem_flatMap, mem_append]
    rintro o ⟨j, -, ((ho | ho) | ho) | ho⟩ <;> exact hdealt o ho
  · intro o ho
    obtain ⟨l, hl, hol⟩ := mem_flatten.mp ho
    exact hr l hl o hol

end Packing

lemma readsBefore_ends {n i u count latency : Int} {reads : Items} {writes : Nat} {cost : Int} :
    Ends P (readsBefore k s n i u count latency reads writes cost) fun _ => True := by
  refine .bind' (.forIn_inv (Q := fun _ => True) (fun o _ t _ => ?_) trivial) fun t _ => ?_
  · refine .bind' (R := fun _ => True) ?_ fun l _ => ?_
    · unfold readLatency
      split
      · exact .pure' trivial
      · exact .pure' trivial
      · exact .throw' trivial _
    · exact .ite' (fun _ => .pure' trivial) fun _ => .pure' trivial
  · refine .ite' (fun _ => .ite' (fun _ => .pure' trivial) fun _ => .pure' trivial) fun _ => ?_
    exact .pure' trivial

lemma Rest.allowance_ends {u count latency cost i : Int} {r : Rest} :
    Ends P (r.allowance k m s c u count latency cost i) fun left => k.prefetchedReads = 0 → left = count := by
  refine .ite' (fun h => readsBefore_ends.mono fun _ _ h' => ?_) fun _ => .pure' fun _ => rfl
  simp [h'] at h

lemma Rest.checkBuffer_ends (hP : ∀ st, P st → P { st with overflowed := 5 }) {r : Rest} :
    Ends P (r.checkBuffer k s c) fun _ => True := by
  exact .ite' (fun _ => .modify' hP) fun _ => .pure' trivial

/-- A step before a matrix instruction places the reads `taken`, the loads `loaded` and the writes `written`, the first
of those that are left, and else nothing that is seen. -/
structure Rest.Steps (f : Items → Items) (s : Slots) (c : Spot) (left : Int) (r r' : Rest) (taken loaded written : Items) : Prop where
  waited : r'.waited = (c.first || r.waited)
  reads : r.reads = taken ++ r'.reads
  loads : r.loads = loaded ++ r'.loads
  writes : r.writes = written ++ r'.writes
  front : f r'.out.before.toList =
    f r.out.before.toList ++ if r.waited then [] else f (chunk c taken (loaded ++ written))
  rear : f r'.out.after.toList = f r.out.after.toList ++ if r.waited then f (chunk c taken (loaded ++ written)) else []
  gains : Gains s c r.loads r'.loads r.writes r'.writes
  free : written ≠ [] → c.index = s.writeEnd ∨ Unloaded r'.loads
  emptied : c.last → r'.reads = []
  /-- No read is left when all may be taken. -/
  done : (∀ o ∈ r.reads, leaves o = [o]) → c.forNext = false → (r.reads.countP isRead : Int) ≤ left →
    r'.reads.countP isRead = 0
  outReads : (∀ o ∈ r.reads, leaves o = [o]) →
    r'.out.reads = r.out.reads + if c.first then (taken.countP isRead : Int) else 0
  outWrites : r'.out.writes = r.out.writes + if c.first then ((localOps written).countP isWrite : Int) else 0
  outSkippable : r'.out.skippable = r.out.skippable +
    if c.forNext || r'.reads.isEmpty then ((localOps written).countP isWrite : Int) else 0

include hf

lemma Rest.front_put (r : Rest) (items : Items) :
    f (r.put items).out.before.toList = f r.out.before.toList ++ (if r.waited then [] else f items) ∧
      f (r.put items).out.after.toList = f r.out.after.toList ++ (if r.waited then f items else []) := by
  cases hw : r.waited <;> simp [put, hw, hf.append]

lemma Rest.front_put_unseen {items : Items} (h : f items = []) (r : Rest) :
    f (r.put items).out.before.toList = f r.out.before.toList ∧
      f (r.put items).out.after.toList = f r.out.after.toList := by
  simpa [h] using front_put hf r items

variable (hx : Iter.Unseen f x)

include hx

/-- All but the reads before a matrix instruction: loads, the first `n` writes, and what the view does not see. -/
lemma Rest.putOthers_eq (clear : Bool) (r : Rest) :
    ∃ loaded n more q, r.Loads q loaded ∧ r.putOthers k s x c clear = (q.putWrites n c.first clear).put more ∧
      f more = [] ∧ (0 < n → c.index = s.writeEnd ∨ Unloaded q.loads) ∧ Gains s c r.loads q.loads r.writes (r.writes.drop n) := by
  obtain ⟨loaded, hload, hend, hlast⟩ := loads_putLoads k s c r
  obtain ⟨n, hdue, hall, hgroup, hfree⟩ := putDue_eq s c clear (r.putLoads k s c)
  have heq : r.putOthers k s x c clear = ((r.putLoads k s c).putWrites n c.first clear).put
      ((if c.index == s.writeEnd then x.pointerWrites else []) ++ (if c.last then x.pointerReads else []) ++
        if c.index == s.barrier && k.prefetchedReads != 0 then x.waitWrites ++ x.sync else []) := by
    unfold putOthers
    simp only [hdue, put_ite]
    rw [put_put, put_put, append_assoc]
  refine ⟨loaded, n, _, _, hload, heq, ?_, hfree, ?_⟩
  · refine hf.of_subset (fun i hi => ?_) hx.between
    grind
  · obtain ⟨rest, hrest, hq⟩ := hload
    have hsub : rest ⊆ r.loads := by
      rw [hrest]
      exact subset_append_right _ _
    rw [hq] at hend hlast hall hgroup ⊢
    refine ⟨hsub, drop_suffix n _, fun hc => drop_eq_nil_of_le (hall hc), hend, hlast, fun hc hor => ?_⟩
    rw [length_drop]
    exact Nat.sub_le_sub_left (hgroup hc (hor.elim (fun hu i hi => hu i (hsub hi)) hend)) _

/-- What is placed before a matrix instruction; the wait stands behind what comes before the first. -/
lemma Rest.place_eq (left : Int) (r : Rest) :
    ∃ loaded rest n more, r.loads = loaded ++ rest ∧ f more = [] ∧ (0 < n → c.index = s.writeEnd ∨ Unloaded rest) ∧
      Gains s c r.loads rest r.writes (r.writes.drop n) ∧
      let t := takeReads c.last left r.reads
      let written : Int := total Item.localWrites (r.writes.take n)
      r.place k s x c left = { r with
        out := { (r.put (chunk c t.1 (loaded ++ r.writes.take n ++ more))).out with
          reads := if c.first then r.out.reads + t.2.2 else r.out.reads
          writes := if c.first then r.out.writes + written else r.out.writes
          skippable := if c.forNext || t.2.1.isEmpty then r.out.skippable + written else r.out.skippable }
        waited := c.first || r.waited, reads := t.2.1, loads := rest, writes := r.writes.drop n } := by
  have hwait : ∀ q : Rest, (if c.first then { q with waited := true } else q) = { q with waited := c.first || q.waited } :=
    fun q => by cases c.first <;> rfl
  unfold place chunk
  cases hc : c.forNext with
  | true =>
    obtain ⟨loaded, n, more, q, ⟨rest, hrest, rfl⟩, heq, hmore, hfree, hg⟩ := putOthers_eq (k := k) hf hx true r
    refine ⟨loaded, rest, n, more, hrest, hmore, hfree, hg, ?_⟩
    simp only [heq, hwait]
    cases hw : r.waited <;> simp [putReads, putWrites, put, hw, appendList_assoc]
  | false =>
    obtain ⟨loaded, n, more, q, ⟨rest, hrest, rfl⟩, heq, hmore, hfree, hg⟩ :=
      putOthers_eq (k := k) hf hx (r.putReads c left).reads.isEmpty (r.putReads c left)
    refine ⟨loaded, rest, n, more, hrest, hmore, hfree, hg, ?_⟩
    simp only [heq, hwait]
    cases hw : r.waited <;> simp [putReads, putWrites, put, hw, appendList_assoc]

lemma Rest.steps_place (left : Int) (r : Rest) :
    (∃ taken loaded written, r.Steps f s c left (r.place k s x c left) taken loaded written) ∧
      (r.place k s x c left).mac = r.mac ∧ (r.place k s x c left).packer = r.packer := by
  obtain ⟨loaded, rest, n, more, hrest, hmore, hfree, hgains, heq⟩ := place_eq (k := k) (s := s) (c := c) hf hx left r
  have hchunk : f (chunk c (takeReads c.last left r.reads).1 (loaded ++ r.writes.take n ++ more)) =
      f (chunk c (takeReads c.last left r.reads).1 (loaded ++ r.writes.take n)) := by
    unfold chunk
    split <;> simp only [hf.append, hmore, append_nil]
  have hput := front_put hf r (chunk c (takeReads c.last left r.reads).1 (loaded ++ r.writes.take n ++ more))
  rw [hchunk] at hput
  rw [heq]
  refine ⟨⟨_, loaded, r.writes.take n, rfl, (takeReads_append c.last left r.reads).symm, hrest, (take_append_drop ..).symm,
    hput.1, hput.2, hgains, fun h => hfree (Nat.pos_of_ne_zero ?_), ?_, fun hl _ => takeReads_all c.last left hl,
    fun hl => ?_, ?_, ?_⟩, rfl, rfl⟩
  · rintro rfl
    exact h rfl
  · intro h
    simp only [h]
    exact takeReads_last left r.reads
  · rw [← takeReads_count c.last left hl]
    cases c.first <;> simp
  · rw [← total_localWrites]
    cases c.first <;> simp
  · rw [← total_localWrites]
    cases c.forNext || (takeReads c.last left r.reads).2.1.isEmpty <;> simp

omit hx

/-- What comes before and after what is placed, a title and the packing and the instruction itself, is not seen. -/
lemma Rest.Steps.between {left : Int} {q : Rest} {title items taken loaded written : Items} {packer : Packer}
    (hs : (r.put title).Steps f s c left q taken loaded written) (ht : f title = []) (hi : f items = [])
    (hp : f packer.items = []) (hm : f q.mac = []) : r.Steps f s c left (q.finish c.last items packer) taken loaded written := by
  have hopt : f (opt c.last packer.items) = [] := hf.of_subset (by unfold opt; split; exacts [.refl _, nil_subset _]) hp
  have hpost : f (items ++ opt c.last packer.items ++ q.mac.take 1) = [] := by
    rw [hf.append, hf.append, hi, hopt, hf.of_subset (take_subset 1 _) hm]
    rfl
  obtain ⟨hfront, hrear⟩ := front_put_unseen hf ht r
  exact { hs with
    front := (front_put_unseen hf hpost _).1.trans (hfront ▸ hs.front)
    rear := (front_put_unseen hf hpost _).2.trans (hrear ▸ hs.rear) }

include hx

/-- What a step before matrix instruction `i` does; without read ahead all reads may be taken. -/
lemma Rest.step_ends (hP : ∀ st, P st → P { st with overflowed := 5 })
    {a b : Side} {latency count : Int}
    (hm : f r.mac = []) (hp : f r.packer.items = []) (i : Int) :
    Ends P (r.step k m s a b latency x count i) fun r' => f r'.mac = [] ∧ f r'.packer.items = [] ∧
      ∃ left taken loaded written, (k.prefetchedReads = 0 → left = count) ∧
        r.Steps f s (spotOf k m x.u i) left r' taken loaded written := by
  refine .bind' allowance_ends fun left hleft => .bind' (checkBuffer_ends hP) fun _ _ => ?_
  obtain ⟨⟨taken, loaded, written, hs⟩, hmac, hpacker⟩ := steps_place (k := k) (s := s) (c := spotOf k m x.u i) hf hx left
    (r.put [comment0 s!" mfmaIndex:{(spotOf k m x.u i).index} "])
  refine .bind' (Packer.step_ends hf.plain hf.remark (hf.eq_nil_iff.mp (hpacker ▸ hp))) fun t ht => .pure' ?_
  have ht' := hf.eq_nil_iff.mpr ht.2
  have hm' : f (place k s x _ left _).mac = [] := hmac ▸ hm
  exact ⟨hf.of_subset (drop_subset 1 _) hm', hf.of_subset (drop_subset _ _) ht', left, taken, loaded, written, hleft,
    hs.between hf (hf.remark _) (hf.eq_nil_iff.mpr ht.1) ht' hm'⟩

/-- **What a run over all matrix instructions of an iteration keeps.** -/
lemma betweenMatrices_meets (hP : ∀ st, P st → P { st with overflowed := 5 }) {I : Nat → Rest → Prop} {p : Pending}
    {loads writes : Items} (hs : p.slots = some s) (hm : k.matrix = some m)
    (hstart : ∀ head mac packer, f head = [] →
      I 0 { out := { before := head.toArray }, reads := readOrder k x.reads, loads, writes, mac, packer })
    (hstep : ∀ {i : Nat} {r r' taken loaded written} {left : Int}, (i : Int) < matricesPerIter k m → I i r →
      (k.prefetchedReads = 0 → left = total Item.localReads x.reads) →
      r.Steps f s (spotOf k m x.u i) left r' taken loaded written → I (i + 1) r') :
    Ends P (betweenMatrices k p x loads writes) fun o => ∃ r, I (matricesPerIter k m).toNat r ∧ r.out = o := by
  unfold betweenMatrices
  simp only [hs, hm]
  refine .look fun a => .look fun b => .look fun l =>
    .bind' (packOrder_ends fun p hp => hf.eq_nil_iff.mp (hx.packs p hp)) fun packs hpacks => ?_
  refine .bind' (.foldlM_upTo (fun i r => I i r ∧ f r.mac = [] ∧ f r.packer.items = []) ?_ ?_) fun r hr => .pure' ⟨r, hr.1, rfl⟩
  · rintro i r hi ⟨hI, hm, hp⟩
    refine (step_ends hf hx hP hm hp i).mono fun r' => ?_
    rintro ⟨hm', hp', left, taken, loaded, written, hleft, hst⟩
    exact ⟨hstep hi hI hleft hst, hm', hp'⟩
  · refine ⟨hstart [_, _] _ _ ?_, hf.of_subset (drop_subset 1 _) hx.mac, hf.eq_nil_iff.mpr hpacks⟩
    rw [← singleton_append, hf.append, hf.remark, hf.remark]
    rfl

omit hf hx

/-- What is left to be placed is what it should be: single reads, writes, and loads that start nothing on local
memory. -/
structure Rest.Proper (r : Rest) : Prop where
  leaves : ∀ o ∈ r.reads, leaves o = [o]
  reads : ∀ o ∈ localOps r.reads, o.isRead
  writes : OnlyWrites r.writes
  loads : localOps r.loads = []

/-- The operations in front of the wait, those behind it, and all of them. -/
abbrev Rest.front (r : Rest) : Items := localOps r.out.before.toList

@[inherit_doc front] abbrev Rest.rear (r : Rest) : Items := localOps r.out.after.toList

@[inherit_doc front] def Rest.whole (r : Rest) : Items := r.front ++ r.rear

lemma countP_chunk (q : Item → Bool) (c : Spot) (a b : Items) : (chunk c a b).countP q = a.countP q + b.countP q := by
  unfold chunk
  split <;> simp [add_comm]

section Steps

variable {left : Int} {taken loaded written : Items} (h : r.Steps localOps s c left r' taken loaded written) (hr : r.Proper)

include h hr

lemma Rest.Steps.proper : r'.Proper where
  leaves o ho := hr.leaves o (by rw [h.reads]; simp [ho])
  reads o ho := hr.reads o (by rw [h.reads]; simp [ho])
  writes o ho := hr.writes o (by rw [h.writes]; simp [ho])
  loads := localOps_sifts.of_subset h.gains.loads hr.loads

lemma Rest.Steps.taken_reads : ∀ o ∈ localOps taken, o.isRead := fun o ho => hr.reads o (by rw [h.reads]; simp [ho])

lemma Rest.Steps.written_writes : OnlyWrites written := fun o ho => hr.writes o (by rw [h.writes]; simp [ho])

lemma Rest.Steps.starts :
    r'.front = r.front ++ (if r.waited then [] else chunk c (localOps taken) (localOps written)) ∧
      r'.rear = r.rear ++ if r.waited then chunk c (localOps taken) (localOps written) else [] := by
  have hloads := hr.loads
  rw [h.loads, localOps_append, append_eq_nil_iff] at hloads
  have hops : localOps (chunk c taken (loaded ++ written)) = chunk c (localOps taken) (localOps written) := by
    unfold chunk
    split <;> simp [hloads.1]
  exact hops ▸ ⟨h.front, h.rear⟩

lemma Rest.Steps.whole_eq (hw : r.waited = false → r.rear = []) :
    r'.whole = r.whole ++ chunk c (localOps taken) (localOps written) := by
  unfold whole
  rw [(h.starts hr).1, (h.starts hr).2]
  cases hr : r.waited with
  | true => simp
  | false => simp [hw hr]

end Steps

abbrev readOps (k : KernelSpec) (x : Iter) : Items := localOps (readOrder k x.reads)

/-- The state before matrix instruction `i` of iteration `x`. What was started and what is left make up
all reads and writes; `out` counts what stands in front of the wait, and the writes that came when no
read was left. Without read ahead all reads stand in front of the wait, before any write. -/
structure Rest.Upto (k : KernelSpec) (m : MatrixSpec) (s : Slots) (x : Iter) (writes : Items) (i : Nat)
    (r : Rest) : Prop where
  proper : r.Proper
  waited : r.waited = decide (0 < i)
  start : i = 0 → r.front = [] ∧ r.rear = [] ∧ r.reads = readOrder k x.reads
  readsFront : r.out.reads = (r.front.countP isRead : Int)
  writesFront : r.out.writes = (r.front.countP isWrite : Int)
  readsAll : (readOps k x).length = r.whole.countP isRead + (localOps r.reads).length
  writesAll : (localOps writes).length = r.whole.countP isWrite + (localOps r.writes).length
  tail : x.u < k.loopIters - k.prefetchedReads → ∃ pre post, r.whole = pre ++ post ∧
    (∀ o ∈ post, o.isWrite) ∧ (post.length : Int) = r.out.skippable ∧ (r.reads ≠ [] → post = [])
  atOnce : k.prefetchedReads = 0 → x.u < k.loopIters → 0 < i →
    ∃ ws, r.front = readOps k x ++ ws ∧ ∀ o ∈ ws, o.isWrite
  emptied : (i : Int) = matricesPerIter k m → r.reads = []
  room : Room s (matricesPerIter k m) x.u i r.loads r.writes

section Next

variable {writes taken loaded written : Items} {i : Nat} {left : Int}

lemma Rest.Upto.rear_eq (h : r.Upto k m s x writes i) (hw : r.waited = false) : r.rear = [] := by
  rw [h.waited, decide_eq_false_iff_not] at hw
  exact (h.start (by omega)).2.1

/-- The writes behind the last read of the iteration stay behind it. -/
lemma Rest.Upto.tail_next (h : r.Upto k m s x writes i) (hs : r.Steps localOps s (spotOf k m x.u i) left r' taken loaded written)
    (hu : x.u < k.loopIters - k.prefetchedReads) : ∃ pre post, r'.whole = pre ++ post ∧
      (∀ o ∈ post, o.isWrite) ∧ (post.length : Int) = r'.out.skippable ∧ (r'.reads ≠ [] → post = []) := by
  obtain ⟨pre, post, hwhole, hpost, hlen, hnil⟩ := h.tail hu
  have hnext : (spotOf k m x.u i).forNext = false := by simp [spotOf]; omega
  have hw := hs.written_writes h.proper
  have hwhole' := hs.whole_eq h.proper h.rear_eq
  rw [chunk, hnext, hwhole] at hwhole'
  have hskip := hs.outSkippable
  rw [hnext, countP_eq_length.mpr hw] at hskip
  by_cases hr : r.reads = []
  · -- nothing is left to read, so all that is placed comes behind the last read
    have ht : taken = [] ∧ r'.reads = [] := by
      have := hs.reads
      rw [hr] at this
      exact append_eq_nil_iff.mp this.symm
    refine ⟨pre, post ++ localOps written, ?_, ?_, ?_, fun h => absurd ht.2 h⟩
    · simp [hwhole', ht.1]
    · intro o ho
      exact (mem_append.mp ho).elim (hpost o) (hw o)
    · rw [hskip, ht.2, ← hlen]
      simp
  · rw [hnil hr] at hwhole' hlen
    by_cases hr' : r'.reads = []
    · refine ⟨pre ++ localOps taken, localOps written, ?_, hw, ?_, fun h => absurd hr' h⟩
      · simp [hwhole']
      · rw [hskip, hr', ← hlen]
        simp
    · refine ⟨r'.whole, [], by simp, by simp, ?_, fun _ => rfl⟩
      rw [hskip, ← hlen]
      simp [hr']

/-- Without read ahead the first step starts all reads, and the writes behind them. -/
lemma Rest.Upto.atOnce_next (h : r.Upto k m s x writes i) (hs : r.Steps localOps s (spotOf k m x.u i) left r' taken loaded written)
    (hleft : k.prefetchedReads = 0 → left = total Item.localReads x.reads)
    (hcount : (readOps k x).length ≤ total Item.localReads x.reads) (h0 : k.prefetchedReads = 0) (hu : x.u < k.loopIters) : ∃ ws, r'.front = readOps k x ++ ws ∧ ∀ o ∈ ws, o.isWrite := by
  have hnext : (spotOf k m x.u i).forNext = false := by simp [spotOf]; omega
  obtain rfl | hi := Nat.eq_zero_or_pos i
  · obtain ⟨hfront, -, hreads⟩ := h.start rfl
    have hall : r.reads.countP isRead = (readOps k x).length := by
      rw [← countP_isRead_leaves h.proper.leaves, hreads]
      exact countP_eq_length.mpr (hreads ▸ h.proper.reads)
    have hrest : localOps r'.reads = [] := by
      have hzero := hs.done h.proper.leaves hnext (by rw [hall, hleft h0]; exact_mod_cast hcount)
      have hr' := hs.proper h.proper
      rw [← countP_isRead_leaves hr'.leaves, countP_eq_length.mpr hr'.reads] at hzero
      exact length_eq_zero_iff.mp hzero
    refine ⟨localOps written, ?_, hs.written_writes h.proper⟩
    rw [(hs.starts h.proper).1, h.waited, hfront, readOps, ← hreads, hs.reads, localOps_append, hrest, chunk, hnext]
    simp
  · rw [(hs.starts h.proper).1, h.waited]
    simpa [hi] using h.atOnce h0 hu hi

lemma Rest.Upto.front_next (h : r.Upto k m s x writes i) (hs : r.Steps localOps s (spotOf k m x.u i) left r' taken loaded written) :
    r'.out.reads = (r'.front.countP isRead : Int) ∧ r'.out.writes = (r'.front.countP isWrite : Int) := by
  have htaken := hs.taken_reads h.proper
  have hwritten := hs.written_writes h.proper
  have hl : ∀ o ∈ taken, leaves o = [o] := fun o ho => h.proper.leaves o (by rw [hs.reads]; simp [ho])
  rw [hs.outReads h.proper.leaves, hs.outWrites, (hs.starts h.proper).1, h.waited, h.readsFront, h.writesFront]
  obtain rfl | hi := Nat.eq_zero_or_pos i
  · rw [(h.start rfl).1]
    simp [spotOf, countP_chunk, countP_isRead_of_writes hwritten, countP_isWrite_of_reads htaken,
      countP_isRead_leaves hl]
  · have hfirst : (spotOf k m x.u i).first = false := by simp [spotOf]; omega
    simp [hi, hfirst]

lemma Rest.Upto.next (h : r.Upto k m s x writes i) (hi : (i : Int) < matricesPerIter k m)
    (hs : r.Steps localOps s (spotOf k m x.u i) left r' taken loaded written)
    (hleft : k.prefetchedReads = 0 → left = total Item.localReads x.reads)
    (hcount : (readOps k x).length ≤ total Item.localReads x.reads) : r'.Upto k m s x writes (i + 1) := by
  have htaken := hs.taken_reads h.proper
  have hwritten := hs.written_writes h.proper
  refine ⟨hs.proper h.proper, ?_, by simp, (h.front_next hs).1, (h.front_next hs).2, ?_, ?_, h.tail_next hs,
    fun h0 hu _ => h.atOnce_next hs hleft hcount h0 hu, ?_, ?_⟩
  · rw [hs.waited, h.waited]
    obtain rfl | hi := Nat.eq_zero_or_pos i <;> simp [spotOf, *]
  · rw [h.readsAll, hs.whole_eq h.proper h.rear_eq, countP_append, countP_chunk, countP_eq_length.mpr htaken,
      countP_isRead_of_writes hwritten, hs.reads, localOps_append, length_append]
    omega
  · rw [h.writesAll, hs.whole_eq h.proper h.rear_eq, countP_append, countP_chunk, countP_eq_length.mpr hwritten,
      countP_isWrite_of_reads htaken, hs.writes, localOps_append, length_append]
    omega
  · intro he
    exact hs.emptied (by simp [spotOf]; omega)
  · exact_mod_cast Room.step hi rfl hs.gains h.room

end Next

/-- What an iteration is given: reads that are reads, writes that are writes, and else nothing that is
started on local memory. -/
structure Given (k : KernelSpec) (x : Iter) (loads writes : Items) : Prop where
  idle : x.Idle
  reads : ∀ o ∈ readOps k x, o.isRead
  count : (readOps k x).length ≤ total Item.localReads x.reads
  loads : localOps loads = []
  writes : OnlyWrites writes

/-- What an iteration in its order starts: the counts are those of what stands in front of the wait,
every read and write it is given is started, and as many writes as are called skippable come behind the
last read of this tile. Without read ahead all reads stand in front of the wait, before any write. -/
structure Ordered.Starts (k : KernelSpec) (x : Iter) (share : Items) (o : Ordered) : Prop where
  reads : o.reads = ((localOps o.before.toList).countP isRead : Int)
  writes : o.writes = ((localOps o.before.toList).countP isWrite : Int)
  readsAll : (localOps (o.before.toList ++ o.after.toList)).countP isRead = (readOps k x).length
  writesAll : (localOps (o.before.toList ++ o.after.toList)).countP isWrite = (localOps share).length
  tail : x.u < k.loopIters - k.prefetchedReads → ∃ pre post,
    localOps (o.before.toList ++ o.after.toList) = pre ++ post ∧ (∀ i ∈ post, i.isWrite) ∧
      (post.length : Int) = o.skippable
  atOnce : k.prefetchedReads = 0 → x.u < k.loopIters →
    ∃ ws, localOps o.before.toList = readOps k x ++ ws ∧ ∀ i ∈ ws, i.isWrite

/-- **What an iteration starts when its operations are placed between matrix instructions.** -/
lemma betweenMatrices_ends (hP : ∀ st, P st → P { st with overflowed := 5 }) {p : Pending}
    {loads writes : Items} (hs : p.slots = some s) (hm : k.matrix = some m) (hn : 0 < matricesPerIter k m)
    (hg : Given k x loads writes) (hroom : Room s (matricesPerIter k m) x.u 0 loads writes) :
    Ends P (betweenMatrices k p x loads writes) fun o => o.Starts k x writes := by
  refine (betweenMatrices_meets localOps_sifts ⟨?_, (localOps_leavesOf _).trans hg.idle.mac,
    fun p hp => (localOps_leavesOf _).trans (hg.idle.packs p hp)⟩ hP (I := Upto k m s x writes) hs hm (fun head mac packer hhead => ?_)
    fun hi hr hleft hst => hr.next hi hst hleft hg.count).mono ?_
  · simp [hg.idle.pointerWrites, hg.idle.pointerReads, hg.idle.waitWrites, hg.idle.sync]
  · refine ⟨⟨leaves_of_mem_leavesOf _, hg.reads, hg.writes, hg.loads⟩, rfl, fun _ => ⟨hhead, rfl, rfl⟩, ?_, ?_, ?_, ?_,
      fun _ => ⟨[], [], ?_, by simp, rfl, fun _ => rfl⟩, by omega, by omega, hroom⟩ <;> simp [whole, rear, hhead]
  · rintro _ ⟨r, hr, rfl⟩
    have hwhole : r.whole = localOps (r.out.before.toList ++ r.out.after.toList) := (localOps_append _ _).symm
    have hroom' := hr.room
    rw [Int.toNat_of_nonneg (by omega)] at hroom'
    have hreads := hr.readsAll
    have hwrites := hr.writesAll
    rw [hr.emptied (by omega), hwhole] at hreads
    rw [hroom'.done, hwhole] at hwrites
    refine ⟨hr.readsFront, hr.writesFront, by simpa using hreads.symm, by simpa using hwrites.symm, fun hu => ?_,
      fun h0 hu => hr.atOnce h0 hu (by omega)⟩
    · obtain ⟨pre, post, hpre, hpost, hlen, -⟩ := hr.tail hu
      exact ⟨pre, post, hwhole ▸ hpre, hpost, hlen⟩

end Interleave

end TensorForge.Assembly
