import TensorForge.Proofs.IterationOrder

/-!
# Loads before writes

Of the code of an iteration only the items that load from global memory or write to local memory matter here. However
an iteration is put in order, its share of the loads comes first and its share of the writes behind them.
-/

namespace TensorForge.Assembly.Interleave

open Asm Asm.Item ForInStep List Ordered Spread

/-- The items that load or write. -/
def moved (l : Items) : Items := l.filter moves

@[simp] lemma moved_nil : moved [] = [] := rfl

@[simp] lemma moved_append (a b : Items) : moved (a ++ b) = moved a ++ moved b := filter_append ..

variable {l : Items}

lemma moved_eq_nil : moved l = [] ↔ ∀ i ∈ l, moves i = false := by simp [moved]

lemma moved_sifts : Sifts moved := ⟨moved_append, fun _ => rfl, fun _ _ => rfl⟩

lemma moves_eq_false {i : Item} : moves i = false ↔ i.localWrites = 0 ∧ i.globalReads = 0 := by
  simp [moves]

lemma moved_leavesOf (h : moved l = []) : moved (leavesOf l) = [] := by
  rw [moved_eq_nil] at h ⊢
  intro o ho
  obtain ⟨i, hi, hoi⟩ := mem_leavesOf.mp ho
  have hself := leaves_of_mem_leavesOf l o ho
  simp only [moves_eq_false, Item.localWrites, Item.globalReads, countLeaves, countP_eq_zero] at h ⊢
  rw [hself]
  exact ⟨fun a ha => mem_singleton.mp ha ▸ (h i hi).1 o hoi, fun a ha => mem_singleton.mp ha ▸ (h i hi).2 o hoi⟩

/-- What starts nothing on local memory moves nothing if it loads nothing. -/
lemma moved_eq_nil_of_unloaded (hl : localOps l = []) (h : Unloaded l) : moved l = [] := by
  rw [moved_eq_nil]
  intro i hi
  refine moves_eq_false.mpr ⟨?_, h i hi⟩
  have hw := total_localWrites [i]
  rw [localOps_sifts.eq_nil_iff.mp hl i hi] at hw
  simpa [total] using hw

/-- The code of an iteration besides its share of loads and writes. -/
def ownCode (x : Iter) : Items :=
  x.reads ++ x.waitWrites ++ x.sync ++ x.pointerWrites ++ x.pointerReads ++ x.packs.map Packing.item ++ x.mac

def Ordered.code (o : Ordered) : Items := o.before.toList ++ o.after.toList

variable {P : State → Prop} {k : KernelSpec} {m : MatrixSpec} {s : Slots} {x : Iter} {loads writes all : Items}

lemma moved_inTurn (hx : moved (ownCode x) = []) :
    moved (inTurn x loads writes).code = moved loads ++ moved writes := by
  simp only [ownCode, moved_append, append_eq_nil_iff] at hx
  simp [code, inTurn, hx]

lemma splitReads_append (n : Nat) (l : Items) : (splitReads n l).1 ++ (splitReads n l).2 = l := by
  fun_induction splitReads n l <;> simp_all

lemma moved_betweenReads (hx : moved (ownCode x) = []) :
    moved (betweenReads x loads writes).code = moved loads ++ moved writes := by
  simp only [ownCode, moved_append, append_eq_nil_iff] at hx
  have hsplit : ∀ n, moved (splitReads n (leavesOf x.reads)).1 = [] ∧ moved (splitReads n (leavesOf x.reads)).2 = [] :=
    fun n => by rw [← append_eq_nil_iff, ← moved_append, splitReads_append, moved_leavesOf hx.1.1.1.1.1.1]
  unfold code betweenReads
  dsimp only
  split
  · simp [hx, hsplit]
  · simp [hx, moved_leavesOf]

lemma raised_ends (hx : moved (ownCode x) = []) :
    Ends (fun _ => True) (raised k x loads writes) fun o => moved o.code = moved loads ++ moved writes := by
  simp only [ownCode, moved_append, append_eq_nil_iff] at hx
  obtain ⟨⟨hx, hpack⟩, hmac⟩ := hx
  refine .look fun a => .look fun b => .bind' (packOrder_ends (Q := (moves · = false)) fun p hp i hi =>
    moved_eq_nil.mp (moved_leavesOf hpack) i (mem_leavesOf.mpr ⟨_, mem_map_of_mem hp, hi⟩)) fun packs hpacks => ?_
  refine .ite' (fun _ => .throw_bind trivial _ _) fun _ => ?_
  split
  next m hm =>
    -- the code so far, what is left of the multiplications and of the packing load and write nothing
    refine .bind' (.forIn_inv (Q := fun t => (∀ i ∈ t.1.items, moves i = false) ∧ moved t.2.1 = [] ∧
      moved t.2.2.toList = []) (fun i _ t ht => ?_) ⟨hpacks, moved_sifts.of_subset (drop_subset 1 _)
        (moved_leavesOf hmac), rfl⟩) fun t ht => .pure' ?_
    · obtain ⟨packer, mac, out⟩ := t
      obtain ⟨hp, hm, ho⟩ := ht
      refine .bind' (Packer.step_ends (fun _ _ => rfl) (fun _ => rfl) hp) fun r hr => ?_
      have hout := moved_eq_nil.mpr hr.1
      cases mac with
      | nil =>
        exact .ite' (fun _ => .ite' (fun _ => .bind' .any fun _ _ => .bind' .any fun _ _ =>
          .throw_bind trivial _ _) fun _ => .throw_bind trivial _ _) fun _ => .throw_bind trivial _ _
      | cons item rest =>
        rw [← singleton_append, moved_append, append_eq_nil_iff] at hm
        have hend : ∀ more, moved more = [] → moved (out.toList ++ r.1.toList ++ more ++ [item]) = [] := fun more h => by
          rw [moved_append, moved_append, moved_append, ho, hout, h, hm.1]
          rfl
        refine .ite' (fun _ => .ite' (fun _ => .bind' .any fun tmp _ => .bind' .any fun _ _ =>
          .pure' ⟨hr.2, hm.2, ?_⟩) fun _ => .pure' ⟨hr.2, hm.2, ?_⟩) fun _ => .pure' ⟨hr.2, hm.2, ?_⟩
        · simpa [value] using hend [_, _] rfl
        · simpa [value] using hend [_] rfl
        · simpa [value] using hend [] rfl
    · have hpriority : ∀ n l, moved (priority n :: l) = moved l := fun _ _ => rfl
      simp [code, ht.2.2, hx, hpriority]
  next => exact .throw' trivial _

/-- The state before matrix instruction `i` of an iteration: together with what is placed, the loads and then the writes
that are left are always the same, and from the place of the last load on no load is left. -/
structure Rest.Holds (k : KernelSpec) (m : MatrixSpec) (s : Slots) (x : Iter) (all : Items) (i : Nat) (r : Rest) : Prop where
  after : r.waited = false → moved r.out.after.toList = []
  order : moved r.out.code ++ moved r.loads ++ moved r.writes = all
  reads : moved r.reads = []
  loads : localOps r.loads = []
  unloaded : s.loadEnd < x.u * matricesPerIter k m + i → Unloaded r.loads
  emptied : (i : Int) = matricesPerIter k m → r.loads = []
  room : Room s (matricesPerIter k m) x.u i r.loads r.writes

/-- No write is placed as long as loads are left, so a step keeps the order. -/
lemma Rest.Holds.next {r r' : Rest} {i : Nat} {left : Int} {taken loaded written : Items} (h : r.Holds k m s x all i)
    (hi : (i : Int) < matricesPerIter k m) (hle : s.loadEnd ≤ s.writeEnd)
    (hs : r.Steps moved s (spotOf k m x.u i) left r' taken loaded written) : r'.Holds k m s x all (i + 1) := by
  have hloads := localOps_sifts.of_subset hs.gains.loads h.loads
  have hun : s.loadEnd ≤ x.u * matricesPerIter k m + i → Unloaded r'.loads := by
    intro hlt
    by_cases he : x.u * matricesPerIter k m + i = s.loadEnd
    · exact hs.gains.loadEnd he
    · exact fun o ho => h.unloaded (by omega) o (hs.gains.loads ho)
  have hreads := h.reads
  rw [hs.reads, moved_append, append_eq_nil_iff] at hreads
  refine ⟨fun hw => ?_, ?_, hreads.2, hloads, fun hlt => hun (by push_cast at hlt; omega), fun he => ?_, ?_⟩
  · rw [hs.waited, Bool.or_eq_false_iff] at hw
    simp [hs.rear, h.after hw.2, hw.2]
  · have hcode : moved r'.out.code = moved r.out.code ++ moved loaded ++ moved written := by
      have hchunk : moved (chunk (spotOf k m x.u i) taken (loaded ++ written)) = moved loaded ++ moved written := by
        unfold chunk
        split <;> simp [hreads.1]
      rw [code, code, moved_append, moved_append, hs.front, hs.rear, hchunk]
      cases hw : r.waited with
      | true => simp
      | false => simp [h.after hw]
    rw [hcode, ← h.order, hs.loads, hs.writes]
    by_cases hnil : written = []
    · simp [hnil]
    · have hnone : moved r'.loads = [] :=
        moved_eq_nil_of_unloaded hloads ((hs.free hnil).elim (fun he => hun (by rw [← he] at hle; exact hle)) id)
      simp [hnone]
  · exact hs.gains.last (by simp [spotOf]; omega)
  · exact_mod_cast Room.step hi rfl hs.gains h.room

lemma readOrder_subset (k : KernelSpec) (items : Items) : readOrder k items ⊆ leavesOf items := by
  have hnamed : ∀ name, ∀ i ∈ itemsNamed name items, leaves i ⊆ leavesOf items := by
    intro name i hi o ho
    unfold itemsNamed at hi
    cases hf : findSome? _ items with
    | none => rw [hf] at hi; cases hi
    | some l =>
      rw [hf] at hi
      obtain ⟨j, hj, hjl⟩ := exists_of_findSome?_eq_some hf
      refine mem_leavesOf.mpr ⟨j, hj, ?_⟩
      split at hjl
      · split at hjl
        · cases hjl
          exact mem_leavesOf.mpr ⟨i, hi, ho⟩
        · cases hjl
      · cases hjl
  intro o ho
  obtain ⟨i, hi, hoi⟩ := mem_leavesOf.mp ho
  simp only [mem_flatMap, mem_append] at hi
  obtain ⟨n, -, ((hi | hi) | hi) | hi⟩ := hi
  · exact hnamed _ i (take_subset _ _ hi) hoi
  · exact hnamed _ i (take_subset _ _ hi) hoi
  · exact hnamed _ i (drop_subset _ _ hi) hoi
  · exact hnamed _ i (drop_subset _ _ hi) hoi

/-- Between matrix instructions the loads come before the writes as well, as the place of the last load does not come
behind that of the last write. -/
lemma betweenMatrices_order {p : Pending} (hs : p.slots = some s) (hm : k.matrix = some m) (hn : 0 < matricesPerIter k m)
    (hg : Given k x loads writes) (hx : moved (ownCode x) = []) (hroom : Room s (matricesPerIter k m) x.u 0 loads writes)
    (hle : s.loadEnd ≤ s.writeEnd) (hun : s.loadEnd < x.u * matricesPerIter k m → Unloaded loads) :
    Ends (fun _ => True) (betweenMatrices k p x loads writes) fun o => moved o.code = moved loads ++ moved writes := by
  simp only [ownCode, moved_append, append_eq_nil_iff] at hx
  refine (betweenMatrices_meets moved_sifts ⟨?_, moved_leavesOf hx.2, fun p hp => ?_⟩ (fun _ _ => trivial)
    (I := Rest.Holds k m s x (moved loads ++ moved writes)) hs hm (fun head mac packer hhead => ?_)
    fun hi hr _ hst => hr.next hi hle hst).mono ?_
  · simp [hx]
  · exact moved_sifts.of_subset (fun i hi => mem_leavesOf.mpr ⟨p.item, mem_map_of_mem hp, hi⟩) (moved_leavesOf hx.1.2)
  · refine ⟨fun _ => rfl, ?_, ?_, hg.loads, by simpa using hun, by omega, hroom⟩
    · simp [code, hhead]
    · exact moved_sifts.of_subset (readOrder_subset k _) (moved_leavesOf hx.1.1.1.1.1.1)
  · rintro _ ⟨r, hr, rfl⟩
    have horder := hr.order
    have hroom := hr.room
    rw [Int.toNat_of_nonneg hn.le] at hroom
    rw [hr.emptied (by omega), hroom.done] at horder
    simpa using horder

/-- An iteration that besides its share of loads and writes loads and writes nothing. -/
structure Still (k : KernelSpec) (x : Iter) : Prop extends Given k x [] [] where
  still : moved (ownCode x) = []

/-- The shares of all iterations find their places between matrix instructions, the loads before the writes. -/
def Fits (k : KernelSpec) (p : Pending) : Prop :=
  ∃ m s, k.matrix = some m ∧ 0 < matricesPerIter k m ∧ p.slots = some s ∧ s.loadEnd ≤ s.writeEnd ∧ ∀ u : Nat,
    localOps (p.loads.getD u []) = [] ∧ OnlyWrites (p.writes.getD u []) ∧
    (s.loadEnd < u * matricesPerIter k m → Unloaded (p.loads.getD u [])) ∧
    Room s (matricesPerIter k m) u 0 (p.loads.getD u []) (p.writes.getD u [])

/-- **Loads before writes.** In whatever order an iteration comes, its loads come before its writes. -/
lemma arrange_order {p q : Pending} {a : Arranged} {st st' : State} {u : Nat} (hk : st.k = k) (hx : Still k x)
    (hu : x.u = u) (hp : k.scheduleIterAlg = 3 → Fits k p) (hrun : (arrange p x).run st = .ok (a, q) st') :
    moved (a.before ++ a.after) = moved (p.loads.getD u []) ++ moved (p.writes.getD u []) := by
  subst hk
  refine (Meets.of_ok (P := fun _ => True) (Q := fun r => moved (r.1.before ++ r.1.after) = moved (p.loads.getD u []) ++
    moved (p.writes.getD u [])) (e := True) ?_ trivial ((Meets.run_look State.k _ st).symm.trans hrun)).2
  refine .bind' .wrapped' fun i hi => ?_
  obtain rfl : i = u := by
    omega
  split
  · refine .bind' (.pure' (Q := (moved ·.code = _)) (moved_inTurn hx.still)) fun o ho =>
      .bind' .any fun r _ => ?_
    exact .pure' ho
  · refine .bind' (.pure' (Q := (moved ·.code = _)) (moved_betweenReads hx.still)) fun o ho =>
      .bind' .any fun r _ => ?_
    exact .pure' ho
  · refine .bind' (raised_ends hx.still) fun o ho => .bind' .any fun r _ => ?_
    exact .pure' ho
  next h =>
    obtain ⟨m, s, hm, hn, hs, hle, hall⟩ := hp h
    obtain ⟨hloads, hwrites, hun, hroom⟩ := hall i
    rw [← hu] at hun hroom
    refine .bind' (betweenMatrices_order hs hm hn ⟨hx.idle, hx.reads, hx.count, hloads, hwrites⟩ hx.still hroom hle hun)
      fun o ho => .bind' .any fun r _ => ?_
    exact .pure' ho
  · exact .throw_bind trivial _ _

/-- The code of the first iterations of a loop that follows a plan, without the waits for reads. -/
inductive Unrolls (k : KernelSpec) (p : Pending) : Nat → Items → Prop
  | start : Unrolls k p 0 p.header
  | step {u : Nat} {code : Items} {x : Iter} {skippable : Array Int} {a : Arranged} {q : Pending} {st st' : State} :
    Unrolls k p u code → Still k x → x.u = u → st.k = k → (arrange { p with skippable } x).run st = .ok (a, q) st' →
      Unrolls k p (u + 1) (code ++ (a.before ++ a.after))

/-- In a loop without a load in an iteration behind one with a write all loads come before all writes. -/
lemma Unrolls.order {p : Pending} {n : Nat} {code : Items} (hp : k.scheduleIterAlg = 3 → Fits k p)
    (hbehind : ∀ u v, u < v → moved (p.writes.getD u []) ≠ [] → moved (p.loads.getD v []) = []) (h : Unrolls k p n code) :
    moved code = moved p.header ++ (range n).flatMap (fun u => moved (p.loads.getD u [])) ++
      (range n).flatMap fun u => moved (p.writes.getD u []) := by
  induction h with
  | start => simp
  | @step u code x skippable a q st st' _ hx hu hst hrun ih =>
    rw [moved_append, ih, arrange_order (p := { p with skippable }) hst hx hu hp hrun]
    simp only [range_succ, flatMap_append, flatMap_singleton, append_assoc]
    by_cases hload : moved (p.loads.getD u []) = []
    · rw [hload]
      rfl
    · have hwrites : (range u).flatMap (fun v => moved (p.writes.getD v [])) = [] :=
        flatMap_eq_nil_iff.mpr fun v hv => by
          by_contra hne
          exact hload (hbehind v u (mem_range.mp hv) hne)
      rw [hwrites]
      rfl

end TensorForge.Assembly.Interleave
