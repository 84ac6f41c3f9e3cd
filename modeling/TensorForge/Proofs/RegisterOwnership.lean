import TensorForge.Asm.RegisterPool
import TensorForge.Proofs.Returns
import Mathlib.Data.List.Pairwise

/-!
# Ownership of registers

A pool keeps two records of what is handed out: the status of every register, and the blocks that are
out with their sizes. Main statement: after any sequence of calls the registers in use are the
disjoint union of the blocks that are out (`Owned`). So a block that is handed out overlaps no other,
a block that is given back frees itself and nothing else, and the check at the end of a kernel stops
exactly when a block was forgotten.

Each operation has one lemma that says what the status of a register is afterwards.
-/

namespace TensorForge.RegisterPool

open Classical EStateM Gen List Returns

/-- Register `i` belongs to the block `b`, given by its start and size. -/
def Holds (b : Nat × Nat) (i : Nat) : Prop := b.1 ≤ i ∧ i < b.1 + b.2

instance (b : Nat × Nat) (i : Nat) : Decidable (Holds b i) := inferInstanceAs (Decidable (_ ∧ _))

/-- No register belongs to both blocks. -/
def Apart (b c : Nat × Nat) : Prop := ∀ i, Holds b i → ¬Holds c i

/-- The registers in use are the disjoint union of the blocks that are out, none of which is empty. -/
structure Owned (p : RegisterPool) : Prop where
  inUse_iff : ∀ i, p.status i = .inUse ↔ ∃ b ∈ p.outstanding, Holds b i
  apart : p.outstanding.Pairwise Apart
  positive : ∀ b ∈ p.outstanding, 0 < b.2

variable {b c : Nat × Nat}

lemma Apart.symm (h : Apart b c) : Apart c b := fun i hc hb => h i hb hc

instance : Std.Symm Apart := ⟨fun _ _ => .symm⟩

lemma holds_start (h : 0 < b.2) : Holds b b.1 := ⟨Nat.le_refl _, by omega⟩

variable {p q : RegisterPool} {start n a i : Nat} {tag : Text}

lemma regs_mapBlock (p : RegisterPool) (start n i : Nat) (f : PoolRegister → PoolRegister) :
    (p.mapBlock start n f).regs[i]? = if Holds (start, n) i then p.regs[i]?.map f else p.regs[i]? := by
  by_cases h : Holds (start, n) i <;> simp only [Holds] at h <;> cases hr : p.regs[i]? <;> simp [mapBlock, Holds, hr, h]

lemma size_mapBlock (p : RegisterPool) (start n : Nat) (f : PoolRegister → PoolRegister) :
    (p.mapBlock start n f).size = p.size :=
  Array.size_mapIdx

lemma size_growTo (p : RegisterPool) (n : Nat) (r : PoolRegister) : (p.growTo n r).size = max p.size n := by
  simp only [growTo, size, Array.size_append, Array.size_replicate]; omega

lemma status_of_size_le (h : p.size ≤ i) : p.status i = .unavailable := by
  unfold status
  rw [Array.getElem?_eq_none h]

lemma lt_size_of_status (h : p.status i ≠ .unavailable) : i < p.size :=
  Nat.lt_of_not_le fun hle => h (status_of_size_le hle)

/-- What a change of a block that depends on statuses alone does to them. -/
lemma status_mapBlock {f : PoolRegister → PoolRegister} (g : RegStatus → RegStatus) (hf : ∀ r, (f r).status = g r.status)
    (hg : g .unavailable = .unavailable ∨ start + n ≤ p.size) (i : Nat) :
    (p.mapBlock start n f).status i = if Holds (start, n) i then g (p.status i) else p.status i := by
  unfold status
  rw [regs_mapBlock]
  by_cases h : Holds (start, n) i
  · rw [if_pos h, if_pos h]
    cases hr : p.regs[i]? with
    | some r => exact hf r
    | none =>
      refine (hg.resolve_right fun hn => ?_).symm
      have hi : p.size ≤ i := Array.getElem?_eq_none_iff.mp hr
      simp only [Holds] at h
      omega
  · rw [if_neg h, if_neg h]

/-- Registers behind the end become those that the pool grows by. -/
lemma status_growTo (p : RegisterPool) (n i : Nat) (r : PoolRegister) :
    (p.growTo n r).status i = if p.size ≤ i ∧ i < n then r.status else p.status i := by
  unfold status growTo size
  rw [Array.getElem?_append]
  by_cases hi : i < p.regs.size
  · rw [if_pos hi, if_neg (by omega)]
  · rw [if_neg hi, Array.getElem?_replicate, Array.getElem?_eq_none (Nat.le_of_not_lt hi)]
    by_cases hn : i < n
    · rw [if_pos (by omega), if_pos (by omega)]
    · rw [if_neg (by omega), if_neg (by omega)]

lemma status_growTo_unavailable (p : RegisterPool) (n i : Nat) (tag : Text) :
    (p.growTo n ⟨.unavailable, tag⟩).status i = p.status i := by
  rw [status_growTo]
  split
  · next h => exact (status_of_size_le h.1).symm
  · rfl

lemma status_add (start n : Nat) (tag : Text) (i : Nat) : (p.add start n tag).status i =
      if Holds (start, n) i ∧ p.status i = .unavailable then .available else p.status i := by
  have hsize : start + n ≤ (p.growTo (start + n) ⟨.unavailable, tag⟩).size := by
    rw [size_growTo]
    omega
  refine (status_mapBlock (fun s => if s == .unavailable then .available else s) (fun r => ?_) (.inr hsize) i).trans ?_
  · split <;> rfl
  · rw [status_growTo_unavailable]
    by_cases h : Holds (start, n) i <;> simp [h]

lemma status_remove (start n i : Nat) : (p.remove start n).status i =
      if Holds (start, n) i ∧ p.status i = .available then .unavailable else p.status i := by
  refine (status_mapBlock (fun s => if s == .available then .unavailable else s) (fun r => ?_) (.inl rfl) i).trans ?_
  · split <;> rfl
  · by_cases h : Holds (start, n) i <;> simp [h]

lemma status_take (hn : start + n ≤ p.size) (i : Nat) :
    (p.take start n tag).status i = if Holds (start, n) i then .inUse else p.status i :=
  status_mapBlock (fun _ => .inUse) (fun _ => rfl) (.inr hn) i

lemma status_giveBack (hn : start + n ≤ p.size) (i : Nat) :
    (p.giveBack start n).status i = if Holds (start, n) i then .available else p.status i :=
  status_mapBlock (fun _ => .available) (fun _ => rfl) (.inr hn) i

lemma status_of_availableAtEnd (hlo : p.size - p.availableAtEnd ≤ i) (hi : i < p.size) : p.status i = .available := by
  have hj : p.size - 1 - i <
      (p.regs.toList.reverse.takeWhile fun r => r.status == .available).length := by
    show _ < p.availableAtEnd
    omega
  have hr := prefix_iff_getElem?.mp ( takeWhile_prefix _) _ hj
  have hs := all_eq_true.mp all_takeWhile _ (getElem_mem hj)
  have hback : p.size - 1 - (p.size - 1 - i) = i := by omega
  rw [getElem?_reverse (by simp only [size] at *; simp; omega)] at hr
  simp only [Array.length_toList] at hr
  unfold status
  rw [← Array.getElem?_toList]
  rw [show p.regs.size - 1 - (p.size - 1 - i) = i from hback] at hr
  rw [hr]
  simpa using hs

lemma status_of_reusableTail (hlo : p.size - p.reusableTail ≤ i) (hi : i < p.size) : p.status i = .available := by
  refine status_of_availableAtEnd ?_ hi
  unfold reusableTail at hlo
  omega

/-- A block at the end that reaches the end of the pool; registers skipped before it are available. -/
lemma status_takeAtEnd (hn : p.size ≤ start + n) (i : Nat) : (p.takeAtEnd start n tag).status i =
      if Holds (start, n) i then .inUse else if p.size ≤ i ∧ i < start then .available else p.status i := by
  have hkeep (q : RegisterPool) (out : List (Nat × Nat)) : status { q with outstanding := out } i = q.status i := rfl
  have hsize : max (max p.size start) (start + n) - start = n := by omega
  -- the block, the registers that the pool grows by, those that are skipped, and the tail with its new tags
  rw [takeAtEnd, hkeep, status_mapBlock (fun _ => .inUse) (fun _ => rfl) (.inr (by simp only [size_growTo]; omega)),
    status_growTo, status_growTo, status_mapBlock (f := ({ · with tag })) id (fun _ => rfl) (.inl rfl), id, ite_self]
  simp only [size_growTo, size_mapBlock, hsize]
  by_cases h : Holds (start, n) i
  · rw [if_pos h, if_pos h]
  · have hout : ¬(max p.size start ≤ i ∧ i < start + n) := by
      simp only [Holds] at h
      omega
    rw [if_neg h, if_neg h, if_neg hout]

lemma alignUp_dvd (n a : Nat) : a ∣ alignUp n a := Nat.dvd_mul_left ..

lemma le_alignUp {n a : Nat} (ha : 0 < a) : n ≤ alignUp n a := by
  unfold alignUp
  have h := Nat.div_add_mod (n + a - 1) a
  have hlt := Nat.mod_lt (n + a - 1) ha
  rw [Nat.mul_comm] at h
  omega

lemma isFree_iff :
    p.isFree start n ↔ start + n ≤ p.size ∧ ∀ i, Holds (start, n) i → p.status i = .available := by
  simp only [isFree, Bool.and_eq_true, decide_eq_true_eq, all_eq_true, mem_range, beq_iff_eq,
    Holds]
  refine and_congr_right fun _ => ⟨fun h i hi => ?_, fun h j hj => h _ ⟨by omega, by omega⟩⟩
  have := h (i - start) (by omega)
  rwa [Nat.add_sub_cancel' hi.1] at this

lemma of_firstFit?_some (h : p.firstFit? n a = some start) :
    a ∣ start ∧ start + n ≤ p.size ∧ ∀ i, Holds (start, n) i → p.status i = .available := by
  have hs := find?_some h
  simp only [Bool.and_eq_true, beq_iff_eq] at hs
  exact ⟨Nat.dvd_of_mod_eq_zero hs.1, isFree_iff.mp hs.2⟩

/-- When no block fits, one that begins in the free tail ends behind the pool. -/
lemma size_lt_of_firstFit?_none (hn : 0 < n)
    (h : p.firstFit? n a = none) (ha : a ∣ start) (hlo : p.size - p.reusableTail ≤ start) : p.size < start + n := by
  apply Nat.lt_of_not_le
  intro hle
  have hfree : p.isFree start n := isFree_iff.mpr ⟨hle, fun i hi =>
    status_of_reusableTail (Nat.le_trans hlo hi.1) (Nat.lt_of_lt_of_le hi.2 hle)⟩
  have hnot := find?_eq_none.mp h start (mem_range.mpr (by omega))
  simp [Nat.mod_eq_zero_of_dvd ha, hfree] at hnot

/-- What an operation that hands out a block promises. -/
structure HandsOut (p q : RegisterPool) (start n a : Nat) : Prop where
  aligned : a ∣ start
  free : ∀ i, Holds (start, n) i → p.status i ≠ .inUse
  taken : ∀ i, Holds (start, n) i → q.status i = .inUse
  others : ∀ i, ¬Holds (start, n) i → (q.status i = .inUse ↔ p.status i = .inUse)
  outstanding : q.outstanding = p.outstanding.filter (fun b => b.1 != start) ++ [(start, n)]

lemma handsOut_take (h : p.firstFit? n a = some start) : HandsOut p (p.take start n tag) start n a := by
  obtain ⟨ha, hn, hfree⟩ := of_firstFit?_some h
  refine ⟨ha, fun i hi => by rw [hfree i hi]; decide, ?_, ?_, rfl⟩
  · intro i hi; rw [status_take hn, if_pos hi]
  · intro i hi; rw [status_take hn, if_neg hi]

lemma handsOut_takeAtEnd (hn : 0 < n)
    (h : p.firstFit? n a = none) (hdvd : a ∣ start) (hlo : p.size - p.reusableTail ≤ start) :
    HandsOut p (p.takeAtEnd start n tag) start n a := by
  have hsize := size_lt_of_firstFit?_none hn h hdvd hlo
  refine ⟨hdvd, ?_, ?_, ?_, by simp only [takeAtEnd, mapBlock, growTo]⟩
  · intro i hi
    by_cases hs : i < p.size
    · rw [status_of_reusableTail (Nat.le_trans hlo hi.1) hs]; decide
    · rw [status_of_size_le (Nat.le_of_not_lt hs)]; decide
  · intro i hi
    rw [status_takeAtEnd (Nat.le_of_lt hsize), if_pos hi]
  · intro i hi
    rw [status_takeAtEnd (Nat.le_of_lt hsize), if_neg hi]
    split
    · next hpad => simp [status_of_size_le hpad.1]
    · rfl

section Owned

variable (hp : Owned p)

include hp

lemma filter_start (hn : 0 < n) (hfree : ∀ i, Holds (start, n) i → p.status i ≠ .inUse) :
    p.outstanding.filter fun b => b.1 != start = p.outstanding := by
  rw [filter_eq_self]
  intro b hb
  rw [bne_iff_ne]
  intro he
  apply hfree start ⟨Nat.le_refl _, by simp only; omega⟩
  exact (hp.inUse_iff start).mpr ⟨b, hb, he ▸ holds_start (hp.positive b hb)⟩

/-- A block that is handed out is apart from every block that is out. -/
lemma HandsOut.apart (h : HandsOut p q start n a) : ∀ b ∈ p.outstanding, Apart (start, n) b := by
  intro b hb i hi hbi
  exact h.free i hi ((hp.inUse_iff i).mpr ⟨b, hb, hbi⟩)

lemma HandsOut.outstanding_eq (hn : 0 < n)
    (h : HandsOut p q start n a) : q.outstanding = p.outstanding ++ [(start, n)] := by
  rw [h.outstanding, filter_start hp hn h.free]

lemma HandsOut.owned (hn : 0 < n) (h : HandsOut p q start n a) : Owned q := by
  have hq := h.outstanding_eq hp hn
  refine ⟨?_, ?_, ?_⟩
  · intro i
    rw [hq]
    by_cases hi : Holds (start, n) i
    · exact ⟨fun _ => ⟨_, by simp, hi⟩, fun _ => h.taken i hi⟩
    · rw [h.others i hi, hp.inUse_iff i]
      simp [hi]
  · rw [hq, pairwise_append]
    refine ⟨hp.apart, by simp, ?_⟩
    intro b hb c hc
    rw [mem_singleton.mp hc]
    exact (h.apart hp b hb).symm
  · rw [hq]
    intro b hb
    rcases mem_append.mp hb with hb | hb
    · exact hp.positive b hb
    · rw [mem_singleton.mp hb]; exact hn

lemma Owned.le_size (hb : b ∈ p.outstanding) : b.1 + b.2 ≤ p.size := by
  have hpos := hp.positive b hb
  have hlast : p.status (b.1 + b.2 - 1) = .inUse :=
    (hp.inUse_iff _).mpr ⟨b, hb, by simp only [Holds]; omega⟩
  have := lt_size_of_status (p := p) (i := b.1 + b.2 - 1) (by rw [hlast]; decide)
  omega

lemma Owned.eq_of_start (hb : b ∈ p.outstanding) (hc : c ∈ p.outstanding) (h : b.1 = c.1) : b = c := by
  apply byContradiction
  intro hne
  have hapart : Apart b c := hp.apart.forall hb hc hne
  exact hapart b.1 (holds_start (hp.positive b hb)) (h ▸ holds_start (hp.positive c hc))

lemma Owned.outstandingSize?_eq_some_iff :
    p.outstandingSize? start = some n ↔ (start, n) ∈ p.outstanding := by
  unfold outstandingSize?
  rw [Option.map_eq_some_iff]
  constructor
  · rintro ⟨b, hb, rfl⟩
    have hstart : b.1 = start := by simpa using find?_some hb
    exact hstart ▸ mem_of_find?_eq_some hb
  · intro h
    have hsome : (p.outstanding.find? fun b => b.1 == start).isSome :=
      find?_isSome.mpr ⟨(start, n), h, beq_self_eq_true start⟩
    obtain ⟨b, hb⟩ := Option.isSome_iff_exists.mp hsome
    have hstart : b.1 = start := by simpa using find?_some hb
    exact ⟨b, hb, by rw [hp.eq_of_start (mem_of_find?_eq_some hb) h hstart]⟩

lemma mem_outstanding_giveBack (hb : b ∈ p.outstanding) :
    c ∈ (p.giveBack b.1 b.2).outstanding ↔ c ∈ p.outstanding ∧ c ≠ b := by
  have h : (p.giveBack b.1 b.2).outstanding = p.outstanding.filter fun c => c.1 != b.1 := rfl
  rw [h, mem_filter, bne_iff_ne]
  refine and_congr_right fun hc => not_congr ⟨fun he => hp.eq_of_start hc hb he, fun he => by rw [he]⟩

lemma Owned.giveBack (hb : b ∈ p.outstanding) : Owned (p.giveBack b.1 b.2) := by
  refine ⟨?_, hp.apart.filter _, ?_⟩
  · intro i
    rw [status_giveBack (hp.le_size hb)]
    by_cases hi : Holds (b.1, b.2) i
    · rw [if_pos hi]
      refine ⟨nofun, ?_⟩
      rintro ⟨c, hc, hci⟩
      obtain ⟨hc, hne⟩ := (mem_outstanding_giveBack hp hb).mp hc
      exact absurd hci (hp.apart.forall hb hc (.symm hne) i hi)
    · rw [if_neg hi, hp.inUse_iff]
      constructor
      · rintro ⟨c, hc, hci⟩
        exact ⟨c, (mem_outstanding_giveBack hp hb).mpr ⟨hc, fun he => hi (he ▸ hci)⟩, hci⟩
      · rintro ⟨c, hc, hci⟩
        exact ⟨c, ((mem_outstanding_giveBack hp hb).mp hc).1, hci⟩
  · intro c hc
    exact hp.positive c ((mem_outstanding_giveBack hp hb).mp hc).1

/-- Operations that move no register into or out of use keep ownership. -/
lemma Owned.of_inUse_iff (hout : q.outstanding = p.outstanding)
    (h : ∀ i, q.status i = .inUse ↔ p.status i = .inUse) : Owned q :=
  ⟨fun i => by rw [h, hout]; exact hp.inUse_iff i, hout ▸ hp.apart, hout ▸ hp.positive⟩

lemma Owned.add (start n : Nat) (tag : Text) : Owned (p.add start n tag) := by
  refine hp.of_inUse_iff rfl fun i => ?_
  rw [status_add]
  split
  · next h => simp [h.2]
  · rfl

lemma Owned.remove (start n : Nat) : Owned (p.remove start n) := by
  refine hp.of_inUse_iff rfl fun i => ?_
  rw [status_remove]
  split
  · next h => simp [h.2]
  · rfl

end Owned

lemma owned_ofSize (n : Nat) (file : Text) (prevent printing : Bool) : Owned (ofSize n file prevent printing) := by
  refine ⟨fun i => ?_, .nil, nofun⟩
  have hu : (ofSize n file prevent printing).status i = .unavailable := by
    unfold status ofSize
    by_cases h : i < n <;> simp [h]
  rw [hu]
  exact ⟨nofun, nofun⟩

lemma growTo_growTo (p : RegisterPool) (n : Nat) (r : PoolRegister) : (p.growTo n r).growTo n r = p.growTo n r := by
  have hsize : n - (p.growTo n r).regs.size = 0 := by
    have : (p.growTo n r).regs.size = max p.size n := size_growTo p n r
    omega
  rw [growTo, hsize, Array.replicate_zero, Array.append_empty]

lemma addReported_returns (p : RegisterPool) (start n : Nat) (tag : Text) :
    Returns (p.addReported start n tag) (p.add start n tag) := by
  unfold addReported
  refine .whenever (.sayLine _) ?_
  refine .bind' (.range_forIn_unit fun i => ?_) ?_
  · cases (p.growTo (start + n) ⟨.unavailable, tag⟩).status i
    · exact .pure' _
    · exact .bind' (.warn _) (.pure' _)
    · exact .bind' (.warn _) (.pure' _)
  · have : (p.growTo (start + n) ⟨.unavailable, tag⟩).add start n tag = p.add start n tag := by
      unfold add
      rw [growTo_growTo]
    rw [← this]
    exact .whenever (.sayLine _) (.pure' _)

lemma removeReported_returns (hn : start + n ≤ p.size) :
    Returns (p.removeReported start n tag) (p.remove start n, none) := by
  unfold removeReported
  refine .whenever (.sayLine _) ?_
  refine .whenever (.warn _) ?_
  refine .bind' (.range_forIn_unit fun i => ?_) ?_
  · cases p.status i
    · exact .bind' (.warn _) (.pure' _)
    · exact .pure' _
    · exact .bind' (.warn _) (.pure' _)
  · have : ¬(p.size < start + n) := by omega
    simp only [this]
    exact .pure' _

variable {size alignment : Int}

/-- With a positive size and alignment a block is handed out as `checkOutAligned?` says, and without
one the operation stops. -/
lemma checkOutReported_spec (p : RegisterPool) (tag : Text)
    (prevent : Option Bool) (hsize : 0 < size) (halign : 1 ≤ alignment) :
    match p.checkOutAligned? size.toNat alignment.toNat tag !prevent.getD p.preventOverflow with
    | some r => Returns (p.checkOutReported size alignment tag prevent) r
    | none => Stops (p.checkOutReported size alignment tag prevent) (.violated "") := by
  have h1 : ¬size ≤ 0 := by omega
  have h2 : ¬alignment ≤ 0 := by omega
  have h3 : (alignment == 0) = false := by simp; omega
  have h4 : alignment.natAbs = alignment.toNat := by omega
  unfold checkOutReported checkOutAligned?
  simp only [h1, h2, h3, h4, if_false, Bool.false_and, Bool.false_eq_true]
  cases p.firstFit? size.toNat alignment.toNat with
  | some start => exact .whenever (.sayLine _) (.pure' _)
  | none =>
    cases prevent.getD p.preventOverflow with
    | true => exact fun s => ⟨s, rfl⟩
    | false =>
      simp only [Bool.false_eq_true, if_false]
      rw [if_neg (show ¬alignment < 0 by omega)]
      exact .ite' (fun _ => .bind' (.sayLine _)
        (.bind' (.sayLine _) (.pure' _))) fun _ => .pure' _

lemma handsOut_checkOutAligned? {mayGrow : Bool}
    (hn : 0 < n) (ha : 0 < a) (h : p.checkOutAligned? n a tag mayGrow = some (start, q)) : HandsOut p q start n a := by
  unfold checkOutAligned? at h
  split at h
  · next hfit =>
    cases h
    exact handsOut_take hfit
  · next hfit =>
    split at h
    · cases h
      exact handsOut_takeAtEnd hn hfit (alignUp_dvd _ _) (le_alignUp ha)
    · cases h

variable {prevent : Option Bool} {s s' : Session}

lemma handsOut_checkOutReported {start : Nat} (hsize : 0 < size) (halign : 1 ≤ alignment)
    (h : (p.checkOutReported size alignment tag prevent).run s = .ok (start, q) s') :
    HandsOut p q start size.toNat alignment.toNat := by
  have hspec := checkOutReported_spec p tag prevent hsize halign
  cases hr : p.checkOutAligned? size.toNat alignment.toNat tag !prevent.getD p.preventOverflow with
  | some r =>
    rw [hr] at hspec
    rw [← hspec.eq_of_ok h] at hr
    exact handsOut_checkOutAligned? (by omega) (by omega) hr
  | none =>
    rw [hr] at hspec
    exact absurd h hspec.not_ok

/-- A check-out from a pool that may grow hands out a block. -/
lemma checkOutReported_grows (p : RegisterPool) (tag : Text) (hsize : 0 < size) (halign : 1 ≤ alignment)
    (hgrow : prevent.getD p.preventOverflow = false) :
    ∃ r, Returns (p.checkOutReported size alignment tag prevent) r := by
  have hspec := checkOutReported_spec p tag prevent hsize halign
  unfold checkOutAligned? at hspec
  rw [hgrow] at hspec
  cases hfit : p.firstFit? size.toNat alignment.toNat <;> rw [hfit] at hspec <;> exact ⟨_, hspec⟩

lemma checkInReported_returns (h : p.outstandingSize? start = some n) :
    Returns (p.checkInReported start) (p.giveBack start n) := by
  unfold checkInReported
  rw [h]
  exact .whenever (.sayLine _) (.pure' _)

lemma checkInReported_none {start : Nat}
    (h : p.outstandingSize? start = none) (hq : (p.checkInReported start).run s = .ok q s') : q = p := by
  unfold checkInReported at hq
  rw [h] at hq
  simp only at hq
  split at hq
  · exact (bind' (warn _) (pure' p)).eq_of_ok hq
  · cases hq

lemma firstInUse?_eq_none_iff (hp : Owned p) : p.firstInUse? = none ↔ p.outstanding = [] := by
  unfold firstInUse?
  rw [find?_eq_none, eq_nil_iff_forall_not_mem]
  constructor
  · intro h b hb
    have hs := (hp.inUse_iff b.1).mpr ⟨b, hb, holds_start (hp.positive b hb)⟩
    have hlt : b.1 < p.size := lt_size_of_status (by rw [hs]; decide)
    exact h b.1 (mem_range.mpr hlt) (by simp [hs])
  · intro h i _ hs
    obtain ⟨b, hb, -⟩ := (hp.inUse_iff i).mp (by simpa using hs)
    exact h b hb

/-- A number among the settings is there, or the fault says that it is missing or no number. -/
lemma settingInt_run_cases (s : Session) (key : Text) : (∃ n, (settingInt key).run s = .ok n s) ∨
    (settingInt key).run s = .error (.missingKey (.str key)) s ∨
    (settingInt key).run s = .error .wrongKind s := by
  simp only [settingInt, setting, run_bind, run_get]
  cases s.settings.get? key with
  | none => exact .inr (.inl rfl)
  | some v => cases v <;> first | exact .inl ⟨_, rfl⟩ | exact .inr (.inr rfl)

lemma settingInt_run {s : Session} {key : Text} {n : Int} (h : s.settings.get? key = some (.int n)) :
    (settingInt key).run s = .ok n s := by
  simp only [settingInt, setting, run_bind, run_get, h]
  rfl

/-- The check at the end fails exactly when a block is still out. -/
lemma checkFinalState_fails_iff (hp : Owned p) (s : Session) :
    (∃ text s', p.checkFinalState.run s = .error (.failure text) s') ↔ p.outstanding ≠ [] := by
  rw [Ne, ← firstInUse?_eq_none_iff hp]
  unfold checkFinalState
  cases p.firstInUse? with
  | some i =>
    refine ⟨fun _ => by simp, fun _ => ?_⟩
    exact ⟨_, Stops.whenever (.sayLine _) (.throw _) s⟩
  | none =>
    refine ⟨?_, fun h => absurd rfl h⟩
    rintro ⟨text, s', h⟩
    simp only [sayAt, run_bind] at h
    rcases settingInt_run_cases s "PrintLevel" with ⟨n, hn⟩ | hn | hn <;> rw [hn] at h
    · simp only at h
      split at h <;> cases h
    · cases h
    · cases h

/-- With a print level set, the check passes when no block is out. -/
lemma checkFinalState_passes (hp : Owned p) {s : Session} {level : Int}
    (hs : s.settings.get? "PrintLevel" = some (.int level)) (hout : p.outstanding = []) :
    ∃ s', p.checkFinalState.run s = .ok () s' := by
  unfold checkFinalState
  rw [(firstInUse?_eq_none_iff hp).mpr hout]
  simp only [sayAt, run_bind, settingInt_run hs]
  split
  · exact sayLine _ s
  · exact ⟨s, rfl⟩

inductive Call where
  | add (start size : Nat) (tag : Text)
  | remove (start size : Nat) (tag : Text)
  | checkOut (size : Int) (tag : Text) (prevent : Option Bool)
  | checkOutAligned (size alignment : Int) (tag : Text) (prevent : Option Bool)
  | checkIn (start : Nat)

/-- What callers keep to: only registers of the pool are removed, and blocks that are asked for have a
positive size and alignment. -/
def Call.Allowed (p : RegisterPool) : Call → Prop
  | .add .. => True
  | .remove start size _ => start + size ≤ p.size
  | .checkOut size .. => 0 < size
  | .checkOutAligned size alignment .. => 0 < size ∧ 1 ≤ alignment
  | .checkIn _ => True

def Call.run (p : RegisterPool) : Call → Gen RegisterPool
  | .add start size tag => p.addReported start size tag
  | .remove start size tag => return (← p.removeReported start size tag).1
  | .checkOut size tag prevent => return (← p.checkOutReported size 1 tag prevent).2
  | .checkOutAligned size alignment tag prevent =>
    return (← p.checkOutReported size alignment tag prevent).2
  | .checkIn start => p.checkInReported start

/-- The pool after a call, in a session; a call that stops leaves it as it was. -/
def Call.after (p : RegisterPool) (s : Session) (c : Call) : RegisterPool :=
  match (c.run p).run s with
  | .ok q _ => q
  | .error _ _ => p

/-- The pools that calls lead to, beginning with a pool of registers that are not available yet. -/
inductive Reached : RegisterPool → Prop
  | start (size : Nat) (file : Text) (prevent printing : Bool) :
    Reached (ofSize size file prevent printing)
  | step {p : RegisterPool} (c : Call) (s : Session) :
    Reached p → c.Allowed p → Reached (c.after p s)

lemma Owned.checkOut {p q : RegisterPool} (hp : Owned p) {tag : Text} (hsize : 0 < size) (halign : 1 ≤ alignment)
    (h : (do return (← p.checkOutReported size alignment tag prevent).2 : Gen RegisterPool).run s =
      .ok q s') : Owned q := by
  rw [run_bind] at h
  split at h
  · next r s1 hr =>
    cases h
    exact (handsOut_checkOutReported hsize halign hr).owned hp (by omega)
  · cases h

/-- An allowed call keeps ownership. -/
lemma Owned.after (hp : Owned p) {c : Call} (s : Session) (hc : c.Allowed p) : Owned (c.after p s) := by
  unfold Call.after
  split
  · next q s' hq =>
    cases c with
    | add start size tag =>
      rw [(addReported_returns p start size tag).eq_of_ok hq]
      exact hp.add start size tag
    | remove start size tag =>
      have hr : Returns (Call.run p (.remove start size tag)) (p.remove start size) :=
        (removeReported_returns hc).bind' (.pure' _)
      rw [hr.eq_of_ok hq]
      exact hp.remove start size
    | checkOut size tag prevent => exact hp.checkOut hc (by decide) hq
    | checkOutAligned size alignment tag prevent => exact hp.checkOut hc.1 hc.2 hq
    | checkIn start =>
      cases hout : p.outstandingSize? start with
      | some n =>
        rw [(checkInReported_returns hout).eq_of_ok hq]
        exact hp.giveBack (hp.outstandingSize?_eq_some_iff.mp hout)
      | none => rw [checkInReported_none hout hq]; exact hp
  · exact hp

lemma Reached.owned (h : Reached p) : Owned p := by
  induction h with
  | start size file prevent printing => exact owned_ofSize size file prevent printing
  | step c s _ hc ih => exact ih.after s hc

/-- **Every register in use belongs to exactly one block that is out.** In every pool that calls lead
to, a check-out hands out an aligned block apart from all others and fails only where growing is
forbidden, giving a block back frees its registers and no other, and the check at the end stops
exactly when a block is still out. -/
theorem registers_in_use_are_owned {p : RegisterPool} (h : Reached p) :
    Owned p ∧
    (∀ (size alignment : Int) (tag : String) (prevent : Option Bool) (s : Session),
      0 < size → 1 ≤ alignment →
      (∀ start q s', (p.checkOutReported size alignment tag prevent).run s = .ok (start, q) s' →
        alignment ∣ start ∧ (∀ b ∈ p.outstanding, Apart (start, size.toNat) b) ∧
        q.outstanding = p.outstanding ++ [(start, size.toNat)]) ∧
      ((∀ r s', (p.checkOutReported size alignment tag prevent).run s ≠ .ok r s') →
        prevent.getD p.preventOverflow = true)) ∧
    (∀ b ∈ p.outstanding, ∃ q, Returns (p.checkInReported b.1) q ∧
      (∀ i, q.status i = if Holds b i then .available else p.status i) ∧
      (∀ c, c ∈ q.outstanding ↔ c ∈ p.outstanding ∧ c ≠ b)) ∧
    (∀ s : Session,
      ((∃ text s', p.checkFinalState.run s = .error (.failure text) s') ↔ p.outstanding ≠ []) ∧
      (∀ level, s.settings.get? "PrintLevel" = some (.int level) → p.outstanding = [] →
        ∃ s', p.checkFinalState.run s = .ok () s')) := by
  have hp := h.owned
  refine ⟨hp, ?_, ?_, fun s => ⟨checkFinalState_fails_iff hp s, fun level hs hout =>
    checkFinalState_passes hp hs hout⟩⟩
  · intro size alignment tag prevent s hsize halign
    refine ⟨?_, ?_⟩
    · intro start q s' hq
      have hout := handsOut_checkOutReported hsize halign hq
      refine ⟨?_, hout.apart hp, hout.outstanding_eq hp (by omega)⟩
      have hdvd := Int.natCast_dvd_natCast.mpr hout.aligned
      rwa [Int.toNat_of_nonneg (by omega)] at hdvd
    · intro hfail
      apply Classical.byContradiction
      intro hgrow
      obtain ⟨r, hr⟩ := checkOutReported_grows p tag hsize halign (by simpa using hgrow)
      obtain ⟨s', hs'⟩ := hr s
      exact hfail r s' hs'
  · intro b hb
    refine ⟨p.giveBack b.1 b.2, checkInReported_returns (hp.outstandingSize?_eq_some_iff.mpr hb),
      status_giveBack (hp.le_size hb), fun c => mem_outstanding_giveBack hp hb⟩

/-- A block behind a register that is skipped for its alignment, a block that fits into the gap, and
after the first was given back one that begins in the free tail and reaches behind the end. -/
def reusedPool : RegisterPool :=
  [.checkOutAligned 3 2 "a" none, .checkOut 1 "b" none, .checkIn 2, .checkOutAligned 4 4 "c" none].foldl
    (fun p c => Call.after p { settings := [] } c) (ofSize 1 "v" false false)

theorem reusedPool_owned : reusedPool.outstanding = [(1, 1), (4, 4)] ∧ Owned reusedPool := by
  refine ⟨rfl, (registers_in_use_are_owned ?_).1⟩
  have h0 : Reached (ofSize 1 "v" false false) := .start ..
  have h1 := h0.step (.checkOutAligned 3 2 "a" none) { settings := [] } ⟨by decide, by decide⟩
  have h2 := h1.step (.checkOut 1 "b" none) { settings := [] } (by decide : (0 : Int) < 1)
  have h3 := h2.step (.checkIn 2) { settings := [] } trivial
  exact h3.step (.checkOutAligned 4 4 "c" none) { settings := [] } ⟨by decide, by decide⟩

end TensorForge.RegisterPool
