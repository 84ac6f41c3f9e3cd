import Mathlib.Algebra.BigOperators.Intervals
import TensorForge.Proofs.WritePlan

/-!
# The count of a wait

Before the matrix instructions of an iteration there is a wait for the reads that bring their operands.
Its count is worked out from the numbers of iterations, of reads that run ahead and of iterations that a
read serves. Here the count is related to what the iterations up to the wait start on local memory: the
reads behind the last iteration whose reads are used, and the writes behind its last read.
-/

namespace TensorForge.Assembly.Interleave

open Asm Asm.Item Finset Int List

variable {k : KernelSpec} {m : MatrixSpec}

/-- A kernel with matrix instructions whose loop passes the checks on how far ahead and how wide it reads
from local memory: a read that serves several iterations serves a divisor of them, and when reads run ahead
it does not serve all. -/
structure Checked (k : KernelSpec) (m : MatrixSpec) : Prop where
  matrix : k.matrix = some m
  inputs : 0 < m.inputPerThread
  inner : 0 < k.innerUnroll
  tiles : 0 < matricesPerIter k m
  iters : 1 ≤ k.loopIters
  ahead : k.prefetchLocalRead % k.loopIters ≤ 1
  wide : 0 < k.prefetchLocalRead →
    k.loopIters % (k.localReadVectorWidth / m.inputPerThread) = 0 ∧
      (k.prefetchLocalRead % k.loopIters ≠ 0 →
        0 < k.loopIters - k.prefetchLocalRead % k.loopIters * (k.localReadVectorWidth / m.inputPerThread))
  turned : m.inputPerThread < k.localReadVectorWidth →
    (k.loopIters ≤ k.prefetchLocalRead ∧ k.innerUnroll = 1) ∨
      k.localReadVectorWidth / m.inputPerThread ≤ k.innerUnroll

/-- The iterations whose operands a read of an input brings. -/
def served (k : KernelSpec) (isA : Bool) : Int := k.itersPerRead (if isA then k.a else k.b)

lemma served_pos (k : KernelSpec) (isA : Bool) : 0 < served k isA := by
  rw [served, KernelSpec.itersPerRead]
  omega

/-- The iteration that starts the reads of an input which iteration `u` uses. -/
def dataIter (k : KernelSpec) (isA : Bool) (u : Int) : Int := u / served k isA - k.prefetchedReads

/-- The last iteration that starts reads which iteration `u` uses. -/
def lastDataIter (k : KernelSpec) (u : Int) : Int := max (dataIter k true u) (dataIter k false u)

/-- The iteration from which on an input is not read for this tile any more. -/
def readsEnd (k : KernelSpec) (isA : Bool) : Int := k.loopIters / served k isA - k.prefetchedReads

/-- What the count has for the reads of an input behind the last iteration whose reads `u` uses and before
`u`; it has nothing for an input that was not read then. -/
def countedReads (k : KernelSpec) (n : Bool → Int) (u : Int) (isA : Bool) : Int :=
  if dataIter k isA u < lastDataIter k u then 0
  else n isA * (min u (readsEnd k isA) - lastDataIter k u - 1)

variable {isA : Bool} {t : Input} {n : Bool → Int}

lemma dataAt_eq (h : k.itersPerRead t = served k isA) (u : Int) : dataAt k u t = dataIter k isA u := by
  rw [dataAt, dataIter, h, fdiv_eq_ediv_of_nonneg _ (served_pos k isA).le]

lemma readIters_eq (h : k.itersPerRead t = served k isA) (u : Int) :
    readIters k u t = min (u + 1) (readsEnd k isA) := by
  rw [readIters, readsEnd, h, fdiv_eq_ediv_of_nonneg _ (served_pos k isA).le]

lemma dataIter_le_last (k : KernelSpec) (isA : Bool) (u : Int) : dataIter k isA u ≤ lastDataIter k u := by
  cases isA
  · exact le_max_right _ _
  · exact le_max_left _ _

/-- The reads of an input. -/
structure ReadsOf (k : KernelSpec) (n : Bool → Int) (isA : Bool) (t : Side) : Prop where
  iters : k.itersPerRead t.toInput = served k isA
  each : t.readsPerIter = n isA

/-- When no read is for the next tile, what is counted is what is skipped less the own reads. -/
lemma countedReads_eq {t : Side} (h : ReadsOf k n isA t) (u : Int) : t.readsPerIter * skippedReads k u (lastDataIter k u) 0 t - ownReads k u (lastDataIter k u) 0 t =
      countedReads k n u isA := by
  have hle := dataIter_le_last k isA u
  rw [skippedReads, ownReads, dataAt_eq h.iters, readIters_eq h.iters, countedReads, h.each]
  by_cases hd : dataIter k isA u < lastDataIter k u
  · simp [hd]
  · have heq : dataIter k isA u = lastDataIter k u := by omega
    rw [if_neg hd, if_neg hd, heq]
    by_cases hu : u < readsEnd k isA
    · rw [if_pos (by simp; omega), min_eq_left (by omega), min_eq_left (by omega)]
      ring
    · rw [if_neg (by simp; omega), min_eq_right (by omega), min_eq_right (by omega)]
      ring

lemma latestData_eq {a b : Side} (ha : ReadsOf k n true a) (hb : ReadsOf k n false b) (u : Int) :
    latestData k u a b = lastDataIter k u := by
  rw [latestData, dataAt_eq ha.iters, dataAt_eq hb.iters, lastDataIter]

section Checked

variable (h : Checked k m)

include h

/-- Reads run ahead by one iteration or not at all. -/
lemma Checked.prefetchedReads : k.prefetchedReads = 0 ∨ k.prefetchedReads = 1 := by
  have hnonneg := emod_nonneg k.prefetchLocalRead (b := k.loopIters) (by have := h.iters; omega)
  have := h.ahead
  rw [KernelSpec.prefetchedReads]
  omega

/-- A read serves one iteration, or as many as its width says when all reads run ahead. -/
lemma Checked.served_cases (isA : Bool) : served k isA = 1 ∨
      (served k isA = k.localReadVectorWidth / m.inputPerThread ∧ k.loopIters ≤ k.prefetchLocalRead) := by
  have hone : ∀ r : Int, r ≤ k.innerUnroll → max 1 (r / k.innerUnroll) = 1 := fun r hr => by
    have := Int.ediv_le_of_le_mul (b := 1) h.inner (by omega : r ≤ 1 * k.innerUnroll)
    omega
  have hinner := h.inner
  rw [served]
  generalize (if isA then k.a else k.b) = i
  rw [KernelSpec.itersPerRead, KernelSpec.readsCoalesced, KernelSpec.localReadWidth, h.matrix]
  simp only [Option.elim_some]
  split
  · by_cases hw : m.inputPerThread < k.localReadVectorWidth
    · obtain ⟨hle, hone'⟩ | hle := h.turned hw
      · right
        have : 1 ≤ k.localReadVectorWidth / m.inputPerThread :=
          (Int.le_ediv_iff_mul_le h.inputs).mpr (by omega)
        rw [hone', ediv_one]
        omega
      · exact .inl (hone _ hle)
    · have : k.localReadVectorWidth / m.inputPerThread ≤ 1 := Int.ediv_le_of_le_mul h.inputs (by omega)
      exact .inl (hone _ (by omega))
  · rw [Int.ediv_self h.inputs.ne']
    exact .inl (hone 1 (by omega))

lemma Checked.served_dvd (isA : Bool) : served k isA ∣ k.loopIters := by
  obtain h1 | ⟨hw, hle⟩ := h.served_cases isA
  · rw [h1]
    exact one_dvd _
  · rw [hw]
    have := h.iters
    exact dvd_of_emod_eq_zero (h.wide (by omega)).1

lemma Checked.served_lt (hp : k.prefetchedReads = 1) (isA : Bool) : served k isA < k.loopIters := by
  have hiters := h.iters
  have hlt := emod_lt_of_pos k.prefetchLocalRead (b := k.loopIters) (by omega)
  rw [KernelSpec.prefetchedReads] at hp
  obtain h1 | ⟨hw, hle⟩ := h.served_cases isA
  · omega
  · have := (h.wide (by omega)).2 (by omega)
    rw [hp] at this
    omega

lemma Checked.readsEnd_mul (isA : Bool) :
    (readsEnd k isA + k.prefetchedReads) * served k isA = k.loopIters := by
  rw [readsEnd, sub_add_cancel]
  exact Int.ediv_mul_cancel (h.served_dvd isA)

lemma Checked.readsEnd_le (isA : Bool) : readsEnd k isA ≤ k.loopIters - k.prefetchedReads := by
  have := ediv_le_self (served k isA) (by have := h.iters; omega : 0 ≤ k.loopIters)
  rw [readsEnd]
  omega

lemma Checked.dataIter_end (isA : Bool) :
    dataIter k isA (k.loopIters - 1) = readsEnd k isA - 1 := by
  have hpos := served_pos k isA
  have hmul := h.readsEnd_mul isA
  rw [dataIter]
  have : (k.loopIters - 1) / served k isA = readsEnd k isA + k.prefetchedReads - 1 := by
    rw [ediv_eq_iff_of_pos hpos, sub_mul, hmul]
    omega
  omega

lemma Checked.countedReads_end (hp : k.prefetchedReads = 1) (n : Bool → Int) (isA : Bool) :
    countedReads k n (k.loopIters - 1) isA = 0 := by
  have hle := h.readsEnd_le isA
  have hd := h.dataIter_end isA
  have hlast := dataIter_le_last k isA (k.loopIters - 1)
  rw [countedReads]
  split
  · rfl
  · rw [min_eq_right (by omega), show readsEnd k isA - lastDataIter k (k.loopIters - 1) - 1 = 0 by omega, mul_zero]

lemma Checked.skippedReads_end (ht : k.itersPerRead t = served k isA) :
    skippedReads k (k.loopIters - 1) (lastDataIter k (k.loopIters - 1)) 1 t = 1 := by
  have hle := h.readsEnd_le isA
  have hd := h.dataIter_end isA
  have hp := h.prefetchedReads
  rw [skippedReads, dataAt_eq ht, readIters_eq ht]
  split <;> omega

/-- The reads of the count: those between the last reads that are used and the iteration, and the own. -/
lemma readsBehind_eq {a b : Side} (ha : ReadsOf k n true a) (hb : ReadsOf k n false b) (halg : k.scheduleIterAlg = 3)
    (hg : k.prefetchGlobalRead ≠ 0) (hemit : k.emits .localRead) {u own : Int} (hu : 0 ≤ u)
    (hlt : u < k.loopIters) {hasReads : Bool} (hreads : k.loopIters - k.prefetchedReads ≤ u → hasReads)
    (hown : readsEnd k true ≤ u → readsEnd k false ≤ u → u < k.loopIters - k.prefetchedReads → own = 0) :
    readsBehind k u a b (nextIters k u hasReads) own = countedReads k n u true + countedReads k n u false + own := by
  rw [readsBehind, latestData_eq ha hb]
  by_cases hnext : u < k.loopIters - k.prefetchedReads
  · have hzero : nextIters k u hasReads = 0 := by
      rw [nextIters, fdiv_eq_ediv_of_nonneg _ (by omega), ediv_eq_zero_of_lt hu hnext]
      simp
    rw [hzero, ← countedReads_eq ha u, ← countedReads_eq hb u]
    have hA := readIters_eq ha.iters u
    have hB := readIters_eq hb.iters u
    by_cases hnow : u < readsEnd k true ∨ u < readsEnd k false
    · rw [if_pos]
      · ring
      · simp [halg, hemit, hA, hB]
        omega
    · rw [if_neg, hown (by omega) (by omega) hnext]
      · simp [ownReads, hA, hB]
        omega
      · simp [halg, hemit, hA, hB]
        omega
  · obtain hp | hp := h.prefetchedReads
    · omega
    · obtain rfl : u = k.loopIters - 1 := by omega
      have hone : nextIters k (k.loopIters - 1) hasReads = 1 := by
        have := h.served_lt hp true
        have := served_pos k true
        rw [nextIters, hp, hreads (by omega), fdiv_eq_ediv_of_nonneg _ (by omega), Int.ediv_self (by omega)]
        simp [hg]
      rw [hone, h.skippedReads_end ha.iters, h.skippedReads_end hb.iters, h.countedReads_end hp, h.countedReads_end hp,
        if_pos (by simp [halg, hemit])]
      simp [ownReads]

lemma Checked.lastDataIter_nonneg {u : Int} (hu : 0 ≤ u) : 0 ≤ lastDataIter k u + 1 := by
  have := ediv_nonneg hu (served_pos k true).le
  have hp := h.prefetchedReads
  have := dataIter_le_last k true u
  rw [dataIter] at this
  omega

end Checked

/-- The writes to local memory that go with an iteration. -/
def writesAt (p : Pending) (t : Nat) : Nat := (localOps (p.writes.getD t [])).length

variable {P : State → Prop} {p : Pending}

lemma total_localWrites_eq (hw : ∀ j, OnlyWrites (p.writes.getD j [])) (t : Nat) :
    total Item.localWrites (p.writes.getD t []) = writesAt p t := by
  rw [total_localWrites, writesAt, countP_eq_length]
  exact hw t

lemma writesIn_ends (hw : ∀ j, OnlyWrites (p.writes.getD j [])) {start stop : Int} (hstart : 0 ≤ start) :
    Ends P (writesIn p start stop) fun n =>
      n = ((∑ t ∈ Ico start.toNat stop.toNat, writesAt p t : Nat) : Int) := by
  unfold writesIn
  by_cases hle : start ≤ stop
  · refine .foldlM_span (fun u n => n = ((∑ t ∈ Ico start.toNat u.toNat, writesAt p t : Nat) : Int)) hle ?_
      (by simp)
    rintro u n hu - rfl
    refine .bind' .wrapped' fun j hj => .pure' ?_
    obtain rfl : j = u.toNat := by have := hj.2.1 (by omega); omega
    rw [total_localWrites_eq hw, show (u + 1).toNat = u.toNat + 1 by omega, sum_Ico_succ_top (by omega)]
    push_cast
    rfl
  · have hspan : span start stop = [] := by simp [span, upTo]; omega
    rw [hspan, Ico_eq_empty (by omega)]
    exact .pure' (by simp)

/-- Writes of the last iteration whose reads are used that come behind its reads. -/
def skippedWrites (p : Pending) (latest : Int) : Int :=
  p.skippable.getD (if latest < 0 then latest + p.skippable.size else latest).toNat 0

lemma ownWrites_ends (k : KernelSpec) (p : Pending) (o : Ordered) (latest : Int) :
    Ends P (ownWrites k p o latest) fun n => n = if 0 < k.scheduleLocalWrite then
      o.writes + if k.prefetchedReads = 0 then 0 else skippedWrites p latest else 0 := by
  unfold ownWrites
  refine .ite' (fun hw => ?_) fun hw => .pure' (by rw [if_neg hw])
  rw [if_pos hw]
  refine .ite' (fun hp => ?_) fun hp => .pure' (by simp at hp; simp [hp])
  rw [if_neg (by simpa using hp)]
  refine .bind' .wrapped' fun j hj => .pure' ?_
  obtain rfl : j = (if latest < 0 then latest + p.skippable.size else latest).toNat := by
    split
    · have := hj.2.2 (by omega)
      omega
    · have := hj.2.1 (by omega)
      omega
  rfl

/-- The writes of the count: those between the last reads that are used and the iteration, the own, and
those behind the last reads that are used. -/
lemma writesBehind_ends (halg : k.scheduleIterAlg = 3)
    (hw : ∀ j, OnlyWrites (p.writes.getD j [])) (o : Ordered) {u latest : Int} (hl : 0 ≤ latest + 1) :
    Ends P (writesBehind k p o u latest) fun n =>
      n = ((∑ t ∈ Ico (latest + 1).toNat u.toNat, writesAt p t : Nat) : Int) + if 0 < k.scheduleLocalWrite then
          o.writes + if k.prefetchedReads = 0 then 0 else skippedWrites p latest else 0 := by
  unfold writesBehind
  simp only [halg]
  refine .bind' (writesIn_ends hw hl) fun n hn => ?_
  exact .bind' (ownWrites_ends k p o latest) fun n' hn' => .pure' (by rw [hn, hn'])

/-- A state in which the iterations of a kernel are put in order: `n` is the number of reads for each
input, and `limit` the largest count that a wait can have. -/
structure Ready (k : KernelSpec) (n : Bool → Int) (limit : Int) (st : State) : Prop where
  spec : st.k = k
  itersA : k.itersPerRead st.a.toInput = served k true
  itersB : k.itersPerRead st.b.toInput = served k false
  readsA : st.a.readsPerIter = n true
  readsB : st.b.readsPerIter = n false
  limit : (currentLimit "MaxLgkmcnt").run st.session = .ok limit st.session

/-- What the wait of iteration `u` counts, short of the limit. -/
def counted (k : KernelSpec) (n : Bool → Int) (p : Pending) (o : Ordered) (u : Int) : Int :=
  countedReads k n u true + countedReads k n u false + o.reads +
    (((∑ t ∈ Ico (lastDataIter k u + 1).toNat u.toNat, writesAt p t : Nat) : Int) +
      if 0 < k.scheduleLocalWrite then
        o.writes + if k.prefetchedReads = 0 then 0 else skippedWrites p (lastDataIter k u) else 0)

/-- The kernels whose waits are considered: one tile is loaded ahead at least, all of it is kept in local
memory at once, and everything is placed between matrix instructions. -/
structure Scheduled (k : KernelSpec) (m : MatrixSpec) : Prop extends Checked k m where
  alg : k.scheduleIterAlg = 3
  tileAhead : k.prefetchGlobalRead ≠ 0
  whole : k.depthULdsDivisor = 1
  reads : k.emits .localRead
  writes : 0 ≤ k.scheduleLocalWrite

section

variable {limit : Int} {x : Iter} {o : Ordered} (h : Scheduled k m)
  (hw : ∀ j, OnlyWrites (p.writes.getD j [])) (hu : 0 ≤ x.u) (hlt : x.u < k.loopIters)
  {hasReads : Bool} (hreads : k.loopIters - k.prefetchedReads ≤ x.u → hasReads)
  (hown : readsEnd k true ≤ x.u → readsEnd k false ≤ x.u → x.u < k.loopIters - k.prefetchedReads → o.reads = 0)

include h hw hu hlt hreads hown

lemma startedBehind_ends :
    Ends (Ready k n limit) (startedBehind k p x o hasReads) fun r => r.1 + r.2.1 = counted k n p o x.u := by
  unfold startedBehind
  refine .bind' (R := ReadsOf k n true) (.reading fun st hst => ⟨hst.itersA, hst.readsA⟩) fun a ha => ?_
  refine .bind' (R := ReadsOf k n false) (.reading fun st hst => ⟨hst.itersB, hst.readsB⟩) fun b hb => ?_
  rw [latestData_eq ha hb]
  refine .bind' (writesBehind_ends h.alg hw o (h.lastDataIter_nonneg hu)) fun writes hwrites => .pure' ?_
  rw [readsBehind_eq h.toChecked ha hb h.alg h.tileAhead h.reads hu hlt hreads hown, hwrites, counted]

lemma correct_ends : Ends (Ready k n limit) (correct k p x o hasReads) fun r => ∀ w, x.wait = .counts w →
      ∃ w', r.1 = .counts w' ∧ w'.lgkmcnt = min (counted k n p o x.u) limit := by
  unfold correct
  split
  next items hwait => exact .pure' fun w hw => by rw [hwait] at hw; cases hw
  next w hwait =>
    refine .bind' (R := (· = limit)) (.lift' fun st hst => ?_) fun l hl => ?_
    · rw [hst.limit]
      exact ⟨hst, rfl⟩
    · simp only [allowed, h.matrix, Option.isSome_some, if_true, bind_assoc, pure_bind]
      refine .bind' (startedBehind_ends h hw hu hlt hreads hown) fun r hr => ?_
      refine .pure' fun w' hw' => ?_
      rw [hwait] at hw'
      cases hw'
      exact ⟨_, rfl, by rw [← hr, hl]⟩

end

/-- Whether iteration `u` reads an input: as long as there are elements of this tile that are not read, and
for the next tile in the iterations by which reads run ahead. -/
def readsInput (k : KernelSpec) (isA : Bool) (u : Int) : Bool :=
  (u + k.prefetchedReads) * served k isA < k.loopIters || k.loopIters - k.prefetchedReads ≤ u

lemma Checked.readsInput_iff (h : Checked k m) (isA : Bool) (u : Int) :
    readsInput k isA u ↔ u < readsEnd k isA ∨ k.loopIters - k.prefetchedReads ≤ u := by
  have hmul := h.readsEnd_mul isA
  have hpos := served_pos k isA
  rw [readsInput, Bool.or_eq_true, decide_eq_true_eq, decide_eq_true_eq]
  have hlt : (u + k.prefetchedReads) * served k isA < (readsEnd k isA + k.prefetchedReads) * served k isA ↔
      u < readsEnd k isA := by
    rw [Int.mul_lt_mul_right hpos]
    omega
  rw [hmul] at hlt
  rw [hlt]

/-- The reads that an iteration is given: `n` for each input that it reads, which `ofA` tells apart, and
nothing else is started on local memory. -/
structure Fed (k : KernelSpec) (n : Bool → Int) (ofA : Item → Bool) (x : Iter) : Prop where
  idle : x.Idle
  reads : ∀ o ∈ readOps k x, o.isRead
  each : ∀ isA, ((readOps k x).countP (ofA · == isA) : Int) =
    if readsInput k isA x.u then n isA else 0
  all : total Item.localReads x.reads = (readOps k x).length

variable {ofA : Item → Bool}

lemma Fed.length (hx : Fed k n ofA x) : ((readOps k x).length : Int) =
    (if readsInput k true x.u then n true else 0) + if readsInput k false x.u then n false else 0 := by
  rw [← hx.each true, ← hx.each false, length_eq_countP_add_countP (ofA · == true)]
  push_cast
  congr 3
  funext o
  cases ofA o <;> rfl

lemma Fed.given (hx : Fed k n ofA x) (hp : p.Planned k m) (j : Nat) :
    Given k x (p.loads.getD j []) (p.writes.getD j []) :=
  ⟨hx.idle, hx.reads, hx.all.ge, hp.loads j, hp.writes j⟩

/-- An iteration in its order: what it starts, what it leaves of the plan, and what its wait counts. -/
lemma arrange_ends (h : Scheduled k m) (hp : p.Planned k m) (hn : ∀ isA, 0 < n isA) (hx : Fed k n ofA x)
    (hu : 0 ≤ x.u) (hlt : x.u < k.loopIters) (skippable : Array Int) :
    Ends (Ready k n limit) (arrange { p with skippable } x) fun r => ∃ o : Ordered,
      o.Starts k x (p.writes.getD x.u.toNat []) ∧ r.1.u = x.u ∧ r.1.before = o.before.toList ∧
      r.1.after = o.after.toList ∧ r.2 = { p with skippable := skippable.modify x.u.toNat (· + o.skippable) } ∧
      ∀ w, x.wait = .counts w → ∃ w', r.1.wait = .counts w' ∧ w'.lgkmcnt = min (counted k n r.2 o x.u) limit := by
  obtain ⟨s, hs, hroom⟩ := hp.room
  unfold arrange
  refine .bind' (R := (k = ·)) (.reading fun st hst => hst.spec.symm) ?_
  rintro _ rfl
  refine .bind' .wrapped' fun i hi => ?_
  obtain rfl : i = x.u.toNat := by have := hi.2.1 hu; omega
  simp only [h.alg]
  have hroom' := hroom x.u.toNat (by omega)
  rw [toNat_of_nonneg hu] at hroom'
  refine .bind' (betweenMatrices_ends (fun st hst => ⟨hst.spec, hst.itersA, hst.itersB, hst.readsA, hst.readsB, hst.limit⟩)
    hs h.matrix h.tiles (hx.given hp _) hroom') fun o ho => ?_
  have hlen := hx.length
  refine .bind' (correct_ends h (p := { p with skippable := skippable.modify x.u.toNat (· + o.skippable) }) hp.writes
    hu hlt ?_ ?_) fun r hr => .pure' ⟨o, ho, rfl, rfl, rfl, rfl, hr⟩
  · intro hnext
    rw [hx.all, decide_eq_true_eq]
    rw [if_pos ((h.readsInput_iff true _).mpr (.inr hnext)), if_pos ((h.readsInput_iff false _).mpr (.inr hnext))] at hlen
    have := hn true
    have := hn false
    omega
  · intro hA hB hnext
    rw [if_neg (by rw [h.readsInput_iff]; omega), if_neg (by rw [h.readsInput_iff]; omega)] at hlen
    have hall := ho.readsAll
    rw [localOps_append, countP_append] at hall
    rw [ho.reads]
    omega

end TensorForge.Assembly.Interleave
