import Mathlib.Algebra.BigOperators.Group.List.Basic
import TensorForge.Proofs.Emitting

/-!
# Loads over the iterations

Loads of the next tile and the steps of their addresses are spread over the iterations of the unrolled loop,
and the writes of that tile to local memory after them. Where the places are counted in matrix instructions,
they are in the loop. Items are handed out in their order, so that what the iterations get, one after the
other, is the list that was handed out. Spreading checks on its way that nothing is left over and that all
tables have what is looked up; a theorem that leaves open whether a check fails has `e`, and what rules it out
is needed only without it.
-/

namespace TensorForge.Assembly

open Asm Asm.Item Function Int List Nat Bool

/-- Whether loads are spread over the iterations; otherwise all come before the first. -/
def spreadsLoads (k : KernelSpec) : Bool :=
  !(k.scheduleGlobalRead == 0 || k.prefetchGlobalRead == 0 || !k.bufferLoad)

/-- Whether writes are spread over the iterations; otherwise all come in one. -/
def spreadsWrites (k : KernelSpec) : Bool :=
  k.scheduleLocalWrite != 0 && k.prefetchGlobalRead != 0 && k.bufferLoad

/-- Whether loads are put off until the writes of the tile before. -/
def postponesLoads (k : KernelSpec) : Bool := k.prefetchGlobalRead == 2 || k.depthULdsDivisor > 1

/-- A state of the kernel in which all is known that spreading looks up: that a matrix instruction takes some
time, the limits of the counts of waits, and whether stores are counted apart. -/
structure State.Knows (k : KernelSpec) (st : State) : Prop where
  spec : st.k = k
  latency : -3 < st.layout.matrixLatency
  loads : ∃ n, (currentLimit "MaxVmcnt").run st.session = .ok n st.session
  reads : ∃ n, (currentLimit "MaxLgkmcnt").run st.session = .ok n st.session
  loadsAtWait : ∃ n : Int, st.asmCaps.get? "MaxVmcnt" = some (.int n)
  readsAtWait : ∃ n : Int, st.asmCaps.get? "MaxLgkmcnt" = some (.int n)
  stores : ∃ v, st.archCaps.get? "SeparateVscnt" = some v

/-- What spreading needs of a kernel: a loop with a tile loaded ahead, in which the writes end in iteration
`writeEnd` unless their places are counted in matrix instructions, as they are when tiles are kept in parts. -/
structure Spreadable (k : KernelSpec) (writeEnd : Int) : Prop where
  iters : 0 < k.loopIters
  tiles : ∀ m, k.matrix = some m → 0 < matricesPerIter k m
  tileAhead : k.prefetchGlobalRead ≠ 0
  matrices : k.scheduleIterAlg = 3 → k.matrix.isSome
  parts : 1 < k.depthULdsDivisor → k.scheduleIterAlg = 3
  inLoop : countsMatrices k = false → 0 ≤ writeEnd ∧ writeEnd < k.loopIters

lemma Spreadable.not_three {k : KernelSpec} {writeEnd : Int} (h : Spreadable k writeEnd)
    (hc : countsMatrices k = false) : k.scheduleIterAlg ≠ 3 := by
  intro ha
  rw [countsMatrices, h.matrices ha, ha] at hc
  cases hc

/-- What is to be spread: items that load are modules, and so are the writes, of which there are lists. -/
structure Pending.Listed (q : Pending) (itemsA itemsB : Items) : Prop where
  loads : ∀ i ∈ q.loadsA.middle ++ q.loadsB.middle, i matches .module _ _ _
  writesA : q.writesA = some itemsA
  writesB : q.writesB = some itemsB
  writes : ∀ i ∈ itemsA ++ itemsB, i matches .module _ _ _

namespace Spread

variable {e : Prop} {P : State → Prop} {k : KernelSpec} {m : MatrixSpec} {s : Slots} {q : Pending}
  {slots : Option Slots} {writeEnd : Int} {slots : Option Slots} (first each size : Nat)

section Places

variable {α : Type}

lemma getD_modify (a : Array α) (i j : Nat) (f : α → α) (d : α) :
    (a.modify i f).getD j d = if i = j ∧ j < a.size then f (a.getD j d) else a.getD j d := by
  simp only [Array.getD_eq_getD_getElem?, Array.getElem?_modify]
  split
  next h =>
    subst h
    by_cases hi : i < a.size
    · simp [hi]
    · simp [hi]
  next h => simp [h]

lemma getD_replicate_nil (n j : Nat) : (Array.replicate n ([] : List α)).getD j [] = [] := by
  rw [Array.getD_eq_getD_getElem?, Array.getElem?_replicate]
  split <;> rfl

lemma flatten_modify {a : Array (List α)} {j : Nat} (hj : j < a.size) (hnil : ∀ i, j < i → a.getD i [] = [])
    (l : List α) : (a.modify j (· ++ l)).toList.flatten = a.toList.flatten ++ l := by
  rw [Array.toList_modify]
  have hnil' : ∀ i, j < i → a.toList.getD i [] = [] := fun i hi => by
    rw [getD_eq_getElem?_getD, Array.getElem?_toList, ← Array.getD_eq_getD_getElem?]
    exact hnil i hi
  rw [← Array.length_toList] at hj
  clear hnil
  generalize a.toList = b at hj hnil'
  induction b generalizing j with
  | nil => simp at hj
  | cons c b ih =>
    cases j with
    | zero =>
      have hb : b.flatten = [] := by
        rw [flatten_eq_nil_iff]
        intro d hd
        obtain ⟨i, hi⟩ := mem_iff_getElem?.mp hd
        have := hnil' (i + 1) (by omega)
        simpa [hi] using this
      simp [hb]
    | succ j =>
      simp only [modify_succ_cons, flatten_cons, append_assoc]
      rw [ih (by simpa using hj) fun i hi => by simpa using hnil' (i + 1) (by omega)]

lemma flatten_replicate_nil (n : Nat) : (Array.replicate n ([] : List α)).toList.flatten = [] := by
  simp

lemma getD_subset_flatten (a : Array (List α)) (j : Nat) : a.getD j [] ⊆ a.toList.flatten := by
  intro i hi
  rw [Array.getD_eq_getD_getElem?] at hi
  cases h : a[j]? with
  | none => simp [h] at hi
  | some l =>
    rw [h] at hi
    exact mem_flatten.mpr ⟨l, Array.mem_toList_iff.mpr (Array.mem_of_getElem? h), hi⟩

end Places

/-- The state of handing out after `n` iterations behind the first. -/
structure Handed (items : Items) (n : Nat) (t : Array Items × Items × Int) : Prop where
  left : t.2.1 = items.drop (first + each * n)
  got : ∀ j, t.1.getD j [] ⊆ if j = 0 then items else items.drop (first + each * (j - 1))
  none : ∀ j, n < j → t.1.getD j [] = []
  beyond : ∀ j : Nat, t.2.2 < j → t.1.getD j [] = []
  inOrder : n < size → t.1.toList.flatten ++ t.2.1 = items
  last : 0 ≤ t.2.2 ∧ t.2.2 ≤ n
  size : t.1.size = size

lemma handOut_spec {stop : Int} (hstop : stop ≤ size) (items : Items) :
    Handed first each size items (stop - 1).toNat (handOut first each stop items (.replicate size [])) := by
  unfold handOut span upTo
  rw [Array.size_replicate, min_eq_left hstop]
  rw [map_map]
  generalize (stop - 1).toNat = n
  induction n with
  | zero =>
    have hnone : ∀ j, 0 < j → ((Array.replicate size []).modify 0 (· ++ items.take first)).getD j [] = [] := fun j hj => by
      rw [getD_modify, if_neg (by omega), getD_replicate_nil]
    refine ⟨by simp, fun j => ?_, hnone, fun j hj => hnone j (by simpa using hj), fun hn => ?_, by simp, by simp⟩
    · simp only [range_zero, map_nil, foldl_nil, getD_modify, getD_replicate_nil]
      split
      next h =>
        rw [if_pos h.1.symm]
        simpa using take_subset first items
      next => exact nil_subset _
    · simp only [range_zero, map_nil, foldl_nil]
      rw [flatten_modify (by simpa using hn) fun i _ => getD_replicate_nil size i, flatten_replicate_nil,
        nil_append, take_append_drop]
  | succ n ih =>
    rw [range_succ, map_append, foldl_append]
    generalize foldl _ _ _ = t at ih
    simp only [map_cons, map_nil, foldl_cons, foldl_nil, comp_apply, ofNat_eq_natCast]
    refine ⟨?_, fun j => ?_, fun j hj => ?_, fun j hj => ?_, fun hn => ?_, ?_, by simp [ih.size]⟩
    · simp [ih.left, mul_succ, add_assoc]
    · rw [getD_modify]
      split
      next h =>
        rw [ih.none j (by omega), ih.left, if_neg (by omega), show j - 1 = n by omega]
        simpa using take_subset each _
      next => exact ih.got j
    · rw [getD_modify, if_neg (by omega)]
      exact ih.none j (by omega)
    · dsimp only at hj
      rw [getD_modify]
      split at hj
      next hnone =>
        rw [ih.beyond j hj]
        simp only [or_eq_true, List.isEmpty_iff, beq_iff_eq] at hnone
        obtain h | h := hnone <;> simp [h]
      next =>
        rw [if_neg (by omega)]
        exact ih.none j (by omega)
    · rw [flatten_modify (by rw [ih.size]; omega) fun i hi => ih.none i (by omega), append_assoc,
        take_append_drop, ih.inOrder (by omega)]
    · obtain ⟨a, b, last⟩ := t
      have := ih.last
      dsimp only at this ⊢
      split <;> push_cast <;> omega

lemma Handed.flatten {first each size n : Nat} {items : Items} {t : Array Items × Items × Int}
    (h : Handed first each size items n t) (hn : n < size) {behind : Nat} (hle : n ≤ behind) (hlt : behind < size)
    (more : Items) : (t.1.modify behind (· ++ (t.2.1 ++ more))).toList.flatten = items ++ more := by
  rw [flatten_modify (by rw [h.size]; exact hlt) fun i hi => h.none i (by omega), ← append_assoc, h.inOrder hn]

lemma le_quotientUp_mul (a : Int) {b : Int} (hb : 0 < b) : a ≤ quotientUp a b * b := by
  have h := mul_fdiv_add_fmod (-a) b
  have hm := fmod_nonneg_of_pos (-a) hb
  rw [quotientUp, neg_mul, mul_comm]
  omega

lemma quotientUp_pos {a b : Int} (ha : 0 < a) (hb : 0 < b) : 0 < quotientUp a b := by
  by_contra hq
  have h := le_quotientUp_mul a hb
  have hneg : quotientUp a b * b ≤ 0 := Int.mul_nonpos_of_nonpos_of_nonneg (by omega) (by omega)
  omega

/-- The places of the writes: the last is in the loop, and at its end when nothing is read ahead. -/
structure Placed (k : KernelSpec) (m : MatrixSpec) (s : Slots) : Prop where
  loadsPerStep : 0 < s.loadsPerStep
  writesPerStep : 0 < s.writesPerStep
  nonneg : 0 ≤ s.writeEnd
  inLoop : s.writeEnd < matricesPerIter k m * k.loopIters
  atEnd : k.prefetchedReads = 0 → s.writeEnd = matricesPerIter k m * k.loopIters - 1

lemma le_hideReads (latency cost : Int) (n : Nat) (s : Int × Int) : s.1 ≤ (hideReads latency cost n s).1 := by
  induction n generalizing s with
  | zero => exact le_rfl
  | succ n ih =>
    refine le_trans ?_ (ih _)
    split
    · exact le_add_one le_rfl
    · exact le_rfl

/-- How many matrix instructions hide the first reads of the next tile, if there are as many. -/
def hidingCount (a b : Side) (latency : Int) : Int :=
  let s := hideReads latency (a.localRead.latency * 2) a.readsPerVector.toNat (1, latency)
  let s := hideReads latency (b.localRead.latency * 2) b.readsPerVector.toNat s
  let s := hideReads latency (a.localRead.latency * 2) (a.readsPerIter - a.readsPerVector).toNat s
  let s := hideReads latency (b.localRead.latency * 2) (b.readsPerIter - b.readsPerVector).toNat s
  let behind := b.localRead.latency * 18 - s.2 - (latency + 3)
  if behind > 0 then s.1 + quotientUp behind (latency + 3) else s.1

lemma hidingCount_pos (a b : Side) {latency : Int} (h : -3 < latency) : 0 < hidingCount a b latency := by
  unfold hidingCount
  dsimp only
  generalize hs1 : hideReads latency (a.localRead.latency * 2) a.readsPerVector.toNat (1, latency) = s1
  generalize hs2 : hideReads latency (b.localRead.latency * 2) b.readsPerVector.toNat s1 = s2
  generalize hs3 : hideReads latency (a.localRead.latency * 2) (a.readsPerIter - a.readsPerVector).toNat s2 = s3
  generalize hs4 : hideReads latency (b.localRead.latency * 2) (b.readsPerIter - b.readsPerVector).toNat s3 = s4
  have h1 : (1 : Int) ≤ s1.1 := hs1 ▸ le_hideReads latency _ _ (1, latency)
  have h2 : s1.1 ≤ s2.1 := hs2 ▸ le_hideReads latency _ _ _
  have h3 : s2.1 ≤ s3.1 := hs3 ▸ le_hideReads latency _ _ _
  have h4 : s3.1 ≤ s4.1 := hs4 ▸ le_hideReads latency _ _ _
  split
  next hb =>
    have := quotientUp_pos hb (by omega : 0 < latency + 3)
    omega
  next => omega

lemma placeWrites_meets (hn : 0 < matricesPerIter k m) (hl : 0 < k.loopIters) {a b : Side} {latency : Int}
    (hlat : ¬e → -3 < latency) : Meets e P (placeWrites k m a b latency) (Placed k m) := by
  have hpos : 0 < matricesPerIter k m * k.loopIters := Int.mul_pos hn hl
  have hahead : 0 ≤ k.prefetchedReads := emod_nonneg _ (by omega)
  have hle : k.prefetchedReads ≠ 0 →
      matricesPerIter k m * (k.loopIters - k.prefetchedReads + 1) ≤ matricesPerIter k m * k.loopIters := fun h =>
    Int.mul_le_mul_of_nonneg_left (by omega) hn.le
  unfold placeWrites
  dsimp only
  generalize hc : (if _ > (0 : Int) then _ else _ : Int) = count
  change hidingCount a b latency = count at hc
  refine .bind' (.check' fun _ => by simp) fun _ _ => .bind' (.check' fun he => ?_) fun _ hin =>
    .pure' ?_
  · have hcount := hidingCount_pos a b (hlat he)
    rw [decide_eq_true_eq]
    by_cases hp : k.prefetchedReads = 0
    · simp only [hp, bne_self_eq_false, false_eq_true, if_false]
      split <;> omega
    · have := hle hp
      split <;> split <;> omega
  · rw [decide_eq_true_eq] at hin
    refine ⟨?_, ?_, ?_, hin, ?_⟩
    · dsimp only
      split <;> decide
    · dsimp only
      omega
    · dsimp only
      split <;> split <;> omega
    · intro h
      simp only [h, bne_self_eq_false, false_eq_true, if_false]
      split <;> omega

/-- Where writes end: places are counted in matrix instructions or not at all. -/
def Counted (k : KernelSpec) (slots : Option Slots) : Prop :=
  if countsMatrices k then ∃ m s, k.matrix = some m ∧ slots = some s ∧ Placed k m s else slots = none

/-- The iteration of the last write. -/
def lastWrite (k : KernelSpec) (slots : Option Slots) (writeEnd : Int) : Int :=
  match slots, k.matrix with
  | some s, some m => min (k.loopIters - 1) (.fdiv s.writeEnd (matricesPerIter k m))
  | _, _ => writeEnd

/-- An iteration that begins behind a place comes behind the iteration of that place. -/
lemma fdiv_lt_of_lt_mul {a b n : Int} (hn : 0 < n) (h : a < b * n) : .fdiv a n < b := by
  rw [fdiv_eq_ediv_of_nonneg _ hn.le]
  exact Int.ediv_lt_of_lt_mul hn h

lemma Placed.lastWrite (hs : Placed k m s) (hm : k.matrix = some m) (hn : 0 < matricesPerIter k m) :
    lastWrite k (some s) writeEnd = .fdiv s.writeEnd (matricesPerIter k m) := by
  have hlt : s.writeEnd.fdiv (matricesPerIter k m) < k.loopIters :=
    fdiv_lt_of_lt_mul hn (by rw [mul_comm]; exact hs.inLoop)
  simp only [Spread.lastWrite, hm]
  omega

lemma Counted.lastWrite (hc : Counted k slots) (hn : ∀ m, k.matrix = some m → 0 < matricesPerIter k m)
    (hl : 0 < k.loopIters) (hend : countsMatrices k = false → 0 ≤ writeEnd ∧ writeEnd < k.loopIters) :
    0 ≤ lastWrite k slots writeEnd ∧ lastWrite k slots writeEnd < k.loopIters := by
  unfold Counted at hc
  unfold Spread.lastWrite
  split at hc
  next =>
    obtain ⟨m, s, hm, rfl, hp⟩ := hc
    have := fdiv_nonneg hp.nonneg (hn m hm).le
    simp only [hm]
    omega
  next h =>
    subst hc
    exact hend (by simpa using h)

/-- The places that are counted in matrix instructions. -/
def countPlaces (k : KernelSpec) (a b : Side) : Emit (Option Slots) :=
  match k.matrix with
  | some m => if countsMatrices k then do
      let layout ← .layout
      some <$> placeWrites k m a b layout.matrixLatency
    else pure none
  | none => pure none

lemma countPlaces_meets (hk : Spreadable k writeEnd) (hlat : ¬e → ∀ st, P st → -3 < st.layout.matrixLatency)
    (a b : Side) : Meets e P (countPlaces k a b) (Counted k) := by
  unfold countPlaces Counted
  cases hm : k.matrix with
  | none => exact .pure' (by simp [countsMatrices, hm])
  | some m =>
    refine .ite' (fun h => ?_) fun h => .pure' (by simp [h])
    refine .bind' (R := fun l => ¬e → -3 < l.matrixLatency) (.reading fun st hP he => hlat he st hP)
      fun l hlat => ?_
    refine .bind' (placeWrites_meets (hk.tiles m hm) hk.iters hlat) fun s hs => .pure' ?_
    simp only [h]
    exact ⟨m, s, rfl, rfl, hs⟩

lemma countLeaves_module (p : InstKind → Bool) (kind : ModuleKind) (name : Text) (items : Items) :
    (module kind name items).countLeaves p = (items.map (countLeaves p)).sum := by
  unfold countLeaves
  rw [leaves]
  induction items with
  | nil => rfl
  | cons i items ih => rw [leavesOf, countP_append, ih, map_cons, sum_cons]

/-- Items with code in front of the first, which is a module. -/
def fronted (code : Items) : Items → Items
  | .module kind name items :: rest => .module kind name (modul "" code :: items) :: rest
  | items => items

variable {code items : Items}

lemma putFirst_meets (h : ¬e → ∀ i ∈ items, i matches .module _ _ _) :
    Meets e P (putFirst code items) (· = fronted code items) := by
  unfold putFirst
  split
  · exact .pure' rfl
  · exact .pure' rfl
  next i _ hne =>
    refine .throw' ?_ _
    by_contra he
    have hi := h he i (by simp)
    split at hi
    next kind name l => exact hne kind name l rfl
    next => cases hi

lemma fronted_counts {p : InstKind → Bool} (h : ∀ i ∈ items, 0 < i.countLeaves p) :
    ∀ i ∈ fronted code items, 0 < i.countLeaves p := by
  unfold fronted
  split
  next kind name l rest =>
    rw [forall_mem_cons] at h ⊢
    refine ⟨?_, h.2⟩
    have := h.1
    rw [countLeaves_module] at this ⊢
    simp only [map_cons, sum_cons]
    omega
  next => exact h

/-- All loads of the next tile, in their order. -/
def loadsInOrder (q : Pending) : Items :=
  fronted q.directA q.loadsA.middle ++ fronted q.directB q.loadsB.middle

lemma loadsInOrder_load (h : ∀ i ∈ q.loadsA.middle ++ q.loadsB.middle, 0 < i.globalReads) :
    ∀ i ∈ loadsInOrder q, 0 < i.globalReads := by
  intro i hi
  obtain hi | hi := mem_append.mp hi
  · exact fronted_counts (fun j hj => h j (by simp [hj])) i hi
  · exact fronted_counts (fun j hj => h j (by simp [hj])) i hi

def footers (q : Pending) : Items := q.loadsA.footer ++ q.loadsB.footer

/-- What is handed out to the iterations, and what goes with the writes. -/
def handedOut (k : KernelSpec) (q : Pending) (slots : Option Slots) : Items × Items :=
  portions k (loadsInOrder q) (increments q slots)

/-- How the loads are spread: those that are handed out are in the iterations in their order, and what
comes behind loads is in the last of these iterations. -/
structure Loaded (k : KernelSpec) (q : Pending) (slots : Option Slots) (writeEnd : Int) (l : SpreadLoads) : Prop where
  header : l.header = q.loadsA.header ++ q.loadsB.header
  later : l.later = some (handedOut k q slots).2
  places : l.slots = (handing k slots writeEnd (handedOut k q slots).1).slots
  loads : l.loads.toList.flatten = (handedOut k q slots).1 ++ footers q
  last : 0 ≤ l.last ∧ l.last ≤ max 0 ((handing k slots writeEnd (handedOut k q slots).1).stop - 1)
  /-- The iterations have what was handed out to them, and one of them what is left and comes behind. -/
  handed : ∃ t behind, Handed (handing k slots writeEnd (handedOut k q slots).1).first.toNat
      (handing k slots writeEnd (handedOut k q slots).1).each.toNat k.loopIters.toNat (handedOut k q slots).1
      ((handing k slots writeEnd (handedOut k q slots).1).stop - 1).toNat t ∧
    l.loads = t.1.modify behind (· ++ (t.2.1 ++ footers q)) ∧ l.last = t.2.2 ∧ (l.slots = none → t.2.1 = [])

lemma handing_inLoop (hl : 0 < k.loopIters) (hn : ∀ m, k.matrix = some m → 0 < matricesPerIter k m)
    (hw : 0 ≤ writeEnd ∧ writeEnd < k.loopIters) (hc : Counted k slots) {now : Items} {h : Handing}
    (hh : handing k slots writeEnd now = h) : -k.loopIters ≤ h.stop - 1 ∧ h.stop - 1 < k.loopIters ∧
      (h.slots.isSome ∨ now.length ≤ h.first.toNat + h.each.toNat * (h.stop - 1).toNat) := by
  unfold Counted at hc
  split at hc
  next =>
    obtain ⟨m, s, hm, rfl, hs⟩ := hc
    have hlps := hs.loadsPerStep
    have hpos := quotientUp_pos (a := now.length + 2 + 2 * (s.loadsPerStep - 1)) (by omega) (hn m hm)
    simp only [handing, hm] at hh
    rw [← hh]
    exact ⟨by dsimp only; omega, by dsimp only; omega, .inl rfl⟩
  next =>
    subst hc
    simp only [handing] at hh
    split at hh <;> rw [← hh] <;> refine ⟨?_, ?_, .inr ?_⟩ <;> simp only [toNat_one] <;> omega

def loadsAtOnce (k : KernelSpec) (q : Pending) (slots : Option Slots) : SpreadLoads where
  header := q.directA ++ (q.loadsA.header ++ q.loadsA.middle ++ q.loadsA.footer) ++ q.directB ++
    (q.loadsB.header ++ q.loadsB.middle ++ q.loadsB.footer) ++
    [modul "globalReadIncrementA" q.stepsA, modul "globalReadIncrementB" q.stepsB]
  loads := .replicate k.loopIters.toNat []
  later := none
  slots := slots.map ({ · with loadEnd := 0 })

/-- The loads as they are spread, or all before the first iteration. -/
def LoadsSpread (k : KernelSpec) (q : Pending) (slots : Option Slots) (writeEnd : Int) (l : SpreadLoads) : Prop :=
  if spreadsLoads k then Loaded k q slots writeEnd l else l = loadsAtOnce k q slots

lemma spreadLoads_meets {stop : Int} (hk : Spreadable k stop) (hw : 0 ≤ writeEnd ∧ writeEnd < k.loopIters) (hc : Counted k slots)
    (hmod : ¬e → ∀ i ∈ q.loadsA.middle ++ q.loadsB.middle, i matches .module _ _ _) :
    Meets e P (spreadLoads k q slots writeEnd) (LoadsSpread k q slots writeEnd) := by
  unfold spreadLoads LoadsSpread
  refine .ite' (fun h => ?_) fun h => ?_
  · simp only [spreadsLoads, h]
    exact .pure' rfl
  simp only [spreadsLoads, h]
  refine .bind' (putFirst_meets fun he i hi => hmod he i (by simp [hi])) fun loadsA hA =>
    .bind' (putFirst_meets fun he i hi => hmod he i (by simp [hi])) fun loadsB hB => ?_
  have hparts : portions k (loadsA ++ loadsB) (increments q slots) = handedOut k q slots := by rw [hA, hB]; rfl
  rw [hparts]
  generalize hnow : handedOut k q slots = parts
  obtain ⟨now, later⟩ := parts
  generalize hh : handing k slots writeEnd now = h
  obtain ⟨hlo, hhi, hall⟩ := handing_inLoop hk.iters hk.tiles hw hc hh
  have ht := handOut_spec h.first.toNat h.each.toNat k.loopIters.toNat (show h.stop ≤ _ by omega) now
  generalize handOut h.first.toNat h.each.toNat h.stop now (.replicate k.loopIters.toNat []) = t at ht
  obtain ⟨loads, rest, last⟩ := t
  have hsize : loads.size = k.loopIters.toNat := ht.size
  have hlast : 0 ≤ last ∧ last ≤ (h.stop - 1).toNat := ht.last
  have hleft : rest = now.drop (h.first.toNat + h.each.toNat * (h.stop - 1).toNat) := ht.left
  refine .bind' (.check' fun _ => ?_) fun _ hrest =>
    .bind' (.wrapped' fun _ => by dsimp only; omega) fun behind hb => .pure' ?_
  · rw [or_eq_true, List.isEmpty_iff, hleft, drop_eq_nil_iff]
    exact hall
  rw [hsize] at hb
  have hassoc : (fun x : Items => x ++ rest ++ q.loadsA.footer ++ q.loadsB.footer) = (· ++ (rest ++ footers q)) := by
    simp [footers]
  refine ⟨rfl, by rw [hnow], by rw [hnow, hh], ?_, by rw [hnow, hh]; dsimp only; omega,
    (loads, rest, last), behind, by rw [hnow, hh]; exact ht, by rw [hassoc], rfl, fun hnone => ?_⟩
  · rw [hnow, hassoc]
    refine ht.flatten (by omega) ?_ hb.1 _
    by_cases hstop : 0 ≤ h.stop - 1
    · have := hb.2.1 hstop
      omega
    · omega
  · rw [show h.slots = none from hnone] at hrest
    simpa using hrest

variable {l : SpreadLoads}

/-- The places while loads are spread: the loads end before the writes do. -/
lemma LoadsSpread.places (h : LoadsSpread k q slots writeEnd l)
    (hc : Counted k slots) {s : Slots} (hs : l.slots = some s) : ∃ m s0, k.matrix = some m ∧ slots = some s0 ∧
      Placed k m s0 ∧ s = { s0 with loadEnd := s.loadEnd } ∧ 0 ≤ s.loadEnd ∧ s.loadEnd ≤ s0.writeEnd := by
  unfold Counted at hc
  split at hc
  next =>
    obtain ⟨m, s0, hm, rfl, hp⟩ := hc
    have hnonneg := hp.nonneg
    refine ⟨m, s0, hm, rfl, hp, ?_⟩
    unfold LoadsSpread at h
    split at h
    next =>
      have := h.places
      simp only [hs, handing, hm, Option.some.injEq] at this
      rw [this]
      exact ⟨rfl, by dsimp only; omega, by dsimp only; omega⟩
    next =>
      rw [h] at hs
      simp only [loadsAtOnce, Option.map_some, Option.some.injEq] at hs
      rw [← hs]
      exact ⟨rfl, le_rfl, hnonneg⟩
  next =>
    subst hc
    unfold LoadsSpread at h
    split at h
    next =>
      have := h.places
      simp [hs, handing] at this
      split at this <;> cases this
    next => simp [h, loadsAtOnce] at hs

lemma LoadsSpread.slots_eq_none (h : LoadsSpread k q slots writeEnd l) (hc : Counted k slots) (hl : l.slots = none) :
    countsMatrices k = false := by
  by_contra hcounts
  rw [not_eq_false] at hcounts
  rw [Counted, if_pos hcounts] at hc
  obtain ⟨m, s0, hm, rfl, -⟩ := hc
  unfold LoadsSpread at h
  split at h
  next =>
    have := h.places
    simp [hl, handing, hm] at this
  next => simp [h, loadsAtOnce] at hl

lemma LoadsSpread.last_le (h : LoadsSpread k q none writeEnd l) (hw : 0 ≤ writeEnd) :
    0 ≤ l.last ∧ l.last ≤ writeEnd := by
  unfold LoadsSpread at h
  split at h
  next =>
    have := h.last
    simp only [handing] at this
    split at this <;> dsimp only at this <;> omega
  next =>
    rw [h]
    exact ⟨le_rfl, hw⟩

end Spread

end TensorForge.Assembly
