import Mathlib.Algebra.Order.BigOperators.Group.List
import Mathlib.Algebra.Order.Group.Multiset
import Mathlib.Tactic.Abel
import TensorForge.Proofs.WritePlan

/-!
# No load is lost

Loads of the next tile go in front of the loop, to its iterations, or behind the writes of the tile before.
Which of these it is depends on whether loads and writes are spread over the iterations and on whether loads
are put off. What is placed, together with what was put off and found no write to go with, is what was to be
placed and remarks (`placed_perm`). So a load is lost exactly when loads are put off while only one of loads
and writes is spread: without writes that are spread nothing takes up what was put off, and without loads that
are spread nothing was put off for the writes to take up.
-/

namespace TensorForge.Assembly

open Asm Asm.Item List LocalWrite Spread

def children : Item → Items
  | .module _ _ items => items
  | _ => []

/-- Something is to be loaded, and what should load or write does. -/
structure Pending.Busy (q : Pending) (itemsA itemsB : Items) : Prop extends q.Listed itemsA itemsB where
  loading : ∀ i ∈ q.loadsA.middle ++ q.loadsB.middle, 0 < i.globalReads
  any : q.loadsA.middle ++ q.loadsB.middle ≠ []
  writing : ∀ i ∈ itemsA ++ itemsB, 0 < i.localWrites

/-- The items that load the next tile and step the addresses. Where loads are spread, code that says where a
load to local memory goes is put into the first of them. -/
def Pending.loadItems (k : KernelSpec) (q : Pending) : Items :=
  q.loadsA.header ++ q.loadsB.header ++
    (if spreadsLoads k then loadsInOrder q else q.directA ++ q.loadsA.middle ++ (q.directB ++ q.loadsB.middle)) ++
    footers q ++ [modul "globalReadIncrementA" q.stepsA, modul "globalReadIncrementB" q.stepsB]

/-- The items that write the next tile to local memory. -/
def Pending.writeItems (k : KernelSpec) (q : Pending) : Items :=
  itemsOf (guarded k q.writesA) ++ itemsOf q.writesB

/-- What a plan has in front of the loop and in its iterations; of the modules that write, what is in them. -/
def Pending.placed (p : Pending) : Items :=
  p.header ++ p.loads.toList.flatten ++ p.writes.toList.flatten.flatMap children

/-- The plan has each item that loads, steps an address or writes once, and remarks besides. -/
def Pending.Conserves (k : KernelSpec) (q p : Pending) : Prop :=
  ∃ notes, (∀ i ∈ notes, Note i) ∧ p.placed.Perm (q.loadItems k ++ q.writeItems k ++ notes)

namespace Spread

variable {P : State → Prop} {Lim : Int → Prop} {k : KernelSpec} {m : MatrixSpec} {p q : Pending} {slots : Option Slots}
  {writeEnd part : Int}

lemma portions_perm (k : KernelSpec) (loads steps : Items) :
    ((portions k loads steps).1 ++ (portions k loads steps).2).Perm (loads ++ steps) := by
  unfold portions
  split
  · exact .refl _
  · split
    · exact perm_append_comm
    · rw [append_nil]

lemma increments_perm (q : Pending) (slots : Option Slots) : ∃ notes, (∀ i ∈ notes, Note i) ∧
    (increments q slots).Perm
      ([modul "globalReadIncrementA" q.stepsA, modul "globalReadIncrementB" q.stepsB] ++ notes) := by
  refine ⟨_, ?_, .cons _ perm_middle⟩
  intro i hi
  obtain hi | hi := mem_append.mp hi
  · rw [eq_of_mem_replicate hi]
    exact .step "A"
  · rw [eq_of_mem_replicate hi]
    exact .step "B"

variable {l : SpreadLoads}

/-- The loads in front of the loop, those of its iterations and those that are put off are all loads. -/
lemma LoadsSpread.perm (h : LoadsSpread k q slots writeEnd l) : ∃ notes, (∀ i ∈ notes, Note i) ∧
    (l.header ++ l.loads.toList.flatten ++ l.later.getD []).Perm (q.loadItems k ++ notes) := by
  unfold LoadsSpread at h
  unfold Pending.loadItems
  split at h
  next hs =>
    obtain ⟨notes, hnotes, hsteps⟩ := increments_perm q slots
    have hparts := portions_perm k (loadsInOrder q) (increments q slots)
    refine ⟨notes, hnotes, ?_⟩
    rw [h.header, h.loads, h.later, if_pos hs, handedOut]
    rw [← Multiset.coe_eq_coe] at hsteps hparts ⊢
    simp only [← Multiset.coe_add] at hsteps hparts ⊢
    rw [hsteps] at hparts
    calc _ = (q.loadsA.header + q.loadsB.header + footers q : Multiset Item) +
          ((portions k (loadsInOrder q) (increments q slots)).1 + (portions k (loadsInOrder q) (increments q slots)).2) := by
            abel
      _ = _ := by rw [hparts]; abel
  next hs =>
    refine ⟨[], by simp, ?_⟩
    rw [h, if_neg hs, ← Multiset.coe_eq_coe]
    simp only [loadsAtOnce, flatten_replicate_nil, footers, ← Multiset.coe_add]
    abel

lemma wraps_perm {ws : List Written} {mods : Items} (h : Forall₂ Wraps ws mods) : ∃ notes, (∀ i ∈ notes, Note i) ∧
      (mods.flatMap children).Perm (ws.map (·.write) ++ ws.flatMap (·.load.toList) ++ notes) := by
  induction h with
  | nil => exact ⟨[], nofun, .refl _⟩
  | @cons w i ws mods hw _ ih =>
    obtain ⟨name, front, hfront, rfl⟩ := hw
    obtain ⟨notes, hnotes, hperm⟩ := ih
    refine ⟨front ++ notes, forall_mem_append.mpr ⟨hfront, hnotes⟩, ?_⟩
    rw [← Multiset.coe_eq_coe] at hperm ⊢
    simp only [flatMap_cons, map_cons, children, modul, ← Multiset.coe_add, ← Multiset.cons_coe,
      ← Multiset.singleton_add] at hperm ⊢
    rw [hperm]
    abel

lemma map_getD_range {items : Items} {n : Nat} (h : items.length ≤ n) (d : Item) :
    (range n).map (fun i => items.getD i d) = items ++ replicate (n - items.length) d := by
  apply ext_getElem?
  intro j
  rw [getElem?_map, getElem?_append, getElem?_replicate]
  by_cases hj : j < n
  · rw [getElem?_range hj, Option.map_some, getD_eq_getElem?_getD]
    split
    next hlt => simp [hlt]
    next hge =>
      rw [if_pos (by omega), getElem?_eq_none (by omega)]
      rfl
  · rw [getElem?_eq_none (by simpa using hj), if_neg (by omega), if_neg (by omega)]
    rfl

/-- Writes in their order are the writes and the loads that were put off, filled up. -/
lemma inOrder_perm (k : KernelSpec) (items later : Items) : ∃ notes, (∀ i ∈ notes, Note i) ∧
    ((inOrder k items later).map (·.write) ++ (inOrder k items later).flatMap (·.load.toList)).Perm
      (items ++ (if postponesLoads k then later else []) ++ notes) := by
  unfold inOrder
  split
  next =>
    generalize hn : max items.length later.length = n
    refine ⟨replicate (n - items.length) (modul "Placeholder" []) ++
      replicate (n - later.length) (modul "Placeholder" []), ?_, ?_⟩
    · intro i hi
      rw [replicate_append_replicate] at hi
      rw [eq_of_mem_replicate hi]
      exact .filler
    · rw [map_map, flatMap_map]
      change (map (fun i => items.getD i (modul "Placeholder" [])) _ ++
        flatMap (fun i => [later.getD i (modul "Placeholder" [])]) _).Perm _
      rw [← map_eq_flatMap, map_getD_range (by omega), map_getD_range (by omega), ← Multiset.coe_eq_coe]
      simp only [← Multiset.coe_add]
      abel
  next =>
    have hnone : items.flatMap (fun _ => ([] : Items)) = [] := flatMap_eq_nil_iff.mpr fun _ _ => rfl
    refine ⟨[], nofun, ?_⟩
    rw [flatMap_map]
    simp [Function.comp_def, hnone]

/-- The modules that write hold the writes and, where writes are spread, the loads that were put off. -/
lemma WritesSpread.perm (h : WritesSpread Lim part k (prepared k q l) l writeEnd p)
    (hlt : 0 ≤ writeEnd ∧ writeEnd < k.loopIters) : ∃ notes, (∀ i ∈ notes, Note i) ∧
      (p.writes.toList.flatten.flatMap children).Perm (q.writeItems k ++
        (if spreadsWrites k && postponesLoads k then l.later.getD [] else []) ++ notes) := by
  unfold WritesSpread at h
  unfold Pending.writeItems
  split at h
  next hs =>
    obtain ⟨itemsA, itemsB, hA, hB, hall⟩ := h.wraps
    obtain ⟨front, hfront, hmods⟩ := wraps_perm hall
    obtain ⟨fill, hfill, hws⟩ := inOrder_perm k (itemsA ++ itemsB) (l.later.getD [])
    refine ⟨fill ++ front, forall_mem_append.mpr ⟨hfill, hfront⟩, ?_⟩
    have hA' : itemsOf (guarded k q.writesA) = itemsA := by
      rw [show guarded k q.writesA = some itemsA from hA]; rfl
    have hB' : itemsOf q.writesB = itemsB := by
      rw [show q.writesB = some itemsB from hB]; rfl
    rw [hA', hB', hs, ← append_assoc]
    exact hmods.trans (hws.append_right front)
  next hs =>
    obtain ⟨wait, hwait, rfl⟩ := h
    refine ⟨wait ++ [.comment1 "local write A", .comment1 "local write B"], ?_, ?_⟩
    · rw [forall_mem_append]
      refine ⟨hwait, ?_⟩
      simp [Note.title]
    · dsimp only [prepared]
      rw [flatten_modify (by simp; omega) fun i _ => getD_replicate_nil _ i, flatten_replicate_nil, nil_append,
        flatMap_singleton]
      simp only [hs, atOnce, modul, children]
      rw [← Multiset.coe_eq_coe]
      simp only [← Multiset.coe_add, ← Multiset.cons_coe, ← Multiset.singleton_add]
      abel

lemma LoadsSpread.later_eq_nil (h : LoadsSpread k q slots writeEnd l)
    (hp : postponesLoads k = false) : l.later.getD [] = [] := by
  simp only [postponesLoads, Bool.or_eq_false_iff, decide_eq_false_iff_not] at hp
  unfold LoadsSpread at h
  split at h
  next =>
    rw [h.later, Option.getD_some, handedOut, portions, if_neg hp.2, if_neg (by simpa using hp.1)]
  next =>
    rw [h]
    rfl

/-- What is placed, together with what was put off and has no write to go with, is what was to be placed. -/
lemma placed_perm {writeEnd' : Int} (hload : LoadsSpread k q slots writeEnd' l)
    (hwrite : WritesSpread Lim part k (prepared k q l) l writeEnd p)
    (hlt : 0 ≤ writeEnd ∧ writeEnd < k.loopIters) : ∃ notes, (∀ i ∈ notes, Note i) ∧
      (p.placed ++ if spreadsWrites k then [] else l.later.getD []).Perm (q.loadItems k ++ q.writeItems k ++ notes) := by
  obtain ⟨notes, hnotes, hloads⟩ := hload.perm
  obtain ⟨notes', hnotes', hwrites⟩ := hwrite.perm hlt
  refine ⟨notes ++ notes', forall_mem_append.mpr ⟨hnotes, hnotes'⟩, ?_⟩
  unfold Pending.placed
  rw [hwrite.kept.1, hwrite.kept.2]
  change (l.header ++ l.loads.toList.flatten ++ _ ++ _).Perm _
  have hnil := hload.later_eq_nil
  generalize l.later.getD [] = later at *
  have hkept : (↑(if spreadsWrites k && postponesLoads k then later else []) +
      ↑(if spreadsWrites k then [] else later) : Multiset Item) = later := by
    cases hs : spreadsWrites k <;> cases hp : postponesLoads k <;> simp [hnil, hp]
  rw [← Multiset.coe_eq_coe] at hloads hwrites ⊢
  simp only [← Multiset.coe_add] at hloads hwrites ⊢
  rw [hwrites]
  calc _ = (l.header + l.loads.toList.flatten + (↑(if spreadsWrites k && postponesLoads k then later else []) +
        ↑(if spreadsWrites k then [] else later)) : Multiset Item) + q.writeItems k + notes' := by abel
    _ = _ := by rw [hkept, hloads]; abel

lemma Note.unloaded {i : Item} (h : Note i) : i.globalReads = 0 := by
  cases h with
  | wait w major =>
    refine (countLeaves_module ..).trans (sum_eq_zero (forall_mem_map.mpr fun i hi => ?_))
    obtain ⟨s, rfl | rfl⟩ := Wait.mem_instructions hi <;> rfl
  | _ => rfl

def loadCount (items : Items) : Nat := (items.map Item.globalReads).sum

@[simp] lemma loadCount_append (a b : Items) : loadCount (a ++ b) = loadCount a + loadCount b := by
  simp [loadCount]

lemma loadCount_perm {placed items notes : Items} (h : placed.Perm (items ++ notes)) (hnotes : ∀ i ∈ notes, Note i) :
    loadCount placed = loadCount items := by
  have hzero : loadCount notes = 0 := sum_eq_zero (forall_mem_map.mpr fun i hi => (hnotes i hi).unloaded)
  rw [loadCount, (h.map Item.globalReads).sum_eq, ← loadCount, loadCount_append, hzero, add_zero]

lemma loadCount_pos {items : Items} {i : Item} (hi : i ∈ items) (h : 0 < i.globalReads) : 0 < loadCount items :=
  lt_of_lt_of_le h (single_le_sum (fun _ _ => Nat.zero_le _) _ (mem_map_of_mem hi))

lemma fronted_eq_nil {code items : Items} : fronted code items = [] ↔ items = [] := by
  unfold fronted
  split <;> simp

lemma Loaded.later_loads (h : Loaded k q slots writeEnd l) (hp : postponesLoads k)
    (hq : ∀ i ∈ q.loadsA.middle ++ q.loadsB.middle, 0 < i.globalReads) (hne : q.loadsA.middle ++ q.loadsB.middle ≠ []) :
    0 < loadCount (l.later.getD []) := by
  have hsub : loadsInOrder q ⊆ l.later.getD [] := by
    rw [h.later, handedOut, portions]
    simp only [postponesLoads, Bool.or_eq_true, decide_eq_true_eq] at hp
    split
    · exact subset_append_left _ _
    next hd =>
      rw [if_pos (by simpa using hp.resolve_right hd)]
      exact .refl _
  have hne' : loadsInOrder q ≠ [] := by
    rw [loadsInOrder, Ne, append_eq_nil_iff, fronted_eq_nil, fronted_eq_nil, ← append_eq_nil_iff]
    exact hne
  obtain ⟨i, hi⟩ := exists_mem_of_ne_nil _ hne'
  exact loadCount_pos (hsub hi) (loadsInOrder_load hq i hi)

/-- **When no load is lost.** Let loads and writes be spread over the iterations of a loop. This succeeds, and
every load, both steps of the addresses and every write is placed once, exactly unless loads are put off while
only one of loads and writes is spread. -/
theorem no_load_lost_iff {itemsA itemsB : List Item} (hk : Spreadable k writeEnd) (hq : q.Busy itemsA itemsB)
    (hslots : countsMatrices k = false → q.slots = none) {st : State} (hst : st.Knows k) (part : Int) :
    (∃ p st', (spread q writeEnd part).run st = .ok p st' ∧ q.Conserves k p) ↔
      ¬(postponesLoads k = true ∧ spreadsLoads k ≠ spreadsWrites k) := by
  constructor
  · rintro ⟨p, st', hrun, notes, hnotes, hperm⟩ ⟨hp, hdiff⟩
    obtain ⟨-, slots, l, hc, hload, hwrite⟩ := (spread_meets (P := fun st => st.k = k) hk (fun _ h => h)
      (Meets.lift_keeps fun _ _ h => h) (by simp) hslots (by simp) part).of_ok hst.spec hrun
    have hlt := hc.lastWrite hk.tiles hk.iters hk.inLoop
    cases hs : spreadsWrites k with
    | true =>
      -- the writes take up what was put off, but nothing was
      have hnone : l.later = none := by
        rw [LoadsSpread, if_neg (by rwa [hs] at hdiff)] at hload
        rw [hload]
        rfl
      rw [WritesSpread, if_pos hs] at hwrite
      have := hwrite.put hp
      rw [hnone] at this
      cases this
    | false =>
      rw [hs, Ne, Bool.not_eq_false] at hdiff
      obtain ⟨notes', hnotes', hperm'⟩ := placed_perm hload hwrite hlt
      have hcount := loadCount_perm hperm hnotes
      have hcount' := loadCount_perm hperm' hnotes'
      rw [LoadsSpread, if_pos hdiff] at hload
      have hpos := hload.later_loads hp hq.loading hq.any
      rw [hs, if_neg (by decide), loadCount_append] at hcount'
      omega
  · intro hnot
    have hsame : postponesLoads k = true → spreadsLoads k = spreadsWrites k := fun hp => by
      by_contra hdiff
      exact hnot ⟨hp, hdiff⟩
    have hlim : Yields (· = st) (liftM (currentLimit "MaxVmcnt") : Emit Int) fun _ => True := Meets.lift' fun _ h => by
      obtain ⟨n, hn⟩ := hst.loads
      rw [h, hn]
      exact ⟨rfl, trivial⟩
    obtain ⟨p, st', hrun, -, slots, l, hc, hload, hwrite⟩ := (spread_meets (P := (· = st)) hk (fun _ h => h ▸ hst.spec) hlim
      (fun _ _ h => h ▸ hst) hslots (fun _ => ⟨itemsA, itemsB, hq.toListed, fun hp hs => (hsame hp).trans hs,
        fun _ => hq.loading, fun _ => hq.writing⟩) part).exists_ok rfl
    obtain ⟨notes, hnotes, hperm⟩ := placed_perm hload hwrite (hc.lastWrite hk.tiles hk.iters hk.inLoop)
    refine ⟨p, st', hrun, notes, hnotes, ?_⟩
    have hnil : (if spreadsWrites k then [] else l.later.getD []) = [] := by
      split
      · rfl
      next hs =>
        cases hp : postponesLoads k with
        | false => exact hload.later_eq_nil hp
        | true =>
          rw [LoadsSpread, if_neg (by rwa [hsame hp])] at hload
          rw [hload]
          rfl
    rwa [hnil, append_nil] at hperm

/-- A kernel that loads two tiles ahead and spreads its loads, but not its writes. -/
def putOffKernel : KernelSpec :=
  { (default : KernelSpec) with
    matrix := none, loopIters := 4, prefetchGlobalRead := 2, scheduleGlobalRead := 1, scheduleLocalWrite := 0, bufferLoad := true
    depthULdsDivisor := 1, scheduleIterAlg := 1 }

def putOffState : State :=
  let caps : Table := [(.str "MaxLgkmcnt", .int 15), (.str "MaxVmcnt", .int 63)]
  { session := { settings := [(.str "CurrentISA", .int 9), (.str "AsmCaps", .dict [(.int 9, .dict caps)])] }
    k := putOffKernel, name := "", asmCaps := caps, archCaps := [(.str "SeparateVscnt", .bool false)]
    a := { toInput := putOffKernel.a }, b := { toInput := putOffKernel.b } }

/-- A load and a write for each input. -/
def putOffCode : Pending :=
  { loadsA := { middle := [modul "" [.inst .globalRead "a"]] }, loadsB := { middle := [modul "" [.inst .globalRead "b"]] }
    writesA := some [modul "" [.inst (.localWrite 1) "a"]], writesB := some [modul "" [.inst (.localWrite 1) "b"]] }

/-- The loads of the kernel are put off and taken up by no write. -/
theorem putOffKernel_loses : (∃ p st', (spread putOffCode 3 0).run putOffState = .ok p st') ∧
    ¬∃ p st', (spread putOffCode 3 0).run putOffState = .ok p st' ∧ putOffCode.Conserves putOffKernel p := by
  have hk : Spreadable putOffKernel 3 :=
    ⟨by decide, fun m (hm : none = some m) => (nomatch hm), by decide, by decide, by decide, fun _ => by decide⟩
  have hq : putOffCode.Busy [modul "" [.inst (.localWrite 1) "a"]] [modul "" [.inst (.localWrite 1) "b"]] :=
    ⟨⟨by simp [putOffCode, modul], rfl, rfl, by simp [modul]⟩, by decide, by simp [putOffCode], by decide⟩
  have hst : putOffState.Knows putOffKernel :=
    ⟨rfl, by decide, ⟨63, rfl⟩, ⟨15, rfl⟩, ⟨63, rfl⟩, ⟨15, rfl⟩, ⟨_, rfl⟩⟩
  exact ⟨⟨_, _, rfl⟩, fun h => (no_load_lost_iff hk hq (fun _ => rfl) hst 0).mp h ⟨rfl, by decide⟩⟩

end Spread

end TensorForge.Assembly
