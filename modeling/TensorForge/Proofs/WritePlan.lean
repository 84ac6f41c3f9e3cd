import TensorForge.Proofs.IterationOrder
import TensorForge.Proofs.Spreading

/-!
# The plan of loads and writes

Loads of the next tile and writes of it to local memory are spread over the iterations of the unrolled
loop before any of them is put in order. The plan fits: every write that goes with an iteration finds a
place between its matrix instructions, because the loads are through before the writes begin and no
iteration gets more writes than it has places for.
-/

namespace TensorForge.Assembly

open Asm Asm.Item Int Interleave List

/-- The code that is kept for the next tile is what it should be: what loads is a list of loads, steps of
addresses and what comes behind loads load nothing, writes write, and nothing else is started on local
memory. -/
structure Pending.Kept (q : Pending) : Prop where
  loads : ∀ i ∈ q.loadsA.middle ++ q.loadsB.middle, 0 < i.globalReads
  steps : ∀ i ∈ q.stepsA ++ q.stepsB, i.globalReads = 0
  footers : ∀ i ∈ q.loadsA.footer ++ q.loadsB.footer, i.globalReads = 0
  idle : localOps (q.directA ++ q.directB ++ (q.loadsA.middle ++ q.loadsB.middle) ++ (q.stepsA ++ q.stepsB) ++
    (q.loadsA.footer ++ q.loadsB.footer)) = []
  writesA : ∀ items, q.writesA = some items → OnlyWrites items
  writesB : ∀ items, q.writesB = some items → OnlyWrites items

namespace Spread

variable {P : State → Prop} {k : KernelSpec} {m : MatrixSpec} {p q : Pending}

lemma unloaded_modul {name : Text} {items : Items} (h : Unloaded items) : (modul name items).globalReads = 0 :=
  (countLeaves_module _ _ _ _).trans (sum_eq_zero (forall_mem_map.mpr h))

abbrev loadItems (l : Items) : Nat := l.countP fun i => decide (i.globalReads > 0)

/-- All items that load come before all that do not. -/
def LoadsFirst (l : Items) : Prop := Unloaded (l.drop (loadItems l))

lemma unloaded_increments (hq : q.Kept) (slots : Option Slots) : Unloaded (increments q slots) := by
  have hA : (modul "globalReadIncrementA" q.stepsA).globalReads = 0 :=
    unloaded_modul fun i hi => hq.steps i (by simp [hi])
  have hB : (modul "globalReadIncrementB" q.stepsB).globalReads = 0 :=
    unloaded_modul fun i hi => hq.steps i (by simp [hi])
  intro i hi
  simp only [increments, cons_append, mem_cons, mem_append, mem_replicate] at hi
  obtain rfl | ⟨-, rfl⟩ | rfl | ⟨-, rfl⟩ := hi
  · exact hA
  · rfl
  · exact hB
  · rfl

/-- Loads come first among what is handed out, and there are none when two tiles are loaded ahead. -/
lemma loadsFirst_portions (hd : k.depthULdsDivisor = 1) (loads : Items) {steps : Items}
    (hl : ∀ i ∈ loads, 0 < i.globalReads) (hs : Unloaded steps) : LoadsFirst (portions k loads steps).1 ∧
      (k.prefetchGlobalRead = 2 → Unloaded (portions k loads steps).1) := by
  have hzero : loadItems steps = 0 := by
    rw [countP_eq_zero]
    intro i hi
    simp [hs i hi]
  have hall : loadItems loads = loads.length := by
    rw [countP_eq_length]
    intro i hi
    simpa using hl i hi
  unfold portions
  rw [if_neg (by omega)]
  split
  next h =>
    refine ⟨?_, fun _ => hs⟩
    rw [LoadsFirst, hzero]
    exact hs
  next h =>
    refine ⟨?_, fun h2 => absurd h2 (by simpa using h)⟩
    rw [LoadsFirst, show loadItems (loads ++ steps) = loadItems loads + loadItems steps from countP_append, hzero, hall]
    simpa using hs

lemma loadsFirst_handedOut (hq : q.Kept) (hd : k.depthULdsDivisor = 1) (slots : Option Slots) :
    LoadsFirst (handedOut k q slots).1 ∧ (k.prefetchGlobalRead = 2 → Unloaded (handedOut k q slots).1) :=
  loadsFirst_portions hd _ (loadsInOrder_load hq.loads) (unloaded_increments hq slots)

lemma LoadsFirst.drop {now : Items} (h : LoadsFirst now) {t : Nat} (ht : loadItems now ≤ t) :
    Unloaded (now.drop t) := by
  intro i hi
  apply h i
  rw [← Nat.add_sub_cancel' ht, ← drop_drop] at hi
  exact drop_subset _ _ hi

variable {s : Slots} {now : Items} {writeEnd : Int} {size : Nat}

/-- The loads that are handed out end in time: no iteration behind the place of the last load gets a load, and none is
left over. -/
lemma handing_unloaded (hs : Placed k m s) (hm : k.matrix = some m) (hn : 0 < matricesPerIter k m)
    (hl : 0 < k.loopIters) (hf : LoadsFirst now) (h2 : k.prefetchGlobalRead = 2 → Unloaded now)
    {h : Handing} (hh : h = handing k (some s) writeEnd now) {t : Array Items × Items × Int}
    (ht : Handed h.first.toNat h.each.toNat size now (h.stop - 1).toNat t) :
    ∃ e, h.slots = some { s with loadEnd := e } ∧ 0 ≤ e ∧ e ≤ s.writeEnd ∧
      (∀ j : Nat, e < j * matricesPerIter k m → Unloaded (t.1.getD j [])) ∧ Unloaded t.2.1 := by
  have hstop : 1 ≤ h.stop := by
    have := hs.loadsPerStep
    have := quotientUp_pos (a := now.length + 2 + 2 * (s.loadsPerStep - 1)) (by omega) hn
    simp only [hh, handing, hm]
    omega
  have hsub : ∀ j, t.1.getD j [] ⊆ now := fun j =>
    Subset.trans (ht.got j) (by split <;> simp [drop_subset])
  by_cases hp : k.prefetchGlobalRead = 2
  · refine ⟨_, by simp only [hh, handing, hm]; rfl, by have := hs.nonneg; omega, by omega,
      fun j _ i hi => h2 hp i (hsub j hi), ?_⟩
    rw [ht.left]
    exact fun i hi => h2 hp i (drop_subset _ _ hi)
  · have hlps := hs.loadsPerStep
    have hin := hs.inLoop
    have hq := le_quotientUp_mul (loadItems now : Nat) hlps
    have hstop' := le_quotientUp_mul (now.length + 2 + 2 * (s.loadsPerStep - 1)) hn
    have hlen : loadItems now ≤ now.length := countP_le_length
    simp only [handing, hm, hp, beq_iff_eq, if_false] at hh
    generalize quotientUp (loadItems now : Nat) s.loadsPerStep = c at hq hh
    generalize quotientUp (now.length + 2 + 2 * (s.loadsPerStep - 1)) (matricesPerIter k m) = c' at hstop' hh
    generalize hmore : max 0 (max 0 (c - 1) - s.writeEnd) = more at hh
    refine ⟨min (max 0 (c - 1)) s.writeEnd, by rw [hh], by have := hs.nonneg; omega, by omega, ?_⟩
    -- the first iteration gets what the others have no time for
    have hreach : ∀ {d : Int}, c ≤ d → (loadItems now : Int) ≤ d * s.loadsPerStep := fun hd =>
      hq.trans (Int.mul_le_mul_of_nonneg_right hd hlps.le)
    have hspan : ∀ j : Nat, (loadItems now : Int) ≤ ((j + 1) * matricesPerIter k m + more) * s.loadsPerStep →
        loadItems now ≤ h.first.toNat + h.each.toNat * j := by
      intro j hle
      obtain ⟨a, ha⟩ := Int.eq_ofNat_of_zero_le (Int.mul_nonneg (by omega : 0 ≤ matricesPerIter k m + more) hlps.le)
      obtain ⟨b, hb⟩ := Int.eq_ofNat_of_zero_le (Int.mul_nonneg (by omega : 0 ≤ matricesPerIter k m) hlps.le)
      have hsum : ((j + 1) * matricesPerIter k m + more) * s.loadsPerStep = a + b * j := by
        rw [← ha, ← hb]
        ring
      rw [hsum] at hle
      rw [show h.first = a by rw [hh]; exact ha, show h.each = b by rw [hh]; exact hb]
      exact_mod_cast hle
    refine ⟨fun j hj => ?_, ?_⟩
    · obtain _ | j := j
      · have := hs.nonneg
        omega
      · intro i hi
        refine hf.drop (hspan j (hreach (by push_cast at hj; omega))) i ?_
        simpa using ht.got (j + 1) hi
    · rw [ht.left]
      refine hf.drop (hspan _ ?_)
      rw [toNat_of_nonneg (by omega), sub_add_cancel]
      by_cases hc : c' ≤ k.loopIters
      · rw [show h.stop = c' by rw [hh]; simp only; omega]
        have := Int.mul_le_mul_of_nonneg_left (by omega : 1 ≤ s.loadsPerStep)
          (by omega : 0 ≤ c' * matricesPerIter k m + more)
        omega
      · rw [show h.stop = k.loopIters by rw [hh]; simp only; omega, mul_comm k.loopIters]
        exact hreach (by omega)

lemma LoadsSpread.unloaded {l : SpreadLoads} (h : LoadsSpread k q (some s) writeEnd l) (hq : q.Kept) (hs : Placed k m s)
    (hm : k.matrix = some m) (hn : 0 < matricesPerIter k m) (hl : 0 < k.loopIters) (hd : k.depthULdsDivisor = 1) :
    ∃ e, l.slots = some { s with loadEnd := e } ∧ 0 ≤ e ∧ e ≤ s.writeEnd ∧
      ∀ j : Nat, e < j * matricesPerIter k m → Unloaded (l.loads.getD j []) := by
  unfold LoadsSpread at h
  split at h
  next =>
    obtain ⟨hf, h2⟩ := loadsFirst_handedOut hq hd (some s)
    obtain ⟨t, behind, ht, hloads, -⟩ := h.handed
    obtain ⟨e, he, hnonneg, hle, hgot, hrest⟩ := handing_unloaded hs hm hn hl hf h2 rfl ht
    refine ⟨e, h.places.trans he, hnonneg, hle, fun j hj => ?_⟩
    rw [hloads, getD_modify]
    split
    · intro i hi
      simp only [mem_append] at hi
      exact hi.elim (hgot j hj i) fun hi => hi.elim (hrest i) (hq.footers i)
    · exact hgot j hj
  next =>
    rw [h]
    refine ⟨0, rfl, le_rfl, hs.nonneg, fun j _ => ?_⟩
    simp only [loadsAtOnce, getD_replicate_nil]
    exact fun _ hi => absurd hi not_mem_nil

/-- When the writes of the iterations before the last are few enough every iteration has room for its
share. -/
lemma room_of_few {n : Int} (hn : 0 < n) {loads writes : Array Items} (hs : 0 < s.writesPerStep)
    (hle : s.loadEnd ≤ s.writeStart) (hun : ∀ j : Nat, s.loadEnd < j * n → Unloaded (loads.getD j []))
    (hnone : ∀ j : Nat, (j : Int) < fdiv s.writeStart n ∨ fdiv s.writeEnd n < j → writes.getD j [] = [])
    (hfew : ∀ j : Nat, fdiv s.writeStart n ≤ j → (j : Int) < fdiv s.writeEnd n →
      ((writes.getD j []).length : Int) ≤ s.writesPerStep * (n - max 0 (s.writeStart - j * n))) (u : Nat) :
    Room s n u 0 (loads.getD u []) (writes.getD u []) := by
  have hdiv := mul_fdiv_add_fmod s.writeEnd n
  have hmod := fmod_nonneg_of_pos s.writeEnd hn
  have hlt := fmod_lt_of_pos s.writeEnd hn
  rw [mul_comm] at hdiv
  by_cases hout : (u : Int) < fdiv s.writeStart n ∨ fdiv s.writeEnd n < u
  · exact .inl (hnone u hout)
  · by_cases hlast : (u : Int) = fdiv s.writeEnd n
    · refine .inr (.inl ?_)
      rw [hlast]
      omega
    · refine .inr (.inr ⟨hle, fun hu => hun u (by omega), ?_⟩)
      rw [toNat_of_nonneg hs.le]
      exact hfew u (by omega) (by omega)

variable {Lim : Int → Prop} {part : Int} {l : SpreadLoads}

/-- **The plan fits.** Writes that are spread over the iterations of an unrolled loop all find their places, and the
loads end before them. -/
lemma room_of_spread (hq : q.Kept) (hs : Placed k m s) (hm : k.matrix = some m)
    (hn : 0 < matricesPerIter k m) (hl : 0 < k.loopIters) (hd : k.depthULdsDivisor = 1)
    (hload : LoadsSpread k q (some s) (fdiv s.writeEnd (matricesPerIter k m)) l)
    (hwrite : WritesSpread Lim part k (prepared k q l) l (fdiv s.writeEnd (matricesPerIter k m)) p) :
    p.skippable = Array.replicate k.loopIters.toNat 0 ∧ ∃ s, p.slots = some s ∧ s.loadEnd ≤ s.writeEnd ∧
      (∀ u : Nat, s.loadEnd < u * matricesPerIter k m → Unloaded (p.loads.getD u [])) ∧
      ∀ u : Nat, Room s (matricesPerIter k m) u 0 (p.loads.getD u []) (p.writes.getD u []) := by
  obtain ⟨e, he, hnonneg, hle, hun⟩ := hload.unloaded hq hs hm hn hl hd
  have hslots : (prepared k q l).slots = some { s with loadEnd := e } := by simp [prepared, he]
  have hloads : p.loads = l.loads := hwrite.kept.2
  unfold WritesSpread at hwrite
  split at hwrite
  next =>
    obtain ⟨first, h1, h2, hp, hnone, hfew⟩ := hwrite.places _ m hslots hm
    refine ⟨by rw [hwrite.rest]; rfl, _, hp, hle, hloads ▸ hun, fun u => ?_⟩
    exact room_of_few (s := { s with loadEnd := e, writeStart := first }) hn hs.writesPerStep h1 (hloads ▸ hun) hnone
      (fun j hj hlt => hfew j hj hlt.ne) u
  next =>
    obtain ⟨wait, -, rfl⟩ := hwrite
    refine ⟨rfl, { s with loadEnd := e, writeStart := s.writeEnd }, by rw [hslots]; rfl, hle, hun, fun u => ?_⟩
    -- the last iteration for writes is the only one that has any
    refine room_of_few (s := { s with loadEnd := e, writeStart := s.writeEnd }) hn hs.writesPerStep hle hun
      (fun j hj => ?_) (fun j hj hlt => absurd hlt (not_lt.mpr hj)) u
    have hfdiv := fdiv_nonneg hs.nonneg hn.le
    dsimp only at hj
    simp only [prepared, getD_modify, getD_replicate_nil]
    rw [if_neg (by omega)]

lemma Note.idle {i : Item} (h : Note i) : localOps [i] = [] := by
  cases h with
  | wait w major =>
    refine (localOps_module ..).trans (localOps_sifts.eq_nil_iff.mpr fun i hi => ?_)
    obtain ⟨s, rfl | rfl⟩ := Wait.mem_instructions hi <;> rfl
  | _ => rfl

lemma localOps_notes {notes : Items} (h : ∀ i ∈ notes, Note i) : localOps notes = [] :=
  localOps_sifts.eq_nil_iff.mpr fun i hi => (h i hi).idle

lemma localOps_fronted {code : Items} (hc : localOps code = []) (items : Items) :
    localOps (fronted code items) = localOps items := by
  unfold fronted
  split
  next kind name l rest =>
    rw [localOps_cons, localOps_module, localOps_cons (i := .module kind name l), localOps_module, localOps_cons,
      localOps_modul, hc, nil_append]
  next => rfl

lemma localOps_increments (hA : localOps q.stepsA = []) (hB : localOps q.stepsB = [])
    (slots : Option Slots) : localOps (increments q slots) = [] := by
  rw [localOps_sifts.eq_nil_iff]
  intro i hi
  simp only [increments, cons_append, mem_cons, mem_append, mem_replicate] at hi
  obtain rfl | ⟨-, rfl⟩ | rfl | ⟨-, rfl⟩ := hi
  · simpa using hA
  · rfl
  · simpa using hB
  · rfl

lemma portions_idle (k : KernelSpec) {loads steps : Items} (hl : localOps loads = []) (hs : localOps steps = []) :
    localOps (portions k loads steps).1 = [] ∧ localOps (portions k loads steps).2 = [] := by
  unfold portions
  split
  · simp [hl, hs]
  · split <;> simp [hl, hs]

/-- What is kept for the iterations starts nothing on local memory but the writes. -/
lemma Kept_handedOut (hq : q.Kept) (slots : Option Slots) : localOps ((handedOut k q slots).1 ++ footers q) = [] ∧
    localOps (handedOut k q slots).2 = [] := by
  have hidle := hq.idle
  simp only [localOps_append, append_eq_nil_iff] at hidle
  obtain ⟨⟨⟨⟨hdA, hdB⟩, hmA, hmB⟩, hsA, hsB⟩, hfA, hfB⟩ := hidle
  obtain ⟨hnow, hlater⟩ := portions_idle k
    (show localOps (loadsInOrder q) = [] by simp [loadsInOrder, localOps_fronted hdA, localOps_fronted hdB, hmA, hmB])
    (localOps_increments hsA hsB slots)
  exact ⟨by simp [handedOut, footers, hnow, hfA, hfB], hlater⟩

lemma LoadsSpread.idle {slots : Option Slots} (h : LoadsSpread k q slots writeEnd l) (hq : q.Kept) :
    (∀ j, localOps (l.loads.getD j []) = []) ∧ localOps (l.later.getD []) = [] := by
  unfold LoadsSpread at h
  split at h
  next =>
    obtain ⟨hnow, hlater⟩ := Kept_handedOut (k := k) hq slots
    refine ⟨fun j => localOps_sifts.of_subset (getD_subset_flatten _ j) (by rw [h.loads]; exact hnow), ?_⟩
    rw [h.later]
    exact hlater
  next =>
    rw [h]
    exact ⟨fun j => by simp only [loadsAtOnce, getD_replicate_nil, localOps_nil], rfl⟩

variable {w : Option Items}

lemma localOps_itemsOf (hw : ∀ items, w = some items → OnlyWrites items) : OnlyWrites (LocalWrite.itemsOf w) := by
  cases w with
  | none => exact nofun
  | some items => exact hw items rfl

lemma onlyWrites_guarded (hw : ∀ items, w = some items → OnlyWrites items) :
    ∀ items, guarded k w = some items → OnlyWrites items := by
  unfold guarded
  split
  next =>
    cases w with
    | none => exact nofun
    | some l =>
      rintro _ ⟨⟩
      exact (hw l rfl).congr (localOps_fronted rfl l)
  next => exact hw

lemma localOps_getD {l : Items} {d : Item} (hd : localOps [d] = []) (i : Nat) :
    ∀ o ∈ localOps [l.getD i d], o ∈ localOps l := by
  intro o ho
  rw [getD_eq_getElem?_getD] at ho
  by_cases h : i < l.length
  · rw [getElem?_eq_getElem h] at ho
    exact mem_localOps_of_mem (getElem_mem h) ho
  · rw [getElem?_eq_none (by omega)] at ho
    rw [Option.getD_none, hd] at ho
    cases ho

/-- The write writes, and the load that goes with it starts nothing on local memory. -/
structure Written.Proper (w : Written) : Prop where
  write : OnlyWrites [w.write]
  load : localOps w.load.toList = []

lemma proper_inOrder {items later : Items} (hi : OnlyWrites items) (hl : localOps later = []) :
    ∀ w ∈ inOrder k items later, w.Proper := by
  unfold inOrder
  split
  next =>
    simp only [forall_mem_map]
    refine fun j _ => ⟨fun o ho => hi o (localOps_getD rfl j o ho), ?_⟩
    rw [eq_nil_iff_forall_not_mem]
    intro o ho
    have := localOps_getD (l := later) rfl j o ho
    rw [hl] at this
    cases this
  next =>
    simp only [forall_mem_map]
    exact fun i h => ⟨fun o ho => hi o (mem_localOps_of_mem h ho), rfl⟩

lemma onlyWrites_wraps {ws : List Written} {mods : Items} (h : Forall₂ Wraps ws mods)
    (hw : ∀ w ∈ ws, w.Proper) : OnlyWrites mods := by
  induction h with
  | nil => exact nofun
  | @cons w i ws mods hwraps _ ih =>
    rw [forall_mem_cons] at hw
    obtain ⟨name, notes, hnotes, rfl⟩ := hwraps
    rw [← singleton_append, onlyWrites_append]
    refine ⟨hw.1.write.congr ?_, ih hw.2⟩
    rw [localOps_modul, localOps_append, localOps_notes hnotes, localOps_cons, hw.1.load, append_nil, nil_append]

lemma WritesSpread.onlyWrites (h : WritesSpread Lim part k (prepared k q l) l writeEnd p) (hq : q.Kept)
    (hl : localOps (l.later.getD []) = []) (j : Nat) : OnlyWrites (p.writes.getD j []) := by
  have hA := onlyWrites_guarded (k := k) hq.writesA
  unfold WritesSpread at h
  split at h
  next =>
    obtain ⟨itemsA, itemsB, hwA, hwB, hall⟩ := h.wraps
    have hmods := onlyWrites_wraps hall
      (proper_inOrder (onlyWrites_append.mpr ⟨hA itemsA hwA, hq.writesB itemsB hwB⟩) hl)
    exact fun o ho => hmods o (localOps_subset (getD_subset_flatten _ j) ho)
  next =>
    obtain ⟨wait, hwait, rfl⟩ := h
    simp only [prepared, getD_modify, getD_replicate_nil]
    split
    · rw [nil_append, OnlyWrites, atOnce, localOps_modul, localOps_append, localOps_append, localOps_notes hwait,
        nil_append, ← localOps_append]
      exact onlyWrites_append.mpr ⟨localOps_itemsOf hA, localOps_itemsOf hq.writesB⟩
    · exact fun _ ho => absurd ho not_mem_nil

end Spread

/-- The plan of a loop fits: everything that goes with an iteration finds its place in it, loads start
nothing on local memory and writes write. -/
structure Pending.Planned (k : KernelSpec) (m : MatrixSpec) (p : Pending) : Prop where
  room : ∃ s, p.slots = some s ∧ ∀ u : Nat, (u : Int) < k.loopIters →
    Room s (matricesPerIter k m) u 0 (p.loads.getD u []) (p.writes.getD u [])
  loads : ∀ j, localOps (p.loads.getD j []) = []
  writes : ∀ j, OnlyWrites (p.writes.getD j [])
  skippable : p.skippable = Array.replicate k.loopIters.toNat 0
  atEnd : k.prefetchedReads = 0 → k.scheduleLocalWrite = 0 →
    ∀ u : Nat, (u : Int) + 1 < k.loopIters → p.writes.getD u [] = []

namespace Spread

variable {P : State → Prop} {k : KernelSpec} {m : MatrixSpec} {p q : Pending} {writeEnd : Int}

lemma WritesSpread.atEnd {Lim : Int → Prop} {part : Int} {l : SpreadLoads} {s : Slots} (hs : Placed k m s)
    (hn : 0 < matricesPerIter k m)
    (h : WritesSpread Lim part k (prepared k q l) l (fdiv s.writeEnd (matricesPerIter k m)) p)
    (hp : k.prefetchedReads = 0) (hw : k.scheduleLocalWrite = 0) {u : Nat} (hu : (u : Int) + 1 < k.loopIters) :
    p.writes.getD u [] = [] := by
  rw [WritesSpread, if_neg (by simp [spreadsWrites, hw])] at h
  obtain ⟨wait, -, rfl⟩ := h
  have hdiv := mul_fdiv_add_fmod s.writeEnd (matricesPerIter k m)
  have hlt := fmod_lt_of_pos s.writeEnd hn
  have hnonneg := fdiv_nonneg hs.nonneg hn.le
  simp only [prepared, getD_modify, getD_replicate_nil]
  rw [if_neg]
  rintro ⟨hj, -⟩
  have hju : fdiv s.writeEnd (matricesPerIter k m) = u := by omega
  have hat := hs.atEnd hp
  have hle : ((u : Int) + 1) * matricesPerIter k m ≤ (k.loopIters - 1) * matricesPerIter k m :=
    Int.mul_le_mul_of_nonneg_right (by omega) hn.le
  rw [add_mul, sub_mul, mul_comm k.loopIters] at hle
  rw [hju, mul_comm] at hdiv
  omega

/-- The plan that is made of proper code fits and starts on local memory what it should. -/
lemma spread_ends (hq : q.Kept) (hP : ∀ st s, P st → P { st with session := s })
    (hk : ∀ st, P st → st.k = k) (hm : k.matrix = some m) (hn : 0 < matricesPerIter k m) (hl : 0 < k.loopIters)
    (hd : k.depthULdsDivisor = 1) (ha : k.scheduleIterAlg = 3) (hg : k.prefetchGlobalRead ≠ 0) (writeEnd part : Int) :
    Ends P (spread q writeEnd part) (Pending.Planned k m) := by
  have hcount : countsMatrices k := by simp [countsMatrices, hm, ha]
  have hk' : Spreadable k writeEnd := ⟨hl, fun m' hm' => by rw [hm] at hm'; cases hm'; exact hn, hg, fun _ => by simp [hm],
    fun _ => ha, fun h => absurd h (by simp [hcount])⟩
  refine (spread_meets hk' hk (.lift_keeps hP) (by simp) (fun h => absurd h (by simp [hcount])) (by simp) part).mono ?_
  rintro p ⟨slots, l, hc, hload, hwrite⟩
  rw [Counted, if_pos hcount] at hc
  obtain ⟨m', s, hm', rfl, hs⟩ := hc
  obtain rfl : m = m' := by rw [hm] at hm'; exact Option.some.inj hm'
  rw [hs.lastWrite hm hn] at hload hwrite
  obtain ⟨hskip, s', hs', -, -, hroom⟩ := room_of_spread hq hs hm hn hl hd hload hwrite
  obtain ⟨hidle, hlater⟩ := hload.idle hq
  have hloads : p.loads = l.loads := hwrite.kept.2
  exact ⟨⟨s', hs', fun u _ => hroom u⟩, by rw [hloads]; exact hidle, hwrite.onlyWrites hq hlater, hskip,
    fun hp hw u hu => hwrite.atEnd hs hn hp hw hu⟩

end Spread

end TensorForge.Assembly
