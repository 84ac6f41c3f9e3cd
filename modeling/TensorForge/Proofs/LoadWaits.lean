import TensorForge.Proofs.LoadConservation
import TensorForge.Proofs.MemoryOrder

/-!
# Waits for loads

A write to local memory waits for the load that feeds it by the number of loads that may still be outstanding. The
number is exact: it is how many loads the code starts behind that load and before the wait. With two tiles loaded
ahead the load is in the round of the loop before.
-/

namespace TensorForge.Asm.Item

def isLoad : Item → Bool
  | .inst .globalRead _ => true
  | _ => false

/-- The loads from global memory that items start, in order. -/
def loadsOf (items : Items) : Items := (leavesOf items).filter isLoad

@[simp] lemma loadsOf_nil : loadsOf [] = [] := rfl

@[simp] lemma loadsOf_append (a b : Items) : loadsOf (a ++ b) = loadsOf a ++ loadsOf b := by
  simp [loadsOf, leavesOf_append]

lemma loadsOf_cons (i : Item) (l : Items) : loadsOf (i :: l) = loadsOf [i] ++ loadsOf l := loadsOf_append [i] l

@[simp] lemma loadsOf_module (kind : ModuleKind) (name : Text) (l : Items) :
    loadsOf [.module kind name l] = loadsOf l := by
  simp [loadsOf, leavesOf, leaves]

lemma globalReads_eq (i : Item) : i.globalReads = (leaves i).countP isLoad := by
  unfold globalReads countLeaves
  congr 1
  funext o
  unfold isLoad
  split <;> split <;> simp_all

end TensorForge.Asm.Item

namespace TensorForge.Assembly

open Asm Asm.Item Interleave List Pending

lemma length_loadsOf (l : Items) : (loadsOf l).length = Spread.loadCount l := by
  rw [loadsOf, ← countP_eq_length_filter, ← sum_countP_leaves, Spread.loadCount, funext globalReads_eq]

lemma loadsOf_eq_nil {l : Items} (h : Unloaded l) : loadsOf l = [] :=
  length_eq_zero_iff.mp ((length_loadsOf l).trans (sum_eq_zero (forall_mem_map.mpr h)))

lemma loadsOf_moved (l : Items) : loadsOf (moved l) = loadsOf l := by
  induction l with
  | nil => rfl
  | cons i l ih =>
    unfold moved at ih ⊢
    rw [loadsOf_cons i, filter_cons]
    split
    · rw [loadsOf_cons, ih]
    next h =>
      rw [ih, loadsOf_eq_nil (l := [i]) (by simpa [Unloaded] using (moves_eq_false.mp (by simpa using h)).2)]
      rfl

/-- The loads of the next tile. -/
def Pending.tile (q : Pending) : Items := loadsOf (q.loadsA.middle ++ q.loadsB.middle)

/-- There are as many loads as writes, each of which feeds the write at its place, and nothing else loads. -/
structure Pending.Fed (k : KernelSpec) (q : Pending) : Prop extends q.Kept where
  heads : Unloaded (q.directA ++ q.directB ++ (q.loadsA.header ++ q.loadsB.header))
  writes : ∀ i ∈ q.writeItems k, 0 < i.localWrites
  loadless : Unloaded (q.writeItems k)
  feeds : q.tile.length = (q.writeItems k).length

namespace Spread

variable {k : KernelSpec} {q p : Pending} {slots : Option Slots} {l : SpreadLoads} {ws : List Written} {mods late : Items}

/-- A write in its module behind a wait, with what follows it. -/
def awaited (major count u : Int) (write : Item) (more : Items) : Item :=
  modul s!"LocalWriteMod{u}" (comment0 s!"sched write - iter {u} writesPerItem={write.localWrites}" ::
    waitCount major (-1) count "wait for global read before writing to local" :: write :: more)

/-- In the code of a loop that is run again and again every write waits until only the loads are outstanding that were
started behind the one that feeds it: write `j` of a tile is fed by load `j`, in the same round of the loop or, with two
tiles loaded ahead, in the round before. In the copy that loads nothing they are the loads that are left of the tile. -/
def WaitsExactly (k : KernelSpec) (q p : Pending) (limit : Int) (code : Items) : Prop :=
  ∃ major, ∀ j write, (q.writeItems k)[j]? = some write → ∃ u before more after issued,
    issued = loadsOf ((replicate (k.prefetchGlobalRead - 1).toNat code).flatten ++ before) ∧
    code = before ++ awaited major (min limit (issued.drop (j + 1)).length) u write more :: after ∧
    issued.take (j + 1) = q.tile.take (j + 1) ∧
    p.lateWrites.toList.flatten[j]? = some (awaited major (min limit (q.tile.drop (j + 1)).length) u write [])

section Waits

variable (hw : ∀ w ∈ ws, 0 < w.write.localWrites) (hl : Unloaded (ws.map (·.write)))

include hl in
lemma loadsOf_wraps (h : Forall₂ Wraps ws mods) : loadsOf mods = loadsOf (ws.flatMap (·.load.toList)) := by
  induction h with
  | nil => rfl
  | @cons w i ws mods hwraps _ ih =>
    obtain ⟨name, notes, hnotes, rfl⟩ := hwraps
    simp only [Unloaded, map_cons, forall_mem_cons] at hl
    have hfront : Unloaded (notes ++ [w.write]) := by
      simpa [Unloaded, or_imp, forall_and] using ⟨fun i hi => (hnotes i hi).unloaded, hl.1⟩
    rw [loadsOf_cons, ih hl.2, modul, loadsOf_module, append_cons, loadsOf_append, loadsOf_eq_nil hfront]
    simp

include hw in
lemma moves_of_wraps (h : Forall₂ Wraps ws mods) : ∀ i ∈ mods, moves i := by
  induction h with
  | nil => exact nofun
  | @cons w i ws mods hwraps _ ih =>
    obtain ⟨name, notes, -, rfl⟩ := hwraps
    rw [forall_mem_cons] at hw ⊢
    refine ⟨?_, ih hw.2⟩
    have := hw.1
    simp only [moves, Item.localWrites, modul, countLeaves_module, map_append, sum_append, map_cons,
      sum_cons, Bool.or_eq_true, decide_eq_true_eq] at this ⊢
    omega

include hw hl in
/-- The count of a wait goes down by one with every write and up with every load behind a write. -/
lemma Row.waits {major limit : Int} {c c' : Int × Int} (h : Row major limit true c ws mods late c') {j : Nat}
    {w : Written} (hj : ws[j]? = some w) : ∃ u, mods[j]? = some (awaited major
        (min limit (c.1 - (j + 1) + (loadsOf (mods.take j)).length)) u w.write w.load.toList) ∧
      late[j]? = some (awaited major (min limit (c.2 - (j + 1))) u w.write []) := by
  induction h generalizing j with
  | nil => simp at hj
  | @cons c c' w0 ws mods late u hrow ih =>
    rw [forall_mem_cons] at hw
    simp only [Unloaded, map_cons, forall_mem_cons] at hl
    cases j with
    | zero =>
      simp only [getElem?_cons_zero, Option.some.injEq] at hj
      subst hj
      exact ⟨u, by simp [place, awaited, hw.1, hw.1.ne'], by simp [place, awaited, hw.1, hw.1.ne']⟩
    | succ j =>
      obtain ⟨u', hmod, hlate⟩ := ih hw.2 hl.2 hj
      have hloads := @loadsOf_wraps [w0] _ (by simpa [Unloaded] using hl.1)
        (.cons (wraps_place major limit true u w0 c) .nil)
      have hcount : (place major limit true u w0 c).2.2 =
          (c.1 - 1 + (loadsOf [(place major limit true u w0 c).1]).length, c.2 - 1) := by
        rw [hloads, length_loadsOf]
        cases hload : w0.load <;> simp [place, hw.1, hload, loadCount]
      refine ⟨u', ?_, ?_⟩
      · rw [getElem?_cons_succ, hmod, take_succ_cons, loadsOf_cons, hcount]
        congr 3
        simp
        omega
      · rw [getElem?_cons_succ, hlate, hcount]
        congr 3
        omega

end Waits

lemma inOrder_writes {items later : Items} (h : later.length ≤ items.length) :
    (inOrder k items later).map (·.write) = items := by
  unfold inOrder
  split
  · rw [map_map, max_eq_left h]
    exact (map_getD_range le_rfl _).trans (by simp)
  · simp [Function.comp_def]

lemma inOrder_loads (hp : postponesLoads k) (items later : Items) :
    loadsOf ((inOrder k items later).flatMap (·.load.toList)) = loadsOf later := by
  rw [inOrder, if_pos hp, flatMap_map]
  change loadsOf (flatMap (fun i => [later.getD i (modul "Placeholder" [])]) _) = _
  rw [← map_eq_flatMap, map_getD_range (by omega), loadsOf_append,
    loadsOf_eq_nil fun i hi => eq_of_mem_replicate hi ▸ rfl, append_nil]

lemma loadsOf_fronted {code : Items} (hc : Unloaded code) (items : Items) :
    loadsOf (fronted code items) = loadsOf items := by
  unfold fronted
  split
  next kind name l rest =>
    rw [loadsOf_cons, loadsOf_cons (.module kind name l), loadsOf_module, loadsOf_module, loadsOf_cons, modul,
      loadsOf_module, loadsOf_eq_nil hc, nil_append]
  next => rfl

lemma moved_flatten (a : Array Items) :
    moved a.toList.flatten = (range a.size).flatMap fun u => moved (a.getD u []) := by
  have h : a.toList = (range a.size).map (a.getD · []) := ext_getElem (by simp) fun i h _ => by
    simp [Array.length_toList ▸ h]
  rw [h, flatMap_def]
  simp [moved, Function.comp_def]

lemma split_at_moved {code front rest : Items} {i : Item} (h : moved code = front ++ i :: rest) :
    ∃ before after, code = before ++ i :: after ∧ moved before = front := by
  obtain ⟨a, b, rfl, ha, hb⟩ := filter_eq_append_iff.mp h
  obtain ⟨c, d, rfl, hc, -⟩ := filter_eq_cons_iff.mp hb
  have hnil : moved c = [] := moved_eq_nil.mpr fun i hi => by simpa using hc i hi
  exact ⟨a ++ c, d, by simp, by rw [moved_append, hnil, append_nil]; exact ha⟩

section Plan

variable {writeEnd part : Int} {Lim : Int → Prop} (hk : Spreadable k writeEnd) (hd : k.depthULdsDivisor = 1) (hq : q.Fed k)
  (hc : Counted k slots) (hslots : countsMatrices k = false → q.slots = none)
  (hload : LoadsSpread k q slots (lastWrite k slots writeEnd) l)

include hd hq hload

/-- Loads come before all writes or go with them, and with the writes all when two tiles are loaded ahead. -/
lemma loads_of_spread : loadsOf (l.header ++ l.loads.toList.flatten) ++ loadsOf (l.later.getD []) = q.tile ∧
    (l.later.getD []).length ≤ (loadsOf (l.later.getD [])).length ∧ l.loads.size = k.loopIters.toNat ∧
    (k.prefetchGlobalRead = 2 → l.later.isSome → loadsOf (l.header ++ l.loads.toList.flatten) = []) := by
  have hfoot := loadsOf_eq_nil hq.footers
  have hsteps := loadsOf_eq_nil hq.steps
  have hheads := loadsOf_eq_nil hq.heads
  simp only [loadsOf_append, append_eq_nil_iff] at hfoot hheads hsteps
  unfold LoadsSpread at hload
  split at hload
  next =>
    have hinc := loadsOf_eq_nil (unloaded_increments hq.toKept slots)
    have horder : loadsOf (loadsInOrder q) = q.tile := by
      have hun := hq.heads
      simp only [Unloaded, forall_mem_append] at hun
      simp [loadsInOrder, loadsOf_fronted hun.1.1, loadsOf_fronted hun.1.2, tile]
    have hle := length_le_sum_of_one_le ((loadsInOrder q).map Item.globalReads)
      (forall_mem_map.mpr (loadsInOrder_load hq.loads))
    rw [length_map, ← loadCount, ← length_loadsOf] at hle
    have hsize : l.loads.size = k.loopIters.toNat := by
      obtain ⟨t, behind, ht, hloads, -⟩ := hload.handed
      rw [hloads, Array.size_modify, ht.size]
    rw [hload.header, hload.loads, hload.later, Option.getD_some, handedOut, portions, if_neg (by omega)]
    split
    next => simp [footers, hfoot, hheads, hinc, horder, hsize, horder ▸ hle]
    next h2 => simp [footers, hfoot, hheads, hinc, horder, hsize, show k.prefetchGlobalRead ≠ 2 by simpa using h2]
  next =>
    rw [hload]
    refine ⟨?_, le_rfl, by simp [loadsAtOnce], by simp [loadsAtOnce]⟩
    simp only [loadsAtOnce, flatten_replicate_nil, loadsOf_append, modul, loadsOf_cons _ [_], loadsOf_module, hsteps, hfoot,
      hheads, tile]
    simp

include hk hc

/-- Where places are counted in matrix instructions, everything finds its place. -/
lemma fits_of_spread (h : WritesSpread Lim part k (prepared k q l) l (lastWrite k slots writeEnd) p)
    (ha : k.scheduleIterAlg = 3) : Fits k p := by
  rw [Counted, if_pos (by simp [countsMatrices, hk.matrices ha, ha])] at hc
  obtain ⟨m, s, hm, rfl, hs⟩ := hc
  have hn := hk.tiles m hm
  have hidle := hload.idle hq.toKept
  have honly := h.onlyWrites hq.toKept hidle.2
  have hkept : p.loads = l.loads := h.kept.2
  rw [hs.lastWrite hm hn] at h hload
  obtain ⟨-, s', hs', hle, hun, hroom⟩ := room_of_spread hq.toKept hs hm hn hk.iters hd hload h
  exact ⟨m, s', hm, hn, hs', hle, fun u => ⟨hkept ▸ hidle.1 u, honly u, hun u, hroom u⟩⟩

include hslots

variable (h : Dealt Lim part k (prepared k q l) l.later l.last (lastWrite k slots writeEnd) p)

include h

/-- No iteration behind one with a write has a load. -/
lemma unloaded_behind {u v : Nat} (huv : u < v) (hu : p.writes.getD u [] ≠ []) : Unloaded (l.loads.getD v []) := by
  have hkept := hload.prepared_slots hc hslots
  unfold Counted at hc
  split at hc
  next =>
    obtain ⟨m, s, hm, rfl, hs⟩ := hc
    have hn := hk.tiles m hm
    obtain ⟨e, he, -, -, hun⟩ := hload.unloaded hq.toKept hs hm hn hk.iters hd
    obtain ⟨first, hfirst, -, -, hnone, -⟩ := h.places _ m (hkept.trans he) hm
    refine hun v (not_le.mp fun hle => hu (hnone u (.inl ?_)))
    rw [Int.fdiv_eq_ediv_of_nonneg _ hn.le]
    have := (Int.le_ediv_iff_mul_le hn).mpr (hle.trans hfirst)
    omega
  next =>
    subst hc
    unfold LoadsSpread at hload
    split at hload
    next =>
      have hnone : l.slots = none := by
        rw [hload.places]
        simp only [handing]
        split <;> rfl
      obtain ⟨t, behind, ht, hloads, hlast, hrest⟩ := hload.handed
      have hle : l.last ≤ u := not_lt.mp fun hlt => hu (h.behind (hkept.trans hnone) u hlt)
      rw [hloads, getD_modify, ht.beyond v (by omega), hrest hnone]
      split
      · exact hq.footers
      · simp [Unloaded]
    next =>
      rw [hload]
      simp only [loadsAtOnce, getD_replicate_nil]
      simp [Unloaded]

variable {code : Items} (hfits : k.scheduleIterAlg = 3 → Fits k p) (hcode : Unrolls k p k.loopIters.toNat code)

include hfits hcode

/-- **Loads, then writes.** In a loop that follows the plan all loads that do not go with writes come before all writes. -/
lemma moved_unrolled : moved code = moved (l.header ++ l.loads.toList.flatten) ++ moved p.writes.toList.flatten := by
  have hkept : p.header = l.header ∧ p.loads = l.loads := by rw [h.rest]; exact ⟨rfl, rfl⟩
  have hsize : p.writes.size = k.loopIters.toNat := h.size.trans (by simp [prepared])
  refine (hcode.order hfits fun u v huv hu => ?_).trans ?_
  · rw [hkept.2]
    exact moved_eq_nil_of_unloaded ((hload.idle hq.toKept).1 v)
      (unloaded_behind hk hd hq hc hslots hload h huv fun hnil => hu (by rw [hnil, moved_nil]))
  · rw [hkept.1, hkept.2, moved_append, moved_flatten l.loads, moved_flatten, (loads_of_spread hd hq hload).2.2.1, hsize]

/-- What is loaded before a point of the loop: the tile, and the loads behind the writes up to there. -/
lemma issued_eq (hahead : k.prefetchGlobalRead = 1 ∨ k.prefetchGlobalRead = 2)
    (hlater : postponesLoads k → loadsOf p.writes.toList.flatten = loadsOf (l.later.getD [])) {before front : Items}
    (hbefore : moved before = moved (l.header ++ l.loads.toList.flatten) ++ front) :
    loadsOf ((replicate (k.prefetchGlobalRead - 1).toNat code).flatten ++ before) = q.tile ++ loadsOf front := by
  obtain ⟨htile, -, -, htwo⟩ := loads_of_spread hd hq hload
  have hround := congrArg loadsOf (moved_unrolled hk hd hq hc hslots hload h hfits hcode)
  have hpart := congrArg loadsOf hbefore
  simp only [loadsOf_append, loadsOf_moved] at htile htwo hround hpart ⊢
  rw [hpart]
  obtain h1 | h2 := hahead
  · rw [hload.later_eq_nil (by simp [postponesLoads, h1, hd]), loadsOf_nil, append_nil] at htile
    simp [h1, htile]
  · have hp : postponesLoads k := by simp [postponesLoads, h2]
    rw [htwo h2 (h.put hp)] at htile hround ⊢
    simp [h2, hround, hlater hp, htile]

end Plan

/-- **Waits are exact.** Let the loads and writes of a tile be spread over the iterations of a loop, with one or two tiles
loaded ahead and as many loads as writes. Then every write waits for the load that feeds it and for no later one. -/
theorem writes_wait_exactly {writeEnd part limit : Int} {st st' : State} {code : Items} (hk : Spreadable k writeEnd)
    (hd : k.depthULdsDivisor = 1) (hw : spreadsWrites k = true)
    (hahead : k.prefetchGlobalRead = 1 ∨ k.prefetchGlobalRead = 2) (hq : q.Fed k)
    (hslots : countsMatrices k = false → q.slots = none) (hst : st.k = k)
    (hlim : (currentLimit "MaxVmcnt").run st.session = .ok limit st.session) (hpart : 0 ≤ part)
    (hrun : (spread q writeEnd part).run st = .ok p st') (hcode : Unrolls k p k.loopIters.toNat code) :
    WaitsExactly k q p limit code := by
  have hlim' : Meets True (· = st) (liftM (currentLimit "MaxVmcnt") : Emit Int) (· = limit) :=
    Meets.lift' fun s hs => by rw [hs, hlim]; exact ⟨rfl, rfl⟩
  obtain ⟨-, slots, l, hc, hload, hwrite⟩ := (spread_meets (P := (· = st)) hk (fun _ h => h ▸ hst) hlim'
    (by simp) hslots (by simp) part).of_ok rfl hrun
  have hfits := fits_of_spread hk hd hq hc hload hwrite
  rw [WritesSpread, if_pos hw] at hwrite
  have hmoved := moved_unrolled hk hd hq hc hslots hload hwrite hfits hcode
  obtain ⟨htile, hfew, -⟩ := loads_of_spread hd hq hload
  obtain ⟨itemsA, itemsB, major, _, counts, hA, hB, rfl, hrow⟩ := hwrite.writes
  have hitems : q.writeItems k = itemsA ++ itemsB := by
    rw [Pending.writeItems, show guarded k q.writesA = some itemsA from hA, show q.writesB = some itemsB from hB]
    rfl
  have hwrites := hq.writes
  have hnone := hq.loadless
  have hfeeds := hq.feeds
  rw [hitems] at hwrites hnone hfeeds
  rw [decide_eq_true (show part ≥ k.depthULdsDivisor - 1 by omega)] at hrow
  -- there is a write for every load, so that no filler stands for a write
  have hws := inOrder_writes (k := k) (show (l.later.getD []).length ≤ (itemsA ++ itemsB).length by
    have := congrArg length htile
    rw [length_append] at this
    omega)
  have hpos := fun w h => hwrites _ (hws ▸ mem_map_of_mem (f := Written.write) (a := w) h)
  rw [← hws] at hnone
  have hself : moved p.writes.toList.flatten = p.writes.toList.flatten :=
    filter_eq_self.mpr (moves_of_wraps hpos hrow.wraps)
  rw [hself] at hmoved
  refine ⟨major, fun j write hj => ?_⟩
  rw [hitems] at hj
  have hlt : j < q.tile.length := hfeeds ▸ (List.getElem?_eq_some_iff.mp hj).1
  rw [← hws, getElem?_map, Option.map_eq_some_iff] at hj
  obtain ⟨w, hj, rfl⟩ := hj
  obtain ⟨u, hmod, hlate⟩ := hrow.waits hpos hnone hj
  obtain ⟨hlen, hget⟩ := List.getElem?_eq_some_iff.mp hmod
  rw [← take_append_drop j p.writes.toList.flatten, drop_eq_getElem_cons hlen, hget, ← append_assoc] at hmoved
  obtain ⟨before, after, hsplit, hbefore⟩ := split_at_moved hmoved
  have hstream := issued_eq hk hd hq hc hslots hload hwrite hfits hcode hahead
    (fun hp => (loadsOf_wraps hnone hrow.wraps).trans (inOrder_loads hp _ _)) hbefore
  have hcount : ((itemsA.length + itemsB.length : Nat) : Int) = q.tile.length := by simp [hfeeds]
  refine ⟨u, before, w.load.toList, after, _, hstream.symm, ?_, take_append_of_le_length hlt, ?_⟩
  · rw [hsplit, hcount]
    congr 5
    simp only [length_drop, length_append]
    omega
  · rw [hlate, hcount]
    congr 3
    simp only [length_drop]
    omega

/-- Two tiles are loaded ahead, and loads and writes are spread over a single iteration. -/
def pairedKernel : KernelSpec := { putOffKernel with loopIters := 1, scheduleLocalWrite := 1 }

def pairedState : State := { putOffState with k := pairedKernel }

theorem pairedKernel_waits : ∃ p st' code, (spread putOffCode 0 0).run pairedState = .ok p st' ∧
    Unrolls pairedKernel p 1 code ∧ (loadsOf code).length = 2 ∧ WaitsExactly pairedKernel putOffCode p 63 code := by
  have hk : Spreadable pairedKernel 0 :=
    ⟨by decide, fun m (hm : none = some m) => (nomatch hm), by decide, by decide, by decide, fun _ => by decide⟩
  have hq : putOffCode.Fed pairedKernel :=
    { loads := by decide, steps := nofun, footers := nofun, idle := rfl, heads := nofun, writes := by decide
      writesA := by rintro _ ⟨⟩; unfold OnlyWrites; decide
      writesB := by rintro _ ⟨⟩; unfold OnlyWrites; decide
      loadless := by unfold Unloaded; decide
      feeds := rfl }
  have hx : Still pairedKernel { u := 0 } := ⟨⟨⟨rfl, rfl, rfl, rfl, rfl, nofun⟩, nofun, by decide, rfl, nofun⟩, rfl⟩
  obtain ⟨p, st', hrun, code, hcode, hlen⟩ : ∃ p st', (spread putOffCode 0 0).run pairedState = .ok p st' ∧
      ∃ code, Unrolls pairedKernel p 1 code ∧ (loadsOf code).length = 2 :=
    ⟨_, _, rfl, _, @Unrolls.step _ _ _ _ { u := 0 } #[] _ _ pairedState _ .start hx rfl rfl rfl, rfl⟩
  exact ⟨p, st', code, hrun, hcode, hlen,
    writes_wait_exactly hk rfl rfl (.inr rfl) hq (fun _ => rfl) rfl rfl le_rfl hrun hcode⟩

end Spread

end TensorForge.Assembly
