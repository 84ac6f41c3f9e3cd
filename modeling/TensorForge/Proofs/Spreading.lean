import TensorForge.Proofs.SpreadLoads

/-!
# What is spread over the iterations

The writes of the next tile to local memory are dealt to the iterations of the unrolled loop behind the loads,
each in a module of its own together with the load that goes behind it. The writes that are dealt begin before
the last iteration for them, and that iteration takes all that are left.
-/

namespace TensorForge.Assembly

open Asm Asm.Item Emit Int List

/-- What lets spreading end: loads that are put off were spread, and where places are not counted in matrix
instructions, what should load or write does. -/
structure Pending.Complete (k : KernelSpec) (q : Pending) (itemsA itemsB : Items) : Prop
    extends q.Listed itemsA itemsB where
  put : postponesLoads k → spreadsWrites k → spreadsLoads k
  loading : countsMatrices k = false → ∀ i ∈ q.loadsA.middle ++ q.loadsB.middle, 0 < i.globalReads
  writing : countsMatrices k = false → ∀ i ∈ itemsA ++ itemsB, 0 < i.localWrites

namespace Spread

variable {e : Prop} {P : State → Prop} {k : KernelSpec} {m : MatrixSpec} {q : Pending} {slots : Option Slots}

/-- What goes into the code besides what is to be placed: comments, waits and items that keep places free. -/
inductive Note : Item → Prop
  | comment (c : Text) : Note (comment0 c)
  | title (c : Text) : Note (Item.comment1 c)
  | wait (w : Item.Wait) (major : Int) : Note (w.item major)
  | blank : Note (.text "")
  | debugWait (c : Text) : Note (plain ["s_waitcnt", "lgkmcnt(0) & vmcnt(0)"] c)
  | debugStores : Note (plain ["s_waitcnt_vscnt", "null", "0"] "writes")
  | debugBarrier : Note (plain ["s_barrier"] "debug")
  | filler : Note (modul "Placeholder" [])
  | step (tc : Text) : Note (modul "" [plain ["//"] s!"globalReadInc{tc} scheduler placeholder"])

/-- A write in its module, with remarks in front of it and a load behind it. -/
def Wraps (w : Written) (i : Item) : Prop :=
  ∃ name notes, (∀ n ∈ notes, Note n) ∧ i = modul name (notes ++ w.write :: w.load.toList)

lemma wraps_place (major maxCount : Int) (waits : Bool) (u : Int) (w : Written) (left : Int × Int) :
    Wraps w (place major maxCount waits u w left).1 := by
  refine ⟨_, _ :: _, ?_, rfl⟩
  rw [forall_mem_cons]
  refine ⟨.comment _, ?_⟩
  split
  · simp
  · split
    · rw [forall_mem_singleton]
      exact .wait _ _
    · rw [forall_mem_singleton]
      exact .comment _

/-- Modules that write, and those of the copy without loads. Each goes on with the counts of outstanding loads that the
one before it leaves. -/
inductive Row (major limit : Int) (waits : Bool) : Int × Int → List Written → Items → Items → Int × Int → Prop
  | nil {c : Int × Int} : Row major limit waits c [] [] [] c
  | cons {c c' : Int × Int} {w : Written} {ws : List Written} {mods late : Items} (u : Int) :
    Row major limit waits (place major limit waits u w c).2.2 ws mods late c' →
      Row major limit waits c (w :: ws) ((place major limit waits u w c).1 :: mods)
        ((place major limit waits u w c).2.1 :: late) c'

section Dealing

variable {major limit : Int} {waits : Bool} {c c1 c2 : Int × Int} {ws ws' : List Written} {mods mods' late late' : Items}

lemma Row.append (h : Row major limit waits c ws mods late c1) (h' : Row major limit waits c1 ws' mods' late' c2) :
    Row major limit waits c (ws ++ ws') (mods ++ mods') (late ++ late') c2 := by
  induction h with
  | nil => exact h'
  | cons u _ ih => exact .cons u (ih h')

lemma Row.wraps (h : Row major limit waits c ws mods late c1) : Forall₂ Wraps ws mods := by
  induction h with
  | nil => exact .nil
  | cons u _ ih => exact .cons (wraps_place major limit waits u _ _) ih

variable {d : Dealing} {u : Int}

/-- What an iteration gets when writes are dealt to it: their modules, in order. -/
lemma deal_row (major limit : Int) (waits : Bool) (u : Int) (n : Nat) (d : Dealing) :
    ∃ mods late, Row major limit waits d.counts (d.left.take n) mods late (d.deal major limit waits u n).counts ∧
      (d.deal major limit waits u n).writes = d.writes.modify u.toNat (· ++ mods) ∧
      (d.deal major limit waits u n).late = d.late.modify u.toNat (· ++ late) := by
  have hmodify : ∀ (a : Array Items) (j : Nat) (x : Item) (l : Items),
      (a.modify j (· ++ [x])).modify j (· ++ l) = a.modify j (· ++ x :: l) := fun a j x l =>
    Array.ext_getElem? fun i => by
      simp only [Array.getElem?_modify]
      split <;> simp [Function.comp_def]
  unfold Dealing.deal
  generalize d.left.take n = ws
  induction ws generalizing d with
  | nil =>
    have hnil : ∀ (a : Array Items) (j : Nat), a = a.modify j (· ++ []) := fun a j =>
      Array.ext_getElem? fun i => by simp [Array.getElem?_modify]
    exact ⟨[], [], .nil, hnil _ _, hnil _ _⟩
  | cons w ws ih =>
    obtain ⟨mods, late, hrow, hwrites, hlate⟩ := ih (Dealing.put major limit waits u d w)
    exact ⟨_ :: mods, _ :: late, .cons u hrow, by rw [foldl_cons, hwrites]; exact hmodify _ _ _ _,
      by rw [foldl_cons, hlate]; exact hmodify _ _ _ _⟩

/-- The writes while they are dealt from iteration `start` on, when the iterations before `u` are through: those that
are dealt have their modules in the iterations, in order. -/
structure Dealing.Deals (major limit : Int) (waits : Bool) (c : Int × Int) (ws : List Written) (size : Nat) (start u : Int)
    (d : Dealing) : Prop where
  dealt : ∃ done, ws = done ++ d.left ∧
    Row major limit waits c done d.writes.toList.flatten d.late.toList.flatten d.counts
  none : ∀ j : Nat, (j : Int) < start ∨ u ≤ j → d.writes.getD j [] = []
  noneLate : ∀ j : Nat, u ≤ j → d.late.getD j [] = []
  size : d.writes.size = size ∧ d.late.size = size

lemma Dealing.Deals.deal {size : Nat} {start : Int} (h : d.Deals major limit waits c ws size start u) (n : Nat)
    (hstart : start ≤ u) (hu : 0 ≤ u) (hlt : u < size) :
    (d.deal major limit waits u n).Deals major limit waits c ws size start (u + 1) := by
  obtain ⟨done, hws, hdone⟩ := h.dealt
  obtain ⟨mods, late, hrow, hwrites, hlate⟩ := deal_row major limit waits u n d
  refine ⟨⟨done ++ d.left.take n, ?_, ?_⟩, fun j hj => ?_, fun j hj => ?_, by simp [hwrites, hlate, h.size]⟩
  · rw [hws]
    simp [Dealing.deal]
  · rw [hwrites, hlate, flatten_modify (by rw [h.size.1]; omega) fun i hi => h.none i (by omega),
      flatten_modify (by rw [h.size.2]; omega) fun i hi => h.noneLate i (by omega)]
    exact hdone.append hrow
  · rw [hwrites, getD_modify, if_neg (by omega)]
    exact h.none j (by omega)
  · rw [hlate, getD_modify, if_neg (by omega)]
    exact h.noneLate j (by omega)

end Dealing

variable {d : Dealing} {u : Int}

/-- Writes with the loads that go behind them; what is put off goes with writes as long as there are any. -/
def inOrder (k : KernelSpec) (items later : Items) : List Written :=
  if postponesLoads k then
    (List.range (max items.length later.length)).map fun i =>
      { write := items.getD i (modul "Placeholder" []), load := some (later.getD i (modul "Placeholder" [])) }
  else items.map fun i => { write := i, load := none }

variable {later : Option Items}

lemma writesInOrder_meets {items : Items}
    (h : ¬e → postponesLoads k → later.isSome) : Meets e P (writesInOrder k items later) fun ws =>
      (postponesLoads k → later.isSome) ∧ ws = inOrder k items (later.getD []) := by
  unfold writesInOrder inOrder
  refine .ite' (fun hp => ?_) fun hp => ?_
  · have hk : postponesLoads k = false := by simpa [postponesLoads] using hp
    exact .pure' (by simp [hk])
  · have hk : postponesLoads k := by simpa [postponesLoads, or_iff_not_imp_left] using hp
    cases later with
    | some later => exact .pure' (by simp [hk])
    | none =>
      refine .throw' ?_ _
      by_contra he
      exact nomatch h he hk

/-- As long as they are dealt to iterations before the last, no iteration gets more writes than there are
places for in it. -/
def Dealing.Fits (s : Slots) (n start writeEnd : Int) (d : Dealing) : Prop :=
  ∀ j : Nat, start ≤ j → (j : Int) ≠ writeEnd →
    ((d.writes.getD j []).length : Int) ≤ s.writesPerStep * (n - max 0 (s.writeStart - j * n))

variable {s : Slots} {ws : List Written} {size : Nat} {n start writeEnd major limit : Int} {waits : Bool} {c : Int × Int}

lemma Dealing.Fits.deal (h : d.Fits s n start writeEnd) (hd : d.Deals major limit waits c ws size start u) {now : Nat}
    (hu : 0 ≤ u) (hnow : u ≠ writeEnd → (now : Int) ≤ s.writesPerStep * (n - max 0 (s.writeStart - u * n))) :
    (d.deal major limit waits u now).Fits s n start writeEnd := by
  obtain ⟨mods, late, hrow, heq, -⟩ := deal_row major limit waits u now d
  have hlen : mods.length ≤ now := by
    rw [← hrow.wraps.length_eq, length_take]
    omega
  intro j hs hj
  rw [heq, getD_modify]
  split
  next hju =>
    rw [hd.none j (by omega), nil_append]
    obtain rfl : (j : Int) = u := by omega
    omega
  next => exact h j hs hj

lemma Dealing.fits_empty (hn : 0 < n) (hs : 0 < s.writesPerStep) (hd : d.writes = Array.replicate size []) :
    d.Fits s n (fdiv s.writeStart n) writeEnd := by
  have hnil : ∀ j, d.writes.getD j [] = [] := fun j => by rw [hd, getD_replicate_nil]
  have hdiv := mul_fdiv_add_fmod s.writeStart n
  have hlt := fmod_lt_of_pos s.writeStart hn
  intro j hj _
  have hoff : .fdiv s.writeStart n * n ≤ j * n := Int.mul_le_mul_of_nonneg_right hj hn.le
  rw [mul_comm] at hoff
  rw [hnil]
  exact Int.mul_nonneg hs.le (by omega)

/-- The iteration of the last write takes all that are left, and each before it as many as it has places for. -/
lemma share_meets {left : Nat} (h : ¬e → slots = none → k.scheduleIterAlg ≠ 3) :
    Meets e P (share k slots n start writeEnd u left) fun now => (u = writeEnd → now = left) ∧
      (u ≠ writeEnd → ∀ s, slots = some s →
        now = if u = start then (n - .fmod s.writeStart n) * s.writesPerStep else n * s.writesPerStep) := by
  refine .ite' (fun hu => .pure' ⟨fun _ => rfl, fun hne => absurd (by simpa using hu) hne⟩) fun hu => ?_
  rw [beq_iff_eq] at hu
  split
  next s =>
    refine .ite' (fun hs => .pure' ⟨fun h => absurd h hu, ?_⟩) fun hs => .pure' ⟨fun h => absurd h hu, ?_⟩
    · rintro - _ ⟨⟩
      rw [if_pos (by simpa using hs)]
    · rintro - _ ⟨⟩
      rw [if_neg (by simpa using hs)]
  next =>
    refine .ite' (fun hc => .throw' ?_ _) fun _ => .pure' ⟨fun h => absurd h hu, nofun⟩
    simp only [Bool.and_eq_true, beq_iff_eq] at hc
    by_contra he
    exact h he rfl hc.2

lemma share_le (hn : 0 < n) (hs : 0 < s.writesPerStep) (hstart : fdiv s.writeStart n ≤ u) {now : Int}
    (h : now = if u = fdiv s.writeStart n then (n - fmod s.writeStart n) * s.writesPerStep else n * s.writesPerStep) :
    (now.toNat : Int) ≤ s.writesPerStep * (n - max 0 (s.writeStart - u * n)) := by
  have hdiv := mul_fdiv_add_fmod s.writeStart n
  have hmod := fmod_nonneg_of_pos s.writeStart hn
  have hlt := fmod_lt_of_pos s.writeStart hn
  rw [h]
  split
  next h =>
    have hoff : s.writeStart - u * n = .fmod s.writeStart n := by rw [h, mul_comm]; omega
    have hpos : 0 ≤ (n - .fmod s.writeStart n) * s.writesPerStep := Int.mul_nonneg (by omega) hs.le
    rw [hoff, max_eq_right hmod, toNat_of_nonneg hpos, mul_comm]
  next h =>
    have hbehind : (.fdiv s.writeStart n + 1) * n ≤ u * n := Int.mul_le_mul_of_nonneg_right (by omega) hn.le
    rw [add_mul, mul_comm _ n] at hbehind
    have hpos : 0 ≤ n * s.writesPerStep := Int.mul_nonneg hn.le hs.le
    rw [max_eq_left (by omega), sub_zero, toNat_of_nonneg hpos, mul_comm]

lemma span_eq_nil {start stop : Int} (h : stop ≤ start) : span start stop = [] := by
  simp [span, upTo]
  omega

lemma deals_empty (major limit : Int) (waits : Bool) (ws : List Written) (size : Nat) (start u : Int) {d : Dealing}
    (hd : d.writes = Array.replicate size []) (hlate : d.late = Array.replicate size []) (hl : d.left = ws) :
    d.Deals major limit waits d.counts ws size start u := by
  refine ⟨⟨[], hl.symm, ?_⟩, fun j _ => ?_, fun j _ => ?_, by simp [hd, hlate]⟩
  · rw [hd, hlate, flatten_replicate_nil]
    exact .nil
  · rw [hd, getD_replicate_nil]
  · rw [hlate, getD_replicate_nil]

/-- Writes are dealt from the iteration of their first place on, to each as many as it has places for. -/
lemma deals_meets (hend : writeEnd < size) (hstart : 0 ≤ start)
    (hsome : ∀ s, slots = some s → 0 < n ∧ 0 < s.writesPerStep ∧ start = fdiv s.writeStart n)
    (halg : ¬e → slots = none → k.scheduleIterAlg ≠ 3) (hdone : ¬e → start ≤ writeEnd ∨ ws = []) (major limit : Int)
    (waits : Bool) (hw : d.writes = Array.replicate size []) (hlate : d.late = Array.replicate size []) (hl : d.left = ws) :
    Meets e P ((span start (writeEnd + 1)).foldlM (fun (d : Dealing) u => do
      let now ← share k slots n start writeEnd u d.left.length
      return d.deal major limit waits u now.toNat) d) fun d' : Dealing =>
      d'.Deals major limit waits d.counts ws size start (writeEnd + 1) ∧
        (∀ s, slots = some s → d'.Fits s n start writeEnd) ∧ (¬e → d'.left = []) := by
  have hfits : ∀ s, slots = some s → d.Fits s n start writeEnd := fun s hs => by
    obtain ⟨hn, hpos, rfl⟩ := hsome s hs
    exact Dealing.fits_empty hn hpos hw
  by_cases hle : start ≤ writeEnd + 1
  · refine (Meets.foldlM_span (fun u (d' : Dealing) => d'.Deals major limit waits d.counts ws size start u ∧
      (∀ s, slots = some s → d'.Fits s n start writeEnd) ∧ (¬e → writeEnd < u → d'.left = [])) hle (fun u d' hu hlt hd => ?_)
      ⟨deals_empty major limit waits ws size start start hw hlate hl, hfits, fun he h => ?_⟩).mono
      fun d' hd => ⟨hd.1, hd.2.1, fun he => hd.2.2 he (by omega)⟩
    · refine Meets.bind' (share_meets halg) fun now hnow => Meets.pure' ⟨hd.1.deal _ hu (by omega) (by omega),
        fun s hs => (hd.2.1 s hs).deal hd.1 (by omega) fun hne => ?_, fun he h => ?_⟩
      · obtain ⟨hn, hpos, rfl⟩ := hsome s hs
        exact share_le hn hpos hu (hnow.2 hne s hs)
      · simp [Dealing.deal, hnow.1 (by omega)]
    · exact hl.trans ((hdone he).resolve_left (by omega))
  · rw [span_eq_nil (by omega)]
    exact .pure' ⟨deals_empty major limit waits ws size start _ hw hlate hl, hfits,
      fun he => hl.trans ((hdone he).resolve_left (by omega))⟩

/-- How the writes are spread: each has its module in an iteration, in their order, and none comes before the last load.
When places are counted in matrix instructions, `first` is the first of them, and no iteration before the last gets more
writes than it has places for. `Lim` is known of the limit of counts. -/
structure Dealt (Lim : Int → Prop) (part : Int) (k : KernelSpec) (p : Pending) (later : Option Items)
    (lastLoad writeEnd : Int) (p' : Pending) : Prop where
  put : postponesLoads k → later.isSome
  writes : ∃ itemsA itemsB major limit counts, p.writesA = some itemsA ∧ p.writesB = some itemsB ∧ Lim limit ∧
    Row major limit (part ≥ k.depthULdsDivisor - 1) ((itemsA.length + itemsB.length : Nat), (itemsA.length + itemsB.length : Nat))
      (inOrder k (itemsA ++ itemsB) (later.getD [])) p'.writes.toList.flatten p'.lateWrites.toList.flatten counts
  behind : p.slots = none → ∀ j : Nat, (j : Int) < lastLoad → p'.writes.getD j [] = []
  rest : p' = { p with writes := p'.writes, lateWrites := p'.lateWrites, slots := p'.slots }
  places : ∀ s m, p.slots = some s → k.matrix = some m → ∃ first, s.loadEnd ≤ first ∧ first ≤ s.writeEnd ∧
    p'.slots = some { s with writeStart := first } ∧
    (∀ j : Nat, (j : Int) < fdiv first (matricesPerIter k m) ∨ writeEnd < j → p'.writes.getD j [] = []) ∧
    ∀ j : Nat, fdiv first (matricesPerIter k m) ≤ j → (j : Int) ≠ writeEnd →
      ((p'.writes.getD j []).length : Int) ≤
        s.writesPerStep * (matricesPerIter k m - max 0 (first - j * matricesPerIter k m))
  size : p'.writes.size = p.writes.size

variable {Lim : Int → Prop}

lemma Dealt.wraps {part lastLoad : Int} {p p' : Pending}
    (h : Dealt Lim part k p later lastLoad writeEnd p') : ∃ itemsA itemsB, p.writesA = some itemsA ∧
      p.writesB = some itemsB ∧ Forall₂ Wraps (inOrder k (itemsA ++ itemsB) (later.getD [])) p'.writes.toList.flatten := by
  obtain ⟨itemsA, itemsB, _, _, _, hA, hB, -, hrow⟩ := h.writes
  exact ⟨itemsA, itemsB, hA, hB, hrow.wraps⟩

/-- Whether a write with the load behind it is counted when places are shared out. -/
def Written.moves (w : Written) : Bool :=
  match w.load with
  | some l => Spread.moves w.write || Spread.moves l
  | none => w.write.localWrites > 0

lemma moves_getD {items : Items} {d : Item} (h : ∀ i ∈ items, moves i) {j : Nat} (hj : j < items.length) :
    moves (items.getD j d) := by
  rw [getD_eq_getElem?_getD, getElem?_eq_getElem hj]
  exact h _ (getElem_mem hj)

lemma moves_inOrder {items later : Items} (hi : ∀ i ∈ items, 0 < i.localWrites)
    (hl : postponesLoads k → ∀ i ∈ later, 0 < i.globalReads) : ∀ w ∈ inOrder k items later, w.moves := by
  unfold inOrder
  split
  next hp =>
    simp only [forall_mem_map, mem_range, Written.moves, Bool.or_eq_true]
    intro j hj
    by_cases h : j < items.length
    · exact .inl (moves_getD fun i h => by simp [moves, hi i h] h)
    · exact .inr (moves_getD fun i h => by simp [moves, hl hp i h] (by omega))
  next =>
    simp only [forall_mem_map, Written.moves, decide_eq_true_eq]
    exact hi

lemma spreadWrites_meets {p : Pending} (hw : p.writes = Array.replicate size [])
    (hlate : p.lateWrites = Array.replicate size []) (hend : writeEnd < size) {lastLoad : Int} (hlast : 0 ≤ lastLoad)
    (hplaces : ∀ s, p.slots = some s → ∃ m, k.matrix = some m ∧ 0 < matricesPerIter k m ∧ 0 < s.writesPerStep ∧
      0 ≤ s.loadEnd ∧ s.loadEnd ≤ s.writeEnd ∧ fdiv s.writeEnd (matricesPerIter k m) ≤ writeEnd)
    (hdone : ¬e → ∃ itemsA itemsB, p.writesA = some itemsA ∧ p.writesB = some itemsB ∧
      (postponesLoads k → later.isSome) ∧ (p.slots = none → k.scheduleIterAlg ≠ 3 ∧ lastLoad ≤ writeEnd ∧
        ∀ w ∈ inOrder k (itemsA ++ itemsB) (later.getD []), w.moves)) {maxCount : Int}
    (hlim : Lim maxCount) (part : Int) :
    Meets e P (spreadWrites k p maxCount writeEnd lastLoad part later) (Dealt Lim part k p later lastLoad writeEnd) := by
  unfold spreadWrites
  split
  next itemsA hA =>
    split
    next itemsB hB =>
      have hdone' : ¬e → (postponesLoads k → later.isSome) ∧ (p.slots = none → k.scheduleIterAlg ≠ 3 ∧
          lastLoad ≤ writeEnd ∧ ∀ w ∈ inOrder k (itemsA ++ itemsB) (later.getD []), w.moves) := fun he => by
        obtain ⟨_, _, hA', hB', h⟩ := hdone he
        rw [hA] at hA'
        rw [hB] at hB'
        cases hA'
        cases hB'
        exact h
      refine .bind' .get' fun st _ =>
        .bind' (writesInOrder_meets fun he => (hdone' he).1) fun left hleft => ?_
      obtain ⟨hput, rfl⟩ := hleft
      cases hslots : p.slots with
      | none =>
        simp only [Option.map_none, pure_bind]
        refine .bind' (deals_meets hend (by omega) ?_ (fun he _ => ((hdone' he).2 hslots).1) (fun he => ?_) _ _ _ hw hlate rfl)
          fun d hd => .bind' (.check' fun he => isEmpty_iff.mpr (hd.2.2 he)) fun _ hnil => .pure' ?_
        · exact nofun
        · obtain ⟨-, hlast, hmoves⟩ := (hdone' he).2 hslots
          change max (writeEnd - (List.countP Written.moves _ : Nat) + 1) lastLoad ≤ writeEnd ∨ _
          rw [countP_eq_length.mpr hmoves]
          by_cases hnil : inOrder k (itemsA ++ itemsB) (later.getD []) = []
          · exact .inr hnil
          · have := length_pos_iff.mpr hnil
            exact .inl (by omega)
        · obtain ⟨done, hws, hrow⟩ := hd.1.dealt
          rw [isEmpty_iff.mp hnil, append_nil] at hws
          exact ⟨hput, ⟨itemsA, itemsB, _, _, _, hA, hB, hlim, hws ▸ hrow⟩, fun _ j hj => hd.1.none j (.inl (by omega)), rfl,
            (fun s m hs => by rw [hslots] at hs; cases hs),
            hd.1.size.1.trans (by simp [hw])⟩
      | some s =>
        obtain ⟨m, hm, hn, hs, he, hle, hin⟩ := hplaces s hslots
        simp only [Option.map_some, hm, Option.getD_some]
        generalize hc : max 1 (quotientUp _ s.writesPerStep) = c
        have hfirst : s.loadEnd ≤ max s.loadEnd (s.writeEnd - c + 1) ∧ max s.loadEnd (s.writeEnd - c + 1) ≤ s.writeEnd := by
          omega
        generalize max s.loadEnd (s.writeEnd - c + 1) = first at hfirst
        have hstart : Int.fdiv first (matricesPerIter k m) ≤ writeEnd := by
          rw [fdiv_eq_ediv_of_nonneg _ hn.le] at hin ⊢
          exact (Int.ediv_le_ediv hn hfirst.2).trans hin
        simp only [pure_bind]
        refine .bind' (.check' fun _ => by simpa using lt_add_one_of_le hstart) fun _ _ => ?_
        refine .bind' (deals_meets hend (fdiv_nonneg (by omega) hn.le) ?_ (fun _ => ?_)
          (fun _ => .inl hstart) _ _ _ hw hlate rfl) fun d hd =>
          .bind' (.check' fun he => isEmpty_iff.mpr (hd.2.2 he)) fun _ hnil => .pure' ?_
        · rintro _ ⟨⟩
          exact ⟨hn, hs, rfl⟩
        · exact nofun
        obtain ⟨hd, hf, -⟩ := hd
        have hf := hf _ rfl
        obtain ⟨done, hws, hrow⟩ := hd.dealt
        rw [isEmpty_iff.mp hnil, append_nil] at hws
        refine ⟨hput, ⟨itemsA, itemsB, _, _, _, hA, hB, hlim, hws ▸ hrow⟩, fun h => ?_, rfl, fun s0 m0 hs0 hm0 => ?_,
          hd.size.1.trans (by simp [hw])⟩
        · rw [hslots] at h
          cases h
        rw [hslots] at hs0
        rw [hm] at hm0
        cases hs0
        cases hm0
        exact ⟨first, hfirst.1, hfirst.2, rfl, fun j hj => hd.none j (by omega), hf⟩
    next hB =>
      refine .throw' ?_ _
      by_contra he
      obtain ⟨_, _, -, hB', -⟩ := hdone he
      exact hB _ hB'
  next hA =>
    refine .throw' ?_ _
    by_contra he
    obtain ⟨_, _, hA', -⟩ := hdone he
    exact hA _ hA'

/-- The barrier in front of the first write when there is only one buffer in local memory. -/
def guarded (k : KernelSpec) (w : Option Items) : Option Items :=
  if k.oneLdsBuffer then
    w.map (fronted [comment0 "1 LDS buffer: read-sync-write", plain ["s_waitcnt lgkmcnt(0)"] "", plain ["s_barrier"] ""])
  else w

lemma guardBuffer_meets {w : Option Items} (h : ¬e → ∃ items, w = some items ∧ ∀ i ∈ items, i matches .module _ _ _) :
    Meets e P (guardBuffer k w) (· = guarded k w) := by
  unfold guardBuffer guarded
  refine .ite' (fun h => .pure' (by rw [if_neg (by simpa using h)])) fun hk => ?_
  rw [if_pos (by simpa using hk)]
  cases w with
  | some items =>
    refine .bind' (putFirst_meets fun he => ?_) fun out hout => .pure' (by rw [hout]; rfl)
    obtain ⟨_, ⟨⟩, h⟩ := h he
    exact h
  | none =>
    refine .throw' ?_ _
    by_contra he
    obtain ⟨_, ⟨⟩, -⟩ := h he

lemma guarded_writes (k : KernelSpec) (items : Items) : ∃ items', guarded k (some items) = some items' ∧
    ((∀ i ∈ items, 0 < i.localWrites) → ∀ i ∈ items', 0 < i.localWrites) := by
  unfold guarded
  split
  · exact ⟨_, rfl, fronted_counts⟩
  · exact ⟨items, rfl, fun h => h⟩

/-- All writes of a tile, behind a wait for its loads. -/
def atOnce (p : Pending) (wait : Items) : Item :=
  modul "" (wait ++ .comment1 "local write A" :: LocalWrite.itemsOf p.writesA ++
    .comment1 "local write B" :: LocalWrite.itemsOf p.writesB)

variable {name : Text}

lemma fetch_meets {t : Table} (h : ¬e → ∃ v, t.get? name = some v) :
    Meets e P (liftM (Gen.fetch t name)) (t.get? name = some ·) := by
  refine .lift' fun _ hP => ?_
  unfold Gen.fetch
  cases hv : t.get? name with
  | some v => exact ⟨hP, rfl⟩
  | none =>
    by_contra he
    obtain ⟨v, hv'⟩ := h he
    rw [hv] at hv'
    cases hv'

lemma archCap_meets (h : ¬e → ∀ st, P st → ∃ v, st.archCaps.get? name = some v) :
    Meets e P (archCap name) fun _ => True :=
  .bind' .get' fun st hst => .bind' (fetch_meets fun he => h he st hst) fun _ _ => .pure' trivial

lemma limit_meets (h : ¬e → ∀ st, P st → ∃ n : Int, st.asmCaps.get? name = some (.int n)) :
    Meets e P (.limit name) fun _ => True := by
  refine .bind' .get' fun st hst => .bind' (fetch_meets fun he => ?_) fun v hv => .lift' fun _ hP => ?_
  · obtain ⟨n, hn⟩ := h he st hst
    exact ⟨_, hn⟩
  · cases v with
    | int n => exact ⟨hP, trivial⟩
    | bool b => exact ⟨hP, trivial⟩
    | _ =>
      by_contra he
      obtain ⟨n, hn⟩ := h he st hst
      rw [hv] at hn
      cases hn

/-- A wait for loads and reads is a remark. -/
lemma waitFor_meets (h : ¬e → ∀ st, P st → st.Knows k) (loads reads : Int) (comment : Text) :
    Meets e P (waitFor loads (-1) reads comment) fun w => ∀ major, ∀ i ∈ w.items major, Note i := by
  refine .look fun parts => ?_
  refine .ite' (fun _ => .pure' fun _ => by simpa [WaitCode.items] using .blank) fun _ => ?_
  refine .look fun k => .look fun a => .look fun b => ?_
  refine .bind' (R := fun _ => True) (.pure' trivial) fun onWrites _ => .look fun probes => ?_
  refine .ite' (fun _ => ?_) fun _ => ?_
  · refine .bind' (archCap_meets fun he st hst => (h he st hst).stores) fun separate _ => .pure' fun _ => ?_
    cases separate <;> simp [WaitCode.items, opt, default, Note.debugWait, Note.debugStores, Note.debugBarrier]
  · refine .bind' (limit_meets fun he st hst => (h he st hst).readsAtWait) fun _ _ =>
      .bind' (limit_meets fun he st hst => (h he st hst).loadsAtWait) fun _ _ => .pure' fun major => ?_
    simpa [WaitCode.items] using .wait _ major

lemma awaitLoads_meets (h : ¬e → ∀ st, P st → st.Knows k) :
    Meets e P (awaitLoads k) fun items => ∀ i ∈ items, Note i := by
  refine .ite' (fun _ => ?_) fun _ => .pure' nofun
  exact .bind' (waitFor_meets h _ _ _) fun w hw => .bind' .get' fun st _ => .pure' (hw _)

lemma writeAtOnce_meets (h : ¬e → ∀ st, P st → st.Knows k) (hg : k.prefetchGlobalRead ≠ 0) {p : Pending}
    (hw : 0 ≤ writeEnd) (hsize : writeEnd < p.writes.size) :
    Meets e P (writeAtOnce k p writeEnd) fun p' => ∃ wait, (∀ i ∈ wait, Note i) ∧ p' = { p with
      slots := p.slots.map fun s => { s with writeStart := s.writeEnd }
      writes := p.writes.modify writeEnd.toNat (· ++ [atOnce p wait]) } := by
  unfold writeAtOnce
  dsimp only
  rw [if_neg (by simpa using hg)]
  refine .bind' (awaitLoads_meets h) fun wait hwait =>
    .bind' (.wrapped' fun _ => by omega) fun i hi => .pure' ⟨wait, hwait, ?_⟩
  obtain rfl : i = writeEnd.toNat := by omega
  rfl

/-- The plan when the loads are spread and the writes are not. -/
def prepared (k : KernelSpec) (q : Pending) (l : SpreadLoads) : Pending :=
  { q with
    writesA := guarded k q.writesA, header := l.header, loads := l.loads, slots := l.slots.or q.slots
    writes := .replicate k.loopIters.toNat [], lateWrites := .replicate k.loopIters.toNat []
    skippable := .replicate k.loopIters.toNat 0 }

/-- The writes as they are spread, or all in one iteration behind a wait. -/
def WritesSpread (Lim : Int → Prop) (part : Int) (k : KernelSpec) (p : Pending) (l : SpreadLoads) (writeEnd : Int)
    (p' : Pending) : Prop :=
  if spreadsWrites k then Dealt Lim part k p l.later l.last writeEnd p'
  else ∃ wait, (∀ i ∈ wait, Note i) ∧ p' = { p with
    slots := p.slots.map fun s => { s with writeStart := s.writeEnd }
    writes := p.writes.modify writeEnd.toNat (· ++ [atOnce p wait]) }

lemma WritesSpread.kept {part : Int} {p p' : Pending} {l : SpreadLoads}
    (h : WritesSpread Lim part k p l writeEnd p') : p'.header = p.header ∧ p'.loads = p.loads := by
  unfold WritesSpread at h
  split at h
  · rw [h.rest]
    exact ⟨rfl, rfl⟩
  · obtain ⟨wait, -, rfl⟩ := h
    exact ⟨rfl, rfl⟩

lemma LoadsSpread.prepared_slots {q : Pending} {slots : Option Slots} {l : SpreadLoads}
    (h : LoadsSpread k q slots writeEnd l) (hc : Counted k slots)
    (hq : countsMatrices k = false → q.slots = none) : (prepared k q l).slots = l.slots := by
  change l.slots.or q.slots = l.slots
  cases hl : l.slots with
  | none => simpa using hq (h.slots_eq_none hc hl)
  | some s => rfl

/-- What is left to do when the places are counted. -/
def fill (k : KernelSpec) (q : Pending) (maxCount part : Int) (slots : Option Slots) (writeEnd : Int) : Emit Pending := do
  let l ← spreadLoads k q slots writeEnd
  let writesA ← guardBuffer k q.writesA
  let p := { prepared k q l with writesA }
  if spreadsWrites k then spreadWrites k p maxCount writeEnd l.last part l.later else writeAtOnce k p writeEnd

lemma spread_eq (q : Pending) (writeEnd part : Int) : spread q writeEnd part = (do
    let k ← spec
    let maxCount ← currentLimit "MaxVmcnt"
    let a ← side true
    let b ← side false
    let slots ← countPlaces k a b
    fill k q maxCount part slots (lastWrite k slots writeEnd)) := by
  unfold spread countPlaces fill lastWrite
  refine bind_congr fun k => bind_congr fun maxCount => bind_congr fun a => bind_congr fun b => ?_
  cases hm : k.matrix with
  | none => rfl
  | some m =>
    dsimp only
    split
    · simp only [bind_assoc]
      rfl
    · rfl

/-- **What spreading does.** The places are counted, the loads are spread and then the writes. -/
lemma spread_meets (hk : Spreadable k writeEnd) (hspec : ∀ st, P st → st.k = k)
    (hlim : Meets e P (liftM (currentLimit "MaxVmcnt") : Emit Int) Lim) (hst : ¬e → ∀ st, P st → st.Knows k)
    (hslots : countsMatrices k = false → q.slots = none)
    (hq : ¬e → ∃ itemsA itemsB, q.Complete k itemsA itemsB) (part : Int) :
    Meets e P (spread q writeEnd part) fun p => ∃ slots l, Counted k slots ∧
      LoadsSpread k q slots (lastWrite k slots writeEnd) l ∧
      WritesSpread Lim part k (prepared k q l) l (lastWrite k slots writeEnd) p := by
  rw [spread_eq]
  refine .bind' (R := (k = ·)) (.reading fun st h => (hspec st h).symm) ?_
  rintro _ rfl
  refine .bind' hlim fun maxCount hmax => .look fun a => .look fun b =>
    .bind' (countPlaces_meets hk (fun he st h => (hst he st h).latency) a b) fun slots hc => ?_
  have hlast := hc.lastWrite hk.tiles hk.iters hk.inLoop
  refine .bind' (spreadLoads_meets hk hlast hc fun he => ?_) fun l hl => .bind' (guardBuffer_meets fun he => ?_) fun writesA hA => ?_
  · obtain ⟨itemsA, itemsB, hq⟩ := hq he
    exact hq.loads
  · obtain ⟨itemsA, itemsB, hq⟩ := hq he
    exact ⟨itemsA, hq.writesA, fun i hi => hq.writes i (by simp [hi])⟩
  have hp : ({ prepared k q l with writesA } : Pending) = prepared k q l := by rw [hA]; rfl
  rw [hp]
  unfold WritesSpread
  refine .ite' (fun h => ?_) fun h => ?_
  · simp only [h]
    have hw : (prepared k q l).writes = Array.replicate k.loopIters.toNat [] := rfl
    refine (spreadWrites_meets hw rfl (by omega) ?_ (fun s hs => ?_) (fun he => ?_) hmax _).mono
      fun p hd => ⟨slots, l, hc, hl, hd⟩
    · unfold LoadsSpread at hl
      split at hl
      · exact hl.last.1
      · rw [hl]; exact le_rfl
    · rw [hl.prepared_slots hc hslots] at hs
      obtain ⟨m, s0, hm, rfl, hp, hs0, hnn, hle⟩ := hl.places hc hs
      rw [hp.lastWrite hm (hk.tiles m hm), hs0]
      exact ⟨m, hm, hk.tiles m hm, hp.writesPerStep, hnn, hle, le_rfl⟩
    · obtain ⟨itemsA, itemsB, hq⟩ := hq he
      obtain ⟨itemsA', hA', hwrites⟩ := guarded_writes k itemsA
      refine ⟨itemsA', itemsB, (congrArg (guarded k) hq.writesA).trans hA', hq.writesB, fun hp => ?_, fun hnone => ?_⟩
      · rw [LoadsSpread, if_pos (hq.put hp h)] at hl
        rw [hl.later]
        rfl
      · rw [hl.prepared_slots hc hslots] at hnone
        have hcount := hl.slots_eq_none hc hnone
        have halg := hk.not_three hcount
        obtain rfl : slots = none := by rwa [Counted, if_neg (by simp [hcount])] at hc
        refine ⟨halg, (hl.last_le hlast.1).2, moves_inOrder (fun i hi => ?_) fun hp => ?_⟩
        · obtain hi | hi := mem_append.mp hi
          · exact hwrites (fun j hj => hq.writing hcount j (by simp [hj])) i hi
          · exact hq.writing hcount i (by simp [hi])
        · rw [LoadsSpread, if_pos (hq.put hp h)] at hl
          have hd : ¬1 < k.depthULdsDivisor := fun hd => halg (hk.parts hd)
          simp only [postponesLoads, Bool.or_eq_true, decide_eq_true_eq] at hp
          rw [hl.later, handedOut, portions, if_neg hd, if_pos (hp.resolve_right hd)]
          exact loadsInOrder_load (hq.loading hcount)
  · simp only [h]
    refine (writeAtOnce_meets hst hk.tileAhead hlast.1 (by simp [prepared]; omega)).mono fun p hp => ⟨slots, l, hc, hl, hp⟩

end Spread

end TensorForge.Assembly
