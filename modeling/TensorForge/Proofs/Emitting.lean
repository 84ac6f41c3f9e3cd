import Mathlib.Tactic.ByContra
import Mathlib.Tactic.Ring
import TensorForge.Kernel.Assembly.Interleave

/-!
# Computations that emit code

`Meets fails P x Q` says what holds when `x` ends: from a state with `P` it leaves a state with `P`, and its
result satisfies `Q`; only if `fails` may it stop with a fault. So `Ends` leaves open whether `x` ends, and
`Yields` says that it does. The states between two steps matter only as far as `P` says, so that statements
about a schedule need not follow registers, labels or text.

The code of an iteration is put together from lists of loads, writes, reads, packing code and matrix
instructions. Before each matrix instruction some of every list is taken from its front and placed. The
writes are the one list that is not emptied at the end of an iteration whatever was there; `Room` says when
it is.
-/

namespace TensorForge.Assembly

open Emit List

lemma upTo_split {n b : Int} {done rest : Ints} (h : upTo n = done ++ b :: rest) :
    b = done.length ∧ (done.length : Int) < n := by
  have hb : (upTo n)[done.length]? = some b := by rw [h]; simp
  simp only [upTo, List.getElem?_map, Option.map_eq_some_iff] at hb
  obtain ⟨j, hj, rfl⟩ := hb
  obtain ⟨hlt, rfl⟩ := List.getElem?_eq_some_iff.mp hj
  rw [length_range] at hlt
  rw [getElem_range]
  exact ⟨rfl, by omega⟩

variable {α : Type}

/-- From a state with `P`, if `x` ends then `P` holds still and the result satisfies `Q`; `x` stops with a
fault only if `fails`. -/
def Meets (fails : Prop) (P : State → Prop) (x : Emit α) (Q : α → Prop) : Prop :=
  ∀ st, P st → match x.run st with
    | .ok a st' => P st' ∧ Q a
    | .error _ _ => fails

abbrev Ends : (State → Prop) → Emit α → (α → Prop) → Prop := Meets True

abbrev Yields : (State → Prop) → Emit α → (α → Prop) → Prop := Meets False

namespace Meets

variable {β : Type} {e : Prop} {P : State → Prop} {Q R : α → Prop} {x y : Emit α} {a : α} {l : List β}
  {f : α → Int → Emit α}

lemma of_ok {st st' : State} (h : Meets e P x Q) (hP : P st) (hrun : x.run st = .ok a st') : P st' ∧ Q a := by
  have := h st hP
  rwa [hrun] at this

lemma exists_ok {st : State} (h : Yields P x Q) (hP : P st) : ∃ a st', x.run st = .ok a st' ∧ P st' ∧ Q a := by
  have := h st hP
  cases hx : x.run st with
  | ok a st' => rw [hx] at this; exact ⟨a, st', rfl, this⟩
  | error _ _ => rw [hx] at this; exact this.elim

lemma pure' (h : Q a) : Meets e P (pure a) Q := fun _ hP => ⟨hP, h⟩

lemma throw' (h : e) (f : Fault) : Meets e P (throw f : Emit α) Q := fun _ _ => h

lemma throw_bind {Q : β → Prop} (h : e) (f : Fault) (g : α → Emit β) : Meets e P (throw f >>= g) Q := fun _ _ => h

/-- Nothing is asked. -/
lemma any : Ends (fun _ => True) x fun _ => True := by
  intro st _
  split <;> trivial

lemma bind' {f : α → Emit β} {Q : β → Prop} (hx : Meets e P x R)
    (hf : ∀ a, R a → Meets e P (f a) Q) : Meets e P (x >>= f) Q := by
  intro st hP
  have h := hx st hP
  rw [EStateM.run_bind]
  cases hx1 : x.run st with
  | error f s => rw [hx1] at h; exact h
  | ok a s => rw [hx1] at h; exact hf a h.2 s h.1

lemma mono (hx : Meets e P x R) (h : ∀ a, R a → Q a) : Meets e P x Q := by
  intro st hP
  have hR := hx st hP
  cases hx1 : x.run st with
  | error f s => rw [hx1] at hR; exact hR
  | ok a s => rw [hx1] at hR; exact ⟨hR.1, h a hR.2⟩

lemma ite' {c : Prop} [Decidable c] (hx : c → Meets e P x Q) (hy : ¬c → Meets e P y Q) :
    Meets e P (if c then x else y) Q := by
  by_cases h : c
  · simp only [h]; exact hx h
  · simp only [h]; exact hy h

lemma reading {f : State → α} (h : ∀ st, P st → Q (f st)) : Meets e P (do return f (← get)) Q :=
  fun st hP => ⟨hP, h st hP⟩

lemma look {f : State → α} {g : α → Emit β} {Q : β → Prop} (h : ∀ a, Meets e P (g a) Q) :
    Meets e P ((do return f (← get)) >>= g) Q :=
  bind' (R := fun _ => True) (reading fun _ _ => trivial) fun a _ => h a

lemma run_look (f : State → α) (g : α → Emit β) (st : State) :
    ((do return f (← get)) >>= g : Emit β).run st = (g (f st)).run st := rfl

lemma get' : Meets e P (get : Emit State) P := fun _ hP => ⟨hP, hP⟩

lemma modify' {f : State → State} (h : ∀ st, P st → P (f st)) : Meets e P (modify f : Emit Unit) fun _ => True :=
  fun st hP => ⟨h st hP, trivial⟩

/-- A lookup in the session. -/
lemma lift' {x : Gen α} (h : ∀ st, P st → match x.run st.session with
    | .ok a s => P { st with session := s } ∧ Q a
    | .error _ _ => e) : Meets e P (liftM x : Emit α) Q := by
  intro st hP
  have hx := h st hP
  change match (match x.run st.session with
    | .ok r s => EStateM.Result.ok r { st with session := s }
    | .error e s => .error e { st with session := s }) with
    | .ok a st' => P st' ∧ Q a
    | .error _ _ => e
  cases hx1 : x.run st.session with
  | error f s => rw [hx1] at hx; exact hx
  | ok a s => rw [hx1] at hx; exact hx

/-- A lookup in the session, when `P` does not depend on what it leaves there. -/
lemma lift_keeps {x : Gen α} (h : ∀ st s, P st → P { st with session := s }) :
    Ends P (liftM x : Emit α) fun _ => True :=
  lift' fun st hP => by
    split
    · exact ⟨h st _ hP, trivial⟩
    · trivial

lemma check' {b : Bool} {text : Text} (h : ¬e → b := by simp) :
    Meets e P (check b text) fun _ => b := by
  exact ite' (fun h => pure' h) fun hb => throw' (by by_contra he; exact hb (h he)) _

lemma quotient' {a b : Int} (h : ¬e → b ≠ 0 := by simp) : Meets e P (quotient a b) (· = Int.fdiv a b) := by
  exact ite' (fun hb => throw' (by by_contra he; exact h he (by simpa using hb)) _) fun _ => pure' rfl

lemma wrapped' {size : Nat} {i : Int} (h : ¬e → -size ≤ i ∧ i < size := by simp) : Meets e P (wrapped size i)
    fun j => j < size ∧ (0 ≤ i → (j : Int) = i) ∧ (i < 0 → (j : Int) = i + size) := by
  refine ite' (fun hi => pure' ?_) fun hi => throw' ?_ _
  · simp only [Bool.and_eq_true, decide_eq_true_eq] at hi
    split at hi <;> split <;> omega
  · by_contra he
    have := h he
    simp only [Bool.and_eq_true, decide_eq_true_eq] at hi
    split at hi <;> omega

lemma foldlM_inv {f : α → β → Emit α} (Q : List β → α → Prop)
    (h : ∀ done b rest a, l = done ++ b :: rest → Q done a → Meets e P (f a b) (Q (done ++ [b]))) {a : α}
    (ha : Q [] a) : Meets e P (l.foldlM f a) (Q l) := by
  suffices key : ∀ rest done a, l = done ++ rest → Q done a → Meets e P (rest.foldlM f a) (Q l) from
    key l [] a rfl ha
  intro rest
  induction rest with
  | nil =>
    intro done a hl hQ
    rw [append_nil] at hl
    exact pure' (hl ▸ hQ)
  | cons b rest ih =>
    intro done a hl hQ
    exact bind' (h done b rest a hl hQ) fun a' hQ' => ih (done ++ [b]) a' (by simp [hl]) hQ'

lemma foldlM_upTo {n : Int} (Q : Nat → α → Prop)
    (h : ∀ (i : Nat) a, (i : Int) < n → Q i a → Meets e P (f a i) (Q (i + 1))) {a : α} (ha : Q 0 a) :
    Meets e P ((upTo n).foldlM f a) (Q n.toNat) := by
  suffices key : Meets e P ((upTo n).foldlM f a) fun b => Q (upTo n).length b by
    simpa [upTo] using key
  apply foldlM_inv (fun done b => Q done.length b) ?_ ha
  intro done b rest a' hl hQ
  obtain ⟨rfl, hlt⟩ := upTo_split hl
  rw [length_append]
  exact h done.length a' hlt hQ

lemma foldlM_span {start stop : Int} (Q : Int → α → Prop) (hle : start ≤ stop)
    (h : ∀ u a, start ≤ u → u < stop → Q u a → Meets e P (f a u) (Q (u + 1))) {a : α} (ha : Q start a) :
    Meets e P ((span start stop).foldlM f a) (Q stop) := by
  have key : Meets e P ((upTo (stop - start)).foldlM (fun a i => f a (start + i)) a)
      fun b => Q (start + (stop - start).toNat) b := by
    apply foldlM_upTo (fun i b => Q (start + i) b) ?_ (by simpa using ha)
    intro i b hi hQ
    have := h (start + i) b (by omega) (by omega) hQ
    rwa [Int.add_assoc] at this
  rw [span, foldlM_map]
  rwa [show start + ((stop - start).toNat : Int) = stop by omega] at key

lemma mapM_all {f : β → Emit α} (h : ∀ b ∈ l, Meets e P (f b) Q) : Meets e P (l.mapM f) fun as => ∀ a ∈ as, Q a := by
  induction l with
  | nil => exact pure' (by simp)
  | cons b l ih =>
    rw [mapM_cons]
    refine bind' (h b (by simp)) fun a ha => bind' (ih fun c hc => h c (by simp [hc])) fun as has => ?_
    exact pure' (by simpa using ⟨ha, has⟩)

lemma forIn_inv {f : β → α → Emit (ForInStep α)}
    (h : ∀ b ∈ l, ∀ a, Q a → Meets e P (f b a) fun s => Q s.value) (ha : Q a) : Meets e P (forIn l a f) Q := by
  induction l generalizing a with
  | nil => exact pure' ha
  | cons b l ih =>
    rw [forIn_cons]
    refine bind' (h b (by simp) a ha) fun s hs => ?_
    cases s with
    | done a => exact pure' hs
    | yield a => exact ih (fun c hc => h c (by simp [hc])) hs

end Meets

end TensorForge.Assembly

namespace TensorForge.Assembly.Interleave

open Asm

lemma takeReads_append (last : Bool) (left : Int) (l : Items) :
    (takeReads last left l).1 ++ (takeReads last left l).2.1 = l := by
  induction l generalizing left with
  | nil => rfl
  | cons i l ih =>
    rw [takeReads]
    split
    · rfl
    · simp [ih]

lemma takeReads_last (left : Int) (l : Items) : (takeReads true left l).2.1 = [] := by
  induction l generalizing left with
  | nil => rfl
  | cons i l ih => simp [takeReads, ih]

variable (l : Items)

def Unloaded : Prop := ∀ i ∈ l, i.globalReads = 0

lemma takeLoads_append : (takeLoads l).1 ++ (takeLoads l).2 = l := by
  induction l with
  | nil => rfl
  | cons i l ih =>
    rw [takeLoads]
    split
    · simp [ih]
    · rfl

lemma unloaded_takeLoads : Unloaded (takeLoads l).2 := by
  induction l with
  | nil => simp [takeLoads, Unloaded]
  | cons i l ih =>
    rw [takeLoads]
    split
    · exact ih
    next h => simpa [Unloaded] using h

lemma loadsLeft_eq_false {r : Rest} : r.loadsLeft = false ↔ Unloaded r.loads := by
  simp [Rest.loadsLeft, Unloaded]

variable {s : Slots}

/-- What a step gets done for loads and writes: at the places of the last load and the last write nothing
of them is left, nor of the loads before the last instruction, and a group of writes is placed in between. -/
structure Gains (s : Slots) (c : Spot) (l l' w w' : Items) : Prop where
  loads : l' ⊆ l
  writes : w' <:+ w
  writeEnd : c.index = s.writeEnd → w' = []
  loadEnd : c.index = s.loadEnd → Unloaded l'
  last : c.last → l' = []
  group : s.writeStart ≤ c.index → Unloaded l ∨ c.index = s.loadEnd →
    w'.length ≤ w.length - s.writesPerStep.toNat

/-- The writes that are left from matrix instruction `i` of iteration `u` on find a place in it: none are
left, or the place where all are started is still to come, or there are groups enough and the loads are
through by then. -/
def Room (s : Slots) (n u i : Int) (loads writes : Items) : Prop :=
  writes = [] ∨ (u * n + i ≤ s.writeEnd ∧ s.writeEnd < u * n + n) ∨
    (s.loadEnd ≤ s.writeStart ∧ (s.loadEnd < u * n + i → Unloaded loads) ∧
      (writes.length : Int) ≤ s.writesPerStep.toNat * (n - max i (s.writeStart - u * n)))

lemma Room.step {n u i : Int} (hi : i < n) {c : Spot} (hc : c.index = u * n + i) {loads loads' writes writes' : Items}
    (hg : Gains s c loads loads' writes writes') (h : Room s n u i loads writes) : Room s n u (i + 1) loads' writes' := by
  obtain h | ⟨h1, h2⟩ | ⟨hle, hun, hlen⟩ := h
  · exact .inl (List.suffix_nil.mp (h ▸ hg.writes))
  · by_cases he : u * n + i = s.writeEnd
    · exact .inl (hg.writeEnd (hc.trans he))
    · exact .inr (.inl ⟨by omega, h2⟩)
  · refine .inr (.inr ⟨hle, fun hlt => ?_, ?_⟩)
    · by_cases he : u * n + i = s.loadEnd
      · exact hg.loadEnd (hc.trans he)
      · exact fun o ho => hun (by omega) o (hg.loads ho)
    · have hdrop := hg.writes.length_le
      by_cases hw : s.writeStart ≤ u * n + i
      · have hfew := hg.group (hc ▸ hw) (by
          by_cases he : u * n + i = s.loadEnd
          · exact .inr (hc.trans he)
          · exact .inl (hun (by omega)))
        have hmul : (s.writesPerStep.toNat : Int) * (n - i) =
            s.writesPerStep.toNat * (n - (i + 1)) + s.writesPerStep.toNat := by ring
        have hpos : (0 : Int) ≤ s.writesPerStep.toNat * (n - (i + 1)) :=
          Int.mul_nonneg (by omega) (by omega)
        rw [max_eq_left (by omega)] at hlen ⊢
        omega
      · rw [max_eq_right (by omega)] at hlen ⊢
        omega

/-- At the end of an iteration with room no write is left. -/
lemma Room.done {n u : Int} {loads writes : Items} (h : Room s n u n loads writes) : writes = [] := by
  obtain h | ⟨h1, h2⟩ | ⟨-, -, hlen⟩ := h
  · exact h
  · omega
  · have hle : (s.writesPerStep.toNat : Int) * (n - max n (s.writeStart - u * n)) ≤ 0 :=
      Int.mul_nonpos_of_nonneg_of_nonpos (by omega) (by omega)
    exact List.length_eq_zero_iff.mp (by omega)

end TensorForge.Assembly.Interleave
