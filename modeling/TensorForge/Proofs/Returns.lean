import Mathlib.Tactic.Lemma
import TensorForge.Session

/-!
# Computations that return

`Returns x a` says that a run of `x` ends with `a` from every session: whatever else it does, it stops
with no fault and its result does not depend on what was printed or set before. Operations that only
report go through these rules, so that statements about their results need not follow the log. `Tells x a`
says in addition that nothing but the log is changed.
-/

namespace TensorForge

open EStateM Files List

variable {α : Type}

/-- From every session `x` ends with `a`. -/
def Returns (x : Gen α) (a : α) : Prop := ∀ s, ∃ s', x.run s = .ok a s'

/-- From every session `x` stops with the fault `e`. -/
def Stops (x : Gen α) (e : Fault) : Prop := ∀ s, ∃ s', x.run s = .error e s'

variable {β : Type} {c : Prop} [Decidable c] {x y : Gen α} {f : α → Gen β} {k : Unit → Gen α} {a : α} {e : Fault}
  {l : List β} {s s' : Session} (t : Text) {path text : Text}

namespace Returns

lemma pure' (a : α) : Returns (pure a) a := fun s => ⟨s, rfl⟩

lemma bind' {b : β} (hx : Returns x a) (hf : Returns (f a) b) : Returns (x >>= f) b := by
  intro s
  obtain ⟨s1, h1⟩ := hx s
  obtain ⟨s2, h2⟩ := hf s1
  exact ⟨s2, by rw [run_bind, h1]; exact h2⟩

lemma stops (hx : Returns x a) (hf : Stops (f a) e) : Stops (x >>= f) e := by
  intro s
  obtain ⟨s1, h1⟩ := hx s
  obtain ⟨s2, h2⟩ := hf s1
  exact ⟨s2, by rw [run_bind, h1]; exact h2⟩

lemma ite' (hx : c → Returns x a) (hy : ¬c → Returns y a) : Returns (if c then x else y) a := by
  by_cases h : c
  · simp only [h]; exact hx h
  · simp only [h]; exact hy h

/-- Code that goes on with `k` after a report that is made only if `c`. -/
lemma whenever {x : Gen Unit} (hx : Returns x ()) (hk : Returns (k ()) a) : Returns (if c then x >>= k else k ()) a :=
  ite' (fun _ => bind' hx hk) fun _ => hk

lemma say : Returns (Gen.say t) () := fun _ => ⟨_, rfl⟩

lemma sayLine : Returns (Gen.sayLine t) () := say _

lemma warn : Returns (Gen.warn t) () := sayLine _

lemma forIn_unit {f : β → PUnit → Gen (ForInStep PUnit)}
    (h : ∀ b ∈ l, Returns (f b ⟨⟩) (.yield ⟨⟩)) : Returns (forIn l ⟨⟩ f) ⟨⟩ := by
  induction l with
  | nil => exact pure' _
  | cons b l ih =>
    rw [forIn_cons]
    exact bind' (h b (by simp)) (ih fun c hc => h c (by simp [hc]))

lemma mapM {f : β → Gen α} {g : β → α} (h : ∀ b ∈ l, Returns (f b) (g b)) : Returns (l.mapM f) (l.map g) := by
  induction l with
  | nil => exact pure' _
  | cons b l ih =>
    rw [mapM_cons]
    exact bind' (h b (by simp)) (bind' (ih fun c hc => h c (by simp [hc])) (pure' _))

lemma range_forIn_unit {a b : Nat} {f : Nat → PUnit → Gen (ForInStep PUnit)}
    (h : ∀ i, Returns (f i ⟨⟩) (.yield ⟨⟩)) : Returns (forIn [a:b] ⟨⟩ f) ⟨⟩ := by
  rw [Std.Legacy.Range.forIn_eq_forIn_range']
  exact forIn_unit fun i _ => h i

/-- The result of a computation that returns is the one it returns. -/
lemma eq_of_ok {b : α} (h : Returns x a) (e : x.run s = .ok b s') : b = a := by
  obtain ⟨s1, h1⟩ := h s
  rw [h1] at e
  cases e
  rfl

lemma unique {b : α} (ha : Returns x a) (hb : Returns x b) : a = b := by
  obtain ⟨s, hs⟩ := ha default
  exact hb.eq_of_ok hs

end Returns

lemma Stops.throw (e : Fault) : Stops (throw e : Gen α) e := fun s => ⟨s, rfl⟩

/-- Code that stops after a report that is made only if `c`. -/
lemma Stops.whenever {x : Gen Unit}
    (hx : Returns x ()) (hk : Stops (k ()) e) : Stops (if c then x >>= k else k ()) e := by
  by_cases h : c
  · simp only [h]; exact hx.stops hk
  · simp only [h]; exact hk

lemma Stops.not_ok (h : Stops x e) : x.run s ≠ .ok a s' := by
  obtain ⟨s1, h1⟩ := h s
  rw [h1]
  exact nofun

/-- From every session `x` ends with `a` and changes nothing but the log. -/
def Tells (x : Gen α) (a : α) : Prop := ∀ s, ∃ log, x.run s = .ok a { s with log }

namespace Tells

lemma returns (h : Tells x a) : Returns x a := fun s => ⟨_, (h s).choose_spec⟩

lemma pure' (a : α) : Tells (pure a) a := fun s => ⟨s.log, rfl⟩

lemma bind' {b : β} (hx : Tells x a) (hf : Tells (f a) b) : Tells (x >>= f) b := by
  intro s
  obtain ⟨_, h1⟩ := hx s
  obtain ⟨log, h2⟩ := hf _
  exact ⟨log, by rw [run_bind, h1]; exact h2⟩

lemma ite' (hx : Tells x a) (hy : Tells y a) : Tells (if c then x else y) a := by
  split
  · exact hx
  · exact hy

lemma say : Tells (Gen.say t) () := fun _ => ⟨_, rfl⟩

lemma ofExcept (a : α) : Tells (Gen.ofExcept (.ok a)) a := pure' a

lemma forIn_unit {f : β → PUnit → Gen (ForInStep PUnit)}
    (h : ∀ b ∈ l, Tells (f b ⟨⟩) (.yield ⟨⟩)) : Tells (forIn l ⟨⟩ f) ⟨⟩ := by
  induction l with
  | nil => exact pure' _
  | cons b l ih =>
    rw [forIn_cons]
    exact bind' (h b (by simp)) (ih fun c hc => h c (by simp [hc]))

lemma mapM_exists {f : β → Gen α} (h : ∀ b ∈ l, ∃ a, Tells (f b) a) : ∃ as, Tells (l.mapM f) as := by
  induction l with
  | nil => exact ⟨[], pure' _⟩
  | cons b l ih =>
    obtain ⟨a, ha⟩ := h b (by simp)
    obtain ⟨as, has⟩ := ih fun c hc => h c (by simp [hc])
    exact ⟨a :: as, by rw [mapM_cons]; exact bind' ha (bind' has (pure' _))⟩

lemma foldlM {f : α → β → Gen α} {g : α → β → α} (h : ∀ a, ∀ b ∈ l, Tells (f a b) (g a b)) (a : α) :
    Tells (l.foldlM f a) (l.foldl g a) := by
  induction l generalizing a with
  | nil => exact pure' a
  | cons b l ih =>
    rw [foldlM_cons]
    exact bind' (h a b (by simp)) (ih (fun a c hc => h a c (by simp [hc])) _)

/-- A fold ends when each step does, and carries an invariant that says what was passed. -/
lemma foldlM_inv {f : α → β → Gen α} (P : List β → α → Prop)
    (h : ∀ done b a, b ∈ l → P done a → ∃ a', Tells (f a b) a' ∧ P (done ++ [b]) a') {a : α}
    {done : List β} (ha : P done a) : ∃ a', Tells (l.foldlM f a) a' ∧ P (done ++ l) a' := by
  induction l generalizing a done with
  | nil => exact ⟨a, pure' a, by rwa [append_nil]⟩
  | cons b l ih =>
    obtain ⟨a1, h1, hP⟩ := h done b a (by simp) ha
    obtain ⟨a2, h2, hP⟩ := ih (fun done c a hc => h done c a (by simp [hc])) hP
    refine ⟨a2, by rw [foldlM_cons]; exact bind' h1 h2, ?_⟩
    rwa [append_assoc] at hP

end Tells

/-- From `s`, whatever its log, `x` ends with `a` and changes nothing but the log. -/
def Prints (s : Session) (x : Gen α) (a : α) : Prop :=
  ∀ log, ∃ log', x.run { s with log } = .ok a { s with log := log' }

namespace Prints

lemma of_tells (h : Tells x a) : Prints s x a := fun log => h { s with log }

lemma bind' {b : β} (hx : Prints s x a) (hf : Prints s (f a) b) : Prints s (x >>= f) b := by
  intro log
  obtain ⟨log1, h1⟩ := hx log
  obtain ⟨log2, h2⟩ := hf log1
  exact ⟨log2, by rw [run_bind, h1]; exact h2⟩

end Prints

lemma Files.isFile_run (h : s.workspace.read? path = some (.text text)) : (isFile path).run s = .ok true s := by
  show Result.ok (s.workspace.isFile path) s = _
  rw [Workspace.isFile, h]
  rfl

lemma Files.read_run (h : s.workspace.read? path = some (.text text)) : (read path).run s = .ok text s := by
  have hget : (get path).run s = .ok (.text text) s := by
    have hsame : (MonadState.get : Gen Session).run s = .ok s s := rfl
    rw [get, run_bind, hsame]
    simp only [h]
    rfl
  unfold read
  rw [run_bind, hget]
  rfl

end TensorForge
