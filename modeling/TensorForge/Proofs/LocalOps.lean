import TensorForge.Kernel.Assembly.Interleave
import Mathlib.Algebra.GroupWithZero.Nat

/-!
# Operations on local memory

Of all that a kernel does, the wait of an iteration counts only the reads from local memory and the
writes to it. `localOps` are these operations in the order in which the code starts them; everything
else about a list of items is forgotten.

A tree of code is printed and counted leaf by leaf. The counts hold for all trees. A wait prints the instructions of
its counts, so the text is that of the leaves as long as a wait holds these and no more.
-/

namespace TensorForge.Asm.Item

open List

/-- Whether an item is a read from local memory. -/
def isRead : Item → Bool
  | .inst (.localRead _) _ => true
  | _ => false

/-- Whether an item is a write to local memory. -/
def isWrite : Item → Bool
  | .inst (.localWrite _) _ => true
  | _ => false

variable (items : Items)

/-- The operations on local memory that items start, in order. -/
def localOps : Items := (leavesOf items).filter fun i => i.isRead || i.isWrite

/-- Nothing but writes is started on local memory. -/
def OnlyWrites : Prop := ∀ o ∈ localOps items, o.isWrite

/-- A wait is made of comments and plain instructions. -/
lemma Wait.mem_instructions {w : Wait} {major : Int} {i : Item} (h : i ∈ w.instructions major) :
    ∃ s, i = .text s ∨ i = .inst .plain s := by
  unfold instructions at h
  dsimp only at h
  split at h
  · exact ⟨_, .inl (mem_singleton.mp h)⟩
  · rcases mem_cons.mp h with rfl | h
    · exact ⟨_, .inr rfl⟩
    · unfold opt at h
      split at h
      · exact ⟨_, .inr (mem_singleton.mp h)⟩
      · cases h

lemma leavesOf_eq_flatMap (l : Items) : leavesOf l = l.flatMap leaves := by
  induction l with
  | nil => rfl
  | cons i l ih => rw [leavesOf, ih, flatMap_cons]

lemma leavesOf_append (a b : Items) : leavesOf (a ++ b) = leavesOf a ++ leavesOf b := by
  simp [leavesOf_eq_flatMap]

variable {l : Items} {o : Item}

lemma mem_leavesOf : o ∈ leavesOf l ↔ ∃ i ∈ l, o ∈ leaves i := by
  simp [leavesOf_eq_flatMap]

mutual

lemma leaves_of_mem_leaves (i : Item) : ∀ o ∈ leaves i, leaves o = [o] := by
  cases i with
  | module kind name items => exact leaves_of_mem_leavesOf items
  | text s => simp [leaves]
  | label n c => simp [leaves]
  | inst kind line => simp [leaves]

lemma leaves_of_mem_leavesOf (l : Items) : ∀ o ∈ leavesOf l, leaves o = [o] := by
  cases l with
  | nil => simp [leavesOf]
  | cons i l =>
    intro o ho
    rw [leavesOf, mem_append] at ho
    exact ho.elim (leaves_of_mem_leaves i o) (leaves_of_mem_leavesOf l o)

end

lemma leavesOf_eq_self (h : ∀ o ∈ l, leaves o = [o]) : leavesOf l = l := by
  induction l with
  | nil => rfl
  | cons o l ih =>
    rw [leavesOf, h o (by simp), ih fun p hp => h p (by simp [hp])]
    rfl

lemma leavesOf_leavesOf (l : Items) : leavesOf (leavesOf l) = leavesOf l :=
  leavesOf_eq_self (leaves_of_mem_leavesOf l)

@[simp] lemma localOps_nil : localOps [] = [] := rfl

@[simp] lemma localOps_append (a b : Items) : localOps (a ++ b) = localOps a ++ localOps b := by
  simp [localOps, leavesOf_append]

lemma localOps_cons (i : Item) (l : Items) : localOps (i :: l) = localOps [i] ++ localOps l :=
  localOps_append [i] l

lemma localOps_leavesOf (l : Items) : localOps (leavesOf l) = localOps l := by
  rw [localOps, leavesOf_leavesOf, localOps]

@[simp] lemma localOps_module (kind : ModuleKind) (name : Text) (l : Items) :
    localOps [.module kind name l] = localOps l := by
  simp [localOps, leavesOf, leaves]

@[simp] lemma localOps_modul (name : Text) (l : Items) : localOps [modul name l] = localOps l :=
  localOps_module _ _ l

/-- A view of code, in which neither remarks nor plain instructions are seen. -/
structure Sifts (f : Items → Items) : Prop where
  append : ∀ a b, f (a ++ b) = f a ++ f b
  remark : ∀ text, f [comment0 text] = []
  plain : ∀ params c, f [plain params c] = []

lemma localOps_sifts : Sifts localOps := ⟨localOps_append, fun _ => rfl, fun _ _ => rfl⟩

variable {a b : Items} {f : Items → Items}

lemma Sifts.eq_nil_iff (hf : Sifts f) : f l = [] ↔ ∀ i ∈ l, f [i] = [] := by
  induction l with
  | nil => simpa using hf.append [] []
  | cons i l ih => rw [← singleton_append, hf.append, append_eq_nil_iff, ih, forall_mem_append, forall_mem_singleton]

lemma Sifts.of_subset (hf : Sifts f) (h : a ⊆ b) (hb : f b = []) : f a = [] :=
  hf.eq_nil_iff.mpr fun i hi => hf.eq_nil_iff.mp hb i (h hi)

lemma mem_localOps : o ∈ localOps l ↔ o ∈ leavesOf l ∧ (o.isRead || o.isWrite) := mem_filter

lemma localOps_subset (h : a ⊆ b) : localOps a ⊆ localOps b := by
  intro o ho
  rw [mem_localOps, mem_leavesOf] at ho ⊢
  obtain ⟨⟨i, hi, hoi⟩, hop⟩ := ho
  exact ⟨⟨i, h hi, hoi⟩, hop⟩

lemma mem_localOps_of_mem {o i : Item} (hi : i ∈ l) (ho : o ∈ localOps [i]) : o ∈ localOps l :=
  localOps_subset (by simpa using hi) ho

/-- No operation is both a read and a write. -/
lemma not_isWrite_of_isRead (h : o.isRead) : o.isWrite = false := by
  unfold isRead at h
  split at h
  · rfl
  · cases h

@[simp] lemma onlyWrites_append : OnlyWrites (a ++ b) ↔ OnlyWrites a ∧ OnlyWrites b := by
  simp [OnlyWrites, or_imp, forall_and]

lemma OnlyWrites.congr (h : OnlyWrites a) (hab : localOps b = localOps a) : OnlyWrites b := by
  rwa [OnlyWrites, hab]

lemma localReads_eq (i : Item) : i.localReads = (leaves i).countP isRead := by
  unfold localReads countLeaves
  congr 1
  funext o
  unfold isRead
  split <;> split <;> simp_all

lemma localWrites_eq (i : Item) : i.localWrites = (leaves i).countP isWrite := by
  unfold localWrites countLeaves
  congr 1
  funext o
  unfold isWrite
  split <;> split <;> simp_all

lemma countP_isRead_leaves (hl : ∀ o ∈ l, leaves o = [o]) : (localOps l).countP isRead = l.countP isRead := by
  rw [localOps, leavesOf_eq_self hl, countP_filter]
  congr 1
  funext o
  cases o.isRead <;> simp

lemma countP_isRead_of_writes (h : ∀ o ∈ l, o.isWrite) : l.countP isRead = 0 := by
  rw [countP_eq_zero]
  intro o ho hr
  have hw := h o ho
  rw [not_isWrite_of_isRead hr] at hw
  cases hw

lemma countP_isWrite_of_reads (h : ∀ o ∈ l, o.isRead) : l.countP isWrite = 0 := by
  rw [countP_eq_zero]
  intro o ho hw
  rw [not_isWrite_of_isRead (h o ho)] at hw
  cases hw

/-- Every operation on local memory is a read or a write. -/
lemma length_localOps (l : Items) :
    (localOps l).length = (localOps l).countP isRead + (localOps l).countP isWrite := by
  have hall : ∀ o ∈ localOps l, (o.isRead || o.isWrite) := fun o ho => (mem_localOps.mp ho).2
  generalize localOps l = ops at hall
  induction ops with
  | nil => rfl
  | cons o ops ih =>
    have ho := hall o (by simp)
    rw [length_cons, ih fun p hp => hall p (by simp [hp])]
    cases hr : o.isRead with
    | true => simp [hr, not_isWrite_of_isRead hr]; omega
    | false => simp [hr] at ho; simp [hr, ho]; omega

/-- Trees whose waits hold the instructions that they print. -/
inductive AsBuilt : Item → Prop
  | text (s : Text) : AsBuilt (.text s)
  | label (n : Int) (c : Text) : AsBuilt (.label n c)
  | inst (k : InstKind) (s : Text) : AsBuilt (.inst k s)
  | module {k : ModuleKind} (name : Text) {items : Items} (hk : ∀ lines, k ≠ .wait lines) :
    (∀ i ∈ items, AsBuilt i) → AsBuilt (.module k name items)
  | wait (w : Wait) (major : Int) : AsBuilt (w.item major)

variable {t : Item}

lemma AsBuilt.renderOnto_eq (h : AsBuilt t) (acc : Text) :
    renderOnto false acc t = acc ++ .join (t.leaves.map (·.render)) := by
  induction h generalizing acc with
  | text s => simp [renderOnto, leaves, render]
  | label n c => simp [renderOnto, leaves, render]
  | inst k s => simp [renderOnto, leaves, render]
  | @module k name items hk hbuilt ih =>
    have hall : renderAllOnto false acc items = acc ++ .join ((leavesOf items).map (·.render)) := by
      clear hk hbuilt
      induction items generalizing acc with
      | nil => simp [renderAllOnto, leavesOf]
      | cons i items hrest =>
        rw [forall_mem_cons] at ih
        rw [renderAllOnto, ih.1, hrest ih.2, leavesOf, map_append, String.join_append, String.append_assoc]
    cases k with
    | wait lines => exact absurd rfl (hk lines)
    | _ => simp [renderOnto, leaves, hall, opt]
  | wait w major =>
    have hleaves : leavesOf (w.instructions major) = w.instructions major := leavesOf_eq_self fun i hi => by
      obtain ⟨s, rfl | rfl⟩ := Wait.mem_instructions hi <;> rfl
    simp [renderOnto, Wait.item, leaves, hleaves, opt]

mutual

lemma countIf_eq (p : Item → Bool) (t : Item) : t.countIf p = t.leaves.countP p := by
  cases t with
  | module k name items => exact countAllIf_eq p items
  | _ => simp [countIf, leaves]

lemma countAllIf_eq (p : Item → Bool) (items : Items) : countAllIf p items = (leavesOf items).countP p := by
  cases items with
  | nil => rfl
  | cons i items => rw [countAllIf, leavesOf, countP_append, countIf_eq p i, countAllIf_eq p items]

end

/-- No leaf is a module. -/
lemma countClass_module (t : Item) : t.countClass "Module" = 0 := by
  rw [countClass, countIf_eq, countP_eq_zero]
  intro i _
  cases i with
  | inst k s => cases k <;> simp [isLeafOf, className]
  | _ => simp [isLeafOf]

lemma countClasses_fst (t : Item) (classes : Texts) : (t.countClasses classes).1 = (classes.map (countClass · t)).sum := by
  rw [sum_eq_foldl, foldl_map]
  unfold countClasses
  split
  · rfl
  · simp [countClass_module]

/-- **A tree is printed and counted by its leaves.** -/
theorem tree_by_leaves (t : Item) : (AsBuilt t → t.render = .join (t.leaves.map (·.render))) ∧
    t.count = t.leaves.length ∧ (∀ cls, t.countClass cls = t.leaves.countP (isLeafOf cls)) ∧
    ∀ classes, (t.countClasses classes).1 = (classes.map (countClass · t)).sum ∧
      ∀ u : Item, (t.countClasses (u.countClasses classes).2).1 = (classes.map (countClass · t)).sum := by
  refine ⟨fun h => ?_, ?_, fun cls => countIf_eq _ t, fun classes => ⟨countClasses_fst t classes, fun u => ?_⟩⟩
  · rw [render, h.renderOnto_eq, String.empty_append]
  · rw [count, countIf_eq, countP_true]
  · rw [countClasses_fst, ← countClasses_fst t classes, sum_eq_foldl, foldl_map]
    rfl

def nestedWait : Item := modul "m" [waitCount 10 0 1 "", modul "" [.text "a"]]

theorem nestedWait_by_leaves : AsBuilt nestedWait ∧ nestedWait.render = .join (nestedWait.leaves.map (·.render)) := by
  have h : AsBuilt nestedWait := by
    refine .module _ nofun (forall_mem_cons.mpr ⟨.wait _ _, forall_mem_singleton.mpr (.module _ nofun ?_)⟩)
    exact forall_mem_singleton.mpr (.text _)
  exact ⟨h, (tree_by_leaves _).1 h⟩

def grownWait : Item :=
  (waitCount 9 0 0 " why").append [comment0 "c0", comment1 "c1", plain ["s_nop", "0"] "end", .text "tail\n"]

/-- What is added to a wait is counted, but not printed. -/
theorem grownWait_hides_text : grownWait.render ≠ .join (grownWait.leaves.map (·.render)) := by decide +kernel

end TensorForge.Asm.Item

namespace TensorForge.Assembly.Interleave

open Asm Asm.Item

lemma total_eq_sum (f : Item → Nat) (l : Items) : total f l = (l.map f).sum := by
  suffices h : ∀ n, l.foldl (fun n i => n + f i) n = n + (l.map f).sum by simpa [total] using h 0
  induction l with
  | nil => simp
  | cons i l ih => intro n; simp [ih, Nat.add_assoc]

lemma sum_countP_leaves (q : Item → Bool) (l : Items) :
    (l.map fun i => (leaves i).countP q).sum = (leavesOf l).countP q := by
  induction l with
  | nil => rfl
  | cons i l ih => simp [leavesOf, ih]

lemma total_localWrites (l : Items) : total Item.localWrites l = (localOps l).countP isWrite := by
  rw [total_eq_sum, funext localWrites_eq, sum_countP_leaves, localOps, List.countP_filter]
  congr 1
  funext o
  cases o.isWrite <;> simp

end TensorForge.Assembly.Interleave
