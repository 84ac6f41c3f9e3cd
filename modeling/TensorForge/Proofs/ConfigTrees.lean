import Mathlib.Data.List.Basic
import TensorForge.Config.Expression

/-!
# Trees of sections and parameters

A key with dots in it names a place in a tree of sections. Where its sections exist, what is written there is read
back, the parameter at the place keeps all but its value, and nothing else changes (`write_dotted`).
-/

namespace TensorForge.Node

open List

/-- Sections lead along a path to one with the entries `es`. -/
inductive Leads (es : Entries) : Texts → Node → Prop where
  | here : Leads es [] (.section es)
  | down {k : Text} {path : Texts} {m : Node} {fs : Entries} (hm : find? k fs = some m) (h : Leads es path m.content) :
    Leads es (k :: path) (.section fs)

variable {j k : Text} {n v : Node} {es : Entries} {path : Texts}

lemma find?_put (es : Entries) : find? j (put k n es) = if j = k then some n else find? j es := by
  induction es with
  | nil => grind [put, find?]
  | cons e es ih => grind [put, find?]

lemma find?_writeEntry_of_ne (h : j ≠ k) : find? j (writeEntry k v es) = find? j es := by
  rw [writeEntry, find?_put, if_neg h]

lemma find?_writeEntry (hv : v.content = v) (es : Entries) :
    ∃ m, find? k (writeEntry k v es) = some m ∧ m.content = v := by
  rw [writeEntry, find?_put, if_pos rfl]
  refine ⟨_, rfl, ?_⟩
  split
  · rfl
  · exact hv

/-- Neither is a part of the other. -/
def Apart (p q : Texts) : Prop := ¬ p <+: q ∧ ¬ q <+: p

lemma change_assign (h : Leads es path n) : ∃ fs, change (·.assign k v) path n = .ok (.section fs) ∧
    Leads (writeEntry k v es) path (.section fs) ∧
    ∀ other, Apart other (path ++ [k]) → follow other (.section fs) = follow other n := by
  induction h with
  | here =>
    refine ⟨_, rfl, .here, fun other h => ?_⟩
    cases other with
    | nil => exact absurd nil_prefix h.1
    | cons j rest =>
      have hj : j ≠ k := by rintro rfl; exact h.2 ⟨rest, rfl⟩
      simp only [follow, step, raw, find?_writeEntry_of_ne hj]
  | @down i path m fs hm _ ih =>
    obtain ⟨gs, hgs, hleads, hothers⟩ := ih
    obtain ⟨m', hm', hcontent⟩ := find?_writeEntry (k := i) (v := .section gs) rfl fs
    refine ⟨_, by rw [change, hm, Option.elim_some, hgs]; rfl, .down hm' (hcontent ▸ hleads), fun other h => ?_⟩
    cases other with
    | nil => exact absurd nil_prefix h.1
    | cons j rest =>
      by_cases hj : j = i
      · subst hj
        simp only [Apart, cons_append, cons_prefix_cons, true_and] at h
        simp only [follow, step, raw, hm, hm']
        exact (congrArg (follow rest) hcontent).trans (hothers rest h)
      · simp only [follow, step, raw, find?_writeEntry_of_ne hj]

lemma follow_append (h : Leads es path n) (rest : Texts) : follow (path ++ rest) n = follow rest (.section es) := by
  induction h with
  | here => rfl
  | down hm _ ih =>
    simp only [cons_append, follow, step, raw, hm]
    exact ih

/-- A value written to a dotted key is read back, by the key and by its parts. A parameter at the place keeps all but
its value, and paths to other places lead to what they led to. -/
theorem write_dotted {key i : String} (hkey : levels key = i :: path ++ [k]) (h : Leads es (i :: path) n) (v : Value) :
    ∃ n', n.write key (.plain v) = .ok n' ∧ n'.read key = .ok (.plain v) ∧ follow (levels key) n' = .ok (.plain v) ∧
      (∀ name old default desc, find? k es = some (.param name old default desc) →
        n'.container key = .ok (.param name (.plain v) default desc)) ∧
      ∀ other, Apart other (levels key) → follow other n' = follow other n := by
  obtain ⟨fs, hfs, hleads, hothers⟩ := change_assign (k := k) (v := .plain v) h
  obtain ⟨m, hm, hcontent⟩ := find?_writeEntry (k := k) (v := .plain v) rfl es
  have hend := follow_append hleads
  have hfollow : follow (levels key) (.section fs) = .ok (.plain v) := by
    rw [hkey, hend]
    simp only [follow, step, raw, hm]
    exact congrArg Except.ok hcontent
  have hne : ∀ s, levels key ≠ [s] := by simp [hkey]
  have hfront : (levels key).dropLast = i :: path := by rw [hkey, dropLast_concat]
  have hlast : (levels key).getLast?.getD "" = k := by rw [hkey, getLast?_concat, Option.getD_some]
  have hsection := hend []
  rw [append_nil] at hsection
  cases h with | down hi h =>
  refine ⟨_, ?_, ?_, hfollow, fun name old default desc hold => ?_, hkey ▸ hothers⟩
  · simp only [write, hfront, hlast, hfs]
    rfl
  · simp only [read, hfollow]
    rfl
  · simp only [container, hfront, hlast, hsection, follow]
    simp only [bind, Except.bind, raw, writeEntry, find?_put, hold, if_true]
    rfl

def inner : Entries := [("c", .param "c" (.plain 1) (.plain 2) "d")]

def outer : Node := .section [("a", .param "a" (.section inner) (.plain .null) "")]

theorem inner_written : ∃ n, outer.write "a.c" (.plain 5) = .ok n ∧ n.read "a.c" = .ok (.plain 5) := by
  have hleads : Leads inner ["a"] outer := by
    refine .down rfl ?_
    exact .here
  obtain ⟨n, h, h', -⟩ := write_dotted (show levels "a.c" = "a" :: [] ++ ["c"] by decide) hleads 5
  exact ⟨n, h, h'⟩

end TensorForge.Node
