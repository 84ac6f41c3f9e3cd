import TensorForge.Settings

/-!
# The working path

Two ways to change the working directory share one way back: a pop undoes a set from the saved directories,
and a push by cutting the path, but only while no directory is saved. Main statement: `pops_restore_iff`.
-/

namespace TensorForge.Settings

inductive Opening where
  | push (name : Text)
  | set (path : Text)

def Opening.leads : Opening → Place → Place
  | .push name => Place.push name
  | .set path => Place.set path

/-- A well-nested sequence: each opening with what comes before its pop and what comes behind it. -/
inductive Nest where
  | done
  | block (o : Opening) (inside rest : Nest)

/-- The places before each opening and behind its pop, and the place at the end. -/
def Nest.run : Nest → Place → List (Place × Place) × Place
  | .done, x => ([], x)
  | .block o inside rest, x =>
    let (inner, y) := inside.run (o.leads x)
    let (outer, z) := rest.run y.pop
    (inner ++ (x, y.pop) :: outer, z)

/-- A push can be undone only while nothing is saved, and from a path that cutting gives back. -/
def Opening.Fits : Opening → Place → Prop
  | .push name, x => x.2 = [] ∧ Path.dirname (x.1 / name) = x.1
  | .set _, _ => True

def Nest.Fits : Nest → Place → Prop
  | .done, _ => True
  | .block o inside rest, x => inside.Fits (o.leads x) ∧ o.Fits x ∧ rest.Fits x

theorem pop_leads_iff (o : Opening) (x : Place) : x = (o.leads x).pop ↔ o.Fits x := by
  obtain ⟨p, saved⟩ := x
  cases o with
  | set path => simp [Opening.leads, Place.set, Place.pop, Opening.Fits]
  | push name =>
    cases saved with
    | nil => simp [Opening.leads, Place.push, Place.pop, Opening.Fits, eq_comm]
    | cons q saved => simp [Opening.leads, Place.push, Place.pop, Opening.Fits]

/-- **Each pop returns to where its opening was made** exactly if every push fits: it is made while no
directory is saved. Then the whole sequence ends where it began. -/
theorem pops_restore_iff (n : Nest) (x : Place) :
    ((∀ v ∈ (n.run x).1, v.1 = v.2) ↔ n.Fits x) ∧ (n.Fits x → (n.run x).2 = x) := by
  induction n generalizing x with
  | done => simp [Nest.run, Nest.Fits]
  | block o inside rest ihInside ihRest =>
    obtain ⟨hinner, hkeep⟩ := ihInside (o.leads x)
    obtain ⟨houter, hend⟩ := ihRest (inside.run (o.leads x)).2.pop
    simp only [Nest.run, List.forall_mem_append, List.forall_mem_cons, hinner, houter, Nest.Fits]
    refine ⟨and_congr_right fun hin => ?_, fun hfits => ?_⟩
    · -- what comes behind the pop is judged from `x` only once the pop is back at `x`
      rw [hkeep hin, ← pop_leads_iff]
      exact and_congr_right fun hback => by rw [← hback]
    · obtain ⟨hin, ho, hrest⟩ := hfits
      rw [hkeep hin, ← (pop_leads_iff o x).mpr ho] at hend ⊢
      exact hend hrest

end TensorForge.Settings
