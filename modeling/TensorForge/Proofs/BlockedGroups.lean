import Mathlib.Data.Finite.Prod
import Mathlib.Order.Interval.Finset.Nat
import TensorForge.Host.Launch
import TensorForge.Proofs.Emitting
import TensorForge.Proofs.Machine
import TensorForge.Proofs.RegisterOwnership

/-!
# Work groups in blocks

Kernels take the work groups of a grid in blocks of rows, and within a block column by column. Assembly
kernels divide by multiplying with numbers that the host computes, source kernels with the divisions of their
language. Both compute the same permutation of the grid.
-/

namespace TensorForge

open Assignment Function Launch List Nat Set

/-- How many rows block `b` has in a grid of `rows` rows. -/
def blockWidth (w rows b : Nat) : Nat := if b < rows / w then w else rows % w

/-- Work groups column by column in blocks of `w` rows. -/
def blocked (w columns rows : Nat) (g : Nat × Nat) : Nat × Nat :=
  let b := g.2 / w
  let serial := g.1 + g.2 % w * columns
  (serial / blockWidth w rows b, serial % blockWidth w rows b + b * w)

section

variable {w columns rows x y : Nat}

lemma blockWidth_le (hw : 0 < w) (b : Nat) : blockWidth w rows b ≤ w := by
  have := mod_lt rows hw
  unfold blockWidth
  split <;> omega

lemma row_lt (hw : 0 < w) (hy : y < rows) : y % w < blockWidth w rows (y / w) := by
  unfold blockWidth
  split
  · exact mod_lt y hw
  next h =>
    have hb : y / w = rows / w := le_antisymm (Nat.div_le_div_right hy.le) (Nat.le_of_not_lt h)
    have hy' := div_add_mod y w
    have hrows := div_add_mod rows w
    rw [hb] at hy'
    omega

lemma serial_lt_mul (hx : x < columns) (hy : y < rows) : x + y * columns < rows * columns :=
  calc x + y * columns < (y + 1) * columns := by rw [add_mul, one_mul]; omega
    _ ≤ rows * columns := mul_le_mul_right _ hy

lemma serial_inj {x' y' : Nat} (hx : x < columns) (hx' : x' < columns) (h : x + y * columns = x' + y' * columns) :
    x = x' ∧ y = y' := by
  have hcol : x = x' := by
    have := congrArg (· % columns) h
    simpa [mod_eq_of_lt hx, mod_eq_of_lt hx'] using this
  subst hcol
  exact ⟨rfl, eq_of_mul_eq_mul_right (zero_lt_of_lt hx) (add_left_cancel h)⟩

lemma serial_lt (hw : 0 < w) (hx : x < columns) (hy : y < rows) :
    x + y % w * columns < blockWidth w rows (y / w) * columns := serial_lt_mul hx (row_lt hw hy)

lemma blocked_mapsTo (hw : 0 < w) :
    MapsTo (blocked w columns rows) (Iio columns ×ˢ Iio rows) (Iio columns ×ˢ Iio rows) := by
  rintro ⟨x, y⟩ ⟨hx, hy⟩
  have hd : 0 < blockWidth w rows (y / w) := zero_lt_of_lt (row_lt hw hy)
  refine ⟨Nat.div_lt_of_lt_mul (serial_lt hw hx hy), ?_⟩
  have hlt := mod_lt (x + y % w * columns) hd
  change (x + y % w * columns) % _ + y / w * w < rows
  generalize (x + y % w * columns) % blockWidth w rows (y / w) = r at hlt
  have hrows := div_add_mod rows w
  unfold blockWidth at hlt
  split at hlt
  next h =>
    have := mul_le_mul_right w (succ_le_of_lt h)
    rw [succ_mul, mul_comm (rows / w)] at this
    omega
  next h =>
    have hb : y / w * w ≤ rows / w * w := mul_le_mul_right w (Nat.div_le_div_right (le_of_lt hy))
    rw [mul_comm (rows / w)] at hb
    omega

lemma blocked_injOn (hw : 0 < w) : InjOn (blocked w columns rows) (Iio columns ×ˢ Iio rows) := by
  rintro ⟨x, y⟩ ⟨hx, hy⟩ ⟨x', y'⟩ ⟨hx', hy'⟩ h
  simp only [mem_Iio] at hx hy hx' hy'
  simp only [blocked, Prod.mk.injEq] at h
  obtain ⟨hdiv, hmod⟩ := h
  have hblock : ∀ {z y : Nat}, y < rows → (z % blockWidth w rows (y / w) + y / w * w) / w = y / w := fun {z y} hy => by
    have := mod_lt z (zero_lt_of_lt (row_lt hw hy))
    have : blockWidth w rows (y / w) ≤ w := blockWidth_le hw _
    rw [add_mul_div_right _ _ hw, div_eq_of_lt (by omega), zero_add]
  have hb : y / w = y' / w := by rw [← hblock hy, hmod, hblock hy']
  rw [hb] at hdiv hmod
  have hserial : x + y % w * columns = x' + y' % w * columns := by
    rw [← div_add_mod (x + y % w * columns) (blockWidth w rows (y' / w)), hdiv, add_right_cancel hmod, div_add_mod]
  obtain ⟨hcol, hrow⟩ := serial_inj hx hx' hserial
  rw [hcol, ← div_add_mod y w, hb, hrow, div_add_mod]

lemma blocked_bijOn (hw : 0 < w) :
    BijOn (blocked w columns rows) (Iio columns ×ˢ Iio rows) (Iio columns ×ˢ Iio rows) :=
  (((toFinite _).prod (toFinite _)).injOn_iff_bijOn_of_mapsTo (blocked_mapsTo hw)).mp (blocked_injOn hw)

/-- A work group in a grid whose numbers stay below `2 ^ 31`. -/
structure InGrid (w columns rows x y : Nat) : Prop where
  wide : 2 ≤ w
  columns_lt : columns * w * w < 2 ^ 31
  rows_lt : rows * w < 2 ^ 31
  column : x < columns
  row : y < rows

namespace InGrid

variable (h : InGrid w columns rows x y)
include h

lemma pos : 0 < w := zero_lt_of_lt h.wide

lemma width_lt : w < 2 ^ 31 := (Nat.le_mul_of_pos_left w (zero_lt_of_lt h.row)).trans_lt h.rows_lt

lemma rows_small : rows < 2 ^ 31 := (Nat.le_mul_of_pos_right rows h.pos).trans_lt h.rows_lt

lemma row_mul_lt : y * w < 2 ^ 31 := (mul_le_mul_right w h.row.le).trans_lt h.rows_lt

lemma blockWidth_pos : 0 < blockWidth w rows (y / w) := zero_lt_of_lt (row_lt h.pos h.row)

lemma serial_mul_lt : (x + y % w * columns) * blockWidth w rows (y / w) < 2 ^ 31 :=
  calc _ ≤ blockWidth w rows (y / w) * columns * blockWidth w rows (y / w) :=
        mul_le_mul_right _ (serial_lt h.pos h.column h.row).le
    _ ≤ w * columns * w := Nat.mul_le_mul (mul_le_mul_right _ (blockWidth_le h.pos _)) (blockWidth_le h.pos _)
    _ < 2 ^ 31 := by rw [mul_comm w]; exact h.columns_lt

lemma serial_small : x + y % w * columns < 2 ^ 31 :=
  (Nat.le_mul_of_pos_right _ h.blockWidth_pos).trans_lt h.serial_mul_lt

lemma place_lt : (x + y % w * columns) % blockWidth w rows (y / w) + y / w * w < 2 ^ 31 :=
  (blocked_mapsTo h.pos (show (x, y) ∈ Iio columns ×ˢ Iio rows from ⟨h.column, h.row⟩)).2.trans h.rows_small

end InGrid

end

def Formula.wide : Formula → Bool
  | .var _ wide | .num _ wide => wide
  | .op a _ b _ => a.wide || b.wide
  | .paren a _ => a.wide
  | .choice _ yes no => yes.wide || no.wide

/-- Unsigned arithmetic modulo `size`. -/
def Formula.Op.eval (size : Nat) (x y : Nat) : Op → Nat
  | .add => (x + y) % size
  | .sub => (x + size - y) % size
  | .mul => x * y % size
  | .div => x / y
  | .mod => x % y
  | .shift => x * 2 ^ y % size
  | .less => if x < y then 1 else 0
  | .same => if x = y then 1 else 0

def wordSize (wide : Bool) : Nat := 2 ^ if wide then 64 else 32

def Formula.eval (vars : Text → Nat) : Formula → Nat
  | .var name _ => vars name
  | .num n _ => n
  | .op a f b _ => f.eval (wordSize (a.wide || b.wide)) (a.eval vars) (b.eval vars)
  | .paren a _ => a.eval vars
  | .choice test yes no => if test.eval vars ≠ 0 then yes.eval vars else no.eval vars

def Assignment.run (vars : Text → Nat) (a : Assignment) : Text → Nat :=
  if a.guard.all (·.eval vars ≠ 0) then update vars a.name (a.value.eval vars % wordSize a.wide) else vars

variable (c : SourceContext)

/-- Sets the parts of a block, then what the first case that applies sets. -/
def SourceContext.runBlocks (vars : Text → Nat) : Text → Nat :=
  let vars := c.blockParts.foldl run vars
  match c.blockCases.find? fun b => b.1.all (·.eval vars ≠ 0) with
  | some b => b.2.foldl run vars
  | none => vars

lemma Launch.blockValues_run {w rows : Nat} (hw : 0 < w) (hw' : w < 2 ^ 31) (hrows : rows < 2 ^ 31) {vars : Text → Nat}
    (htiles : vars "problemNumGroupTiles1" = rows) (hshift : vars "smallNumMagicShift" = 31) :
    let host := (blockValues w).foldl run vars
    host "numFullBlocks" = rows / w ∧ host "wgmRemainder1" = (if rows % w = 0 then w else rows % w) ∧
      host "magicNumberWgmRemainder1" = 2 ^ 31 / host "wgmRemainder1" + 1 := by
  have hmod := mod_lt rows hw
  have hdiv := div_le_self rows w
  have hword : rows % w % 4294967296 = rows % w := mod_eq_of_lt (by omega)
  have hword' : w % 4294967296 = w := mod_eq_of_lt (by omega)
  have hnumber := div_le_self 2147483648 w
  have hnumber' := div_le_self 2147483648 (rows % w)
  by_cases h : rows % w = 0
  all_goals
    simp [blockValues, run, Formula.eval, Formula.Op.eval, Formula.wide, wordSize, htiles, hshift, update,
      hword, hword', h]
    omega

namespace SourceContext

/-- The variables hold a work group of a grid. -/
structure Given (w columns rows : Nat) (g : Nat × Nat) (vars : Text → Nat) : Prop where
  first : vars ("wg" ++ c.t0) = g.1
  second : vars ("wg" ++ c.t1) = g.2
  columns : vars ("nwg" ++ c.t0) = columns
  rows : vars ("nwg" ++ c.t1) = rows
  width : vars "WORK_GROUP_MAPPING" = w

variable {c : SourceContext} {w columns rows x y : Nat} {vars : Text → Nat}

lemma blockParts_run (h : InGrid w columns rows x y) (h₁ : c.t1 ≠ "Serial") (hvars : c.Given w columns rows (x, y) vars) :
    let vars' := c.blockParts.foldl run vars
    vars' "wgSerial" = x + y % w * columns ∧ vars' "block" = y / w ∧ vars' "WORK_GROUP_MAPPING" = w ∧
      vars' "blockRemainder" = if y / w < rows / w then 0 else rows % w := by
  have hne : ∀ t, "wg" ++ t ≠ "block" ∧ "nwg" ++ t ≠ "wgSerial" ∧ "nwg" ++ t ≠ "block" ∧
      ("wg" ++ t = "wgSerial" ↔ t = "Serial") := by
    intro t
    simp [← String.toList_inj]
  have hcut : y / w < rows / w ↔ y < rows - rows % w := by
    rw [div_lt_iff_lt_mul h.pos, div_mul_self_eq_mod_sub_self]
  have hserial := h.serial_small
  have hrows := h.rows_small
  have hrow := h.row
  have hdiv := div_le_self y w
  have hmod := mod_le rows w
  have hword : (rows + 2 ^ 32 - rows % w) % 2 ^ 32 = rows - rows % w := by omega
  simp only [blockParts, groupMapping, foldl_cons, foldl_nil, run, Option.all_none, Formula.eval,
    Formula.Op.eval, Formula.wide, wordSize, update_apply, hne, h₁, hvars.first, hvars.second, hvars.columns,
    hvars.rows, hvars.width, hcut, hword, String.reduceEq, reduceIte, Bool.or_self, Bool.false_eq_true]
  refine ⟨by omega, mod_eq_of_lt (by omega), trivial, ?_⟩
  split <;> simp
  omega

lemma find_blockCase (hc : c.workGroupMapping = w) (hlt : vars "blockRemainder" < w) :
    c.blockCases.find? (fun b => b.1.all (·.eval vars ≠ 0)) = some (c.blockCase (vars "blockRemainder")) := by
  rw [blockCases, find?_map, hc, Int.natAbs_natCast, find?_range_eq_some (i := vars "blockRemainder").mpr ?_]
  · rfl
  · refine ⟨?_, by simpa using hlt, fun j hj => ?_⟩
    · simp only [comp, blockCase]
      split <;> simp [Formula.eval, Formula.Op.eval]
    · have : j + 1 < w := by omega
      simp [blockCase, hc, this, Formula.eval, Formula.Op.eval, ne_of_gt hj]

lemma runBlocks_eq (h : InGrid w columns rows x y) (hc : c.workGroupMapping = w) (ht : c.t0 ≠ c.t1)
    (h₀ : c.t0 ≠ "Serial") (h₁ : c.t1 ≠ "Serial") (hvars : c.Given w columns rows (x, y) vars) :
    (c.runBlocks vars ("wg" ++ c.t0), c.runBlocks vars ("wg" ++ c.t1)) = blocked w columns rows (x, y) := by
  obtain ⟨hserial, hblock, hwidth, hrest⟩ := blockParts_run h h₁ hvars
  have hd := h.blockWidth_pos
  have hmod := mod_lt rows h.pos
  have hlt : c.blockParts.foldl run vars "blockRemainder" < w := by
    rw [hrest]
    split <;> omega
  have hd_eq : (if c.blockParts.foldl run vars "blockRemainder" = 0 then w
      else c.blockParts.foldl run vars "blockRemainder") = blockWidth w rows (y / w) := by
    rw [hrest]
    unfold blockWidth at hd ⊢
    grind
  have hne : ∀ t, "block" ≠ "wg" ++ t ∧ "WORK_GROUP_MAPPING" ≠ "wg" ++ t ∧ ("wgSerial" = "wg" ++ t ↔ t = "Serial") := by
    intro t
    simp [← String.toList_inj, eq_comm]
  simp only [runBlocks, find_blockCase hc hlt, blockCase, hc, Int.natAbs_natCast, beq_iff_eq, hd_eq]
  generalize c.blockParts.foldl run vars = vars' at hserial hblock hwidth
  simp only [foldl_cons, foldl_nil, run, Option.all_none, Formula.eval, Formula.Op.eval, Formula.wide,
    wordSize, groupMapping, update_apply, hne, h₀, ht, hserial, hblock, hwidth, String.append_right_inj,
    reduceIte, Bool.or_false, Bool.false_eq_true]
  have hplace := h.place_lt
  have hquotient := (div_le_self _ (blockWidth w rows (y / w))).trans_lt h.serial_small
  refine Prod.ext (mod_eq_of_lt (by omega)) ?_
  simp only [blocked]
  omega

end SourceContext

namespace Asm.Machine

/-- The instructions leave a product in two registers and change no other scalar register. -/
def Multiplies (lo hi x y : Reg) (is : List Instruction) : Prop :=
  ∀ m : Machine, x.index m.names ≠ hi.index m.names → y.index m.names ≠ hi.index m.names → m.scalar (y.index m.names) < 2 ^ 32 →
    m.scalar (x.index m.names) * m.scalar (y.index m.names) < 2 ^ 64 →
    m.Reaches is fun m' => m'.names = m.names ∧ m'.scalar = update (update m.scalar (hi.index m.names)
        (m.scalar (x.index m.names) * m.scalar (y.index m.names) / 2 ^ 32)) (lo.index m.names)
        (m.scalar (x.index m.names) * m.scalar (y.index m.names) % 2 ^ 32)

/-- The instructions leave the product of two registers without its lower 31 bits in register `dest`. -/
def Divides (dest : Int) (x y : Reg) (is : List Instruction) : Prop :=
  ∀ m : Machine, x.index m.names ≠ dest + 1 → y.index m.names ≠ dest + 1 → m.scalar (y.index m.names) < 2 ^ 32 →
    m.scalar (x.index m.names) * m.scalar (y.index m.names) < 2 ^ 63 →
    m.Reaches is fun m' => m'.names = m.names ∧ m'.scalar = update (update m.scalar dest
        (m.scalar (x.index m.names) * m.scalar (y.index m.names) / 2 ^ 31)) (dest + 1) 0

end Asm.Machine

namespace Assembly

open Asm Asm.Machine

section

variable {P : State → Prop} (hP : ∀ st s v, P st → P { st with session := s, vectors := v })
include hP

lemma wideProduct_ends (lo hi x y : Reg) (comment : Text) :
    Ends P (wideProduct false (.scalar lo 1) (.scalar hi 1) (.scalar x 1) (.scalar y 1) comment) (Multiplies lo hi x y) := by
  unfold wideProduct
  refine .bind' .check' fun _ _ => .bind' .check' fun _ _ => ?_
  refine .bind' (R := fun _ => True) ?_ fun has _ => .ite' (fun _ => .pure' ?_) fun _ => ?_
  · exact .bind' .get' fun st _ => .bind' (.lift_keeps fun st s h => hP st s st.vectors h) fun _ _ =>
      .pure' trivial
  · intro m hx hy _ hprod
    refine ⟨_, rfl, rfl, ?_⟩
    simp only [write, Machine.read, update_of_ne hx, update_of_ne hy]
    rw [mod_eq_of_lt (show _ < 2 ^ 32 by omega)]
  · refine .bind' (R := fun _ => True) ?_ fun v _ => .bind' (R := fun _ => True) ?_ fun _ _ => .pure' ?_
    · exact .bind' .get' fun st _ => .bind' (.lift_keeps fun st s h => hP st s st.vectors h) fun r _ =>
        .bind' (.modify' fun st h => hP st st.session _ h) fun _ _ => .pure' trivial
    · exact .bind' .get' fun st _ => .bind' (.lift_keeps fun st s h => hP st s st.vectors h) fun r _ =>
        .modify' fun st h => hP st st.session _ h
    · intro m hx _ hy hprod
      refine ⟨_, rfl, rfl, ?_⟩
      have hv : v ≠ v + 1 := by omega
      simp only [write, Machine.read, Reg.index_num, update_self, update_of_ne hv,
        update_of_ne hx, mod_eq_of_lt hy, mul_comm (m.scalar (y.index m.names)), mod_mod]
      rw [mod_eq_of_lt (show _ < 2 ^ 32 by omega)]

lemma magicDivide_ends {dest : Int} (x y : Reg) :
    Ends P (magicDivide dest (.scalar x 1) (.scalar y 1) 31) (Divides dest x y) := by
  refine .bind' (wideProduct_ends hP dest (.num (dest + 1)) x y _) fun product hproduct => .pure' ?_
  intro m hx hy hy' hprod
  refine (hproduct m hx hy hy' (by omega)).append fun m1 ⟨hnames, hscalar⟩ => ⟨_, rfl, hnames, ?_⟩
  have hd : dest + 1 ≠ dest := by omega
  simp only [write, Machine.read, Reg.index_num, hscalar, update_self, update_of_ne hd]
  generalize m.scalar (x.index m.names) * m.scalar (y.index m.names) = p at hprod
  have hshift : ((31 : Nat) % 2 ^ 32 : Int).toNat % 64 = 31 := rfl
  have hq : p / 2 ^ 31 < 2 ^ 32 := by omega
  rw [hshift, mod_add_div', update_idem, update_comm hd, update_idem,
    mod_eq_of_lt hq, div_eq_of_lt hq, zero_mod]

end

variable {st st' : State}

lemma ok_of_bind_ok {α β : Type} {x : Emit α} {f : α → Emit β} {b : β} (h : (x >>= f).run st = .ok b st') :
    ∃ a st1, x.run st = .ok a st1 ∧ (f a).run st1 = .ok b st' := by
  rw [EStateM.run_bind] at h
  cases hx : x.run st with
  | error e s => rw [hx] at h; cases h
  | ok a s => rw [hx] at h; exact ⟨a, s, rfl, h⟩

lemma run_lift {α : Type} (x : Gen α) (st : State) : (liftM x : Emit α).run st = match x.run st.session with
    | .ok r s => .ok r { st with session := s }
    | .error e s => .error e { st with session := s } := rfl

lemma ok_of_lift_ok {α : Type} {x : Gen α} {a : α} (h : (liftM x : Emit α).run st = .ok a st') :
    ∃ s, x.run st.session = .ok a s ∧ st' = { st with session := s } := by
  rw [run_lift] at h
  cases hx : x.run st.session with
  | error e s => rw [hx] at h; cases h
  | ok r s => rw [hx] at h; cases h; exact ⟨s, rfl, rfl⟩

lemma takeScalar_free {n align : Int} (hn : 0 < n) (ha : 1 ≤ align) {tag : Text} {prevent : Option Bool}
    {i : Int} (h : (Emit.takeScalar n tag align prevent).run st = .ok i st') :
    st'.named = st.named ∧ ∀ j : Nat, st.scalars.status j = .inUse → j < i ∨ i + n ≤ j := by
  obtain ⟨_, _, hget, hrest⟩ := ok_of_bind_ok h
  cases hget
  obtain ⟨⟨start, q⟩, st1, hlift, hset⟩ := ok_of_bind_ok hrest
  obtain ⟨s, hout, rfl⟩ := ok_of_lift_ok hlift
  cases hset
  have hfree := (RegisterPool.handsOut_checkOutReported hn ha hout).free
  refine ⟨rfl, fun j hj => ?_⟩
  by_contra hin
  exact hfree j ⟨by omega, by omega⟩ hj

lemma glimpseTmp_free {n : Int} (hn : 0 < n) {tmp : Int} (h : (Emit.glimpseTmp n).run st = .ok tmp st') :
    st'.named = st.named ∧ ∀ i : Nat, st.scalars.status i = .inUse → i < tmp ∨ tmp + n ≤ i := by
  obtain ⟨i, st1, htake, h⟩ := ok_of_bind_ok h
  obtain ⟨j, st2, htake', h'⟩ := ok_of_bind_ok htake
  have hfree := takeScalar_free hn (by simp; split <;> omega) htake'
  have hj := Meets.of_ok (e := True) (P := fun s => s.named = st.named) (Q := (· = j)) ?_ hfree.1 h'
  · obtain ⟨hn1, rfl⟩ := hj
    have hi := Meets.of_ok (e := True) (P := fun s => s.named = st.named) (Q := (· = i)) ?_ hn1 h
    · obtain ⟨hn', rfl⟩ := hi
      exact ⟨hn', hfree.2⟩
    · refine .bind' (R := (· = i)) (.pure' rfl) fun r hr => .bind' (R := fun _ => True) ?_ fun _ _ => .pure' hr
      exact .bind' .get' fun _ _ => .bind' (.lift_keeps fun _ _ h => h) fun _ _ => .modify' fun _ h => h
  · refine .ite' (fun _ => .bind' (.modify' fun _ h => h) fun _ _ => ?_) fun _ => .pure' rfl
    refine .look fun a => .ite' (fun _ => ?_) fun _ => .pure' rfl
    exact .bind' (R := fun _ => False) (.throw' trivial _) nofun

lemma scalarNamed_ends (named : List (String × Nat)) (s : Text) : Ends (fun st => st.named = named) (.scalarNamed s)
    fun i => ∃ e, named.find? (·.1 == s) = some e ∧ i = e.2 := by
  refine .bind' .get' fun st hst => ?_
  split
  · next i h => exact .pure' ⟨_, hst ▸ h, rfl⟩
  · exact .throw' trivial _

/-- The registers that ordering work groups reads. -/
def blockInputs : Texts :=
  ["WorkGroup0", "WorkGroup1", "NumWorkGroups0", "NumFullBlocks", "WgmRemainder1", "MagicNumberWgmRemainder1"]

/-- The registers have the names that the kernel gave them, and hold a work group of a grid with `columns`
columns and what the host computed. -/
structure Launched (st : State) (host : Text → Nat) (columns : Nat) (g : Nat × Nat) (m : Machine) : Prop where
  named : ∀ s ∈ blockInputs, ∃ i, st.named.find? (·.1 == s) = some (s, i) ∧ st.scalars.status i = .inUse ∧ m.names s = i
  first : m.scalar (m.names "WorkGroup0") = g.1
  second : m.scalar (m.names "WorkGroup1") = g.2
  columns : m.scalar (m.names "NumWorkGroups0") = columns
  full : m.scalar (m.names "NumFullBlocks") = host "numFullBlocks"
  rest : m.scalar (m.names "WgmRemainder1") = host "wgmRemainder1"
  magic : m.scalar (m.names "MagicNumberWgmRemainder1") = host "magicNumberWgmRemainder1"

section

variable {w columns rows x y : Nat} {k : KernelSpec} {tmp : Int} {blocks groups : List Instruction} {m : Machine}

lemma blockSteps_orders (h : InGrid w columns rows x y) (hk : k.workGroupMapping = w)
    (hfree : ∀ s ∈ blockInputs, m.names s < tmp ∨ tmp + 4 ≤ m.names s)
    (hpair : m.names "WorkGroup0" + 1 = m.names "WorkGroup1")
    (hblocks : Divides tmp "WorkGroup1" (.num (tmp + 3)) blocks)
    (hgroups : Divides (m.names "WorkGroup0") (.num (tmp + 1)) (.num (tmp + 3)) groups) {st : State} {host : Text → Nat}
    (hfull : host "numFullBlocks" = rows / w) (hrest : host "wgmRemainder1" = if rows % w = 0 then w else rows % w)
    (hmagic : host "magicNumberWgmRemainder1" = 2 ^ 31 / host "wgmRemainder1" + 1)
    (hm : Launched st host columns (x, y) m) : m.Reaches (Setup.blockSteps k tmp blocks groups) fun m' =>
      (m'.scalar (m.names "WorkGroup0"), m'.scalar (m.names "WorkGroup1")) = blocked w columns rows (x, y) := by
  simp only [blockInputs, forall_mem_cons, not_mem_nil, false_imp_iff, implies_true, and_true] at hfree
  obtain ⟨h₀, h₁, h2, h3, h4, h5⟩ := hfree
  have hw := h.width_lt
  have hw0 := h.pos
  have hwidth : ((w : Int) % 2 ^ 32).toNat = w := by omega
  have hd := h.blockWidth_pos
  have hserial := h.serial_small
  simp only [Setup.blockSteps, Setup.blockPlace, hk, Int.natAbs_natCast, if_neg (show ¬(w : Int) < 0 by omega),
    if_pos (show (w : Int) ≥ 0 by omega), append_nil]
  refine .append (R := fun m' => m'.names = m.names ∧
    m'.scalar (m.names "WorkGroup0") = (x + y % w * columns) / blockWidth w rows (y / w) ∧ m'.scalar tmp = y / w ∧
    m'.scalar (tmp + 1) = x + y % w * columns ∧ m'.scalar (tmp + 2) = blockWidth w rows (y / w)) (.append (R := fun m' =>
    m'.names = m.names ∧ m'.scalar tmp = y / w ∧ m'.scalar (tmp + 1) = x + y % w * columns ∧
    m'.scalar (tmp + 2) = blockWidth w rows (y / w) ∧ m'.scalar (tmp + 3) = 2 ^ 31 / blockWidth w rows (y / w) + 1)
    (.append (R := fun m' => m'.names = m.names ∧ m'.scalar tmp = y / w ∧ m'.scalar (tmp + 3) = 2 ^ 31 / w + 1 ∧
    ∀ r, r < tmp ∨ tmp + 4 ≤ r → m'.scalar r = m.scalar r) ?_ ?_) ?_) ?_
  · refine .append (p := [_]) ⟨_, rfl, rfl⟩ ?_
    rintro _ rfl
    have hnumber : 2 ^ 31 / w ≤ 2 ^ 31 := div_le_self _ _
    have hread : m.read (.long (Int.pow 2 31 / w + 1)) = 2 ^ 31 / w + 1 := by
      change ((2 ^ 31 / (w : Int) + 1) % 2 ^ 32).toNat = _
      rw [show 2 ^ 31 / (w : Int) = (2 ^ 31 / w : Nat) by norm_num]
      generalize 2 ^ 31 / w = n at hnumber
      omega
    rw [hread]
    refine (hblocks _ ?_ ?_ ?_ ?_).mono ?_
    all_goals simp (disch := omega) only [Machine.write, Reg.index_num, Reg.index_named, update_self,
      update_of_ne, hm.second, mod_eq_of_lt (show 2 ^ 31 / w + 1 < 2 ^ 32 by omega)]
    · omega
    · omega
    · omega
    · exact (Nat.mul_le_mul (h.row.trans h.rows_small).le (Nat.succ_le_succ hnumber)).trans_lt (by decide)
    · rw [magic_quotient hw0 h.row_mul_lt]
      rintro m' ⟨hnames, hscalar⟩
      refine ⟨hnames, ?_, ?_, fun r hr => ?_⟩
      all_goals simp (disch := omega) only [hscalar, update_self, update_of_ne]
  · rintro m' ⟨hnames, hblock, hmagic', hkeep⟩
    refine .append (p := [_, _, _, _]) (q := [_, _, _]) (R := fun m'' => m''.names = m.names ∧
      m''.scalar tmp = y / w ∧ m''.scalar (tmp + 1) = x + y % w * columns ∧ m''.scalar (tmp + 3) = 2 ^ 31 / w + 1 ∧
      ∀ r, r < tmp ∨ tmp + 4 ≤ r → m''.scalar r = m.scalar r) ⟨_, rfl, hnames, ?_⟩ ?_
    · have hy : y < 2 ^ 32 := (h.row.trans h.rows_small).trans (by decide)
      refine ⟨?_, ?_, ?_, fun r hr => ?_⟩
      all_goals simp (disch := omega) only [Machine.write, Machine.read, Reg.index_num, Reg.index_named, hnames,
        update_self, update_of_ne, hblock, hmagic', hkeep, hm.first, hm.second, hm.columns, hwidth,
        word_remainder]
      omega
    · rintro m' ⟨hnames, hblock, hserial', hmagic', hkeep⟩
      refine ⟨_, rfl, ?_⟩
      have hwidth_eq : blockWidth w rows (y / w) = if rows / w ≤ y / w then host "wgmRemainder1" else w := by
        unfold blockWidth at hd ⊢
        grind
      have hnumber : 2 ^ 31 / host "wgmRemainder1" ≤ 2 ^ 31 := div_le_self _ _
      have hremainder : host "wgmRemainder1" ≤ w := by
        have := mod_lt rows hw0
        grind
      rw [hwidth_eq]
      by_cases hcut : rows / w ≤ y / w
      all_goals
        simp (disch := omega) only [Machine.write, Machine.read, Reg.index_num, Reg.index_named, hnames, hkeep, hm.full,
          hm.rest, hm.magic, hfull, hblock, hcut, hserial', hmagic, hmagic', hwidth, decide_true, decide_false, if_true,
          if_false, Bool.false_eq_true, update_self, update_of_ne, mod_eq_of_lt, and_self]
  · rintro m' ⟨hnames, hblock, hserial', hdivisor, hmagic⟩
    have hnumber := div_le_self (2 ^ 31) (blockWidth w rows (y / w))
    refine (hgroups m' ?_ ?_ ?_ ?_).mono ?_
    all_goals simp only [Reg.index_num, hserial', hmagic]
    · omega
    · omega
    · omega
    · exact (Nat.mul_le_mul hserial.le (succ_le_succ hnumber)).trans_lt (by decide)
    · rw [magic_quotient hd h.serial_mul_lt]
      rintro m'' ⟨hnames', hscalar⟩
      simp (disch := omega) only [hscalar, hnames', hnames, update_self, update_of_ne, hblock,
        hserial', hdivisor, and_self]
  · rintro m' ⟨hnames, hfirst, hblock, hserial', hdivisor⟩
    refine ⟨_, rfl, Prod.ext ?_ ?_⟩
    all_goals simp (disch := omega) only [write, Machine.read, Reg.index_num, Reg.index_named, hnames,
      update_self, update_of_ne, hfirst, hblock, hserial', hdivisor, hwidth]
    · rfl
    · have hplace := h.place_lt
      rw [word_remainder (by omega)]
      simp only [blocked]
      omega

end

/-- The steps use four registers that were free, and divisions that leave the place of a work group in its
own registers. -/
def Mapped (st : State) (steps : List Instruction) : Prop :=
  ∃ tmp blocks groups, steps = Setup.blockSteps st.k tmp blocks groups ∧
    (∀ i : Nat, st.scalars.status i = .inUse → i < tmp ∨ tmp + 4 ≤ i) ∧ Divides tmp "WorkGroup1" (.num (tmp + 3)) blocks ∧
    ∃ e0 e1, st.named.find? (·.1 == "WorkGroup0") = some e0 ∧ st.named.find? (·.1 == "WorkGroup1") = some e1 ∧
      (e0.2 : Int) + 1 = e1.2 ∧ Divides e0.2 (.num (tmp + 1)) (.num (tmp + 3)) groups

lemma blockMapping_mapped {steps : List Instruction} (hk : 0 ≤ st.k.workGroupMapping)
    (hrun : Setup.blockMapping.run st = .ok steps st') : Mapped st steps := by
  obtain ⟨_, _, hspec, hrest⟩ := ok_of_bind_ok hrun
  cases hspec
  obtain ⟨tmp, st1, htmp, hrest⟩ := ok_of_bind_ok hrest
  obtain ⟨hnamed, hfree⟩ := glimpseTmp_free (by decide) htmp
  have hplace : Setup.blockPlace st.k = ("WorkGroup0", "WorkGroup1") := if_pos hk
  refine (Meets.of_ok (e := True) (P := fun s => s.named = st.named) (Q := Mapped st) ?_ hnamed hrest).2
  refine .bind' (magicDivide_ends (fun _ _ _ h => h) "WorkGroup1" (.num (tmp + 3))) fun blocks hblocks => ?_
  rw [hplace]
  refine .bind' (scalarNamed_ends st.named _) fun first ⟨e0, he0, hfirst⟩ => .bind' .check' fun _ _ => ?_
  refine .bind' (scalarNamed_ends st.named _) fun second ⟨e1, he1, hsecond⟩ => .bind' .check' fun _ hpair => ?_
  refine .bind' (magicDivide_ends (fun _ _ _ h => h) (.num (tmp + 1)) (.num (tmp + 3))) fun groups hgroups => ?_
  subst hfirst hsecond
  exact .pure' ⟨tmp, blocks, groups, rfl, hfree, hblocks, e0, e1, he0, he1, by simpa using hpair, hgroups⟩

open Setup in
/-- Kernels of both languages order the work groups of a grid alike, and by a permutation. -/
theorem blockMapping_permutes {w columns rows : Nat} (hw : 2 ≤ w) (hcolumns : columns * w * w < 2 ^ 31)
    (hrows : rows * w < 2 ^ 31) {st st' : State} {steps : List Instruction} (hk : st.k.workGroupMapping = w)
    (hrun : blockMapping.run st = .ok steps st') {c : SourceContext} (hc : c.workGroupMapping = w) (ht : c.t0 ≠ c.t1)
    (h₀ : c.t0 ≠ "Serial") (h₁ : c.t1 ≠ "Serial") {host : String → Nat} (htiles : host "problemNumGroupTiles1" = rows)
    (hshift : host "smallNumMagicShift" = 31) :
    BijOn (blocked w columns rows) (Iio columns ×ˢ Iio rows) (Iio columns ×ˢ Iio rows) ∧
    ∀ g ∈ Iio columns ×ˢ Iio rows,
      (∀ m, Launched st ((blockValues w).foldl run host) columns g m → m.Reaches steps fun m' =>
        (m'.scalar (m.names "WorkGroup0"), m'.scalar (m.names "WorkGroup1")) = blocked w columns rows g) ∧
      ∀ vars, c.Given w columns rows g vars →
        (c.runBlocks vars ("wg" ++ c.t0), c.runBlocks vars ("wg" ++ c.t1)) = blocked w columns rows g := by
  refine ⟨blocked_bijOn (by omega), ?_⟩
  rintro ⟨x, y⟩ ⟨hx, hy⟩
  have h : InGrid w columns rows x y := ⟨hw, hcolumns, hrows, hx, hy⟩
  refine ⟨fun m hm => ?_, fun vars hvars => SourceContext.runBlocks_eq h hc ht h₀ h₁ hvars⟩
  obtain ⟨hfull, hrest, hmagic⟩ := blockValues_run h.pos h.width_lt h.rows_small htiles hshift
  obtain ⟨tmp, blocks, groups, rfl, hfree, hblocks, e0, e1, he0, he1, hpair, hgroups⟩ := blockMapping_mapped (by omega) hrun
  have hregister : ∀ {s e}, s ∈ blockInputs → st.named.find? (·.1 == s) = some e → m.names s = e.2 := by
    intro s e hs he
    obtain ⟨i, hi, _, hname⟩ := hm.named s hs
    rw [hi] at he
    cases he
    exact hname
  rw [← hregister (by decide) he0] at hpair hgroups
  rw [← hregister (by decide) he1] at hpair
  refine blockSteps_orders h hk (fun s hs => ?_) hpair hblocks hgroups hfull hrest hmagic hm
  obtain ⟨i, _, hi, hname⟩ := hm.named s hs
  rw [hname]
  exact hfree i hi

/-- A kernel that takes rows in twos. -/
def pairedRows : State :=
  { session := default, name := "", asmCaps := [(.str "HasSMulHi", .bool true)], a := { toInput := default }
    b := { toInput := default }, scalars := { file := "s", regs := .replicate 6 ⟨.inUse, ""⟩ }
    named := blockInputs.zipIdx
    k := { (default : KernelSpec) with workGroupMapping := 2, indexChars := ["I", "J"], problem.index1 := 1 } }

/-- The host's variables for a grid of three rows. -/
def threeRows (s : Text) : Nat := if s = "problemNumGroupTiles1" then 3 else 31

def secondRow : Machine where
  names s := blockInputs.idxOf s
  scalar r := [0, 1, 2, 1, 1, 2 ^ 31 + 1].getD r.toNat 0
  vector _ := 0
  condition := false

/-- The work group that comes third in a grid of two columns goes to the second column of the first row. -/
theorem secondRow_moves : ∃ steps st', Setup.blockMapping.run pairedRows = .ok steps st' ∧
    Launched pairedRows ((blockValues 2).foldl run threeRows) 2 (0, 1) secondRow ∧
    secondRow.Reaches steps fun m => (m.scalar 0, m.scalar 1) = (1, 0) := by
  have hnamed : ∀ s ∈ blockInputs, pairedRows.named.find? (·.1 == s) = some (s, blockInputs.idxOf s) ∧
      pairedRows.scalars.status (blockInputs.idxOf s) = .inUse := by decide
  have hm : Launched pairedRows ((blockValues 2).foldl run threeRows) 2 (0, 1) secondRow :=
    ⟨fun s hs => ⟨_, (hnamed s hs).1, (hnamed s hs).2, rfl⟩, rfl, rfl, rfl, by decide, by decide, by decide⟩
  let c : SourceContext :=
    { spec := pairedRows.k, dialect := .ocl, name := "", fileBase := "", mergeFiles := false, nativeAtomics := false }
  have horder := @blockMapping_permutes 2 2 3 (by decide) (by decide) (by decide) pairedRows _ _ rfl rfl c rfl
    (by decide) (by decide) (by decide) threeRows rfl rfl
  exact ⟨_, _, rfl, hm, (horder.2 (0, 1) (by simp)).1 _ hm⟩

end Assembly

end TensorForge
