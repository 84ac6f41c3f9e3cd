import TensorForge.Proofs.Machine

/-!
# Constants as divisors and factors

The instructions that kernels divide by a constant with, executed: vectors for dividends `n < 2 ^ 32` with
`n * d < 2 ^ 33`, scalars for dividends of 16 bits. Shifts take their count modulo 32, so a power of two from
`2 ^ 32` on is divided by as if it were smaller.
-/

namespace TensorForge.Asm

open Function List Nat Reg

lemma isPowerOfTwo_iff {d : Nat} (hd : 0 < d) : isPowerOfTwo d ↔ ∃ k, d = 2 ^ k := by
  exact beq_iff_eq.trans (and_sub_one_eq_zero_iff_isPowerOfTwo hd.ne')

lemma exponentOf_pow (k : Nat) : exponentOf ((2 ^ k : Nat) : Int) = .ok k := by
  have hpos : 0 < 2 ^ k := Nat.two_pow_pos k
  have hlt : 2 ^ k * 2 ^ k < 2 ^ (2 * k + 1) := by
    rw [← pow_add]
    exact Nat.pow_lt_pow_right (by decide) (by omega)
  rw [exponentOf, if_neg (by omega), Int.toNat_natCast, roundLog2, log2_two_pow]
  exact congrArg _ (if_neg (not_le.mpr hlt))

/-- The magic number of a divisor that is no power of two fits in a word. -/
lemma magicNumber_eq {d : Nat} (hd : 0 < d) (h : isPowerOfTwo d = false) :
    magicNumber d = (2 ^ 33 / d + 1 : Nat) ∧ 2 ^ 33 / d + 1 < 2 ^ 32 := by
  refine ⟨by simp [magicNumber, magicShift, Int.fdiv_eq_ediv_of_nonneg], ?_⟩
  have h1 : d ≠ 1 := by rintro rfl; cases h
  have h₂ : d ≠ 2 := by rintro rfl; cases h
  have := div_le_div_left (show 3 ≤ d by omega) (show 0 < 3 by decide) (a := 2 ^ 33)
  omega

variable {k n : Nat}

lemma div_shift (h : k < 32 ∨ n = 0) : n / 2 ^ (((k : Int) % 2 ^ 32).toNat % 32) = n / 2 ^ k := by
  obtain hk | rfl := h
  · have hcount : ((k : Int) % 2 ^ 32).toNat % 32 = k := by omega
    rw [hcount]
  · simp

lemma count_or_zero (hk : 2 ^ k ≠ 2 ^ 32) (h : n * 2 ^ k < 2 ^ 33) : k < 32 ∨ n = 0 := by
  refine or_iff_not_imp_left.2 fun hle => Nat.eq_zero_of_not_pos fun hpos => ?_
  have hlt : 32 < k := lt_of_le_of_ne (Nat.le_of_not_lt hle) fun h => hk (h ▸ rfl)
  have hpow : 2 ^ 33 ≤ 2 ^ k := Nat.pow_le_pow_right (by decide) hlt
  exact absurd (hpow.trans (Nat.le_mul_of_pos_left _ hpos)) (not_le.2 h)

/-- The mask for a power of two leaves the remainder, also where it is cut to a word. -/
lemma and_low_bits (hn : n < 2 ^ 32) : ((((2 ^ k : Nat) : Int) - 1) % 2 ^ 32).toNat &&& n = n % 2 ^ k := by
  have hpos := Nat.two_pow_pos k
  rw [Nat.and_comm]
  obtain hk | hk := le_total k 32
  · have hle : 2 ^ k ≤ 2 ^ 32 := Nat.pow_le_pow_right (by decide) hk
    have hmask : ((((2 ^ k : Nat) : Int) - 1) % 2 ^ 32).toNat = 2 ^ k - 1 := by omega
    rw [hmask, and_two_pow_sub_one_eq_mod]
  · have hle : 2 ^ 32 ≤ 2 ^ k := Nat.pow_le_pow_right (by decide) hk
    have hmod : 2 ^ k % 2 ^ 32 = 0 := mod_eq_zero_of_dvd (pow_dvd_pow 2 hk)
    have hmask : ((((2 ^ k : Nat) : Int) - 1) % 2 ^ 32).toNat = 2 ^ 32 - 1 := by omega
    rw [hmask, and_two_pow_sub_one_eq_mod, mod_eq_of_lt hn, mod_eq_of_lt (hn.trans_le hle)]

namespace Machine

variable {m m1 m2 : Machine} {q r x s : Reg} {d : Nat} {t : Int} {load : List Instruction} {count : Operand}

/-- At most the scalar registers `ss`, the vector registers `vs` and, if `c` is set, `vcc` differ. -/
structure Keeps (ss vs : Ints) (c : Bool) (m m' : Machine) : Prop where
  names : m'.names = m.names
  borrows : m'.borrows = m.borrows
  condition : m'.condition = m.condition
  vcc : c = false → m'.vcc = m.vcc
  scalar : ∀ i ∉ ss, m'.scalar i = m.scalar i
  vector : ∀ i ∉ vs, m'.vector i = m.vector i

lemma Keeps.trans {ss vs ss' vs' ss2 vs2 : Ints} {c c' c2 : Bool} (h : m.Keeps ss vs c m1)
    (h' : m1.Keeps ss' vs' c' m2) (hs : ss ++ ss' ⊆ ss2) (hv : vs ++ vs' ⊆ vs2) (hc : (c || c') = c2) :
    m.Keeps ss2 vs2 c2 m2 where
  names := h'.names.trans h.names
  borrows := h'.borrows.trans h.borrows
  condition := h'.condition.trans h.condition
  vcc hc2 := by
    rw [← hc, Bool.or_eq_false_iff] at hc2
    exact (h'.vcc hc2.2).trans (h.vcc hc2.1)
  scalar i hi := by
    have := mt (@hs i) hi
    rw [mem_append, not_or] at this
    exact (h'.scalar i this.2).trans (h.scalar i this.1)
  vector i hi := by
    have := mt (@hv i) hi
    rw [mem_append, not_or] at this
    exact (h'.vector i this.2).trans (h.vector i this.1)

/-- The quotient stands in `q` after its steps if `load` leaves 33 in `count`. -/
lemma quotientSteps_divide (hd : 0 < d) (hpow : isPowerOfTwo d = false) (hn : n < 2 ^ 32) (hnd : n * d < 2 ^ 33)
    (hx : m.vector (x.index m.names) = n) (hxt : x.index m.names ≠ t + 1) (text : Text)
    (hload : ∀ m1 : Machine, m1.names = m.names →
      m1.Reaches load fun m2 => m2.read count = 33 ∧ m1.Keeps [s.index m.names] [] false m2) :
    m.Reaches (quotientSteps q x d t s load count text) fun m' => (d ≠ 2 ^ 32 → m'.vector (q.index m.names) = n / d) ∧
      m.Keeps [s.index m.names] [q.index m.names, t, t + 1] false m' := by
  obtain ⟨hmagic, hword⟩ := magicNumber_eq hd hpow
  have hquotient := magic_quotient hd hnd
  generalize 2 ^ 33 / d + 1 = magic at hmagic hword hquotient
  have hproduct : n * magic < 2 ^ 64 := (Nat.mul_lt_mul'' hn hword).trans_eq (by norm_num)
  refine .append (R := fun m2 => m2.read count = 33 ∧ pair m2.vector t = n * magic ∧
    m.Keeps [s.index m.names] [t, t + 1] false m2) (.append (R := fun m1 => pair m1.vector t = n * magic ∧
    m.Keeps [s.index m.names] [t, t + 1] false m1) ⟨_, rfl, ?_⟩ ?_) ?_
  · have hread : m.read (.hex (magicNumber d)) = magic := by
      rw [hmagic]
      change ((magic : Int) % 2 ^ 32).toNat = magic
      omega
    refine ⟨?_, rfl, rfl, rfl, fun _ => rfl, fun i hi => ?_, fun i hi => ?_⟩
    · rw [hread]
      simp (disch := omega) only [pair, write, read, index_num, update_self, update_of_ne, hx,
        mod_eq_of_lt hword]
      omega
    · rw [mem_singleton] at hi
      exact update_of_ne hi _ _
    · simp only [mem_cons] at hi
      simp (disch := omega) only [write, index_num, update_of_ne]
  · rintro m1 ⟨hpair, hkeeps⟩
    refine (hload m1 hkeeps.names).mono fun m2 ⟨hcount, hkeeps'⟩ =>
      ⟨hcount, ?_, hkeeps.trans hkeeps' (by simp) (by simp) rfl⟩
    rw [← hpair, pair, pair, hkeeps'.vector _ (by simp), hkeeps'.vector _ (by simp)]
  · rintro m2 ⟨hcount, hpair, hkeeps⟩
    refine ⟨_, rfl, fun _ => ?_, hkeeps.names, hkeeps.borrows, hkeeps.condition, hkeeps.vcc, hkeeps.scalar, fun i hi => ?_⟩
    · have hlt : n / d < 2 ^ 32 := (div_le_self n d).trans_lt hn
      have hshift : pair m2.vector t / 2 ^ (m2.read count % 64) = n / d := by rw [hcount, hpair, ← hquotient]
      simp only [← hkeeps.names, index_num, hshift]
      simp (disch := omega) only [write, read, setPair, index_num, update_self, update_of_ne,
        mod_eq_of_lt]
    · simp only [mem_cons, not_or] at hi
      rw [← hkeeps.vector i (by simp [hi])]
      have hi' := hkeeps.names ▸ hi.1
      simp (disch := omega) only [write, setPair, index_num, update_of_ne]

lemma remainderSteps_leave (hn : n < 2 ^ 32) (hx : m.vector (x.index m.names) = n)
    (hq : m.vector (q.index m.names) = n / d) (hxt : x.index m.names ≠ t) (text : Text) :
    m.Reaches (remainderSteps q r x d t s text) fun m' => m'.vector (r.index m.names) = n % d ∧
      m.Keeps [s.index m.names] [r.index m.names, t] m.borrows m' := by
  have hd : ((d : Int) % 2 ^ 32).toNat = d % 2 ^ 32 := by omega
  refine ⟨_, rfl, ?_, rfl, rfl, rfl, fun hc => if_neg (Bool.eq_false_iff.mp hc), fun i hi => ?_, fun i hi => ?_⟩
  · simp (disch := omega) only [write, read, index_num, update_self, update_of_ne, hx, hq, hd, mul_mod_mod, word_remainder]
  · rw [mem_singleton] at hi
    exact update_of_ne hi _ _
  · simp only [mem_cons] at hi
    simp (disch := omega) only [write, index_num, update_of_ne]

lemma shift_divides (hn : n < 2 ^ 32) (hnd : n * 2 ^ k < 2 ^ 33) (hx : m.vector (x.index m.names) = n)
    (text : Text) : m.Reaches [step "v_lshrrev_b32" [.vector q 1, .dec k, .vector x 1] text] fun m' =>
      (2 ^ k ≠ 2 ^ 32 → m'.vector (q.index m.names) = n / 2 ^ k) ∧
      m.Keeps [s.index m.names] [q.index m.names, t, t + 1] false m' := by
  refine ⟨_, rfl, fun hk => ?_, rfl, rfl, rfl, fun _ => rfl, fun _ _ => rfl, fun i hi => ?_⟩
  · simp only [write, read, hx, update_self]
    rw [div_shift (count_or_zero hk hnd), mod_eq_of_lt ((div_le_self n _).trans_lt hn)]
  · exact update_of_ne (by grind) _ _

lemma mask_leaves {vs : Ints} (hn : n < 2 ^ 32) (hx : m.vector (x.index m.names) = n)
    (hr : r.index m.names ∈ vs) (c : Bool) (text : Text) :
    m.Reaches [step "v_and_b32" [.vector r 1, .dec (((2 ^ k : Nat) : Int) - 1), .vector x 1] text] fun m' =>
      m'.vector (r.index m.names) = n % 2 ^ k ∧ m.Keeps [s.index m.names] vs c m' := by
  refine ⟨_, rfl, ?_, rfl, rfl, rfl, fun _ => rfl, fun _ _ => rfl, fun i hi => ?_⟩
  · simp only [write, read, hx, update_self, and_low_bits hn]
    exact mod_eq_of_lt ((mod_le n _).trans_lt hn)
  · exact update_of_ne (ne_of_mem_of_not_mem hr hi).symm _ _

/-- A division is the steps to its quotient and, on demand, those from there to the remainder. -/
lemma Reaches.division {steps rest : List Instruction} (hx : m.vector (x.index m.names) = n)
    (hregs : [q.index m.names, r.index m.names, x.index m.names, t, t + 1].Nodup)
    (hsteps : m.Reaches steps fun m1 => (d ≠ 2 ^ 32 → m1.vector (q.index m.names) = n / d) ∧
      m.Keeps [s.index m.names] [q.index m.names, t, t + 1] false m1)
    (hrest : ∀ m1 : Machine, m1.names = m.names → m1.vector (x.index m1.names) = n →
      (d ≠ 2 ^ 32 → m1.vector (q.index m1.names) = n / d) → m1.Reaches rest fun m' =>
        m'.vector (r.index m1.names) = n % d ∧ m1.Keeps [s.index m1.names] [r.index m1.names, t] m1.borrows m')
    (remainder : Bool) : m.Reaches (steps ++ opt remainder rest) fun m' =>
      (d ≠ 2 ^ 32 → m'.vector (q.index m.names) = n / d) ∧ (remainder → m'.vector (r.index m.names) = n % d) ∧
      m.Keeps [s.index m.names] ([q.index m.names, t, t + 1] ++ opt remainder [r.index m.names])
        (remainder && m.borrows) m' := by
  simp only [nodup_cons, mem_cons, not_or] at hregs
  obtain ⟨⟨hqr, hqx, hqt, -⟩, -, ⟨hxt, hxt'⟩, -⟩ := hregs
  refine hsteps.append ?_
  rintro m1 ⟨hq, hkeeps⟩
  cases remainder
  · exact ⟨m1, rfl, hq, nofun, hkeeps⟩
  have hx1 : m1.vector (x.index m.names) = n := by
    rw [hkeeps.vector _ (by simp [Ne.symm hqx, hxt, hxt']), hx]
  have hrest := hrest m1 hkeeps.names
  rw [hkeeps.names, hkeeps.borrows] at hrest
  refine (hrest hx1 hq).mono ?_
  rintro m' ⟨hr, hkeeps'⟩
  refine ⟨fun hd => ?_, fun _ => hr, hkeeps.trans hkeeps' (by simp) (by simp [opt]) rfl⟩
  rw [hkeeps'.vector _ (by simp [hqr, hqt]), hq hd]

end Machine

open Machine

/-- Quotient and remainder of vectors, and what else the divisions change. -/
theorem vector_division {m : Machine} {q r x s : Reg} {d n : Nat} {t : Int} (hd : 0 < d) (hn : n < 2 ^ 32)
    (hnd : n * d < 2 ^ 33) (hx : m.vector (x.index m.names) = n)
    (hregs : [q.index m.names, r.index m.names, x.index m.names, t, t + 1].Nodup) (text : String) :
    (∀ remainder, ∃ is, divideVector q r x d t s remainder text = .ok is ∧ m.Reaches is fun m' =>
      (d ≠ 2 ^ 32 → m'.vector (q.index m.names) = n / d) ∧ (remainder = true → m'.vector (r.index m.names) = n % d) ∧
      m.Keeps [s.index m.names] ([q.index m.names, t, t + 1] ++ opt remainder [r.index m.names])
        (remainder && m.borrows) m') ∧
    ∃ is, remainderVector q r x d t s text = .ok is ∧ m.Reaches is fun m' => m'.vector (r.index m.names) = n % d ∧
      m.Keeps [s.index m.names] [q.index m.names, t, t + 1, r.index m.names] m.borrows m' := by
  obtain ⟨hxt, hxt'⟩ : x.index m.names ≠ t ∧ x.index m.names ≠ t + 1 := by
    constructor <;> rintro h <;> simp [h] at hregs
  cases hpow : isPowerOfTwo d with
  | false =>
    have hd32 : d ≠ 2 ^ 32 := by
      rintro rfl
      cases hpow
    -- The count of the shift is a constant first, then in `s`.
    refine ⟨fun remainder => ⟨_, by simp only [divideVector, hpow]; rfl, ?_⟩, _,
      by simp only [remainderVector, hpow]; rfl, ?_⟩
    · refine Reaches.division hx hregs (quotientSteps_divide hd hpow hn hnd hx hxt' _ ?_)
        (fun m1 hnames hx1 hq => remainderSteps_leave hn hx1 (hq hd32) (hnames ▸ hxt) _) remainder
      intro m1 _
      exact ⟨m1, rfl, rfl, rfl, rfl, rfl, fun _ => rfl, fun _ _ => rfl, fun _ _ => rfl⟩
    · refine (Reaches.division hx hregs (quotientSteps_divide hd hpow hn hnd hx hxt' _ ?_)
        (fun m1 hnames hx1 hq => remainderSteps_leave hn hx1 (hq hd32) (hnames ▸ hxt) _) true).mono
        fun m' h => ⟨h.2.1 rfl, h.2.2⟩
      intro m1 hnames
      refine ⟨_, rfl, update_self .., rfl, rfl, rfl, fun _ => rfl, fun i hi => ?_, fun _ _ => rfl⟩
      rw [mem_singleton, ← hnames] at hi
      exact update_of_ne hi _ _
  | true =>
    obtain ⟨k, rfl⟩ := (isPowerOfTwo_iff hd).1 hpow
    refine ⟨fun remainder => ⟨_, by simp only [divideVector, hpow, if_true, exponentOf_pow]; rfl, ?_⟩, _,
      by simp only [remainderVector, hpow, if_true]; rfl, ?_⟩
    · exact Reaches.division hx hregs (shift_divides hn hnd hx _) (fun m1 _ hx1 _ => mask_leaves hn hx1 (by simp) _ _)
        remainder
    · exact mask_leaves hn hx (by simp) _ _

/-- What a machine shows with a dividend in scalar register 2 and in vector register 2. -/
def holding (n : Nat) (borrows : Bool) : Machine :=
  { names := fun _ => 0, scalar := fun i => if i = 2 then n else 0, vector := fun i => if i = 2 then n else 0,
    condition := false, vcc := true, borrows }

/-- The largest dividend for which seven is promised. -/
theorem vector_division_seven : 1227133513 * 7 < 2 ^ 33 ∧ 1227133514 * 7 > 2 ^ 33 ∧
    ∃ is, divideVector 0 1 2 7 4 6 true "" = .ok is ∧ (holding 1227133513 true).Reaches is fun m' =>
      m'.vector 0 = 175304787 ∧ m'.vector 1 = 4 := by
  obtain ⟨is, hsteps, hrun⟩ := (vector_division (m := holding 1227133513 true) (q := 0) (r := 1) (x := 2) (s := 6)
    (d := 7) (t := 4) (by decide) (by decide) (by decide) rfl (by decide) "").1 true
  exact ⟨by decide, by decide, is, hsteps, hrun.mono fun m' h => ⟨h.1 (by decide), h.2.1 rfl⟩⟩

/-- A shift by 32 is none, and the subtraction writes `vcc` in some instruction sets. -/
theorem vector_division_unchecked :
    (∃ is m', divideVector 0 1 2 (2 ^ 32 : Nat) 4 6 false "" = .ok is ∧ (holding 1 false).execAll is = some m' ∧
      m'.vector 0 ≠ 1 / 2 ^ 32) ∧
    ∃ is m', divideVector 0 1 2 7 4 6 true "" = .ok is ∧ (holding 1 true).execAll is = some m' ∧
      m'.vcc ≠ (holding 1 true).vcc :=
  ⟨⟨_, _, rfl, rfl, by decide⟩, _, _, rfl, rfl, by decide⟩

/-- A dividend of 16 bits is small enough for every divisor. -/
lemma short_quotient {n d : Nat} (hd : 0 < d) (hn : n < 2 ^ 16) : n * (2 ^ 33 / d + 1) / 2 ^ 33 = n / d := by
  obtain h | h := lt_or_ge d (2 ^ 17)
  · exact magic_quotient hd ((Nat.mul_lt_mul'' hn h).trans_eq (by norm_num))
  · have hmagic : 2 ^ 33 / d ≤ 2 ^ 33 / 2 ^ 17 := div_le_div_left h (by decide)
    have hproduct : n * (2 ^ 33 / d + 1) ≤ 2 ^ 16 * (2 ^ 16 + 1) := Nat.mul_le_mul hn.le (by omega)
    rw [div_eq_of_lt (by omega), div_eq_of_lt (by omega)]

/-- A product of 48 bits in two words, from those with the halves of a factor. -/
lemma halves_product {n magic a b : Nat} (hn : n < 2 ^ 16) (hmagic : magic < 2 ^ 32)
    (hhigh : a + b * 2 ^ 32 = magic / 2 ^ 16 * n * 2 ^ 16) (ha : a < 2 ^ 32) :
    (n * (magic % 2 ^ 16) % 2 ^ 32 + a) % 2 ^ 32 +
      (b + (decide (2 ^ 32 ≤ n * (magic % 2 ^ 16) % 2 ^ 32 + a)).toNat) % 2 ^ 32 * 2 ^ 32 = n * magic := by
  have hlow : n * (magic % 2 ^ 16) < 2 ^ 16 * 2 ^ 16 := mul_lt_mul'' hn (mod_lt _ (by decide))
  have hlt : magic / 2 ^ 16 * n < 2 ^ 16 * 2 ^ 16 := mul_lt_mul'' (by omega) hn
  have hsum : n * (magic % 2 ^ 16) + magic / 2 ^ 16 * n * 2 ^ 16 = n * magic := by
    conv_rhs => rw [← mod_add_div' magic (2 ^ 16)]
    ring
  by_cases hcarry : 2 ^ 32 ≤ n * (magic % 2 ^ 16) % 2 ^ 32 + a
  · simp only [hcarry, decide_true, Bool.toNat_true]
    omega
  · simp only [hcarry, decide_false, Bool.toNat_false]
    omega

namespace Machine

variable {m : Machine} {q r x : Reg} {d : Nat} {t : Int}

lemma read_scalarOperand : m.read (scalarOperand r) = m.scalar (r.index m.names) := by
  cases r with
  | num k => rfl
  | named s =>
    rw [scalarOperand]
    split <;> rfl

lemma write_scalarOperand (y : Nat) : m.write (scalarOperand r) y = m.write (.scalar r 1) y := by
  cases r with
  | num k => rfl
  | named s =>
    simp only [scalarOperand]
    split <;> rfl

lemma scalarQuotient_divides (hd : 0 < d) (hpow : isPowerOfTwo d = false) (hn : n < 2 ^ 16)
    (hx : m.scalar (x.index m.names) = n) (hregs : [q.index m.names, x.index m.names, t, t + 1].Nodup) :
    m.Reaches (scalarQuotient (scalarOperand q) (scalarOperand x) d t) fun m' =>
      m'.names = m.names ∧ m'.scalar (x.index m.names) = n ∧ m'.scalar (q.index m.names) = n / d := by
  simp only [nodup_cons, mem_cons, not_mem_nil, or_false, not_or] at hregs
  obtain ⟨⟨hqx, hqt, hqt'⟩, ⟨hxt, hxt'⟩, -⟩ := hregs
  obtain ⟨hmagic, hword⟩ := magicNumber_eq hd hpow
  have hquotient := short_quotient hd hn
  have hhigh : Int.fdiv (magicNumber d) (.pow 2 16) = ((2 ^ 33 / d + 1) / 2 ^ 16 : Nat) := by
    exact Int.fdiv_eq_ediv_of_nonneg _ (by decide)
  have hlow : Int.fmod (magicNumber d) (.pow 2 16) = ((2 ^ 33 / d + 1) % 2 ^ 16 : Nat) := by
    exact Int.fmod_eq_emod_of_nonneg _ (by decide)
  rw [scalarQuotient, hhigh, hlow]
  generalize 2 ^ 33 / d + 1 = magic at *
  -- The upper product stands in the pair, then the whole one, then the quotient.
  refine .append (R := fun m1 => m1.names = m.names ∧ m1.scalar (x.index m.names) = n ∧
    pair m1.scalar t = n * magic) (.append (R := fun m1 => m1.names = m.names ∧
    m1.scalar (x.index m.names) = n ∧ m1.scalar t < 2 ^ 32 ∧ pair m1.scalar t = magic / 2 ^ 16 * n * 2 ^ 16)
    ⟨_, rfl, rfl, ?_, ?_, ?_⟩ ?_) ?_
  · simp (disch := omega) only [write, setPair, index_num, update_of_ne, hx]
  · simp (disch := omega) only [setPair, index_num, update_self, update_of_ne]
    omega
  · have hpart : magic / 2 ^ 16 * n < 2 ^ 16 * 2 ^ 16 := mul_lt_mul'' (by omega) hn
    have hfactor : ((magic / 2 ^ 16 : Nat) : Int) % 2 ^ 32 = (magic / 2 ^ 16 : Nat) := by omega
    have hcount : (16 % 2 ^ 32 : Int).toNat % 64 = 16 := rfl
    simp only [read_scalarOperand]
    simp (disch := omega) only [write, read, setPair, pair, index_num, update_self,
      update_of_ne, hx, hfactor, Int.toNat_natCast, hcount]
    omega
  · rintro m1 ⟨hnames, hx1, ht, hpair⟩
    have hfactor : ((magic % 2 ^ 16 : Nat) : Int) % 2 ^ 32 = (magic % 2 ^ 16 : Nat) := by omega
    rw [← hnames] at hx1 hqx hqt hqt' hxt hxt' ⊢
    refine ⟨_, rfl, ?_⟩
    simp only [write_scalarOperand, read_scalarOperand]
    refine ⟨rfl, ?_, ?_⟩
    · simp (disch := omega) only [write, index_num, update_of_ne, hx1]
    · simp (disch := omega) only [write, read, pair, index_num, update_self, update_of_ne, hx1,
        hfactor]
      exact halves_product hn hword hpair ht
  · rintro m2 ⟨hnames, hx2, hpair⟩
    rw [← hnames] at hx2 hqx hqt hqt' hxt hxt' ⊢
    refine ⟨_, rfl, ?_⟩
    simp only [write_scalarOperand]
    refine ⟨rfl, ?_, ?_⟩
    · simp (disch := omega) only [write, index_num, update_of_ne, hx2]
    · have hle := div_le_self n d
      simp (disch := omega) only [write, read, index_num, update_self, update_of_ne]
      change pair m2.scalar t / 2 ^ 33 % 2 ^ 32 % 2 ^ 32 = _
      omega

end Machine

/-- Quotient and remainder of scalars, in every mode. -/
theorem scalar_division {m : Machine} {q r x : Reg} {d n : Nat} {t : Int} (hd : 0 < d) (hn : n < 2 ^ 16)
    (hx : m.scalar (x.index m.names) = n)
    (hregs : [r.index m.names, q.index m.names, x.index m.names, t, t + 1].Nodup) (mode : Int) :
    ∃ is, divideScalar q r x d t mode = .ok is ∧ m.Reaches is fun m' =>
      (mode ≠ 2 → (isPowerOfTwo d = true → d < 2 ^ 32) → m'.scalar (q.index m.names) = n / d) ∧
      (mode ≠ 0 → m'.scalar (r.index m.names) = n % d) := by
  have hregs' := hregs
  simp only [nodup_cons, mem_cons, not_mem_nil, or_false, not_or] at hregs'
  obtain ⟨⟨hrq, -⟩, ⟨hqx, hqt, -⟩, ⟨hxt, -⟩, -⟩ := hregs'
  have hn32 : n < 2 ^ 32 := hn.trans (by decide)
  have htmp : (q == num t) = false := beq_eq_false_iff_ne.2 fun h => hqt (h ▸ rfl)
  cases hpow : isPowerOfTwo d with
  | false =>
    refine ⟨_, by simp only [divideScalar, htmp, hpow]; rfl, ?_⟩
    refine (scalarQuotient_divides hd hpow hn hx hregs.of_cons).append ?_
    rintro m1 ⟨hnames, hx1, hq1⟩
    rw [← hnames] at hq1 hx1 hqt hxt hrq ⊢
    refine Reaches.optional (fun _ => ⟨_, rfl, fun _ _ => ?_, fun _ => ?_⟩)
      fun hmode => ⟨fun _ _ => hq1, fun h => absurd (bne_iff_ne.2 h) hmode⟩
    · simp (disch := omega) only [write, index_num, update_of_ne, hq1]
    · have hread : ((d : Int) % 2 ^ 32).toNat = d % 2 ^ 32 := by omega
      simp only [read_scalarOperand]
      simp (disch := omega) only [write, Machine.read, index_num, update_self, update_of_ne, hx1,
        hq1, hread, mul_mod_mod]
      exact word_remainder hn32
  | true =>
    obtain ⟨k, rfl⟩ := (isPowerOfTwo_iff hd).1 hpow
    refine ⟨_, by simp only [divideScalar, htmp, hpow, if_true, exponentOf_pow]; rfl, ?_⟩
    refine Reaches.append (R := fun m1 => m1.names = m.names ∧ m1.scalar (x.index m.names) = n ∧
      (mode ≠ 2 → 2 ^ k < 2 ^ 32 → m1.scalar (q.index m.names) = n / 2 ^ k)) (Reaches.optional
      (fun _ => ⟨_, rfl, ?_⟩) fun hmode => ⟨rfl, hx, fun h => absurd (bne_iff_ne.2 h) hmode⟩) ?_
    · rw [write_scalarOperand, read_scalarOperand, hx]
      refine ⟨rfl, ?_, fun _ hk => ?_⟩
      · rw [← hx]
        exact update_of_ne (Ne.symm hqx) _ _
      · simp only [write, Machine.read, update_self]
        rw [div_shift (.inl ((Nat.pow_lt_pow_iff_right (by decide)).1 hk))]
        exact Nat.mod_eq_of_lt ((div_le_self n _).trans_lt hn32)
    · rintro m1 ⟨hnames, hx1, hq1⟩
      rw [← hnames] at hx1 hq1 hrq ⊢
      refine Reaches.optional (fun _ => ⟨_, rfl, fun h2 hk => ?_, fun _ => ?_⟩)
        fun hmode => ⟨fun h2 hk => hq1 h2 (hk rfl), fun h => absurd (bne_iff_ne.2 h) hmode⟩
      · rw [← hq1 h2 (hk rfl)]
        exact update_of_ne (Ne.symm hrq) _ _
      · rw [read_scalarOperand, hx1]
        simp only [write, Machine.read, update_self, and_low_bits hn32]
        exact Nat.mod_eq_of_lt ((mod_le n _).trans_lt hn32)

theorem scalar_division_seven : ∃ is, divideScalar 0 1 2 7 4 1 = .ok is ∧ (holding 65535 false).Reaches is fun m' =>
    m'.scalar 0 = 9362 ∧ m'.scalar 1 = 1 := by
  obtain ⟨is, hsteps, hrun⟩ := scalar_division (m := holding 65535 false) (q := 0) (r := 1) (x := 2) (d := 7) (t := 4)
    (by decide) (by decide) rfl (by decide) 1
  exact ⟨is, hsteps, hrun.mono fun m' h => ⟨h.1 (by decide) nofun, h.2 (by decide)⟩⟩

theorem scalar_division_unchecked : ∃ is m', divideScalar 0 1 2 (2 ^ 32 : Nat) 4 0 = .ok is ∧
    (holding 1 false).execAll is = some m' ∧ m'.scalar 0 ≠ 1 / 2 ^ 32 :=
  ⟨_, _, rfl, rfl, by decide⟩

/-- **Products of vectors with constants**, modulo the width, also in the operand's own register. -/
theorem vector_product {m : Machine} {product operand tmp : String} {n c : Nat} (hc : c < 2 ^ 32) (hn : n < 2 ^ 32)
    (hx : m.read (.text operand) = n) (hapart : m.names (if product = operand then tmp else product) ≠ m.names operand)
    (text : String) : ∃ is, mulVec product operand c tmp text = .ok is ∧
      m.Reaches is fun m' => m'.read (.text product) = n * c % 2 ^ 32 := by
  change m.scalar (m.names operand) = n at hx
  obtain rfl | hpos := Nat.eq_zero_or_pos c
  · exact ⟨_, rfl, _, rfl, update_self ..⟩
  have hzero : ((c : Int) == 0) = false := beq_eq_false_iff_ne.2 (by omega)
  cases hpow : isPowerOfTwo c with
  | true =>
    obtain ⟨k, rfl⟩ := (isPowerOfTwo_iff hpos).1 hpow
    have hk : k < 32 := (Nat.pow_lt_pow_iff_right (by decide)).1 hc
    refine ⟨_, by simp only [mulVec, hzero, hpow, shifted, exponentOf_pow]; rfl, ?_⟩
    split
    next hsame =>
      simp only [Bool.and_eq_true, beq_iff_eq] at hsame
      obtain ⟨rfl, rfl⟩ := hsame
      exact ⟨m, rfl, hx.trans (by omega)⟩
    next =>
      have hcount : ((k : Int) % 2 ^ 32).toNat % 32 = k := by omega
      refine ⟨_, rfl, ?_⟩
      simp only [write, Machine.read, update_self, hx, hcount]
  | false =>
    have hword : ((c : Int) % 2 ^ 32).toNat = c := by omega
    refine ⟨_, by simp only [mulVec, hzero, hpow]; rfl, ?_⟩
    split at hapart
    all_goals
      next hsame =>
        simp only [beq_iff_eq, hsame, reduceIte]
        refine ⟨_, rfl, ?_⟩
        simp (disch := omega) only [write, Machine.read, update_self, update_of_ne, hx, hword, mod_eq_of_lt hc, Nat.mul_comm]

/-- Five times a register in itself wraps around. -/
theorem vector_product_five : ∃ is, mulVec "v2" "v2" 5 "s" "" = .ok is ∧
    ({ holding 858993460 false with names := fun s => s.length } : Machine).Reaches is fun m' =>
      m'.read (.text "v2") = 4 :=
  vector_product (n := 858993460) (c := 5) (by decide) (by decide) rfl (by decide) ""

end TensorForge.Asm
