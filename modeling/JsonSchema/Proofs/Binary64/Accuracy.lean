import JsonSchema.Proofs.Number.Exact

namespace JsonSchema.Binary64

def Near (part : ℚ) (x : Binary64) (v : ℚ) : Prop :=
  ∃ t, x.exact = .rat t ∧ |t - v| ≤ part * |v|

namespace Near
variable {part other v : ℚ} {x : Binary64}

theorem of_exact (h : x.exact = .rat v) (hpart : 0 ≤ part) : Near part x v :=
  ⟨v, h, by rw [sub_self, abs_zero]; positivity⟩

theorem mono (h : Near part x v) (hle : part ≤ other) : Near other x v := by
  obtain ⟨t, ht, herror⟩ := h
  exact ⟨t, ht, herror.trans (mul_le_mul_of_nonneg_right hle (abs_nonneg v))⟩

end Near

theorem ratio_eq (negative : Bool) (quanta : Nat) :
    ratio negative quanta = if negative then -((quanta : ℚ) / unit) else (quanta : ℚ) / unit := by
  cases negative <;> simp only [ratio, signed, Bool.false_eq_true, if_false, if_true, Int.cast_neg,
    Int.cast_natCast, neg_div]

theorem exact_neg {x : Binary64} {v : ℚ} (h : x.exact = .rat v) : (-x).exact = .rat (-v) := by
  cases x with
  | nan => simp [exact] at h
  | infinite negative => simp [exact] at h
  | finite negative quanta hr =>
    obtain rfl := Exact.rat_inj.mp h
    change Exact.rat _ = _
    rw [Exact.rat_inj, ratio_eq, ratio_eq]
    cases negative
    · rfl
    · exact (neg_neg _).symm

theorem Near.neg {part v : ℚ} {x : Binary64} (h : Near part x v) : Near part (-x) (-v) := by
  obtain ⟨t, ht, herror⟩ := h
  exact ⟨-t, exact_neg ht, by rwa [neg_sub_neg, abs_sub_comm, abs_neg]⟩

theorem quanta_nonneg (quanta : Nat) : (0 : ℚ) ≤ quanta / unit :=
  div_nonneg (Nat.cast_nonneg _) (Nat.cast_nonneg _)

theorem ratio_abs (negative : Bool) (quanta : Nat) : |ratio negative quanta| = quanta / unit := by
  have hpos := quanta_nonneg quanta
  rw [ratio_eq]
  split
  · rw [abs_neg, abs_of_nonneg hpos]
  · rw [abs_of_nonneg hpos]

theorem unit_large : (2 ^ 100 : ℚ) ≤ unit := by
  have : 2 ^ 100 ≤ unit := by decide +kernel
  exact_mod_cast this

/-- Half a quantum is nothing beside a part in 2^53 of a number that is not tiny. -/
theorem half_quantum_le {t : ℚ} (ht : 1 / 2 ^ 40 ≤ t) : 1 / (2 * unit : ℚ) ≤ t / 2 ^ 53 := by
  have hunit := unit_large
  generalize (unit : ℚ) = u at hunit
  calc 1 / (2 * u) ≤ 1 / (2 * 2 ^ 100) := by gcongr
    _ ≤ 1 / 2 ^ 40 / 2 ^ 53 := by norm_num
    _ ≤ t / 2 ^ 53 := by gcongr

/-- How far a rounded magnitude lies from the exact one. -/
theorem roundQuanta_ratio {num den : Nat} (hden : 0 < den) {t : ℚ}
    (ht : (num : ℚ) / den = t * unit) :
    |(roundQuanta num den : ℚ) / unit - t| ≤ max (1 / (2 * unit : ℚ)) (t / 2 ^ 53) := by
  have hunit := unit_pos_rat
  have herror := roundQuanta_error num hden
  rw [ht] at herror
  generalize (unit : ℚ) = u at hunit herror ⊢
  have hscale : (roundQuanta num den : ℚ) / u - t = (roundQuanta num den - t * u) / u := by
    field_simp
  have hmax : max (1 / (2 * u)) (t / 2 ^ 53) * u = max (1 / 2) (t * u / 2 ^ 53) := by
    rw [max_mul_of_nonneg _ _ hunit.le]
    congr 1 <;> field_simp
  rw [hscale, abs_div, abs_of_pos hunit, div_le_iff₀ hunit, hmax]
  exact herror

/-- A result that is far from the largest number of the format stays finite. -/
theorem roundQuanta_lt_overflow {num den k : Nat} (hden : 0 < den) (hk : k ≤ 900)
    (h : num ≤ Nat.pow 2 k * unit * den) : roundQuanta num den < overflow := by
  have hrep : Representable (Nat.pow 2 k * unit) := by
    have hroom : k + 1074 ≤ 2045 := by omega
    have hone := representable_mul_two_pow (m := 1) (by decide) hroom
    unfold unit
    generalize 1074 = e at *
    rwa [Nat.one_mul, Nat.pow_eq, Nat.pow_add] at hone
  exact (roundQuanta_le hden (gap_dvd hrep) h).trans_lt hrep.1

/-- A float is the rounding of an exact result, which is given as a sign and a quotient of quanta.
-/
def Rounded (x : Binary64) (v : ℚ) : Prop :=
  ∃ negative, ∃ num den : Nat, 0 < den ∧ (num : ℚ) / den = |v| * unit ∧
    v = (if negative then -|v| else |v|) ∧ x = ofQuanta negative num den

namespace Rounded

theorem ofInt (i : Int) : Rounded (ofInt i) i := by
  refine ⟨decide (i < 0), i.natAbs * unit, 1, one_pos, ?_, ?_, rfl⟩
  · rw [Nat.cast_one, div_one, Nat.cast_mul, ← Int.cast_natCast, Int.natCast_natAbs, Int.cast_abs]
  · by_cases hi : i < 0
    · have : (i : ℚ) < 0 := by exact_mod_cast hi
      simp [hi, abs_of_neg this]
    · have : (0 : ℚ) ≤ i := by exact_mod_cast not_lt.mp hi
      simp [hi, abs_of_nonneg this]

/-- Signs combine, and magnitudes with them. -/
theorem signs_mul (m n : Bool) (p q : ℚ) (hp : 0 ≤ p) (hq : 0 ≤ q) :
    (if m then -p else p) * (if n then -q else q) =
      if m ^^ n then -|(if m then -p else p) * (if n then -q else q)|
      else |(if m then -p else p) * (if n then -q else q)| := by
  have hpq := mul_nonneg hp hq
  cases m <;> cases n <;> simp [abs_mul, abs_of_nonneg hp, abs_of_nonneg hq]

/-- The quotient of finite floats is their exact quotient, rounded. -/
theorem div {x y : Binary64} {p q : ℚ} (hx : x.exact = .rat p) (hy : y.exact = .rat q)
    (hq : q ≠ 0) : Rounded (x / y) (p / q) := by
  cases x with
  | nan => simp [exact] at hx
  | infinite m => simp [exact] at hx
  | finite m a ha =>
    cases y with
    | nan => simp [exact] at hy
    | infinite n => simp [exact] at hy
    | finite n b hb =>
      obtain rfl := Exact.rat_inj.mp hx
      obtain rfl := Exact.rat_inj.mp hy
      have hb0 : b ≠ 0 := by
        rintro rfl
        exact hq (by rw [ratio_eq, Nat.cast_zero, zero_div, neg_zero, ite_self])
      have hunit := unit_pos_rat
      refine ⟨m ^^ n, a * unit, b, Nat.pos_of_ne_zero hb0, ?_, ?_, ?_⟩
      · rw [abs_div, ratio_abs, ratio_abs]
        push_cast
        field_simp
      · have hsigns := signs_mul m n (a / unit) (b / unit)⁻¹ (quanta_nonneg a)
          (inv_nonneg.mpr (quanta_nonneg b))
        rw [div_eq_mul_inv, ratio_eq, ratio_eq]
        generalize (unit : ℚ) = u at hsigns ⊢
        cases n <;> simpa using hsigns
      · change Binary64.div _ _ = _
        rw [Binary64.div, if_neg hb0]

/-- The product of finite floats is their exact product, rounded. -/
theorem mul {x y : Binary64} {p q : ℚ} (hx : x.exact = .rat p) (hy : y.exact = .rat q) :
    Rounded (x * y) (p * q) := by
  cases x with
  | nan => simp [exact] at hx
  | infinite m => simp [exact] at hx
  | finite m a ha =>
    cases y with
    | nan => simp [exact] at hy
    | infinite n => simp [exact] at hy
    | finite n b hb =>
      obtain rfl := Exact.rat_inj.mp hx
      obtain rfl := Exact.rat_inj.mp hy
      have hunit := unit_pos_rat
      refine ⟨m ^^ n, a * b, unit, unit_pos, ?_, ?_, ?_⟩
      · rw [abs_mul, ratio_abs, ratio_abs]
        push_cast
        field_simp
      · rw [ratio_eq, ratio_eq]
        exact signs_mul m n (a / unit) (b / unit) (quanta_nonneg a) (quanta_nonneg b)
      · change Binary64.mul _ _ = _
        rw [Binary64.mul]

variable {x : Binary64} {v : ℚ}

/-- A result that the format holds is exact. -/
theorem exact_of_float (h : Rounded x v) {z : Binary64} (hz : z.exact = .rat v) :
    x.exact = .rat v := by
  obtain ⟨negative, num, den, hden, hv, hsign, hx⟩ := h
  cases z with
  | nan => simp [exact] at hz
  | infinite n => simp [exact] at hz
  | finite n c hc =>
    have habs : |v| = c / unit := by rw [← Exact.rat_inj.mp hz, ratio_abs]
    have hround : roundQuanta num den = c := by
      refine roundQuanta_exact hden (gap_dvd hc) ?_
      have hden' : (0 : ℚ) < den := by exact_mod_cast hden
      rw [habs, div_mul_cancel₀ _ unit_pos_rat.ne', div_eq_iff hden'.ne'] at hv
      exact_mod_cast hv
    rw [hx, ofQuanta_exact (by rw [hround]; exact hc.1), hround, ratio_eq, ← habs, ← hsign]

/-- A rounded result is off by one part in 2^53, unless it is tiny or very large. -/
theorem near (h : Rounded x v) (hlow : 1 / 2 ^ 40 ≤ |v|) (hhigh : |v| ≤ 2 ^ 200) :
    Near (1 / 2 ^ 53) x v := by
  obtain ⟨negative, num, den, hden, hv, hsign, hx⟩ := h
  have hsmall : roundQuanta num den < overflow := by
    refine roundQuanta_lt_overflow (k := 200) hden (by decide) ?_
    have hden' : (0 : ℚ) < den := by exact_mod_cast hden
    have hunit := unit_pos_rat
    rw [div_eq_iff hden'.ne'] at hv
    rw [Nat.pow_eq]
    generalize unit = u at hv hunit ⊢
    have hle : (num : ℚ) ≤ 2 ^ 200 * u * den := by
      rw [hv]
      gcongr
    exact_mod_cast hle
  have herror := roundQuanta_ratio hden hv
  rw [max_eq_right (half_quantum_le hlow)] at herror
  refine ⟨_, by rw [hx, ofQuanta_exact hsmall], ?_⟩
  rw [one_div_mul_eq_div]
  refine le_trans (le_of_eq ?_) herror
  rw [ratio_eq]
  cases negative with
  | false =>
    have hv : v = |v| := by simpa using hsign
    simp only [Bool.false_eq_true, if_false]
    rw [← hv]
  | true =>
    have hv : v = -|v| := by simpa using hsign
    simp only [if_true]
    rw [abs_sub_comm, show v - -((roundQuanta num den : ℚ) / unit) =
      (roundQuanta num den : ℚ) / unit - |v| by linarith]

end Rounded

/-- An integer of 128 bits becomes a float that is off by one part in 2^53 at most. -/
theorem ofInt_near {i : Int} (hi : i.natAbs < Number.wideBound) :
    Near (1 / 2 ^ 53) (ofInt i) i := by
  by_cases h0 : i = 0
  · subst h0
    exact .of_exact (ofInt_of_representable (representable_mul_unit (by decide))) (by norm_num)
  · have hone : (1 : ℚ) ≤ |(i : ℚ)| := by exact_mod_cast Int.one_le_abs h0
    have hwide : |(i : ℚ)| ≤ 2 ^ 127 := by
      unfold Number.wideBound at hi
      have : |i| ≤ 2 ^ 127 := by
        rw [Int.abs_eq_natAbs]
        omega
      exact_mod_cast this
    refine (Rounded.ofInt i).near (le_trans (by norm_num) hone) (hwide.trans ?_)
    gcongr <;> norm_num

theorem ofInt_natCast (n : Nat) : ofInt n = ofNat n := by
  rw [ofInt, decide_eq_false (by omega), Int.natAbs_natCast, ofNat]

theorem ofNat_near {n : Nat} (hn : (n : Int) < Number.wideBound) :
    Near (1 / 2 ^ 53) (ofNat n) n := by
  have hnear := ofInt_near (i := n) hn
  rwa [ofInt_natCast, Int.cast_natCast] at hnear

/-- How far a quotient moves when both of its numbers move by some part of themselves. -/
theorem quotient_error {p p' q q' a b : ℚ} (hq : 0 < q) (ha : 0 ≤ a) (hb : 0 ≤ b) (hb' : b < 1)
    (hp : |p' - p| ≤ a * |p|) (hd : |q' - q| ≤ b * q) :
    |p' / q' - p / q| ≤ (a + b) / (1 - b) * |p / q| := by
  have hrest : 0 < 1 - b := sub_pos.mpr hb'
  have hlow : (1 - b) * q ≤ q' := by linarith [(abs_le.mp hd).1]
  have hq' : 0 < q' := (mul_pos hrest hq).trans_le hlow
  have htop : |p' * q - q' * p| ≤ (a + b) * |p| * q := by
    calc |p' * q - q' * p| = |(p' - p) * q - p * (q' - q)| := by ring_nf
      _ ≤ |(p' - p) * q| + |p * (q' - q)| := abs_sub _ _
      _ = |p' - p| * q + |p| * |q' - q| := by rw [abs_mul, abs_mul, abs_of_pos hq]
      _ ≤ a * |p| * q + |p| * (b * q) := by gcongr
      _ = (a + b) * |p| * q := by ring
  rw [div_sub_div _ _ hq'.ne' hq.ne', abs_div, abs_of_pos (mul_pos hq' hq), abs_div, abs_of_pos hq,
    div_le_iff₀ (mul_pos hq' hq)]
  calc |p' * q - q' * p| ≤ (a + b) * |p| * q := htop
    _ = (a + b) / (1 - b) * (|p| / q) * ((1 - b) * q * q) := by field_simp
    _ ≤ (a + b) / (1 - b) * (|p| / q) * (q' * q) := by gcongr

/-- The rounded quotient of floats that are off themselves. -/
theorem Near.div {x y : Binary64} {p q a b : ℚ} (hx : Near a x p) (hy : Near b y q) (ha : 0 ≤ a)
    (hb : 0 ≤ b) (hb' : b < 1) (hq : 0 < q) (hpart : (a + b) / (1 - b) ≤ 1 / 2)
    (hlow : 1 / 2 ^ 39 ≤ |p / q|) (hhigh : |p / q| ≤ 2 ^ 199) :
    Near ((a + b) / (1 - b) * (1 + 1 / 2 ^ 53) + 1 / 2 ^ 53) (x / y) (p / q) := by
  obtain ⟨p', hx, hp⟩ := hx
  obtain ⟨q', hy, hq'⟩ := hy
  rw [abs_of_pos hq] at hq'
  have hpos : 0 < q' := by nlinarith [(abs_le.mp hq').1]
  have hmove := quotient_error hq ha hb hb' hp hq'
  have hhalf : (a + b) / (1 - b) * |p / q| ≤ 1 / 2 * |p / q| :=
    mul_le_mul_of_nonneg_right hpart (abs_nonneg _)
  have htri := (abs_abs_sub_abs_le _ _).trans hmove
  have hbounds := abs_le.mp htri
  have hlow' : 1 / 2 ^ 40 ≤ |p' / q'| := by linarith
  have hhigh' : |p' / q'| ≤ 2 ^ 200 := by linarith
  obtain ⟨t, ht, hround⟩ := (Rounded.div hx hy hpos.ne').near hlow' hhigh'
  refine ⟨t, ht, ?_⟩
  have hsum := abs_sub_le t (p' / q') (p / q)
  linarith

end JsonSchema.Binary64
