import JsonSchema.Proofs.Binary64.Accuracy
import JsonSchema.Proofs.Json.Decimal
import JsonSchema.Proofs.Number.Multiple

namespace JsonSchema.Json
open Binary64

/-- A float that a decimal value is read as, from a significand that is short or not. -/
structure ReadAs (short : Prop) (x : Binary64) (v : ℚ) : Prop where
  near : Near (30001 / 10000 / 2 ^ 53) x v
  near_of_large : 1 / 10 ^ 3 ≤ |v| → Near (20001 / 10000 / 2 ^ 53) x v
  near_of_short : short → Near (17557 / 10000 / 2 ^ 53) x v
  nearest_of_short : short → 1 / 10 ^ 8 < |v| → Near (1 / 2 ^ 53) x v
  exact_of_short : short → ∀ z : Binary64, z.exact = .rat v → x.exact = .rat v

namespace ReadAs
variable {short : Prop} {x : Binary64} {v : ℚ}

theorem of_exact (h : x.exact = .rat v) : ReadAs short x v where
  near := .of_exact h (by norm_num)
  near_of_large _ := .of_exact h (by norm_num)
  near_of_short _ := .of_exact h (by norm_num)
  nearest_of_short _ _ := .of_exact h (by norm_num)
  exact_of_short _ _ _ := h

theorem imp (h : ReadAs short x v) {shorter : Prop} (himp : shorter → short) :
    ReadAs shorter x v where
  near := h.near
  near_of_large := h.near_of_large
  near_of_short hs := h.near_of_short (himp hs)
  nearest_of_short hs := h.nearest_of_short (himp hs)
  exact_of_short hs := h.exact_of_short (himp hs)

theorem neg (h : ReadAs short x v) : ReadAs short (-x) (-v) where
  near := h.near.neg
  near_of_large hv := (h.near_of_large (by rwa [abs_neg] at hv)).neg
  near_of_short hs := (h.near_of_short hs).neg
  nearest_of_short hs hv := (h.nearest_of_short hs (by rwa [abs_neg] at hv)).neg
  exact_of_short hs z hz := by
    have := h.exact_of_short hs (-z) (by rw [exact_neg hz, neg_neg])
    exact exact_neg this

end ReadAs

theorem ofNat_exact {m : Nat} (h : m < fiftyFourBits) : (ofNat m).exact = .rat m :=
  ofInt_of_representable (i := m) (representable_mul_unit h)

theorem ofNat_of_round {n m : Nat} (h : roundQuanta (n * unit) 1 = m * unit)
    (hm : m * unit < overflow) : (ofNat n).exact = .rat m := by
  have hvalue := ratio_natAbs (m : Int)
  rw [Int.natAbs_natCast, decide_eq_false (by omega)] at hvalue
  rw [ofNat, ofRatio, ofQuanta_exact (by rwa [h]), h, hvalue, Int.cast_natCast]

/-- The powers of ten up to 10^22 are floats. -/
theorem powerOfTen_exact {n : Nat} (hn : n ≤ 22) : (Scaled.powerOfTen n).exact = .rat (10 ^ n) := by
  have hfive : 5 ^ n < fiftyFourBits :=
    Nat.lt_of_le_of_lt (Nat.pow_le_pow_right (by decide) hn) (by decide)
  have hroom : n + 1074 ≤ 2045 := by omega
  have hrep := representable_mul_two_pow hfive hroom
  have hunit : 5 ^ n * Nat.pow 2 (n + 1074) = Nat.pow 10 n * unit := by
    unfold unit
    generalize 1074 = e
    rw [Nat.pow_eq, Nat.pow_eq, Nat.pow_eq, Nat.pow_add, ← Nat.mul_assoc, ← Nat.mul_pow]
  have hexact := ofInt_of_representable (i := (Nat.pow 10 n : Nat))
    (by rw [Int.natAbs_natCast, ← hunit]; exact hrep)
  rw [Nat.pow_eq] at hexact
  exact_mod_cast hexact

theorem powerOfTen_near {n : Nat} (hn : n ≤ 28) :
    Near (1 / 2 ^ 53) (Scaled.powerOfTen n) (10 ^ n) := by
  have hwide : ((10 ^ n : Nat) : Int) < Number.wideBound := by
    have hle : 10 ^ n ≤ 10 ^ 28 := Nat.pow_le_pow_right (by decide) hn
    unfold Number.wideBound
    generalize 10 ^ n = power at hle ⊢
    omega
  have hnear := ofNat_near hwide
  push_cast at hnear
  exact hnear

/-- The first two powers of ten that are no floats are quite near to one. -/
theorem powerOfTen_near_of_short {n : Nat} (hn : n = 23 ∨ n = 24) :
    Near (7556 / 10000 / 2 ^ 53) (Scaled.powerOfTen n) (10 ^ n) := by
  rcases hn with rfl | rfl
  · have hexact := ofNat_of_round (n := Nat.pow 10 23) (m := 99999999999999991611392)
      (by decide +kernel) (by decide +kernel)
    exact ⟨_, hexact, by norm_num [abs_of_nonneg, abs_of_nonpos]⟩
  · have hexact := ofNat_of_round (n := Nat.pow 10 24) (m := 999999999999999983222784)
      (by decide +kernel) (by decide +kernel)
    exact ⟨_, hexact, by norm_num [abs_of_nonneg, abs_of_nonpos]⟩

theorem large_float : ∃ f, Representable f ∧ ∀ n ≤ 308, Nat.pow 10 n * unit ≤ f := by
  refine ⟨9007199254740991 * Nat.pow 2 2045, by decide +kernel, ?_⟩
  have htop : Nat.pow 10 308 * unit ≤ 9007199254740991 * Nat.pow 2 2045 := by decide +kernel
  generalize 9007199254740991 * Nat.pow 2 2045 = f at htop ⊢
  generalize 308 = k at htop ⊢
  intro n hn
  exact Nat.le_trans (Nat.mul_le_mul_right unit (Nat.pow_le_pow_right (by decide) hn)) htop

/-- All powers of ten that are multiplied or divided by are positive floats. -/
theorem powerOfTen_pos {n : Nat} (hn : n ≤ 308) :
    ∃ q, 0 < q ∧ (Scaled.powerOfTen n).exact = .rat q := by
  obtain ⟨f, hf, hlarge⟩ := large_float
  have hle : Nat.pow 10 n * unit ≤ f * 1 := by
    rw [Nat.mul_one]
    exact hlarge n hn
  have hsmall : roundQuanta (Nat.pow 10 n * unit) 1 < overflow :=
    Nat.lt_of_le_of_lt (roundQuanta_le one_pos (gap_dvd hf) hle) hf.1
  have hone : unit ≤ roundQuanta (Nat.pow 10 n * unit) 1 := by
    have hunit := representable_mul_unit (m := 1) (by decide)
    rw [Nat.one_mul] at hunit
    refine le_roundQuanta one_pos (gap_dvd hunit) ?_
    rw [Nat.mul_one]
    exact Nat.le_mul_of_pos_left unit (Nat.pow_pos (by decide))
  refine ⟨ratio false (roundQuanta (Nat.pow 10 n * unit) 1), ?_, ?_⟩
  · exact ratio_pos.mpr ⟨rfl, Nat.lt_of_lt_of_le unit_pos hone⟩
  · rw [Scaled.powerOfTen, ofNat, ofRatio, ofQuanta_exact hsmall]

theorem isFinite_of_exact {x : Binary64} {v : ℚ} (h : x.exact = .rat v) : x.isFinite = true := by
  cases x with
  | nan => simp [exact] at h
  | infinite negative => simp [exact] at h
  | finite negative quanta hr => rfl

section Scaled
variable {m n : Nat}

theorem toFloat?_up (hn : n ≤ 308) {v : ℚ}
    (h : (ofNat m * Scaled.powerOfTen n).exact = .rat v) :
    Scaled.toFloat? ⟨m, n⟩ = some (ofNat m * Scaled.powerOfTen n) := by
  have hnot : ¬ (n : Int) < 0 := by omega
  have hle : (n : Int) ≤ 308 := by omega
  simp only [Scaled.toFloat?, hnot, hle, if_true, if_false, Int.toNat_natCast, isFinite_of_exact h]

theorem toFloat?_down (h0 : 0 < n) :
    Scaled.toFloat? ⟨m, -n⟩ = some (Scaled.divideByPower (ofNat m) n) := by
  have hneg : -(n : Int) < 0 := by omega
  simp only [Scaled.toFloat?, hneg, if_true, Int.natAbs_neg, Int.natAbs_natCast]

theorem divideByPower_small {x : Binary64} (hn : n ≤ 308) :
    Scaled.divideByPower x n = x / Scaled.powerOfTen n := by
  rw [Scaled.divideByPower, if_pos hn]

theorem divideByPower_zero {x : Binary64} (hn : ¬ n ≤ 308) (hx : x.isZero = true) :
    Scaled.divideByPower x n = x := by
  rw [Scaled.divideByPower, if_neg hn, if_pos hx]

/-- Zero stays zero, whatever its exponent. -/
theorem toFloat?_zero (e : Int) : ∃ x, Scaled.toFloat? ⟨0, e⟩ = some x ∧ x.exact = .rat 0 := by
  have hzero : (ofNat 0).exact = .rat (0 : Nat) := ofNat_exact (by decide)
  rw [Nat.cast_zero] at hzero
  have hisZero : (ofNat 0).isZero = true := (isZero_iff _).mpr hzero
  rcases lt_or_ge e 0 with he | he
  · obtain ⟨n, rfl⟩ := Int.exists_eq_neg_ofNat he.le
    refine ⟨_, toFloat?_down (by omega), ?_⟩
    by_cases hn : n ≤ 308
    · obtain ⟨q, hq, hpower⟩ := powerOfTen_pos hn
      have hround := Rounded.div hzero hpower hq.ne'
      rw [zero_div] at hround
      rw [divideByPower_small hn]
      exact hround.exact_of_float hzero
    · exact (congrArg Binary64.exact (divideByPower_zero hn hisZero)).trans hzero
  · obtain ⟨n, rfl⟩ := Int.eq_ofNat_of_zero_le he
    by_cases hn : n ≤ 308
    · obtain ⟨q, -, hpower⟩ := powerOfTen_pos hn
      have hround := Rounded.mul hzero hpower
      rw [zero_mul] at hround
      have hexact := hround.exact_of_float hzero
      exact ⟨_, toFloat?_up hn hexact, hexact⟩
    · have hnot : ¬ (n : Int) < 0 := by omega
      have hgt : ¬ (n : Int) ≤ 308 := by omega
      exact ⟨_, by simp only [Scaled.toFloat?, hnot, hgt, if_false, hisZero, if_true], hzero⟩

/-- An integer that is written with an exponent is read exactly. -/
theorem toFloat?_integer (h : m * 10 ^ n ≤ 10 ^ 15) (hm : m ≠ 0) :
    ∃ x, Scaled.toFloat? ⟨m, n⟩ = some x ∧ x.exact = .rat (m * 10 ^ n) := by
  have hpow : 10 ^ n ≤ 10 ^ 15 := (Nat.le_mul_of_pos_left _ (Nat.pos_of_ne_zero hm)).trans h
  have hn : n ≤ 15 := (Nat.pow_le_pow_iff_right (by decide)).mp hpow
  have hmle : m ≤ 10 ^ 15 := (Nat.le_mul_of_pos_right _ (by positivity)).trans h
  have hsignificand := ofNat_exact (hmle.trans_lt (by decide : 10 ^ 15 < fiftyFourBits))
  have hproduct := ofNat_exact (h.trans_lt (by decide : 10 ^ 15 < fiftyFourBits))
  push_cast at hproduct
  have hexact := (Rounded.mul hsignificand (powerOfTen_exact (n := n) (by omega))).exact_of_float
    hproduct
  exact ⟨_, toFloat?_up (by omega) hexact, hexact⟩

/-- A value that is a float although its power of ten is none needs a longer significand. -/
theorem eq_zero_of_float (hm : m ≤ 10 ^ 15) (hn : 23 ≤ n) {z : Binary64}
    (hz : z.exact = .rat (m / 10 ^ n)) : m = 0 := by
  cases z with
  | nan => simp [exact] at hz
  | infinite negative => simp [exact] at hz
  | finite negative quanta hr =>
    have hquanta : quanta * 10 ^ n = m * unit := by
      have habs := ratio_abs negative quanta
      rw [Exact.rat_inj.mp hz, abs_of_nonneg (by positivity),
        div_eq_div_iff (by positivity) unit_pos_rat.ne'] at habs
      exact_mod_cast habs.symm
    -- All fives of the power have to be in the significand, since the quanta are powers of two.
    have hdvd : 5 ^ 23 ∣ m * unit := by
      rw [← hquanta]
      refine Dvd.dvd.mul_left ?_ quanta
      exact (pow_dvd_pow 5 hn).trans (pow_dvd_pow_of_dvd (by decide) n)
    have hcoprime : Nat.Coprime (5 ^ 23) unit := by
      unfold unit
      generalize 1074 = e
      rw [Nat.pow_eq]
      exact Nat.Coprime.pow 23 e (by decide)
    exact Nat.eq_zero_of_dvd_of_lt (hcoprime.dvd_of_dvd_mul_right hdvd) (hm.trans_lt (by decide))

/-- How far a significand can be scaled down. -/
theorem power_le {low : Nat} (top : Nat) (hm : m * 10 ^ low < 10 ^ (top + 1))
    (h : 1 / 10 ^ low ≤ (m : ℚ) / 10 ^ n) : n ≤ top := by
  have hle : 10 ^ n ≤ m * 10 ^ low := by
    rw [div_le_div_iff₀ (by positivity) (by positivity), one_mul] at h
    exact_mod_cast h
  exact Nat.lt_succ_iff.mp ((Nat.pow_lt_pow_iff_right (by decide)).mp (hle.trans_lt hm))

theorem word_near (hm : m < UInt64.size) : Near (1 / 2 ^ 53) (ofNat m) m := by
  refine ofNat_near ?_
  unfold UInt64.size at hm
  unfold Number.wideBound
  omega

section Fraction
variable (hlow : 1 / 10 ^ 9 ≤ (m : ℚ) / 10 ^ n) (hhigh : (m : ℚ) / 10 ^ n ≤ 10 ^ 15)
include hlow hhigh

/-- A significand and a power of ten that are off themselves. -/
theorem quotient_near {a b part : ℚ} (hm : Near a (ofNat m) m)
    (hn : Near b (Scaled.powerOfTen n) (10 ^ n)) (ha : 0 ≤ a) (hb : 0 ≤ b) (hb' : b < 1)
    (hsum : (a + b) / (1 - b) ≤ 1 / 2)
    (hpart : (a + b) / (1 - b) * (1 + 1 / 2 ^ 53) + 1 / 2 ^ 53 ≤ part) :
    Near part (ofNat m / Scaled.powerOfTen n) (m / 10 ^ n) := by
  have hpos : 0 ≤ (m : ℚ) / 10 ^ n := by positivity
  refine (hm.div hn ha hb hb' (by positivity) hsum ?_ ?_).mono hpart
  · rw [abs_of_nonneg hpos]
    exact le_trans (by norm_num) hlow
  · rw [abs_of_nonneg hpos]
    exact hhigh.trans (by norm_num)

theorem quotient_nearest_of_short (hm : m ≤ 10 ^ 15) (hn : n ≤ 22) :
    Near (1 / 2 ^ 53) (ofNat m / Scaled.powerOfTen n) (m / 10 ^ n) := by
  have hsignificand := ofNat_exact (hm.trans_lt (by decide : 10 ^ 15 < fiftyFourBits))
  exact quotient_near hlow hhigh (.of_exact hsignificand le_rfl)
    (.of_exact (powerOfTen_exact hn) le_rfl) le_rfl le_rfl (by norm_num) (by norm_num) (by norm_num)

theorem quotient_near_of_short (hm : m ≤ 10 ^ 15) :
    Near (17557 / 10000 / 2 ^ 53) (ofNat m / Scaled.powerOfTen n) (m / 10 ^ n) := by
  have hn := power_le 24 (by omega) hlow
  by_cases hsmall : n ≤ 22
  · exact (quotient_nearest_of_short hlow hhigh hm hsmall).mono (by norm_num)
  · have hsignificand := ofNat_exact (hm.trans_lt (by decide : 10 ^ 15 < fiftyFourBits))
    exact quotient_near hlow hhigh (.of_exact hsignificand le_rfl)
      (powerOfTen_near_of_short (by omega)) le_rfl (by norm_num) (by norm_num) (by norm_num)
      (by norm_num)

theorem quotient_reads (hm : m < UInt64.size) (hm0 : m ≠ 0) :
    ReadAs (m ≤ 10 ^ 15) (ofNat m / Scaled.powerOfTen n) (m / 10 ^ n) where
  near := by
    have hn := power_le 28 (by unfold UInt64.size at hm; omega) hlow
    exact quotient_near hlow hhigh (word_near hm) (powerOfTen_near hn) (by norm_num)
      (by norm_num) (by norm_num) (by norm_num) (by norm_num)
  near_of_large hv := by
    rw [abs_of_nonneg (by positivity)] at hv
    have hn := power_le 22 (by unfold UInt64.size at hm; omega) hv
    exact quotient_near hlow hhigh (word_near hm) (.of_exact (powerOfTen_exact hn) le_rfl)
      (by norm_num) le_rfl (by norm_num) (by norm_num) (by norm_num)
  near_of_short hshort := quotient_near_of_short hlow hhigh hshort
  nearest_of_short hshort hv := by
    rw [abs_of_nonneg (by positivity)] at hv
    have hn := power_le 23 (by omega) hv.le
    have hne : n ≠ 23 := by
      rintro rfl
      have hm' : (m : ℚ) ≤ 10 ^ 15 := by exact_mod_cast hshort
      rw [div_lt_div_iff₀ (by positivity) (by positivity)] at hv
      linarith
    exact quotient_nearest_of_short hlow hhigh hshort (by omega)
  exact_of_short hshort z hz := by
    by_cases hn : n ≤ 22
    · have hsignificand := ofNat_exact (hshort.trans_lt (by decide : 10 ^ 15 < fiftyFourBits))
      have hpower : (10 : ℚ) ^ n ≠ 0 := by positivity
      have hround := Rounded.div hsignificand (powerOfTen_exact hn) hpower
      exact hround.exact_of_float hz
    · exact absurd (eq_zero_of_float hshort (by omega) hz) hm0

end Fraction

/-- A scaled significand is read as a float near its value. -/
theorem toFloat?_reads {s : Scaled} (hs : s.significand < UInt64.size)
    (hrange : s.significand ≠ 0 → 1 / 10 ^ 9 ≤ s.value ∧ s.value ≤ 10 ^ 15) :
    ∃ x, s.toFloat? = some x ∧ ReadAs (s.significand ≤ 10 ^ 15) x s.value := by
  obtain ⟨m, e⟩ := s
  simp only [Scaled.value] at hs hrange ⊢
  by_cases hm : m = 0
  · subst hm
    obtain ⟨x, hx, hexact⟩ := toFloat?_zero e
    exact ⟨x, hx, .of_exact (by rw [hexact, Nat.cast_zero, zero_mul])⟩
  · obtain ⟨hlow, hhigh⟩ := hrange hm
    rcases lt_or_ge e 0 with he | he
    · obtain ⟨n, rfl⟩ := Int.exists_eq_neg_ofNat he.le
      rw [zpow_neg, zpow_natCast, ← div_eq_mul_inv] at hlow hhigh ⊢
      have hn := power_le 28 (by unfold UInt64.size at hs; omega) hlow
      refine ⟨_, toFloat?_down (by omega), ?_⟩
      rw [divideByPower_small (by omega)]
      exact quotient_reads hlow hhigh hs hm
    · obtain ⟨n, rfl⟩ := Int.eq_ofNat_of_zero_le he
      rw [zpow_natCast] at hhigh ⊢
      obtain ⟨x, hx, hexact⟩ := toFloat?_integer (by exact_mod_cast hhigh) hm
      exact ⟨x, hx, .of_exact hexact⟩

end Scaled

structure ReadFrom (short : Prop) (m : Number) (v : ℚ) : Prop where
  canonical : m.Canonical
  toFloat_exact : m.toFloat.exact = m.exact
  near : ReadAs short m.toFloat v
  /-- Some power of ten makes the value an integer of no more than these digits. -/
  decimal : ∃ (n : Nat) (w : Int), v * 10 ^ n = w ∧ |w| ≤ 10 ^ 15

namespace ReadFrom
variable {short : Prop} {m : Number} {v : ℚ}

/-- A value that is read as an integer is this integer. -/
theorem eq_of_integer (h : ReadFrom short m v) {i : Int} (hi : m.exact = .rat i) : v = i := by
  obtain ⟨n, w, hv, hw⟩ := h.decimal
  obtain ⟨t, ht, herror⟩ := h.near.near
  rw [h.toFloat_exact, hi, Exact.rat_inj] at ht
  have hpow : (0 : ℚ) < 10 ^ n := by positivity
  -- Scaled to integers the two are less than one apart.
  have hscaled : |(i * 10 ^ n - w : ℚ)| ≤ 30001 / 10000 / 2 ^ 53 * |(w : ℚ)| := by
    rw [← hv, ht, ← sub_mul, abs_mul, abs_mul, abs_of_pos hpow, ← mul_assoc]
    gcongr
  have hw' : |(w : ℚ)| ≤ 10 ^ 15 := by exact_mod_cast hw
  have hlt : |(i * 10 ^ n - w : ℚ)| < 1 := by
    refine hscaled.trans_lt ?_
    linarith
  have heq : i * 10 ^ n = w := by
    have : |i * 10 ^ n - w| < 1 := by exact_mod_cast hlt
    have := Int.abs_lt_one_iff.mp this
    omega
  have heq' : (i : ℚ) * 10 ^ n = v * 10 ^ n := by
    rw [hv]
    exact_mod_cast heq
  exact (mul_right_cancel₀ hpow.ne' heq').symm

theorem exact_pos (h : ReadFrom short m v) (hv : 0 < v) : ∃ q, m.exact = .rat q ∧ 0 < q := by
  obtain ⟨q, hq, herror⟩ := h.near.near
  rw [h.toFloat_exact] at hq
  rw [abs_of_pos hv] at herror
  exact ⟨q, hq, by linarith [(abs_le.mp herror).1]⟩

end ReadFrom

theorem abs_le_of_range {v : ℚ} (h : v = 0 ∨ 1 / 10 ^ 9 ≤ |v| ∧ |v| ≤ 10 ^ 15) :
    |v| ≤ 10 ^ 15 := by
  rcases h with hzero | hbounds
  · rw [hzero]
    norm_num
  · exact hbounds.2

namespace Numeral
variable {n : Numeral}

theorem abs_value (n : Numeral) : |n.value| = n.coefficient * 10 ^ n.scale := by
  have hpos : (0 : ℚ) ≤ n.coefficient * 10 ^ n.scale := by positivity
  unfold value
  split
  · rw [neg_one_mul, abs_neg, abs_of_nonneg hpos]
  · rw [one_mul, abs_of_nonneg hpos]

/-- A literal of digits only is an integer. -/
theorem value_of_digits (h : n.magnitude.all Char.isDigit = true) :
    digitsValue n.magnitude = n.coefficient ∧
      n.value = (if n.negative then -1 else 1) * (n.coefficient : ℚ) := by
  have hall := List.all_eq_true.mp h
  have hfraction : n.fraction = [] := by
    by_contra hne
    have := hall '.' (by simp [magnitude, fractionChars, hne])
    cases this
  have hexponent : n.exponent = none := by
    cases he : n.exponent with
    | none => rfl
    | some e =>
      have hmark := hall e.mark (by simp [magnitude, exponentChars, he, Exponent.chars])
      rcases e.isMark with h | h <;> rw [h] at hmark <;> cases hmark
  constructor
  · simp [magnitude, fractionChars, exponentChars, coefficient, hfraction, hexponent]
  · simp [value, scale, exponentValue, hfraction, hexponent]

section Reading
variable (hrange : n.value = 0 ∨ 1 / 10 ^ 9 ≤ |n.value| ∧ |n.value| ≤ 10 ^ 15)
include hrange

/-- An integer within the machine words is exact, and so is its float. -/
theorem reads_integer (h : n.magnitude.all Char.isDigit = true) {m : Number} {i : Int}
    (hm : m.toInt? = some i)
    (hi : i = if n.negative then -(n.coefficient : Int) else n.coefficient) :
    m.toFloat.exact = m.exact ∧ ReadAs (n.coefficient ≤ 10 ^ 15) m.toFloat n.value := by
  obtain ⟨-, hvalue⟩ := value_of_digits h
  have hiv : n.value = i := by
    rw [hvalue, hi]
    split <;> simp
  have hsmall : i.natAbs < fiftyFourBits := by
    have hle := abs_le_of_range hrange
    have : |i| ≤ 10 ^ 15 := by
      rw [hiv] at hle
      exact_mod_cast hle
    unfold fiftyFourBits
    rw [Int.abs_eq_natAbs] at this
    omega
  have hexact : m.toFloat.exact = .rat i := by
    rw [Number.toFloat_of_toInt? hm]
    exact ofInt_of_representable (representable_mul_unit hsmall)
  refine ⟨by rw [hexact, Number.exact_of_toInt? hm], .of_exact ?_⟩
  rw [hexact, hiv]

variable (hfew : FewDigits n.coefficient) (hlength : n.chars.length ≤ 2000000000)
include hfew hlength

theorem magnitude?_reads :
    ∃ x, magnitude? n.magnitude = some x ∧ ReadAs (n.coefficient ≤ 10 ^ 15) x |n.value| := by
  rw [abs_value] at hrange ⊢
  have hrange' (h0 : n.coefficient ≠ 0) : 1 / 10 ^ 9 ≤ (n.coefficient : ℚ) * 10 ^ n.scale ∧
      (n.coefficient : ℚ) * 10 ^ n.scale ≤ 10 ^ 15 := by
    refine hrange.resolve_left fun hzero => ?_
    have habs := n.abs_value
    rw [hzero, abs_zero] at habs
    exact h0 (by simpa [zpow_ne_zero] using habs.symm)
  obtain ⟨s, hmagnitude, hs, hvalue, hshort⟩ := magnitude?_scaled hfew hlength hrange'
  rw [hmagnitude, ← hvalue]
  have hzero (h : s.significand ≠ 0) : n.coefficient ≠ 0 := by
    intro h0
    rw [h0, Nat.cast_zero, zero_mul, Scaled.value] at hvalue
    exact h (by simpa [zpow_ne_zero] using hvalue)
  obtain ⟨x, hx, hreads⟩ := toFloat?_reads hs fun h => by
    rw [hvalue]
    exact hrange' (hzero h)
  refine ⟨x, hx, hreads.imp fun h => ?_⟩
  rwa [hshort (Nat.lt_of_le_of_lt h (by decide))]

/-- A literal of few significant digits is a number near to the value that it writes. -/
theorem exists_number :
    ∃ m : Number, numberOfLiteral? n.chars = some m ∧ m.Canonical ∧
      m.toFloat.exact = m.exact ∧ ReadAs (n.coefficient ≤ 10 ^ 15) m.toFloat n.value := by
  rw [numberOfLiteral?_chars]
  by_cases hunsigned : (n.magnitude.all Char.isDigit && !n.negative &&
      digitsValue n.magnitude < UInt64.size) = true
  · rw [if_pos hunsigned]
    simp only [Bool.and_eq_true, decide_eq_true_eq, Bool.not_eq_true'] at hunsigned
    obtain ⟨⟨hall, hpositive⟩, hlt⟩ := hunsigned
    rw [(value_of_digits hall).1] at hlt ⊢
    refine ⟨_, rfl, trivial, reads_integer hrange hall rfl ?_⟩
    simp [hpositive, Nat.toUInt64, UInt64.toNat_ofNat_of_lt' hlt]
  rw [if_neg hunsigned]
  by_cases hsigned : (n.magnitude.all Char.isDigit && n.negative && 0 < digitsValue n.magnitude
      && digitsValue n.magnitude ≤ 0x8000000000000000) = true
  · rw [if_pos hsigned]
    simp only [Bool.and_eq_true, decide_eq_true_eq] at hsigned
    obtain ⟨⟨⟨hall, hnegative⟩, hpos⟩, hle⟩ := hsigned
    rw [(value_of_digits hall).1] at hpos hle ⊢
    have hback : (-(n.coefficient : Int)).toInt64.toInt = -(n.coefficient : Int) :=
      Int64.toInt_ofInt_of_le (by omega) (by omega)
    refine ⟨_, rfl, ?_, reads_integer hrange hall rfl ?_⟩
    · change Int64.toInt _ < 0
      rw [hback]
      omega
    · rw [hback, if_pos hnegative]
  rw [if_neg hsigned]
  obtain ⟨x, hx, hreads⟩ := magnitude?_reads hrange hfew hlength
  rw [hx]
  refine ⟨_, rfl, trivial, rfl, ?_⟩
  have hsign : n.value = if n.negative then -|n.value| else |n.value| := by
    rw [abs_value, value]
    split <;> simp
  rw [hsign, Number.toFloat]
  split
  · exact hreads.neg
  · exact hreads

omit hlength in
/-- Few digits can be written without a point, behind which only a power of ten is needed. -/
theorem exists_decimal : ∃ (k : Nat) (w : Int), n.value * 10 ^ k = w ∧ |w| ≤ 10 ^ 15 := by
  obtain ⟨c, j, hc, hlt⟩ := hfew
  have hvalue : n.value = (if n.negative then -1 else 1) * (c * 10 ^ (j + n.scale : Int)) := by
    rw [value, hc, zpow_add₀ (by norm_num), zpow_natCast]
    push_cast
    ring
  have hsign : |(if n.negative then -1 else 1 : Int)| = 1 := by split <;> rfl
  rcases lt_or_ge (j + n.scale) 0 with he | he
  · obtain ⟨k, hk⟩ := Int.exists_eq_neg_ofNat he.le
    refine ⟨k, (if n.negative then -1 else 1) * c, ?_, ?_⟩
    · rw [hvalue, hk, zpow_neg, zpow_natCast]
      push_cast
      field_simp
    · rw [abs_mul, hsign, one_mul, Nat.abs_cast]
      exact_mod_cast hlt.le
  · obtain ⟨k, hk⟩ := Int.eq_ofNat_of_zero_le he
    have hinteger : n.value = ((if n.negative then -1 else 1) * (c * 10 ^ k) : Int) := by
      rw [hvalue, hk, zpow_natCast]
      push_cast
      rfl
    refine ⟨0, _, by rw [pow_zero, mul_one, hinteger], ?_⟩
    have hle := abs_le_of_range hrange
    rw [hinteger] at hle
    exact_mod_cast hle

theorem reads : ∃ m : Number, numberOfLiteral? n.chars = some m ∧
    ReadFrom (n.coefficient ≤ 10 ^ 15) m n.value := by
  obtain ⟨m, hm, hc, hexact, hreads⟩ := exists_number hrange hfew hlength
  exact ⟨m, hm, hc, hexact, hreads, exists_decimal hrange hfew⟩

end Reading
end Numeral

end JsonSchema.Json
