import JsonSchema.Proofs.Binary64.Accuracy
import JsonSchema.Proofs.Number.Multiple

namespace JsonSchema.Number
open Binary64

theorem min_mod_le_iff {u q t : Nat} (hu : 0 < u) :
    min (q % u) (u - q % u) ≤ t ↔ ∃ k, q ≤ u * k + t ∧ u * k ≤ q + t := by
  have hsplit := Nat.div_add_mod q u
  have hrest := Nat.mod_lt q hu
  have hnext := Nat.mul_add_one u (q / u)
  constructor
  · intro hmin
    rcases min_le_iff.mp hmin with hlow | hhigh
    · exact ⟨q / u, by omega, by omega⟩
    · exact ⟨q / u + 1, by omega, by omega⟩
  · intro h
    obtain ⟨k, hlow, hhigh⟩ := h
    rcases Nat.lt_or_ge (q / u) k with hk | hk
    · have := Nat.mul_le_mul_left u (show q / u + 1 ≤ k from hk)
      omega
    · have := Nat.mul_le_mul_left u hk
      omega

/-- A float is near an integer when it is within the tolerance of some whole number. -/
theorem isNearInteger_finite {negative : Bool} {quanta : Nat} {h : Representable quanta} :
    isNearInteger (.finite negative quanta h) = true ↔
      ∃ k : Nat, |(quanta : ℚ) / unit - k| ≤ tolerance / unit := by
  have hpos := unit_pos
  have hunit := unit_pos_rat
  simp only [isNearInteger, decide_eq_true_eq]
  generalize unit = u at *
  generalize tolerance = t
  rw [min_mod_le_iff hpos]
  refine exists_congr fun k => ?_
  rw [div_sub' hunit.ne', abs_div, Nat.abs_cast, div_le_div_iff_of_pos_right hunit, abs_le,
    neg_le_sub_iff_le_add, sub_le_iff_le_add', and_comm]
  norm_cast

/-- The tolerance is more than 2^-30 and hardly more than 10^-9. -/
theorem tolerance_bounds :
    Nat.pow 2 1044 ≤ tolerance ∧ tolerance * 100000000000 ≤ 101 * unit := by
  decide +kernel

theorem tolerance_le : (tolerance : ℚ) / unit ≤ 101 / 10 ^ 11 := by
  have hbound := tolerance_bounds.2
  have hpos := unit_pos_rat
  generalize unit = u at *
  generalize tolerance = t at *
  rw [div_le_div_iff₀ hpos (by norm_num)]
  exact_mod_cast hbound

/-- A quotient that is taken for an integer is one, but for the tolerance and for what rounding
adds. -/
theorem isNearInteger_div {x y : Binary64} {p q : ℚ} (hx : x.exact = .rat p)
    (hy : y.exact = .rat q) (hq : q ≠ 0) (h : isNearInteger (x / y) = true) :
    ∃ k : Nat, |(|p / q| - k)| ≤ 102 / 10 ^ 11 + |p / q| / 2 ^ 53 := by
  obtain ⟨negative, num, den, hden, ht, -, he⟩ := Rounded.div hx hy hq
  have hpos : 0 ≤ |p / q| := abs_nonneg _
  generalize |p / q| = t at ht hpos ⊢
  rw [he, ofQuanta] at h
  split at h
  · obtain ⟨k, hk⟩ := isNearInteger_finite.mp h
    have hround := roundQuanta_ratio hden ht
    generalize (roundQuanta num den : ℚ) / unit = r at hk hround
    have herror : |t - r| ≤ 1 / 10 ^ 11 + t / 2 ^ 53 := by
      rw [abs_sub_comm]
      refine hround.trans (max_le ?_ ?_)
      · have hquantum := half_quantum_le (t := 1) (by norm_num)
        exact hquantum.trans (le_add_of_le_of_nonneg (by norm_num) (by positivity))
      · exact le_add_of_nonneg_left (by norm_num)
    refine ⟨k, ?_⟩
    calc |t - k| ≤ |t - r| + |r - k| := abs_sub_le _ _ _
      _ ≤ (1 / 10 ^ 11 + t / 2 ^ 53) + 101 / 10 ^ 11 := add_le_add herror (hk.trans tolerance_le)
      _ = 102 / 10 ^ 11 + t / 2 ^ 53 := by ring
  · simp [isNearInteger] at h

/-- A number becomes a float that is off by one part in 2^53 at most. -/
theorem toFloat_near {n : Number} {p : ℚ} (h : n.exact = .rat p) :
    Near (1 / 2 ^ 53) n.toFloat p := by
  cases hn : n.toInt? with
  | none =>
    obtain ⟨x, rfl⟩ := float_of_toInt? hn
    exact .of_exact h (by norm_num)
  | some i =>
    obtain rfl := Exact.rat_inj.mp ((exact_of_toInt? hn).symm.trans h)
    rw [toFloat_of_toInt? hn]
    exact ofInt_near (toInt?_wide hn)

/-- Numbers that are both integers are divided without any rounding. -/
theorem isMultipleOf_wide {x d : Number} {i j : Int} (hx : x.toWideInt? = some i)
    (hd : d.toWideInt? = some j) : x.isMultipleOf d = true ↔ j ≠ 0 ∧ j ∣ i := by
  rw [isMultipleOf, hx, hd, Int.dvd_iff_emod_eq_zero]
  simp only [Bool.and_eq_true, decide_eq_true_eq, ne_eq]

/-- The other numbers are divided by their rounded quotient. -/
theorem isMultipleOf_rounded {x d : Number} (h : x.toWideInt? = none ∨ d.toWideInt? = none) :
    x.isMultipleOf d = (!d.toFloat.isZero && isNearInteger (x.toFloat / d.toFloat)) := by
  unfold isMultipleOf
  split
  · simp_all
  · rfl

/-- A number that is taken for a multiple is one, but for the tolerance and for what the three
roundings add. -/
theorem near_of_isMultipleOf {x d : Number} {p q : ℚ} (hx : x.exact = .rat p)
    (hd : d.exact = .rat q) (hq : 0 < q)
    (hnear : isNearInteger (x.toFloat / d.toFloat) = true) :
    ∃ k : Nat, |(|p / q| - k)| ≤ 103 / 10 ^ 11 + |p / q| * (301 / 100 / 2 ^ 53) := by
  obtain ⟨p', hx', hp⟩ := toFloat_near hx
  obtain ⟨q', hd', hq'⟩ := toFloat_near hd
  rw [abs_of_pos hq] at hq'
  have hpos : 0 < q' := by linarith [(abs_le.mp hq').1]
  obtain ⟨k, hk⟩ := isNearInteger_div hx' hd' hpos.ne' hnear
  have hmove := quotient_error hq (by norm_num) (by norm_num) (by norm_num) hp hq'
  have hmove' := (abs_abs_sub_abs_le _ _).trans hmove
  refine ⟨k, ?_⟩
  have htri := abs_sub_le (|p / q|) (|p' / q'|) (k : ℚ)
  have hle := (abs_le.mp hmove').2
  rw [abs_sub_comm] at hmove'
  have hpart : (1 / 2 ^ 53 + 1 / 2 ^ 53) / (1 - 1 / 2 ^ 53) * |p / q| ≤
      2001 / 1000 / 2 ^ 53 * |p / q| := by
    have : (1 / 2 ^ 53 + 1 / 2 ^ 53) / (1 - 1 / 2 ^ 53) ≤ (2001 / 1000 / 2 ^ 53 : ℚ) := by norm_num
    gcongr
  have hnonneg := abs_nonneg (p / q)
  linarith

theorem exists_signed {r : ℚ} {k : Nat} {e : ℚ} (h : |(|r| - k)| ≤ e) : ∃ m : Int, |r - m| ≤ e := by
  rcases le_total 0 r with hr | hr
  · rw [abs_of_nonneg hr] at h
    exact ⟨k, by exact_mod_cast h⟩
  · rw [abs_of_nonpos hr] at h
    refine ⟨-k, ?_⟩
    rw [← abs_neg]
    push_cast
    convert h using 2
    ring

theorem toWideInt?_of_isIntegral {n : Number} {p : ℚ} (hn : n.exact = .rat p)
    (hi : n.isIntegral = true) (hp : |p| < 2 ^ 127) : n.toWideInt?.isSome = true := by
  obtain ⟨i, h⟩ := (isIntegral_iff n).mp hi
  obtain rfl := Exact.rat_inj.mp (hn.symm.trans h)
  refine Option.isSome_iff_exists.mpr ⟨i, toWideInt?_eq_some.mpr ⟨hn, ?_⟩⟩
  have hlt : |i| < 2 ^ 127 := by exact_mod_cast hp
  rw [Int.abs_eq_natAbs] at hlt
  unfold wideBound
  omega

/-- A number whose quotient is far from every integer is not taken for a multiple: farther than
10^-6, and unless both numbers are integers of 128 bits, farther than rounding can bring a quotient
of that size to an integer. -/
theorem isMultipleOf_far {x d : Number} {p q : ℚ} (hx : x.exact = .rat p) (hd : d.exact = .rat q)
    (hq : 0 < q) (hfar : ∀ k : Int, 1 / 10 ^ 6 < |p / q - k|)
    (hsize : (∀ k : Int, |p / q| / 2 ^ 51 < |p / q - k|) ∨
      x.isIntegral = true ∧ d.isIntegral = true ∧ |p| < 2 ^ 127 ∧ q < 2 ^ 127) :
    x.isMultipleOf d = false := by
  by_contra hmultiple
  rw [Bool.not_eq_false] at hmultiple
  by_cases hwide : x.toWideInt?.isSome = true ∧ d.toWideInt?.isSome = true
  · obtain ⟨hi, hj⟩ := hwide
    obtain ⟨i, hi⟩ := Option.isSome_iff_exists.mp hi
    obtain ⟨j, hj⟩ := Option.isSome_iff_exists.mp hj
    obtain rfl := Exact.rat_inj.mp (hx.symm.trans (toWideInt?_eq_some.mp hi).1)
    obtain rfl := Exact.rat_inj.mp (hd.symm.trans (toWideInt?_eq_some.mp hj).1)
    obtain ⟨-, m, rfl⟩ := (isMultipleOf_wide hi hj).mp hmultiple
    have hm := hfar m
    rw [Int.cast_mul, mul_div_cancel_left₀ _ hq.ne', sub_self, abs_zero] at hm
    norm_num at hm
  · rw [isMultipleOf_rounded (by simpa [imp_iff_not_or] using hwide), Bool.and_eq_true] at hmultiple
    obtain ⟨k, hk⟩ := near_of_isMultipleOf hx hd hq hmultiple.2
    obtain ⟨m, hm⟩ := exists_signed hk
    rcases hsize with hsize | ⟨hxi, hdi, hp, hq'⟩
    · -- The two distances together exceed what three roundings and the tolerance can bridge.
      have := hfar m
      have := hsize m
      linarith
    · refine hwide ⟨toWideInt?_of_isIntegral hx hxi hp, toWideInt?_of_isIntegral hd hdi ?_⟩
      rwa [abs_of_pos hq]

/-- The value of a float from its quanta, as a fraction. -/
theorem exact_fraction {x : Binary64} {quanta n m : Nat} (h : Representable quanta)
    (hx : x = .finite false quanta h) (hm : 0 < m) (hq : quanta * m = n * unit) :
    (float x).exact = .rat (n / m) := by
  have hm' : (0 : ℚ) < m := by exact_mod_cast hm
  have hq' : (quanta : ℚ) * m = n * unit := by exact_mod_cast hq
  rw [exact, hx, Binary64.exact, ratio, Binary64.signed, if_neg (by simp), Int.cast_natCast,
    (div_eq_div_iff unit_pos_rat.ne' hm'.ne').mpr hq']

/-- A fraction that is not whole is at least one part of its denominator away from every integer. -/
theorem fraction_far {n m : Int} (hm : 0 < m) (h : ¬ m ∣ n) (k : Int) :
    1 / (m : ℚ) ≤ |(n : ℚ) / m - k| := by
  have hm' : (0 : ℚ) < m := by exact_mod_cast hm
  have hne : n - m * k ≠ 0 := fun h0 => h ⟨k, by omega⟩
  have hone : (1 : ℚ) ≤ |(n : ℚ) - m * k| := by exact_mod_cast Int.one_le_abs hne
  rw [div_sub' hm'.ne', abs_div, abs_of_pos hm']
  gcongr

/-- Half an integer above 10^12 is no multiple of 1. -/
theorem isMultipleOf_far_half :
    let x : Number := .float (.ofBits 0x4271f71fb04cb800)
    let q : ℚ := 2469135780247 / 2
    x.exact = .rat q ∧ (∀ k : Int, 1 / 10 ^ 6 < |q / 1 - k|) ∧
      (∀ k : Int, |q / 1| / 2 ^ 51 < |q / 1 - k|) ∧ x.isMultipleOf (.unsigned 1) = false := by
  intro x q
  have hx : x.exact = .rat q := by
    exact_mod_cast exact_fraction (n := 2469135780247) (m := 2)
      (representable_mul_two_pow (m := 2469135780247) (k := 1073) (by decide) (by decide))
      (by decide +kernel) (by decide) (by decide +kernel)
  have hhalf (k : Int) : 1 / 2 ≤ |q / 1 - k| := by
    have := fraction_far (n := 2469135780247) (m := 2) (by decide) (by decide) k
    simpa [q] using this
  have hfar (k : Int) : 1 / 10 ^ 6 < |q / 1 - k| := lt_of_lt_of_le (by norm_num) (hhalf k)
  have hsize (k : Int) : |q / 1| / 2 ^ 51 < |q / 1 - k| :=
    lt_of_lt_of_le (by norm_num [q]) (hhalf k)
  have hone : (unsigned 1).exact = .rat 1 := by simp [exact]
  exact ⟨hx, hfar, hsize, isMultipleOf_far hx hone one_pos hfar (.inl hsize)⟩

/-- The quotient of 10^16 by 1.5 loses its third when it is rounded, so it is taken for an integer.
-/
theorem isMultipleOf_lost_third :
    let x : Number := .unsigned 10000000000000000
    let d : Number := .float (.ofBits 0x3ff8000000000000)
    x.exact = .rat (10 ^ 16) ∧ d.exact = .rat (3 / 2) ∧
      (∀ k : Int, 1 / 10 ^ 6 < |(10 ^ 16 : ℚ) / (3 / 2) - k|) ∧ x.isMultipleOf d = true := by
  intro x d
  have hd : d.exact = .rat (3 / 2) := by
    exact_mod_cast exact_fraction (n := 3) (m := 2)
      (representable_mul_two_pow (m := 3) (k := 1073) (by decide) (by decide))
      (by decide +kernel) (by decide) (by decide +kernel)
  refine ⟨by simp [x, exact]; norm_num, hd, ?_, by decide +kernel⟩
  intro k
  have := fraction_far (n := 20000000000000000) (m := 3) (by decide) (by decide) k
  refine lt_of_lt_of_le (by norm_num) (this.trans (le_of_eq ?_))
  norm_num

end JsonSchema.Number
