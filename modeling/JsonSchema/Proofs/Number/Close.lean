import JsonSchema.Proofs.Number.Quotient

namespace JsonSchema.Number
open Binary64

/-- Two multiples of a step whose distance is less than one step beyond a third one. -/
theorem abs_sub_le_of_dvd {g a b t : Nat} (ha : g ∣ a) (hb : g ∣ b) (ht : g ∣ t)
    (h : |(a : ℚ) - b| < t + g) : |(a : ℚ) - b| ≤ t := by
  obtain ⟨i, rfl⟩ := ha
  obtain ⟨j, rfl⟩ := hb
  obtain ⟨n, rfl⟩ := ht
  have hg : (0 : ℚ) ≤ g := Nat.cast_nonneg g
  have hscale : |((g * i : Nat) : ℚ) - (g * j : Nat)| = g * |(i : ℚ) - j| := by
    rw [Nat.cast_mul, Nat.cast_mul, ← mul_sub, abs_mul, abs_of_nonneg hg]
  rw [hscale] at h ⊢
  push_cast at h ⊢
  have hlt : |(i : ℚ) - j| < n + 1 := by
    by_contra hge
    have := mul_le_mul_of_nonneg_left (not_lt.mp hge) hg
    linarith
  have hle : |(i : Int) - j| ≤ n := by
    have : |(i : Int) - j| < n + 1 := by exact_mod_cast hlt
    omega
  have hle' : |(i : ℚ) - j| ≤ n := by exact_mod_cast hle
  exact mul_le_mul_of_nonneg_left hle' hg

structure Reach (reach : Nat) : Prop where
  le_tolerance : reach ≤ tolerance
  mul_eq_unit : reach * 2 ^ 30 = unit
  gap_dvd : ∀ n, n < 2 ^ 53 * reach → gap n ∣ reach
  step_le_gap : ∀ s ≤ 1000, ∃ step, step * 2 ^ s = reach ∧ ∀ n, 2 ^ 52 * step ≤ n → step ≤ gap n

theorem exists_reach : ∃ reach, Reach reach := by
  have hpow (a b n : Nat) (hn : n = a + b) : Nat.pow 2 a * 2 ^ b = Nat.pow 2 n := by
    rw [hn, Nat.pow_eq, Nat.pow_eq, Nat.pow_add]
  -- Only the exponents matter below: the power of two is too large to be written out.
  refine ⟨Nat.pow 2 1044, tolerance_bounds.1, ?_, fun n hn => ?_, fun s hs => ?_⟩
  · have hsum : 1074 = 1044 + 30 := by decide
    unfold unit
    generalize 1044 = e, 1074 = n at hsum ⊢
    exact hpow e 30 n hsum
  · generalize 1044 = e at hn ⊢
    exact gap_dvd_of_lt hn
  · have hle : s ≤ 1044 := by omega
    generalize 1044 = e at hle ⊢
    refine ⟨Nat.pow 2 (e - s), ?_, fun n hn => ?_⟩
    · exact hpow (e - s) s e (by omega)
    · exact Nat.le_of_dvd (gap_pos n) (dvd_gap hn)

section Rounding
variable {negative : Bool} {num den k reach : Nat}

/-- A quotient of quanta that half a step of the format separates from the reach of an integer is
rounded into it. -/
theorem isNearInteger_of_step (hreach : Reach reach) (hden : 0 < den)
    (hsmall : num < 2 ^ 53 * reach * den)
    (hclose : |(num : ℚ) / den - k * (reach * 2 ^ 30)| < reach + (gap (num / den) : ℚ) / 2) :
    isNearInteger (ofQuanta negative num den) = true := by
  have hlt : roundQuanta num den < overflow := by
    refine roundQuanta_lt_overflow (k := 23) hden (by decide) ?_
    rw [← hreach.mul_eq_unit]
    calc num ≤ 2 ^ 53 * reach * den := hsmall.le
      _ = Nat.pow 2 23 * (reach * 2 ^ 30) * den := by rw [Nat.pow_eq]; ring
  have hstep := hreach.gap_dvd _ ((Nat.div_lt_iff_lt_mul hden).mpr hsmall)
  have hround := roundQuanta_step num hden
  -- The rounded quotient, the integer and the reach all lie on one grid, so a distance of less than
  -- a step beyond the reach is one within it.
  have hdist : |(roundQuanta num den : ℚ) - (k * (reach * 2 ^ 30) : Nat)| ≤ reach := by
    refine abs_sub_le_of_dvd (gap_dvd_roundQuanta num den) ?_ hstep ?_
    · exact (hstep.mul_right _).mul_left k
    · have htri := abs_sub_le (roundQuanta num den : ℚ) (num / den) (k * (reach * 2 ^ 30))
      push_cast
      linarith
  have htolerance : (reach : ℚ) ≤ tolerance := by exact_mod_cast hreach.le_tolerance
  simp only [ofQuanta, hlt, ↓reduceDIte]
  refine isNearInteger_finite.mpr ⟨k, ?_⟩
  have hpos := unit_pos_rat
  rw [← hreach.mul_eq_unit] at hpos ⊢
  rw [div_sub' hpos.ne', abs_div, abs_of_pos hpos, mul_comm, ← Nat.cast_mul]
  exact div_le_div_of_nonneg_right (hdist.trans htolerance) hpos.le

theorem Reach.pos (hreach : Reach reach) : (0 : ℚ) < reach := by
  have hunit := unit_pos
  rw [← hreach.mul_eq_unit] at hunit
  exact_mod_cast Nat.pos_of_mul_pos_right hunit

section Scaled
variable {t : ℚ} (hreach : Reach reach) (hden : 0 < den)
  (ht : (num : ℚ) / den = t * (reach * 2 ^ 30))
include hreach hden ht

theorem lt_of_small (hsmall : t < 2 ^ 23) : num < 2 ^ 53 * reach * den := by
  have hpos := hreach.pos
  have hden' : (0 : ℚ) < den := by exact_mod_cast hden
  have : (num : ℚ) < 2 ^ 53 * reach * den := by
    calc (num : ℚ) = t * (reach * 2 ^ 30) * den := (div_eq_iff hden'.ne').mp ht
      _ < 2 ^ 23 * (reach * 2 ^ 30) * den := by gcongr
      _ = 2 ^ 53 * reach * den := by ring
  exact_mod_cast this

/-- The steps of the format are as large as a part of the reach where a quotient is large. -/
theorem step_le_gap_of_large {s : Nat} (hs : s ≤ 1000) (hlarge : 2 ^ 22 / 2 ^ s ≤ t) :
    (reach : ℚ) / 2 ^ s ≤ gap (num / den) := by
  obtain ⟨step, hr, hle⟩ := hreach.step_le_gap s hs
  have hr' : (reach : ℚ) = step * 2 ^ s := by exact_mod_cast hr.symm
  have hpos := hreach.pos
  have hden' : (0 : ℚ) < den := by exact_mod_cast hden
  have hnum : (2 ^ 52 * step * den : ℚ) ≤ num := by
    calc (2 ^ 52 * step * den : ℚ) = 2 ^ 22 / 2 ^ s * (reach * 2 ^ 30) * den := by
          rw [hr']
          field_simp
      _ ≤ t * (reach * 2 ^ 30) * den := by gcongr
      _ = num := ((div_eq_iff hden'.ne').mp ht).symm
  have hlow : 2 ^ 52 * step ≤ num / den := by
    rw [Nat.le_div_iff_mul_le hden]
    exact_mod_cast hnum
  rw [hr', mul_div_cancel_right₀ _ (by positivity)]
  exact_mod_cast hle _ hlow

end Scaled
end Rounding

/-- A quotient below 2^23 is taken for an integer if it is at most 2^-30 away, or less than half a
step of the format more. -/
theorem isNearInteger_of_close {x y : Binary64} {p q : ℚ} {k : Int} (hx : x.exact = .rat p)
    (hy : y.exact = .rat q) (hq : q ≠ 0) (hsmall : |p / q| < 2 ^ 23)
    (hclose : |p / q - k| ≤ 1 / 2 ^ 30 ∨
      ∃ s ≤ 1000, 2 ^ 22 / 2 ^ s ≤ |p / q| ∧ |p / q - k| < 1 / 2 ^ 30 + 1 / 2 ^ (31 + s)) :
    isNearInteger (x / y) = true := by
  obtain ⟨negative, num, den, hden, ht, -, he⟩ := Rounded.div hx hy hq
  obtain ⟨reach, hreach⟩ := exists_reach
  have hpos := hreach.pos
  have hgap : (0 : ℚ) < gap (num / den) := by exact_mod_cast gap_pos _
  rw [← hreach.mul_eq_unit, Nat.cast_mul, Nat.cast_pow, Nat.cast_ofNat] at ht
  have hdist : |(num : ℚ) / den - (k.natAbs : Nat) * (reach * 2 ^ 30)| ≤
      |p / q - k| * (reach * 2 ^ 30) := by
    have hcast : ((k.natAbs : Nat) : ℚ) = |(k : ℚ)| := by
      rw [← Int.cast_natCast, Int.natCast_natAbs, Int.cast_abs]
    rw [ht, ← sub_mul, abs_mul, abs_of_pos (mul_pos hpos (by norm_num)), hcast]
    have := abs_abs_sub_abs_le (p / q) k
    gcongr
  rw [he]
  refine isNearInteger_of_step hreach hden (lt_of_small hreach hden ht hsmall)
    (lt_of_le_of_lt hdist ?_)
  rcases hclose with hclose | ⟨s, hs, hlow, hclose⟩
  · calc |p / q - k| * ((reach : ℚ) * 2 ^ 30) ≤ 1 / 2 ^ 30 * (reach * 2 ^ 30) := by gcongr
      _ = (reach : ℚ) := by field_simp
      _ < reach + (gap (num / den) : ℚ) / 2 := by linarith
  · have hstep := step_le_gap_of_large hreach hden ht hs hlow
    calc |p / q - k| * ((reach : ℚ) * 2 ^ 30)
        < (1 / 2 ^ 30 + 1 / 2 ^ (31 + s)) * (reach * 2 ^ 30) := by gcongr
      _ = (reach : ℚ) + reach / 2 ^ s / 2 := by
        rw [pow_add]
        field_simp
      _ ≤ reach + (gap (num / den) : ℚ) / 2 := by linarith

theorem unit_dvd_gap {whole : Nat} (h : 2 ^ 52 * unit ≤ whole) : unit ∣ gap whole := by
  unfold unit at h ⊢
  generalize 1074 = e at h ⊢
  exact dvd_gap h

/-- The quotient of an exact multiple is an integer, rounded or not. -/
theorem isNearInteger_of_multiple {x y : Binary64} {p q : ℚ} {k : Int} (hx : x.exact = .rat p)
    (hy : y.exact = .rat q) (hq : q ≠ 0) (hp : p = k * q) (hk : k.natAbs ≤ Nat.pow 2 200) :
    isNearInteger (x / y) = true := by
  obtain ⟨negative, num, den, hden, ht, -, he⟩ := Rounded.div hx hy hq
  have hnum : num = k.natAbs * unit * den := by
    have hden' : (0 : ℚ) < den := by exact_mod_cast hden
    have habs : |p / q| = (k.natAbs : Nat) := by
      rw [hp, mul_div_cancel_right₀ _ hq, ← Int.cast_natCast, Int.natCast_natAbs, Int.cast_abs]
    rw [habs, div_eq_iff hden'.ne'] at ht
    exact_mod_cast ht
  have hwhole : num / den = k.natAbs * unit := by rw [hnum, Nat.mul_div_cancel _ hden]
  have hlt : roundQuanta num den < overflow := by
    refine roundQuanta_lt_overflow (k := 200) hden (by decide) ?_
    rw [hnum]
    exact Nat.mul_le_mul_right den (Nat.mul_le_mul_right unit hk)
  have hdvd : unit ∣ roundQuanta num den := by
    by_cases hsmall : k.natAbs < fiftyFourBits
    · rw [roundQuanta_exact hden (gap_dvd (representable_mul_unit hsmall)) hnum]
      exact Nat.dvd_mul_left _ _
    · have hgap : unit ∣ gap (num / den) := by
        have hlarge : 2 ^ 52 ≤ k.natAbs := by
          unfold fiftyFourBits at hsmall
          omega
        rw [hwhole]
        exact unit_dvd_gap (Nat.mul_le_mul_right unit hlarge)
      exact hgap.trans (gap_dvd_roundQuanta num den)
  obtain ⟨j, hj⟩ := hdvd
  rw [he]
  simp only [ofQuanta, hlt, ↓reduceDIte]
  refine isNearInteger_finite.mpr ⟨j, ?_⟩
  rw [hj, Nat.cast_mul, mul_div_cancel_left₀ _ unit_pos_rat.ne', sub_self, abs_zero]
  exact div_nonneg (Nat.cast_nonneg _) (Nat.cast_nonneg _)

end JsonSchema.Number
