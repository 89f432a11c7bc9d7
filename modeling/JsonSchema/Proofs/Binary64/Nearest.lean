import JsonSchema.Binary64.Arith
import Mathlib.Algebra.Order.Field.Rat
import Mathlib.Data.Nat.Cast.Order.Field
import Mathlib.Tactic.FieldSimp
import Mathlib.Tactic.GCongr
import Mathlib.Tactic.Linarith
import Mathlib.Tactic.Positivity
import Mathlib.Tactic.Ring

namespace JsonSchema

theorem divNearest_cases (n d : Nat) :
    divNearest n d = n / d ∧ 2 * (n % d) ≤ d ∨
      divNearest n d = n / d + 1 ∧ d ≤ 2 * (n % d) := by
  unfold divNearest
  grind

theorem divNearest_le_of_le {n d m : Nat} (hd : 0 < d) (h : n ≤ m * d) : divNearest n d ≤ m := by
  have hsplit := Nat.div_add_mod n d
  have hrest := Nat.mod_lt n hd
  have hwhole : n / d ≤ m := Nat.div_le_of_le_mul (by rwa [Nat.mul_comm])
  rcases Nat.lt_or_eq_of_le hwhole with hlt | heq
  · exact (divNearest_le n d).trans hlt
  · have hexact : n % d = 0 := by
      rw [heq, Nat.mul_comm] at hsplit
      omega
    simp [divNearest, hexact, hd, heq]

theorem le_divNearest_of_le {n d m : Nat} (hd : 0 < d) (h : m * d ≤ n) : m ≤ divNearest n d := by
  have hwhole : m ≤ n / d := (Nat.le_div_iff_mul_le hd).mpr h
  rcases divNearest_cases n d with ⟨he, -⟩ | ⟨he, -⟩ <;> omega

/-- The nearest whole number is half a unit away at most. -/
theorem divNearest_error {n d : Nat} (hd : 0 < d) :
    |(divNearest n d : ℚ) - n / d| ≤ 1 / 2 := by
  have hd' : (0 : ℚ) < d := by exact_mod_cast hd
  have hsplit : (n : ℚ) = d * (n / d : Nat) + (n % d : Nat) := by
    exact_mod_cast (Nat.div_add_mod n d).symm
  have hrest : ((n % d : Nat) : ℚ) ≤ d := by exact_mod_cast (Nat.mod_lt n hd).le
  have hrest' : (0 : ℚ) ≤ (n % d : Nat) := Nat.cast_nonneg _
  rw [sub_div' hd'.ne', abs_div, abs_of_pos hd', div_le_iff₀ hd', abs_le]
  rcases divNearest_cases n d with ⟨he, hr⟩ | ⟨he, hr⟩
  · have hr : (2 * (n % d : Nat) : ℚ) ≤ d := by exact_mod_cast hr
    rw [he, hsplit]
    constructor <;> linarith
  · have hr : (d : ℚ) ≤ 2 * (n % d : Nat) := by exact_mod_cast hr
    rw [he, hsplit]
    push_cast
    constructor <;> linarith

namespace Binary64

theorem log2_mono {m n : Nat} (h : m ≤ n) : m.log2 ≤ n.log2 := by
  by_cases hm : m = 0
  · simp [hm]
  · exact (Nat.le_log2 (by omega)).mpr ((Nat.log2_self_le hm).trans h)

/-- The step between neighbours of the format, at a whole number of quanta. -/
def gap (whole : Nat) : Nat := Nat.pow 2 (whole.log2 - 52)

theorem gap_dvd {quanta : Nat} (h : Representable quanta) : gap quanta ∣ quanta := h.2

theorem gap_pos (whole : Nat) : 0 < gap whole := Nat.two_pow_pos _

theorem roundQuanta_eq (num den : Nat) :
    roundQuanta num den = divNearest num (den * gap (num / den)) * gap (num / den) := rfl

theorem gap_dvd_gap {m n : Nat} (h : m ≤ n) : gap m ∣ gap n := by
  have := log2_mono h
  exact Nat.pow_dvd_pow 2 (by omega)

/-- From 2^52 quanta on the gap is at most one part in 2^52. -/
theorem gap_le {whole : Nat} (h : 2 ^ 52 ≤ whole) : gap whole * 2 ^ 52 ≤ whole := by
  have h0 : whole ≠ 0 := by omega
  have hlog : 52 ≤ whole.log2 := (Nat.le_log2 h0).mpr h
  rw [gap, Nat.pow_eq, ← Nat.pow_add, Nat.sub_add_cancel hlog]
  exact Nat.log2_self_le h0

/-- Below 2^53 steps of some size the gap is not larger than this step. -/
theorem gap_dvd_of_lt {whole e : Nat} (h : whole < 2 ^ 53 * Nat.pow 2 e) :
    gap whole ∣ Nat.pow 2 e := by
  by_cases h0 : whole = 0
  · simp [gap, h0]
  · have hlog : whole.log2 < 53 + e := (Nat.log2_lt h0).mpr (by rwa [Nat.pow_add])
    exact Nat.pow_dvd_pow 2 (by omega)

/-- From 2^52 steps on it is not smaller. -/
theorem dvd_gap {whole e : Nat} (h : 2 ^ 52 * Nat.pow 2 e ≤ whole) : Nat.pow 2 e ∣ gap whole := by
  have hpos : 0 < 2 ^ 52 * Nat.pow 2 e := Nat.mul_pos (by decide) (Nat.two_pow_pos e)
  have hlog : 52 + e ≤ whole.log2 := (Nat.le_log2 (by omega)).mpr (by rwa [Nat.pow_add])
  exact Nat.pow_dvd_pow 2 (by omega)

theorem gap_of_lt {whole : Nat} (h : whole < 2 ^ 53) : gap whole = 1 :=
  Nat.dvd_one.mp (gap_dvd_of_lt (e := 0) (by simpa using h))

/-- A number of the format that no multiple of a power of two has its highest bit less than 53
places above it. -/
theorem lt_of_not_dvd {quanta e : Nat} (hg : gap quanta ∣ quanta) (h : ¬ Nat.pow 2 e ∣ quanta) :
    quanta < 2 ^ 52 * Nat.pow 2 e := by
  have hq : quanta ≠ 0 := by
    rintro rfl
    exact h (Nat.dvd_zero _)
  have hlog : quanta.log2 < 52 + e := by
    by_contra hge
    have hpow : Nat.pow 2 e ∣ gap quanta := Nat.pow_dvd_pow 2 (by omega)
    exact h (hpow.trans hg)
  rw [Nat.pow_eq, ← Nat.pow_add]
  exact (Nat.log2_lt hq).mp hlog

/-- Rounding up does not pass a number of the format. -/
theorem roundQuanta_le {num den f : Nat} (hden : 0 < den) (hf : gap f ∣ f) (h : num ≤ f * den) :
    roundQuanta num den ≤ f := by
  have hwhole : num / den ≤ f := Nat.div_le_of_le_mul (by rwa [Nat.mul_comm])
  obtain ⟨m, hm⟩ := (gap_dvd_gap hwhole).trans hf
  have hgap := gap_pos (num / den)
  rw [roundQuanta_eq]
  generalize gap (num / den) = p at hm hgap ⊢
  have hround : divNearest num (den * p) ≤ m := by
    apply divNearest_le_of_le (Nat.mul_pos hden hgap)
    rw [hm] at h
    calc num ≤ p * m * den := h
      _ = m * (den * p) := by ring
  calc divNearest num (den * p) * p ≤ m * p := Nat.mul_le_mul_right p hround
    _ = f := by rw [hm, Nat.mul_comm]

theorem le_roundQuanta_of_dvd {num den f : Nat} (hden : 0 < den) (hf : gap (num / den) ∣ f)
    (h : f * den ≤ num) : f ≤ roundQuanta num den := by
  obtain ⟨m, hm⟩ := hf
  have hgap := gap_pos (num / den)
  rw [roundQuanta_eq]
  generalize gap (num / den) = p at hm hgap ⊢
  have hround : m ≤ divNearest num (den * p) := by
    apply le_divNearest_of_le (Nat.mul_pos hden hgap)
    rw [hm] at h
    calc m * (den * p) = p * m * den := by ring
      _ ≤ num := h
  calc f = m * p := by rw [hm, Nat.mul_comm]
    _ ≤ divNearest num (den * p) * p := Nat.mul_le_mul_right p hround

/-- Rounding down does not pass a number of the format. -/
theorem le_roundQuanta {num den f : Nat} (hden : 0 < den) (hf : gap f ∣ f) (h : f * den ≤ num) :
    f ≤ roundQuanta num den := by
  by_cases hfine : gap (num / den) ∣ f
  · exact le_roundQuanta_of_dvd hden hfine h
  · -- Then `f` is below the power of two at which the step of the quotient begins.
    have hpos : num / den ≠ 0 := by
      rintro h0
      exact hfine (by simp [h0, gap])
    have hlow : 2 ^ (num / den).log2 * den ≤ num :=
      (Nat.le_div_iff_mul_le hden).mp (Nat.log2_self_le hpos)
    have hlt : f < 2 ^ (num / den).log2 := by
      by_contra hge
      have hf0 : f ≠ 0 := by
        rintro rfl
        simp at hfine
      have hlog : (num / den).log2 ≤ f.log2 := (Nat.le_log2 hf0).mpr (not_lt.mp hge)
      have hgap : gap (num / den) ∣ gap f := Nat.pow_dvd_pow 2 (by omega)
      exact hfine (hgap.trans hf)
    have hdvd : gap (num / den) ∣ 2 ^ (num / den).log2 := Nat.pow_dvd_pow 2 (by omega)
    exact hlt.le.trans (le_roundQuanta_of_dvd hden hdvd hlow)

/-- A result that the format holds is exact. -/
theorem roundQuanta_exact {num den f : Nat} (hden : 0 < den) (hf : gap f ∣ f)
    (h : num = f * den) : roundQuanta num den = f :=
  Nat.le_antisymm (roundQuanta_le hden hf h.le) (le_roundQuanta hden hf h.ge)

/-- A magnitude of the format is its own rounding. -/
theorem roundQuanta_one {quanta : Nat} (h : Representable quanta) : roundQuanta quanta 1 = quanta :=
  roundQuanta_exact one_pos (gap_dvd h) (Nat.mul_one quanta).symm

/-- A rounded quotient is off by half a step of the format. -/
theorem roundQuanta_step (num : Nat) {den : Nat} (hden : 0 < den) :
    |(roundQuanta num den : ℚ) - num / den| ≤ gap (num / den) / 2 := by
  have hden' : (0 : ℚ) < den := by exact_mod_cast hden
  have hgap : (0 : ℚ) < gap (num / den) := by exact_mod_cast gap_pos _
  have herror := divNearest_error (n := num) (Nat.mul_pos hden (gap_pos (num / den)))
  have hscale : (roundQuanta num den : ℚ) - num / den =
      ((divNearest num (den * gap (num / den)) : ℚ) - num / (den * gap (num / den) : Nat)) *
        gap (num / den) := by
    rw [roundQuanta_eq]
    push_cast
    field_simp
  rw [hscale, abs_mul, abs_of_pos hgap]
  calc _ ≤ 1 / 2 * (gap (num / den) : ℚ) := by gcongr
    _ = gap (num / den) / 2 := by ring

theorem gap_dvd_roundQuanta (num den : Nat) : gap (num / den) ∣ roundQuanta num den := by
  rw [roundQuanta_eq]
  exact Nat.dvd_mul_left _ _

/-- A rounded quotient is off by half a quantum, or by one part in 2^53. -/
theorem roundQuanta_error (num : Nat) {den : Nat} (hden : 0 < den) :
    |(roundQuanta num den : ℚ) - num / den| ≤ max (1 / 2) ((num : ℚ) / den / 2 ^ 53) := by
  refine (roundQuanta_step num hden).trans ?_
  by_cases hsmall : num / den < 2 ^ 53
  · rw [gap_of_lt hsmall]
    exact le_max_of_le_left (by norm_num)
  · have hwhole : ((num / den : Nat) : ℚ) ≤ num / den := Nat.cast_div_le
    have hle : (gap (num / den) * 2 ^ 52 : ℚ) ≤ (num / den : Nat) := by
      exact_mod_cast gap_le (by omega)
    refine le_max_of_le_right ?_
    rw [div_le_div_iff₀ (by norm_num) (by positivity)]
    linarith

end Binary64
end JsonSchema
