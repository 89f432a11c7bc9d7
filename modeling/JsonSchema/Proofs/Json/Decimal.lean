import JsonSchema.Proofs.Json.Scaled
import Mathlib.Data.List.TakeDrop

namespace JsonSchema.Json

theorem digitValue_lt {c : Char} (h : c.isDigit = true) : digitValue c < 10 :=
  of_isDigit (P := fun c => digitValue c < 10) (by decide) h

def Exponent.value (e : Exponent) : Int :=
  if e.sign = ['-'] then -digitsValue e.digits else digitsValue e.digits

namespace Numeral

def coefficient (n : Numeral) : Nat := digitsValue (n.whole ++ n.fraction)

def exponentValue (n : Numeral) : Int := n.exponent.elim 0 Exponent.value

def scale (n : Numeral) : Int := n.exponentValue - n.fraction.length

def value (n : Numeral) : ℚ :=
  (if n.negative then -1 else 1) * (n.coefficient * 10 ^ n.scale)

theorem span_digits {digits rest : List Char} (h : ∀ c ∈ digits, c.isDigit = true)
    (hrest : ∀ c ∈ rest.head?, c.isDigit = false) :
    (digits ++ rest).span Char.isDigit = (digits, rest) := by
  have htake : rest.takeWhile Char.isDigit = [] := by
    cases rest with
    | nil => rfl
    | cons c more => exact List.takeWhile_cons_of_neg (by simp [hrest c (by simp)])
  have hdrop : rest.dropWhile Char.isDigit = rest := by
    cases rest with
    | nil => rfl
    | cons c more => exact List.dropWhile_cons_of_neg (by simp [hrest c (by simp)])
  rw [List.span_eq_takeWhile_dropWhile, List.takeWhile_append_of_pos h,
    List.dropWhile_append_of_pos h, htake, hdrop, List.append_nil]

def read (n : Numeral) : Scaled :=
  Scaled.read (n.whole.map digitValue) (n.fraction.map digitValue)

theorem exponentChars_head (n : Numeral) : ∀ c ∈ n.exponentChars.head?, c = 'e' ∨ c = 'E' := by
  unfold exponentChars
  cases n.exponent with
  | none => simp
  | some e => simpa [Exponent.chars] using e.isMark

theorem splitFraction_chars (n : Numeral) :
    splitFraction (n.fractionChars ++ n.exponentChars) = (n.fraction, n.exponentChars) := by
  have hexp := n.exponentChars_head
  unfold fractionChars
  split
  · rename_i hnil
    rw [List.nil_append, hnil]
    cases he : n.exponentChars with
    | nil => rfl
    | cons c rest =>
      rw [he] at hexp
      rcases hexp c rfl with rfl | rfl <;> rfl
  · refine span_digits n.fraction_isDigit fun c hc => ?_
    rcases hexp c hc with rfl | rfl <;> rfl

theorem splitExponent_chars (e : Exponent) :
    splitExponent e.chars = (decide (e.sign = ['-']), e.digits) := by
  unfold Exponent.chars
  rcases e.isSign with hs | hs | hs <;> rw [hs]
  · obtain ⟨c, more, hd⟩ := List.exists_cons_of_ne_nil e.digits_ne_nil
    have hc := e.isDigit c (by rw [hd]; exact List.mem_cons_self)
    rw [hd, List.nil_append, splitExponent]
    · rfl
    · rintro digits h
      rw [(List.cons.inj h).1] at hc
      cases hc
    · rintro digits h
      rw [(List.cons.inj h).1] at hc
      cases hc
  · rfl
  · rfl

/-- An exponent that is too large for a machine word leaves nothing of a literal or makes it too
large, unless it is zero. -/
theorem magnitude?_eq (n : Numeral) :
    magnitude? n.magnitude =
      if n.exponentValue.natAbs ≤ exponentLimit then
        Scaled.toFloat? { n.read with
          exponent := clampExponent (n.read.exponent + n.exponentValue) }
      else if n.exponentValue < 0 ∨ n.read.significand = 0 then some (.ofNat 0)
      else none := by
  have hwhole : n.magnitude.span Char.isDigit = (n.whole, n.fractionChars ++ n.exponentChars) := by
    refine span_digits n.whole_isDigit fun c hc => ?_
    unfold fractionChars at hc
    split at hc
    · rcases n.exponentChars_head c hc with rfl | rfl <;> rfl
    · cases hc
      rfl
  unfold magnitude?
  simp only [hwhole, splitFraction_chars]
  unfold exponentChars exponentValue
  cases n.exponent with
  | none => simp [splitExponent, digitsValue, exponentLimit, read, Scaled.read]
  | some e =>
    simp only [Option.elim, splitExponent_chars, Exponent.value, decide_eq_true_eq, read,
      Scaled.read]
    by_cases hlimit : (digitsValue e.digits : Int) ≤ exponentLimit
    · by_cases hs : e.sign = ['-'] <;> simp [hs, hlimit, Int.sub_eq_add_neg]
    · have hpos : 0 < digitsValue e.digits := by
        unfold exponentLimit at hlimit
        omega
      have hnot : ¬ (digitsValue e.digits : Int) < 0 := by omega
      by_cases hs : e.sign = ['-'] <;> simp [hs, hlimit, hpos, hnot]

/-- How a number between 10^-9 and 10^15 can be scaled. -/
theorem exponent_bounds {c digits : Nat} {e : Int} (h0 : c ≠ 0) (hc : c < 10 ^ digits)
    (hlow : 1 / 10 ^ 9 ≤ (c : ℚ) * 10 ^ e) (hhigh : (c : ℚ) * 10 ^ e ≤ 10 ^ 15) :
    -9 - digits < e ∧ e ≤ 15 := by
  have hpow : (0 : ℚ) < 10 ^ e := by positivity
  have hone : (1 : ℚ) ≤ c := by exact_mod_cast Nat.one_le_iff_ne_zero.mpr h0
  have hlt : (c : ℚ) < 10 ^ digits := by exact_mod_cast hc
  constructor
  · have hsum : (10 : ℚ) ^ (-9 : Int) < 10 ^ (digits + e : Int) := by
      rw [zpow_add₀ (by norm_num), zpow_natCast]
      calc (10 : ℚ) ^ (-9 : Int) = 1 / 10 ^ 9 := by norm_num
        _ ≤ c * 10 ^ e := hlow
        _ < 10 ^ digits * 10 ^ e := by gcongr
    have := (zpow_lt_zpow_iff_right₀ (by norm_num)).mp hsum
    omega
  · have hle : (10 : ℚ) ^ e ≤ 10 ^ (15 : Int) := by
      calc (10 : ℚ) ^ e = 1 * 10 ^ e := (one_mul _).symm
        _ ≤ c * 10 ^ e := by gcongr
        _ ≤ 10 ^ 15 := hhigh
    exact (zpow_le_zpow_iff_right₀ (by norm_num)).mp hle

section Reading
variable {n : Numeral}

theorem coefficient_eq (n : Numeral) :
    n.coefficient = appended 0 (n.whole.map digitValue ++ n.fraction.map digitValue) := by
  rw [coefficient, digitsValue_eq, List.map_append]

theorem digit_lt {cs : List Char} (h : ∀ c ∈ cs, c.isDigit = true) :
    ∀ d ∈ cs.map digitValue, d < 10 := by
  intro d hd
  obtain ⟨c, hc, rfl⟩ := List.mem_map.mp hd
  exact digitValue_lt (h c hc)

theorem coefficient_lt (n : Numeral) :
    n.coefficient < 10 ^ (n.whole.length + n.fraction.length) := by
  have hdigits : ∀ d ∈ n.whole.map digitValue ++ n.fraction.map digitValue, d < 10 := by
    intro d hd
    rcases List.mem_append.mp hd with hd | hd
    · exact digit_lt n.whole_isDigit d hd
    · exact digit_lt n.fraction_isDigit d hd
  have := appended_lt hdigits
  rwa [← coefficient_eq, List.length_append, List.length_map, List.length_map] at this

theorem read_value (hfew : FewDigits n.coefficient) :
    n.read.significand < UInt64.size ∧
      n.read.value = n.coefficient * 10 ^ (-n.fraction.length : Int) := by
  rw [coefficient_eq] at hfew ⊢
  have := Scaled.read_value (digit_lt n.whole_isDigit) (digit_lt n.fraction_isDigit) hfew
  rwa [List.length_map] at this

theorem read_fits (h : n.coefficient < UInt64.size) : n.read.significand = n.coefficient := by
  rw [coefficient_eq] at h ⊢
  rw [read, Scaled.read_fits h]

theorem length_le_magnitude (n : Numeral) :
    n.whole.length + n.fraction.length ≤ n.magnitude.length := by
  rw [magnitude, fractionChars]
  split
  · rename_i h
    simp [h]
  · simp
    omega

theorem read_eq_zero_iff (hfew : FewDigits n.coefficient) :
    n.read.significand = 0 ↔ n.coefficient = 0 := by
  have hvalue := (read_value hfew).2
  rw [Scaled.value] at hvalue
  constructor
  · intro h
    rw [h, Nat.cast_zero, zero_mul] at hvalue
    simpa [zpow_ne_zero] using hvalue.symm
  · intro h
    rw [h, Nat.cast_zero, zero_mul] at hvalue
    simpa [zpow_ne_zero] using hvalue

theorem exponentValue_eq (n : Numeral) : n.exponentValue = n.scale + n.fraction.length := by
  rw [scale]
  omega

/-- With the exponent that is written the digits stand for the value. -/
theorem read_scaled (hfew : FewDigits n.coefficient) :
    (⟨n.read.significand, n.read.exponent + n.exponentValue⟩ : Scaled).value =
      n.coefficient * 10 ^ n.scale := by
  have hvalue := (read_value hfew).2
  rw [Scaled.value] at hvalue ⊢
  rw [zpow_add₀ (by norm_num), ← mul_assoc, hvalue, mul_assoc, ← zpow_add₀ (by norm_num),
    exponentValue_eq]
  congr 2
  omega

section Range
variable (h0 : n.coefficient ≠ 0) (hlow : 1 / 10 ^ 9 ≤ (n.coefficient : ℚ) * 10 ^ n.scale)
  (hhigh : (n.coefficient : ℚ) * 10 ^ n.scale ≤ 10 ^ 15)
include h0 hlow hhigh

/-- The exponent makes up for the digits, of which there are not too many. -/
theorem exponentValue_le (hlength : n.chars.length ≤ 2000000000) :
    (n.exponentValue.natAbs : Int) ≤ exponentLimit := by
  have hscale := exponent_bounds h0 n.coefficient_lt hlow hhigh
  have hdigits : n.whole.length + n.fraction.length ≤ 2000000000 := by
    refine n.length_le_magnitude.trans (le_trans ?_ hlength)
    unfold chars
    split <;> simp
  have hexponent := n.exponentValue_eq
  unfold exponentLimit
  push_cast at hscale
  omega

/-- Nothing is cut off from the exponent of the digits. -/
theorem clampExponent_eq (hfew : FewDigits n.coefficient) :
    clampExponent (n.read.exponent + n.exponentValue) = n.read.exponent + n.exponentValue := by
  have hs := (read_value hfew).1
  have hs0 : n.read.significand ≠ 0 := fun h => h0 ((read_eq_zero_iff hfew).mp h)
  rw [← read_scaled hfew] at hlow hhigh
  have hbounds : -9 - (20 : Nat) < n.read.exponent + n.exponentValue ∧
      n.read.exponent + n.exponentValue ≤ 15 :=
    exponent_bounds hs0 (hs.trans (by decide)) hlow hhigh
  unfold clampExponent exponentLimit
  omega

end Range

/-- The digits and the exponent that the magnitude of a literal is told from. -/
theorem magnitude?_scaled (hfew : FewDigits n.coefficient) (hlength : n.chars.length ≤ 2000000000)
    (hrange : n.coefficient ≠ 0 → 1 / 10 ^ 9 ≤ (n.coefficient : ℚ) * 10 ^ n.scale ∧
      (n.coefficient : ℚ) * 10 ^ n.scale ≤ 10 ^ 15) :
    ∃ s : Scaled, magnitude? n.magnitude = s.toFloat? ∧ s.significand < UInt64.size ∧
      s.value = n.coefficient * 10 ^ n.scale ∧
      (n.coefficient < UInt64.size → s.significand = n.coefficient) := by
  have hsmall := (read_value hfew).1
  rw [magnitude?_eq]
  by_cases h0 : n.coefficient = 0
  · have hs := (read_eq_zero_iff hfew).mpr h0
    split
    · exact ⟨_, rfl, hsmall, by simp [Scaled.value, hs, h0], fun _ => by simp [hs, h0]⟩
    · rw [if_pos (.inr hs)]
      exact ⟨⟨0, 0⟩, by decide +kernel, by decide, by simp [Scaled.value, h0], fun _ => h0.symm⟩
  · obtain ⟨hlow, hhigh⟩ := hrange h0
    rw [if_pos (exponentValue_le h0 hlow hhigh hlength), clampExponent_eq h0 hlow hhigh hfew]
    exact ⟨_, rfl, hsmall, read_scaled hfew, read_fits⟩

end Reading

end Numeral
end JsonSchema.Json
