import JsonSchema.Json.Reader
import JsonSchema.Proofs.Json.Quoted
import JsonSchema.Proofs.Json.Reading
import JsonSchema.Proofs.Number.Close
import JsonSchema.Proofs.Schema.Compiled

namespace JsonSchema
namespace Number
open Binary64 Json

/-- A quotient is close enough to an integer to be taken for it. -/
def Close (t : ℚ) (k : Int) : Prop :=
  |t| < 2 ^ 23 ∧ (|t - k| ≤ 1 / 2 ^ 30 ∨
    ∃ s ≤ 1000, 2 ^ 22 / 2 ^ s ≤ |t| ∧ |t - k| < 1 / 2 ^ 30 + 1 / 2 ^ (31 + s))

/-- An error that grows with the quotient. As long as it stays below 2^-30 this is enough, and where
it exceeds that the quotient has reached the range in which it may be larger. -/
theorem close_of_error {t part high : ℚ} {k : Int} (s : Nat) (low : ℚ) (hs : s ≤ 1000)
    (h : |t - k| ≤ part * |(k : ℚ)|) (hpart : 0 ≤ part) (hpart' : part ≤ 1)
    (hlow : |(k : ℚ)| ≤ low → part * low ≤ 1 / 2 ^ 30) (hlow' : 2 ^ 22 / 2 ^ s ≤ (1 - part) * low)
    (hk : |(k : ℚ)| ≤ high) (hhigh : (1 + part) * high < 2 ^ 23)
    (hhigh' : part * high < 1 / 2 ^ 30 + 1 / 2 ^ (31 + s)) : Close t k := by
  have htri := abs_le.mp ((abs_abs_sub_abs_le _ _).trans h)
  have herror : part * |(k : ℚ)| ≤ part * high := mul_le_mul_of_nonneg_left hk hpart
  refine ⟨by linarith, ?_⟩
  by_cases hsmall : |(k : ℚ)| ≤ low
  · left
    exact h.trans ((mul_le_mul_of_nonneg_left hsmall hpart).trans (hlow hsmall))
  · right
    have hmain : (1 - part) * low ≤ (1 - part) * |(k : ℚ)| :=
      mul_le_mul_of_nonneg_left (not_le.mp hsmall).le (sub_nonneg.mpr hpart')
    exact ⟨s, hs, by linarith, h.trans_lt (herror.trans_lt hhigh')⟩

section Multiple
variable {sx sd : Prop} {x d : Number} {v w : ℚ} {k : Int}

/-- How often a divisor may be contained in a number that it divides: a limit that depends on how
the two are written, or none if both are floats. -/
def WithinReach (sx sd : Prop) (v w : ℚ) (k : Int) : Prop :=
  |k| ≤ 1880000 ∨ sx ∧ sd ∧ (|k| ≤ 3800000 ∨ 1 / 10 ^ 8 < w ∧ |k| ≤ 6290000 ∨
    (∃ z : Binary64, z.exact = .rat v) ∧ ∃ z : Binary64, z.exact = .rat w)

/-- The quotient of two floats is taken for an integer if that of the values they are near to is
one, and this one is not too large. -/
theorem isNearInteger_of_near {a b : ℚ} (hx : Near a x.toFloat v) (hd : Near b d.toFloat w)
    (ha : 0 ≤ a) (hb : 0 ≤ b) (hb' : b < 1) (hw : 0 < w) (hv : v = k * w)
    (part : ℚ) (hpart : (a + b) / (1 - b) ≤ part)
    (hclose : ∀ t : ℚ, |t - k| ≤ part * |(k : ℚ)| → Close t k) :
    isNearInteger (x.toFloat / d.toFloat) = true := by
  obtain ⟨p, hp, hpv⟩ := hx
  obtain ⟨q, hq, hqw⟩ := hd
  rw [abs_of_pos hw] at hqw
  have hpos : 0 < q := by nlinarith [(abs_le.mp hqw).1]
  have hmove := quotient_error hw ha hb hb' hpv hqw
  rw [hv, mul_div_cancel_right₀ _ hw.ne'] at hmove
  obtain ⟨hlt, hnear⟩ := hclose _ (hmove.trans (by gcongr))
  exact isNearInteger_of_close hp hq hpos.ne' hlt hnear

theorem isNearInteger_of_reach (hx : ReadAs sx x.toFloat v) (hd : ReadAs sd d.toFloat w)
    (hw : 1 / 10 ^ 9 ≤ w) (hv : v = k * w) (hv' : |v| ≤ 10 ^ 15) (hk : WithinReach sx sd v w k) :
    isNearInteger (x.toFloat / d.toFloat) = true := by
  have hpos : 0 < w := lt_of_lt_of_le (by norm_num) hw
  have habs : |v| = |(k : ℚ)| * w := by rw [hv, abs_mul, abs_of_pos hpos]
  have hcast {n : Int} (h : |k| ≤ n) : |(k : ℚ)| ≤ n := by exact_mod_cast h
  by_cases hsmall : |k| ≤ 1000000
  · exact isNearInteger_of_near hx.near hd.near (by norm_num) (by norm_num) (by norm_num) hpos hv
      (60003 / 10000 / 2 ^ 53) (by norm_num) fun t h =>
        close_of_error 2 1300000 (by decide) h (by norm_num) (by norm_num)
          (fun _ => by norm_num) (by norm_num) (hcast hsmall) (by norm_num) (by norm_num)
  -- A number that is so many times the divisor is large itself, and was rounded twice at most.
  have hv3 : 1 / 10 ^ 3 ≤ |v| := by
    have hlarge : (1000000 : ℚ) ≤ |(k : ℚ)| := by exact_mod_cast (not_le.mp hsmall).le
    rw [habs]
    calc (1 / 10 ^ 3 : ℚ) = 1000000 * (1 / 10 ^ 9) := by norm_num
      _ ≤ |(k : ℚ)| * w := by gcongr
  have hv8 : 1 / 10 ^ 8 < |v| := lt_of_lt_of_le (by norm_num) hv3
  rcases hk with hk | ⟨hsx, hsd, hk | ⟨hw8, hk⟩ | ⟨⟨y, hy⟩, z, hz⟩⟩
  · exact isNearInteger_of_near (hx.near_of_large hv3) hd.near (by norm_num) (by norm_num)
      (by norm_num) hpos hv (50003 / 10000 / 2 ^ 53) (by norm_num) fun t h =>
        close_of_error 2 1600000 (by decide) h (by norm_num) (by norm_num)
          (fun _ => by norm_num) (by norm_num) (hcast hk) (by norm_num) (by norm_num)
  · exact isNearInteger_of_near (hx.nearest_of_short hsx hv8) (hd.near_of_short hsd) (by norm_num)
      (by norm_num) (by norm_num) hpos hv (27558 / 10000 / 2 ^ 53) (by norm_num) fun t h =>
        close_of_error 1 3000000 (by decide) h (by norm_num) (by norm_num)
          (fun _ => by norm_num) (by norm_num) (hcast hk) (by norm_num) (by norm_num)
  · refine isNearInteger_of_near (hx.nearest_of_short hsx hv8)
      (hd.nearest_of_short hsd (by rwa [abs_of_pos hpos])) (by norm_num) (by norm_num)
      (by norm_num) hpos hv (20001 / 10000 / 2 ^ 53) (by norm_num) fun t h => ?_
    -- The steps of the format double at 2^22, which the error passes where it passes 2^-30.
    by_cases hmiddle : |(k : ℚ)| ≤ 4195000
    · exact close_of_error 1 4000000 (by decide) h (by norm_num) (by norm_num)
        (fun _ => by norm_num) (by norm_num) hmiddle (by norm_num) (by norm_num)
    · exact close_of_error 0 4195000 (by decide) h (by norm_num) (by norm_num)
        (fun hle => absurd hle hmiddle) (by norm_num) (hcast hk) (by norm_num) (by norm_num)
  · refine isNearInteger_of_multiple (hx.exact_of_short hsx y hy) (hd.exact_of_short hsd z hz)
      hpos.ne' hv ?_
    have hle : |(k : ℚ)| ≤ 10 ^ 24 := by
      rw [habs] at hv'
      have : |(k : ℚ)| * (1 / 10 ^ 9) ≤ 10 ^ 15 := le_trans (by gcongr) hv'
      linarith
    have hle' : |k| ≤ 10 ^ 24 := by exact_mod_cast hle
    rw [Int.abs_eq_natAbs] at hle'
    have : k.natAbs ≤ 10 ^ 24 := by exact_mod_cast hle'
    exact this.trans (by decide)

/-- Numbers that are read from decimal values divide as these do. -/
theorem isMultipleOf_of_reach (hx : ReadFrom sx x v) (hd : ReadFrom sd d w) (hw : 1 / 10 ^ 9 ≤ w)
    (hv : v = k * w) (hv' : |v| ≤ 10 ^ 15) (hk : WithinReach sx sd v w k) :
    x.isMultipleOf d = true := by
  have hpos : 0 < w := lt_of_lt_of_le (by norm_num) hw
  by_cases hwide : x.toWideInt?.isSome = true ∧ d.toWideInt?.isSome = true
  · -- What is read as an integer is the value that is written, so the remainder is that of the
    -- values.
    obtain ⟨hi, hj⟩ := hwide
    obtain ⟨i, hi⟩ := Option.isSome_iff_exists.mp hi
    obtain ⟨j, hj⟩ := Option.isSome_iff_exists.mp hj
    have hvi := hx.eq_of_integer (toWideInt?_eq_some.mp hi).1
    have hwj := hd.eq_of_integer (toWideInt?_eq_some.mp hj).1
    rw [hvi, hwj] at hv
    rw [hwj] at hpos
    refine (isMultipleOf_wide hi hj).mpr ⟨?_, k, ?_⟩
    · rintro rfl
      simp at hpos
    · rw [mul_comm]
      exact_mod_cast hv
  · rw [isMultipleOf_rounded (by simpa [imp_iff_not_or] using hwide),
      isNearInteger_of_reach hx.near hd.near hw hv hv' hk, Bool.and_true, Bool.not_eq_true']
    obtain ⟨q, hq, hq0⟩ := hd.exact_pos hpos
    rw [Bool.eq_false_iff, ne_eq, isZero_iff, hd.toFloat_exact, hq, Exact.rat_inj]
    exact hq0.ne'

end Multiple
end Number

namespace Json

def multipleOfText (n : Numeral) : String :=
  "\x7b\"multipleOf\":" ++ String.ofList n.chars ++ "\x7d"

def Numeral.plain (whole fraction : String)
    (h : whole.toList ≠ [] ∧ (whole.toList.head? = some '0' → whole.toList.length = 1) ∧
      (whole.toList ++ fraction.toList).all Char.isDigit = true) : Numeral where
  negative := false
  whole := whole.toList
  fraction := fraction.toList
  exponent := none
  whole_ne_nil := h.1
  whole_isDigit c hc := List.all_eq_true.mp h.2.2 c (List.mem_append_left _ hc)
  leading_zero rest hw := by simpa [hw] using h.2.1
  fraction_isDigit c hc := List.all_eq_true.mp h.2.2 c (List.mem_append_right _ hc)

section Texts
variable {n : Numeral} {m : Number}

theorem parse?_literal (h : numberOfLiteral? n.chars = some m) :
    Value.parse? (String.ofList n.chars) = some (.number m) := by
  have htokens := n.tokensFrom_chars Delimited.nil
  rw [List.append_nil, h] at htokens
  rw [Value.parse?, tokens, String.toList_ofList, htokens]
  rfl

theorem parse?_multipleOfText (h : numberOfLiteral? n.chars = some m) :
    Value.parse? (multipleOfText n) = some (.object [("multipleOf", .number m)]) := by
  have hend : Delimited ['\x7d'] := by
    intro c hc
    cases hc
    decide
  have htext : (multipleOfText n).toList =
      '\x7b' :: (Value.quoted "multipleOf" ++ ':' :: (n.chars ++ ['\x7d'])) := by
    have hprefix : "\x7b\"multipleOf\":".toList =
        '\x7b' :: (Value.quoted "multipleOf" ++ [':']) := by decide +kernel
    have hsuffix : "\x7d".toList = ['\x7d'] := by decide +kernel
    simp [multipleOfText, String.toList_append, hprefix, hsuffix]
  have htokens : tokens (multipleOfText n) =
      [.openObject, .string (some "multipleOf"), .colon, .number (some m), .closeObject] := by
    have hnumber := n.tokensFrom_chars hend
    rw [h] at hnumber
    rw [tokens, htext]
    change .openObject :: tokensFrom .between (Value.quoted "multipleOf" ++ _) = _
    rw [tokensFrom_quoted]
    change .openObject :: _ :: .colon :: tokensFrom .between (n.chars ++ ['\x7d']) = _
    rw [hnumber]
    rfl
  rw [Value.parse?, htokens]
  rfl

end Texts
end Json

namespace Draft4
open Binary64 Json

theorem compile_multipleOf {m : Number} (h : m.isPositive = true) :
    Registry.draft4.compile .root (.object [("multipleOf", .number m)]) =
      .ok (.all [.check (.multipleOf m)]) := by
  have hrule (site : Site) : Registry.draft4.apply Keyword.multipleOf site (.number m) =
      .ok (.check (.multipleOf m)) := Keyword.multipleOf_ok.mpr ⟨m, h, rfl, rfl⟩
  exact Registry.compile_keyword .multipleOf (hrule _)

/-- Two literals of few significant digits, of which the second one writes a multiple of the first.
-/
structure DecimalMultiple (d x : Numeral) (k : Int) : Prop where
  few_digits : FewDigits d.coefficient ∧ FewDigits x.coefficient
  divisor_range : 1 / 10 ^ 9 ≤ d.value ∧ d.value ≤ 10 ^ 15
  range : x.value = 0 ∨ 1 / 10 ^ 9 ≤ |x.value| ∧ |x.value| ≤ 10 ^ 15
  eq_mul : x.value = k * d.value

def verdict? (d x : Numeral) : Option Bool := do
  let document ← Value.parse? (multipleOfText d)
  let rule ← (Registry.draft4.compile .root document).toOption
  let candidate ← Value.parse? (String.ofList x.chars)
  return rule.accepts candidate

theorem verdict?_eq {d x : Numeral} {m n : Number} (hm : numberOfLiteral? d.chars = some m)
    (hn : numberOfLiteral? x.chars = some n) (hpositive : m.isPositive = true) :
    verdict? d x = some (n.isMultipleOf m) := by
  rw [verdict?, parse?_multipleOfText hm, parse?_literal hn]
  simp [compile_multipleOf hpositive, Except.toOption, Rule.accepts, Rule.acceptsAll, Check.accepts]

/-- Decimal multiples are accepted as long as the divisor is not contained in them too often. -/
theorem accepts_decimal_multiple {d x : Numeral} {k : Int} (h : DecimalMultiple d x k)
    (hlength : d.chars.length ≤ 2000000000 ∧ x.chars.length ≤ 2000000000)
    (hk : Number.WithinReach (x.coefficient ≤ 10 ^ 15) (d.coefficient ≤ 10 ^ 15) x.value d.value
      k) :
    verdict? d x = some true := by
  have hpos : 0 < d.value := lt_of_lt_of_le (by norm_num) h.divisor_range.1
  have hdrange : 1 / 10 ^ 9 ≤ |d.value| ∧ |d.value| ≤ 10 ^ 15 := by
    rw [abs_of_pos hpos]
    exact h.divisor_range
  obtain ⟨m, hm, hmreads⟩ := Numeral.reads (.inr hdrange) h.few_digits.1 hlength.1
  obtain ⟨n, hn, hnreads⟩ := Numeral.reads h.range h.few_digits.2 hlength.2
  have hpositive : m.isPositive = true := by
    obtain ⟨q, hq, hq0⟩ := hmreads.exact_pos hpos
    rw [Number.isPositive_iff hmreads.canonical, hq]
    exact ⟨Exact.rat_lt_rat.mpr hq0, (Exact.rat_lt_nan q).ne⟩
  have hsmall := abs_le_of_range h.range
  have hmultiple :=
    Number.isMultipleOf_of_reach hnreads hmreads h.divisor_range.1 h.eq_mul hsmall hk
  rw [verdict?_eq hm hn hpositive, hmultiple]

/-- A price in cents. -/
theorem accepts_decimal_multiple_price :
    DecimalMultiple (.plain "0" "01" (by decide +kernel)) (.plain "18799" "99" (by decide +kernel))
        1879999 ∧
      verdict? (.plain "0" "01" (by decide +kernel)) (.plain "18799" "99" (by decide +kernel)) =
        some true := by
  have h : DecimalMultiple (.plain "0" "01" (by decide +kernel))
      (.plain "18799" "99" (by decide +kernel)) 1879999 :=
    ⟨⟨⟨1, 0, by decide +kernel⟩, ⟨1879999, 0, by decide +kernel⟩⟩, by decide +kernel,
      by decide +kernel, by decide +kernel⟩
  exact ⟨h, accepts_decimal_multiple h (by decide +kernel) (.inl (by decide))⟩

/-- The texts of two decimal literals, of which the second one is refused although it writes a
multiple of the first. -/
def Refused (d x : String) (k : Int) : Prop :=
  ∃ m n : Numeral, m.chars = d.toList ∧ n.chars = x.toList ∧ DecimalMultiple m n k ∧
    verdict? m n = some false

theorem refused {m n : Numeral} {d x : String} {k : Int}
    (hfew : FewDigits m.coefficient ∧ FewDigits n.coefficient)
    (h : m.chars = d.toList ∧ n.chars = x.toList ∧ (1 / 10 ^ 9 ≤ m.value ∧ m.value ≤ 10 ^ 15) ∧
      (n.value = 0 ∨ 1 / 10 ^ 9 ≤ |n.value| ∧ |n.value| ≤ 10 ^ 15) ∧ n.value = k * m.value ∧
      verdict? m n = some false) :
    Refused d x k := by
  obtain ⟨hd, hx, hdrange, hrange, hmultiple, hverdict⟩ := h
  exact ⟨m, n, hd, hx, ⟨hfew, hdrange, hrange, hmultiple⟩, hverdict⟩

/-- Multiples that are refused: a count of tenths; a number and a divisor that are both rounded by
almost half a step; a divisor whose power of ten is no float; and literals whose digits are too many
to be exact, because of the zeros at their end. -/
theorem refuses_decimal_multiples :
    Refused "0.1" "838861.2" 8388612 ∧ Refused "310.95899" "2147498643.84849" 6906051 ∧
      Refused "0.00000000199712718000000" "0.00783790735648338" 3924591 ∧
      Refused "0.0000009579856484375000000" "2.311673016876000000" 2413056 := by
  refine ⟨?_, ?_, ?_, ?_⟩
  · exact refused (m := .plain "0" "1" (by decide +kernel))
      (n := .plain "838861" "2" (by decide +kernel))
      ⟨⟨1, 0, by decide +kernel⟩, 8388612, 0, by decide +kernel⟩ (by decide +kernel)
  · exact refused (m := .plain "310" "95899" (by decide +kernel))
      (n := .plain "2147498643" "84849" (by decide +kernel))
      ⟨⟨31095899, 0, by decide +kernel⟩, 214749864384849, 0, by decide +kernel⟩ (by decide +kernel)
  · exact refused (m := .plain "0" "00000000199712718000000" (by decide +kernel))
      (n := .plain "0" "00783790735648338" (by decide +kernel))
      ⟨⟨199712718, 6, by decide +kernel⟩, 783790735648338, 0, by decide +kernel⟩
      (by decide +kernel)
  · exact refused (m := .plain "0" "0000009579856484375000000" (by decide +kernel))
      (n := .plain "2" "311673016876000000" (by decide +kernel))
      ⟨⟨9579856484375, 6, by decide +kernel⟩, 2311673016876, 6, by decide +kernel⟩
      (by decide +kernel)

end Draft4
end JsonSchema
