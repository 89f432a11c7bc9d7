import JsonSchema.Proofs.Json.Numeral
import Mathlib.Algebra.Order.Field.Rat
import Mathlib.Algebra.Order.Field.Power
import Mathlib.Tactic.FieldSimp
import Mathlib.Tactic.NormNum
import Mathlib.Tactic.Ring

namespace JsonSchema.Json

def appended (n : Nat) (digits : List Nat) : Nat :=
  digits.foldl (fun n d => 10 * n + d) n

theorem digitsValue_eq (cs : List Char) : digitsValue cs = appended 0 (cs.map digitValue) := by
  rw [digitsValue, appended, List.foldl_map]

theorem appended_append (n : Nat) (as bs : List Nat) :
    appended n (as ++ bs) = appended (appended n as) bs := by
  rw [appended, List.foldl_append]
  rfl

theorem appended_eq (n : Nat) (digits : List Nat) :
    appended n digits = n * 10 ^ digits.length + appended 0 digits := by
  induction digits generalizing n with
  | nil => simp [appended]
  | cons d rest ih =>
    have hn : appended n (d :: rest) = appended (10 * n + d) rest := rfl
    have h0 : appended 0 (d :: rest) = appended d rest := by simp [appended]
    rw [hn, h0, ih (10 * n + d), ih d, List.length_cons]
    ring

theorem le_appended (n : Nat) (digits : List Nat) : n ≤ appended n digits := by
  rw [appended_eq]
  exact Nat.le_add_right_of_le (Nat.le_mul_of_pos_right n (by positivity))

theorem appended_lt {digits : List Nat} (h : ∀ d ∈ digits, d < 10) :
    appended 0 digits < 10 ^ digits.length := by
  induction digits with
  | nil => simp [appended]
  | cons d rest ih =>
    have hd := h d List.mem_cons_self
    have hrest := ih fun e he => h e (List.mem_cons_of_mem _ he)
    have h0 : appended 0 (d :: rest) = appended d rest := by simp [appended]
    rw [h0, appended_eq, List.length_cons]
    calc
      d * 10 ^ rest.length + appended 0 rest < d * 10 ^ rest.length + 10 ^ rest.length := by omega
      _ = (d + 1) * 10 ^ rest.length := by ring
      _ ≤ 10 * 10 ^ rest.length := Nat.mul_le_mul_right _ hd
      _ = 10 ^ (rest.length + 1) := by ring

/-- At most fifteen digits count in a number: those from the first that is not zero to the last. -/
def FewDigits (n : Nat) : Prop := ∃ c j : Nat, n = c * 10 ^ j ∧ c < 10 ^ 15

namespace FewDigits

theorem div {n : Nat} (h : FewDigits n) (k : Nat) : FewDigits (n / 10 ^ k) := by
  obtain ⟨c, j, rfl, hc⟩ := h
  rcases Nat.le_total k j with hk | hk
  · refine ⟨c, j - k, ?_, hc⟩
    rw [Nat.mul_div_assoc _ (Nat.pow_dvd_pow 10 hk), Nat.pow_div hk (by decide)]
  · refine ⟨c * 10 ^ j / 10 ^ k, 0, by simp, Nat.lt_of_le_of_lt (Nat.div_le_of_le_mul ?_) hc⟩
    rw [Nat.mul_comm]
    exact Nat.mul_le_mul_right c (Nat.pow_le_pow_right (by decide) hk)

theorem of_mul {n k : Nat} (h : FewDigits (n * 10 ^ k)) : FewDigits n := by
  have := h.div k
  rwa [Nat.mul_div_cancel _ (by positivity)] at this

/-- When fifteen digits have been read, only zeros follow. -/
theorem rest_eq_zero {a n rest : Nat} (h : FewDigits (a * 10 ^ n + rest)) (ha : 10 ^ 15 ≤ a)
    (hrest : rest < 10 ^ n) : rest = 0 := by
  obtain ⟨c, j, he, hc⟩ := h
  have hj : n ≤ j := by
    by_contra hlt
    have hpow : 10 ^ j ≤ 10 ^ n := Nat.pow_le_pow_right (by decide) (by omega)
    have hpos : 0 < 10 ^ n := by positivity
    have : c * 10 ^ j < a * 10 ^ n :=
      calc c * 10 ^ j ≤ c * 10 ^ n := Nat.mul_le_mul_left c hpow
        _ < a * 10 ^ n := Nat.mul_lt_mul_of_pos_right (Nat.lt_of_lt_of_le hc ha) hpos
    omega
  have hdvd : 10 ^ n ∣ a * 10 ^ n + rest := by
    rw [he]
    exact Dvd.dvd.mul_left (Nat.pow_dvd_pow 10 hj) c
  exact Nat.eq_zero_of_dvd_of_lt ((Nat.dvd_add_right (Nat.dvd_mul_left _ _)).mp hdvd) hrest

end FewDigits

namespace Scaled

def value (s : Scaled) : ℚ := s.significand * 10 ^ s.exponent

theorem append?_eq (s : Scaled) (d : Nat) :
    s.append? d = if 10 * s.significand + d < UInt64.size then some (10 * s.significand + d)
      else none := rfl

theorem zpow_sub_length (e : Int) (d : Nat) (rest : List Nat) :
    (10 : ℚ) ^ (e - 1 - rest.length) = 10 ^ (e - (d :: rest).length) := by
  congr 1
  rw [List.length_cons]
  push_cast
  ring

/-- A significand that has no room for a digit has fifteen of them. -/
theorem full_of_append? {a d : Nat} {e : Int} (hd : d < 10) (h : append? ⟨a, e⟩ d = none) :
    10 ^ 15 ≤ a := by
  rw [append?_eq] at h
  unfold UInt64.size at h
  simp only [ite_eq_right_iff, reduceCtorEq, imp_false] at h
  omega

theorem append?_some {a d m : Nat} {e : Int} (h : append? ⟨a, e⟩ d = some m) :
    m = 10 * a + d ∧ m < UInt64.size := by
  rw [append?_eq] at h
  split at h
  · rename_i hm
    cases h
    exact ⟨rfl, hm⟩
  · cases h

section Digits
variable {digits : List Nat} {a : Nat} {e : Int}

theorem whole_value (hdigits : ∀ d ∈ digits, d < 10) (hfew : FewDigits (appended a digits))
    (ha : a < UInt64.size) :
    ∃ s r : Nat, whole ⟨a, e⟩ digits = ⟨s, e + r⟩ ∧ s < UInt64.size ∧
      appended a digits = s * 10 ^ r ∧ (r = 0 ∨ 10 ^ 15 ≤ s) := by
  induction digits generalizing a with
  | nil => exact ⟨a, 0, by simp [whole], ha, by simp [appended], .inl rfl⟩
  | cons d rest ih =>
    have hd := hdigits d List.mem_cons_self
    cases happend : append? ⟨a, e⟩ d with
    | some longer =>
      obtain ⟨rfl, hlonger⟩ := append?_some happend
      rw [whole, happend]
      exact ih (fun x hx => hdigits x (List.mem_cons_of_mem _ hx)) hfew hlonger
    | none =>
      have hfull := full_of_append? hd happend
      rw [appended_eq] at hfew ⊢
      have hzero := hfew.rest_eq_zero hfull (appended_lt hdigits)
      rw [whole, happend]
      exact ⟨a, rest.length + 1, by push_cast; rfl, ha,
        by rw [hzero, Nat.add_zero, List.length_cons],
        .inr hfull⟩

theorem fraction_value (hdigits : ∀ d ∈ digits, d < 10) (hfew : FewDigits (appended a digits))
    (ha : a < UInt64.size) :
    (fraction ⟨a, e⟩ digits).significand < UInt64.size ∧
      (fraction ⟨a, e⟩ digits).value = appended a digits * 10 ^ (e - digits.length) := by
  induction digits generalizing a e with
  | nil => exact ⟨ha, by simp [fraction, value, appended]⟩
  | cons d rest ih =>
    have hd := hdigits d List.mem_cons_self
    cases happend : append? ⟨a, e⟩ d with
    | some longer =>
      obtain ⟨rfl, hlonger⟩ := append?_some happend
      have hrest := ih (e := e - 1) (fun x hx => hdigits x (List.mem_cons_of_mem _ hx)) hfew hlonger
      rw [zpow_sub_length e d] at hrest
      rwa [fraction, happend]
    | none =>
      have hfull := full_of_append? hd happend
      rw [appended_eq] at hfew ⊢
      have hzero := hfew.rest_eq_zero hfull (appended_lt hdigits)
      rw [fraction, happend, hzero, Nat.add_zero]
      refine ⟨ha, ?_⟩
      rw [value, zpow_sub₀ (by norm_num), zpow_natCast]
      push_cast
      field_simp

theorem whole_fits (h : appended a digits < UInt64.size) :
    whole ⟨a, e⟩ digits = ⟨appended a digits, e⟩ := by
  induction digits generalizing a with
  | nil => rfl
  | cons d rest ih =>
    have hd := Nat.lt_of_le_of_lt (le_appended (10 * a + d) rest) h
    have happend : append? ⟨a, e⟩ d = some (10 * a + d) := if_pos hd
    rw [whole, happend]
    exact ih h

theorem fraction_fits (h : appended a digits < UInt64.size) :
    fraction ⟨a, e⟩ digits = ⟨appended a digits, e - digits.length⟩ := by
  induction digits generalizing a e with
  | nil => simp [fraction, appended]
  | cons d rest ih =>
    have hd := Nat.lt_of_le_of_lt (le_appended (10 * a + d) rest) h
    have happend : append? ⟨a, e⟩ d = some (10 * a + d) := if_pos hd
    rw [fraction, happend]
    refine (ih h).trans ?_
    rw [List.length_cons]
    congr 1
    push_cast
    ring

end Digits

def read (front back : List Nat) : Scaled := (whole ⟨0, 0⟩ front).fraction back

section Read
variable {front back : List Nat}

theorem read_fits (h : appended 0 (front ++ back) < UInt64.size) :
    read front back = ⟨appended 0 (front ++ back), -back.length⟩ := by
  rw [appended_append] at h ⊢
  have hfront := Nat.lt_of_le_of_lt (le_appended (appended 0 front) back) h
  rw [read, whole_fits hfront, fraction_fits h, Int.zero_sub]

/-- A literal with few significant digits is read without a loss. -/
theorem read_value (hfront : ∀ d ∈ front, d < 10) (hback : ∀ d ∈ back, d < 10)
    (hfew : FewDigits (appended 0 (front ++ back))) :
    (read front back).significand < UInt64.size ∧
      (read front back).value = appended 0 (front ++ back) * 10 ^ (-back.length : Int) := by
  rw [appended_append] at hfew ⊢
  have hfew' := hfew
  rw [appended_eq] at hfew'
  have hquotient : (appended 0 front * 10 ^ back.length + appended 0 back) / 10 ^ back.length =
      appended 0 front := by
    rw [Nat.mul_comm, Nat.mul_add_div (by positivity), Nat.div_eq_of_lt (appended_lt hback),
      Nat.add_zero]
  have hhead : FewDigits (appended 0 front) := by
    rw [← hquotient]
    exact hfew'.div _
  obtain ⟨s, r, hread, hs, hvalue, hr⟩ := whole_value (e := 0) hfront hhead (by decide)
  rw [read, hread]
  rcases hr with rfl | hfull
  · rw [Nat.pow_zero, Nat.mul_one] at hvalue
    rw [hvalue] at hfew ⊢
    simpa using fraction_value (e := 0 + (0 : Nat)) hback hfew hs
  · -- The whole part has all the digits that count, so the fraction is zero.
    have hzero : appended 0 back = 0 := by
      refine hfew'.rest_eq_zero (hfull.trans ?_) (appended_lt hback)
      rw [hvalue]
      exact Nat.le_mul_of_pos_right s (by positivity)
    have htail (n : Nat) : appended n back = n * 10 ^ back.length := by
      rw [appended_eq, hzero, Nat.add_zero]
    have hfew'' : FewDigits (appended s back) := by
      rw [htail, hvalue] at hfew
      rw [htail]
      refine FewDigits.of_mul (k := r) ?_
      rwa [Nat.mul_right_comm]
    obtain ⟨hsmall, hval⟩ := fraction_value (e := 0 + r) hback hfew'' hs
    refine ⟨hsmall, ?_⟩
    rw [hval, htail, htail, hvalue, Int.zero_add, zpow_sub₀ (by norm_num), zpow_natCast,
      zpow_natCast, zpow_neg, zpow_natCast]
    push_cast
    field_simp

end Read
end Scaled
end JsonSchema.Json
