import JsonSchema.Proofs.Number.Exact

namespace JsonSchema
namespace Binary64

/-- An integer that some float stands for is converted without a loss. -/
theorem ofInt_exact {i : Int} {x : Binary64} (h : x.exact = .rat i) :
    (ofInt i).exact = .rat i := by
  cases x with
  | nan => simp [exact] at h
  | infinite negative => simp [exact] at h
  | finite negative quanta hr =>
    have hquanta : signed negative quanta = i * unit := by
      simp only [exact, Exact.rat_inj, ratio, div_eq_iff unit_pos_rat.ne'] at h
      exact_mod_cast h
    have habs : i.natAbs * unit = quanta := by
      have := congrArg Int.natAbs hquanta
      rw [Int.natAbs_mul, Int.natAbs_natCast] at this
      rw [← this]
      cases negative <;> simp [signed]
    exact ofInt_of_representable (habs ▸ hr)

theorem isZero_iff (x : Binary64) : x.isZero = true ↔ x.exact = .rat 0 := by
  cases x with
  | nan => simp [isZero, exact]
  | infinite negative => simp [isZero, exact]
  | finite negative quanta h =>
    rw [isZero, decide_eq_true_eq, exact, Exact.rat_inj, ratio,
      div_eq_zero_iff, or_iff_left unit_pos_rat.ne', Int.cast_eq_zero]
    cases negative <;> simp [signed]

theorem isZero_congr {x y : Binary64} (h : x.exact = y.exact) : x.isZero = y.isZero :=
  Bool.eq_iff_iff.mpr (by rw [isZero_iff, isZero_iff, h])

theorem compare_eq_iff (x y : Binary64) : x.compare y = .eq ↔ x.exact = y.exact := by
  rw [compare_exact, cmp_eq_eq_iff]

/-- Floats of one value are one float, but for the sign of a zero. -/
theorem eq_or_isZero {x y : Binary64} (h : x.exact = y.exact) :
    x = y ∨ x.isZero = true ∧ y.isZero = true := by
  have hc := (compare_eq_iff x y).mpr h
  cases x with
  | nan => cases y <;> simp [Binary64.compare] at hc ⊢
  | infinite m =>
    cases y with
    | nan => simp [Binary64.compare] at hc
    | infinite n =>
      left
      by_cases hmn : m = n
      · rw [hmn]
      · cases m <;> simp [Binary64.compare, hmn] at hc
    | finite n b hb => cases m <;> simp [Binary64.compare] at hc
  | finite m a ha =>
    cases y with
    | nan => simp [Binary64.compare] at hc
    | infinite n => cases n <;> simp [Binary64.compare] at hc
    | finite n b hb =>
      have hs : signed m a = signed n b := Int.compare_eq_eq.mp hc
      cases m <;> cases n <;> simp only [signed] at hs
      all_goals simp [isZero]
      all_goals simp at hs
      all_goals omega

end Binary64

namespace Number
open Binary64

theorem isNearInteger_ofQuanta (m n : Bool) (num den : Nat) :
    isNearInteger (ofQuanta m num den) = isNearInteger (ofQuanta n num den) := by
  simp only [ofQuanta]
  split <;> rfl

/-- The sign of a zero is lost when a quotient is compared with integers. -/
theorem isNearInteger_zero_div {x y d : Binary64} (hx : x.isZero = true) (hy : y.isZero = true)
    (hd : d.isZero = false) : isNearInteger (x / d) = isNearInteger (y / d) := by
  cases x <;> simp [isZero] at hx
  cases y <;> simp [isZero] at hy
  subst hx hy
  change isNearInteger (Binary64.div _ d) = isNearInteger (Binary64.div _ d)
  cases d with
  | nan => rfl
  | infinite n =>
    simp only [Binary64.div]
    rw [isNearInteger_ofQuanta]
  | finite n b hb =>
    have hb : b ≠ 0 := by simpa [isZero] using hd
    simp only [Binary64.div, hb, ↓reduceIte]
    rw [isNearInteger_ofQuanta]

theorem isNearInteger_div_congr {x y d e : Binary64} (hx : x.exact = y.exact)
    (hd : d.exact = e.exact) (hz : d.isZero = false) :
    isNearInteger (x / d) = isNearInteger (y / e) := by
  obtain rfl : d = e := (eq_or_isZero hd).resolve_right (by simp [hz])
  rcases eq_or_isZero hx with rfl | ⟨hx, hy⟩
  · rfl
  · exact isNearInteger_zero_div hx hy hz

theorem toFloat_of_toInt? {n : Number} {i : Int} (h : n.toInt? = some i) :
    n.toFloat = ofInt i := by
  cases n with
  | unsigned u =>
    simp only [toInt?, Option.some.injEq] at h
    have hu : ¬ (u.toNat : Int) < 0 := by omega
    rw [← h, toFloat, ofNat, ofInt, decide_eq_false hu, Int.natAbs_natCast]
  | signed j =>
    simp only [toInt?, Option.some.injEq] at h
    rw [← h, toFloat]
  | float x => simp [toInt?] at h

/-- Numbers of one value have floats of one value: an integer is rounded only where no float has
its value. -/
theorem toFloat_congr {a b : Number} (h : a.exact = b.exact) :
    a.toFloat.exact = b.toFloat.exact := by
  cases ha : a.toInt? with
  | some i =>
    have hi := exact_of_toInt? ha
    rw [toFloat_of_toInt? ha]
    cases hb : b.toInt? with
    | some j =>
      have hij : (i : ℚ) = j := by rw [← Exact.rat_inj, ← hi, h, exact_of_toInt? hb]
      rw [toFloat_of_toInt? hb, Int.cast_inj.mp hij]
    | none =>
      obtain ⟨y, rfl⟩ := float_of_toInt? hb
      have hy : y.exact = .rat i := h.symm.trans hi
      rw [toFloat, ofInt_exact hy, hy]
  | none =>
    obtain ⟨x, rfl⟩ := float_of_toInt? ha
    cases hb : b.toInt? with
    | some j =>
      have hx : x.exact = .rat j := h.trans (exact_of_toInt? hb)
      rw [toFloat_of_toInt? hb, ofInt_exact hx, toFloat, hx]
    | none =>
      obtain ⟨y, rfl⟩ := float_of_toInt? hb
      exact h

theorem toWideInt?_congr {a b : Number} (h : a.exact = b.exact) :
    a.toWideInt? = b.toWideInt? := by
  ext i
  rw [toWideInt?_eq_some, toWideInt?_eq_some, h]

theorem isMultipleOf_congr {x y d e : Number} (hx : x.exact = y.exact) (hd : d.exact = e.exact) :
    x.isMultipleOf d = y.isMultipleOf e := by
  unfold isMultipleOf
  rw [toWideInt?_congr hx, toWideInt?_congr hd, isZero_congr (toFloat_congr hd)]
  have hnear (hz : e.toFloat.isZero = false) :=
    isNearInteger_div_congr (toFloat_congr hx) (toFloat_congr hd)
      (by rw [isZero_congr (toFloat_congr hd), hz])
  cases hz : e.toFloat.isZero with
  | true => simp only [Bool.not_true, Bool.false_and]
  | false => simp only [hnear hz]

end Number
end JsonSchema
