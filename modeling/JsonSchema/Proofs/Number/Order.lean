import JsonSchema.Proofs.Number.Exact

namespace JsonSchema.Number

theorem below_iff (a b : Number) : a.below b = true ↔ a.exact < b.exact := by
  unfold below
  rw [compare_exact, beq_iff_eq, cmp_eq_lt_iff]

theorem compare_isLE_iff (a b : Number) : (a.compare b).isLE = true ↔ a.exact ≤ b.exact := by
  rw [compare_exact]
  rcases lt_trichotomy a.exact b.exact with h | h | h
  · rw [(cmp_eq_lt_iff _ _).mpr h]
    simp [h.le]
  · rw [(cmp_eq_eq_iff _ _).mpr h]
    simp [h.le]
  · rw [(cmp_eq_gt_iff _ _).mpr h]
    simp [h]

/-- The conversion to a float is used on floats only, which have the value of their float. -/
theorem toFloat_exact {n : Number} (h : n.toInt? = none) : n.toFloat.exact = n.exact := by
  obtain ⟨x, rfl⟩ := float_of_toInt? h
  rfl

/-- Where the whole part of a float is compared as an integer of 128 bits, it is this integer. -/
theorem wholePart_wide {x : Binary64} (h : fitsWide x = true) :
    (wholePart x).exact = .rat (toWide (wholePart x)) := by
  cases x with
  | nan => simp [fitsWide, Binary64.isFinite] at h
  | infinite negative => simp [fitsWide, Binary64.isFinite] at h
  | finite negative quanta hr => rw [toWide_wholePart h, wholePart_exact]

/-- Numbers of all forms are compared by their values, which makes their order total, antisymmetric
and transitive. An integer is never turned into a float for it, and a float is turned into an
integer only where this loses nothing. -/
theorem compare_orders_values (a b c : Number) :
    a.compare b = cmp a.exact b.exact ∧
      (a.same b = true ↔ a.exact = b.exact) ∧
      (a.below b = true ↔ a.exact < b.exact) ∧
      ((a.compare b).isLE = true ∨ (b.compare a).isLE = true) ∧
      ((a.compare b).isLE = true → (b.compare a).isLE = true → a.same b = true) ∧
      ((a.compare b).isLE = true → (b.compare c).isLE = true → (a.compare c).isLE = true) ∧
      (∀ n : Number, n.toInt? = none → n.toFloat.exact = n.exact) ∧
      ∀ x : Binary64, fitsWide x = true → (wholePart x).exact = .rat (toWide (wholePart x)) := by
  refine ⟨compare_exact a b, same_iff a b, below_iff a b, ?_, ?_, ?_, fun n => toFloat_exact,
    fun x => wholePart_wide⟩
  · rw [compare_isLE_iff, compare_isLE_iff]
    exact le_total _ _
  · rw [compare_isLE_iff, compare_isLE_iff, same_iff]
    exact le_antisymm
  · rw [compare_isLE_iff, compare_isLE_iff, compare_isLE_iff]
    exact le_trans

/-- Three neighbours past the integers that floats can tell apart: 2^53 as a float, the integer
after it, and the float after that. And a negative fraction. -/
theorem compare_orders_values_neighbours :
    let a : Number := .float (.ofBits 0x4340000000000000)
    let b : Number := .unsigned 9007199254740993
    let c : Number := .float (.ofBits 0x4340000000000001)
    let x : Binary64 := .ofBits 0xbff8000000000000
    (a.compare b).isLE = true ∧ (b.compare c).isLE = true ∧ (a.compare c).isLE = true ∧
      fitsWide x = true ∧ toWide (wholePart x) = -2 ∧
      (wholePart x).exact = .rat (toWide (wholePart x)) := by
  intro a b c x
  have hab : (a.compare b).isLE = true := by decide +kernel
  have hbc : (b.compare c).isLE = true := by decide +kernel
  have hx : fitsWide x = true := by decide +kernel
  have htotal := compare_orders_values a b c
  exact ⟨hab, hbc, htotal.2.2.2.2.2.1 hab hbc, hx, by decide +kernel, htotal.2.2.2.2.2.2.2 x hx⟩

end JsonSchema.Number
