import JsonSchema.Proofs.Number.Quotient

namespace JsonSchema

namespace Binary64

def magnitude : Binary64 → Binary64
  | .nan => .nan
  | .infinite _ => .infinite false
  | .finite _ quanta h => .finite false quanta h

theorem magnitude_exact {x : Binary64} {q : ℚ} (h : x.exact = .rat q) :
    x.magnitude.exact = .rat |q| := by
  cases x with
  | nan => simp [exact] at h
  | infinite negative => simp [exact] at h
  | finite negative quanta hr =>
    rw [exact, Exact.rat_inj] at h
    rw [← h, magnitude, exact, ratio_abs, ratio, signed, if_neg Bool.false_ne_true,
      Int.cast_natCast]

end Binary64

namespace Number
open Binary64

/-- The remainder of words of 128 bits, which has the sign of the dividend. There is none for a
divisor of 0, and none where the quotient is not a word. -/
def wordRemainder? (i j : Int) : Option Int :=
  if j = 0 then none
  else if -wideBound ≤ i.tdiv j ∧ i.tdiv j < wideBound then some (i.tmod j)
  else none

/-- Whether a word is divided by another one. The remainder is asked for only after the divisor has
been compared with 0, and where there is none there is no answer. -/
def wordDivides? (j i : Int) : Option Bool :=
  if j = 0 then some false else (wordRemainder? i j).map fun rest => decide (rest = 0)

/-- The word that a number becomes before it is divided. A float is compared with the bound of the
words as a float, and then converted. -/
def word? : Number → Option Int
  | .float x =>
    if x.isIntegral && x.magnitude.compare (.ofInt wideBound) == .lt then some (toWide x) else none
  | integer => integer.toInt?

theorem wideBound_eq : wideBound = 2 ^ 127 := by decide

/-- The bound of the words is itself a float. -/
theorem wideBound_exact : (Binary64.ofInt wideBound).exact = .rat wideBound :=
  ofInt_of_representable (by decide +kernel)

theorem magnitude_below_iff {x : Binary64} {i : Int} (h : x.exact = .rat i) :
    (x.magnitude.compare (.ofInt wideBound) == .lt) = true ↔ i.natAbs < wideBound := by
  rw [beq_iff_eq, Binary64.compare_exact, cmp_eq_lt_iff, magnitude_exact h, wideBound_exact,
    Exact.rat_lt_rat, ← Int.cast_abs, Int.cast_lt, Int.abs_eq_natAbs]

/-- No number loses anything when it becomes a word. -/
theorem word?_eq (n : Number) : n.word? = n.toWideInt? := by
  cases n with
  | unsigned u => rfl
  | signed i => rfl
  | float x =>
    ext i
    rw [toWideInt?_eq_some, exact, word?, Option.ite_none_right_eq_some, Bool.and_eq_true,
      Binary64.isIntegral_iff, Option.some_inj]
    constructor
    · intro h
      obtain ⟨⟨⟨k, hk⟩, hbelow⟩, hi⟩ := h
      have hwide := (magnitude_below_iff hk).mp hbelow
      rw [toWide_of_exact hk (by omega) (by omega)] at hi
      subst hi
      exact ⟨hk, hwide⟩
    · intro h
      obtain ⟨hi, hwide⟩ := h
      exact ⟨⟨⟨i, hi⟩, (magnitude_below_iff hi).mpr hwide⟩,
        toWide_of_exact hi (by omega) (by omega)⟩

/-- The one quotient of words that is not a word is that of the least word by -1, which is not of
the magnitude asked for here. -/
theorem tdiv_wide {i : Int} (hi : i.natAbs < wideBound) (j : Int) :
    -wideBound ≤ i.tdiv j ∧ i.tdiv j < wideBound := by
  have hle := Int.natAbs_tdiv_le_natAbs i j
  omega

theorem wordRemainder?_eq {i j : Int} (hi : i.natAbs < wideBound) (hj : j ≠ 0) :
    wordRemainder? i j = some (i.tmod j) := by
  rw [wordRemainder?, if_neg hj, if_pos (tdiv_wide hi j)]

theorem wordDivides?_eq {i : Int} (hi : i.natAbs < wideBound) (j : Int) :
    wordDivides? j i = some (decide (j ≠ 0 ∧ j ∣ i)) := by
  unfold wordDivides?
  by_cases hj : j = 0
  · simp [hj]
  · rw [if_neg hj, wordRemainder?_eq hi hj, Option.map_some]
    simp [hj, Int.dvd_iff_tmod_eq_zero]

/-- Numbers without a fraction are divided exactly, whatever their forms and signs: a number below
2^127 is taken for a multiple of another one just when that one is not 0 and divides it. Both become
words of their own value, and the remainder of these words exists whenever it is asked for. -/
theorem isMultipleOf_integers {x d : Number} {i j : Int} (hx : x.exact = .rat i)
    (hd : d.exact = .rat j) (hi : |i| < 2 ^ 127) (hj : |j| < 2 ^ 127) :
    (x.isMultipleOf d = true ↔ j ≠ 0 ∧ j ∣ i) ∧ x.word? = some i ∧ d.word? = some j ∧
      (j ≠ 0 → wordRemainder? i j = some (i.tmod j)) ∧
      wordDivides? j i = some (x.isMultipleOf d) := by
  rw [← wideBound_eq, Int.abs_eq_natAbs] at hi hj
  have hxi := toWideInt?_eq_some.mpr ⟨hx, hi⟩
  have hdj := toWideInt?_eq_some.mpr ⟨hd, hj⟩
  have hdivides := isMultipleOf_wide hxi hdj
  refine ⟨hdivides, ?_, ?_, wordRemainder?_eq hi, ?_⟩
  · rw [word?_eq, hxi]
  · rw [word?_eq, hdj]
  · rw [wordDivides?_eq hi, Option.some_inj, ← Bool.coe_iff_coe, hdivides, decide_eq_true_eq]

/-- The greatest float below 2^127 is divided by the negative of the greatest odd integer that
floats hold, which itself is no multiple of a negative zero. -/
theorem isMultipleOf_integers_mixed :
    let x : Number := .float (.ofBits 0x47dfffffffffffff)
    let d : Number := .signed (-9007199254740991)
    let zero : Number := .float (.ofBits 0x8000000000000000)
    let i : Int := 2 ^ 127 - 2 ^ 74
    let j : Int := -9007199254740991
    x.exact = .rat i ∧ d.exact = .rat j ∧ zero.exact = .rat (0 : Int) ∧
      |i| < 2 ^ 127 ∧ |j| < 2 ^ 127 ∧ wordRemainder? i j = some 0 ∧
      x.isMultipleOf d = true ∧ wordDivides? 0 j = some (d.isMultipleOf zero) ∧
      d.isMultipleOf zero = false := by
  intro x d zero i j
  have hx : x.exact = .rat i := (toWideInt?_eq_some.mp (by decide +kernel)).1
  have hd : d.exact = .rat j := (toWideInt?_eq_some.mp (by decide +kernel)).1
  have hz : zero.exact = .rat (0 : Int) := (toWideInt?_eq_some.mp (by decide +kernel)).1
  have hi : |i| < 2 ^ 127 := by decide +kernel
  have hj : |j| < 2 ^ 127 := by decide +kernel
  obtain ⟨hmultiple, -, -, hrest, -⟩ := isMultipleOf_integers hx hd hi hj
  obtain ⟨hnone, -, -, -, hanswer⟩ := isMultipleOf_integers hd hz hj (by decide)
  refine ⟨hx, hd, hz, hi, hj, hrest (by decide), hmultiple.mpr (by decide +kernel), hanswer, ?_⟩
  rw [← Bool.not_eq_true, hnone]
  decide

end Number
end JsonSchema
