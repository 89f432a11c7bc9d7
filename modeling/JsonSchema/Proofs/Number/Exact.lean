import JsonSchema.Number.Multiple
import JsonSchema.Proofs.Binary64.Nearest
import Mathlib.Data.Rat.Floor
import Mathlib.Order.WithBot

namespace JsonSchema

/-- Where numbers lie: the rationals, an infinity on either side of them, and NaN above all. -/
abbrev Exact := WithTop (WithBot (WithTop ℚ))

namespace Exact

def rat (q : ℚ) : Exact := ((q : WithTop ℚ) : WithBot (WithTop ℚ))

def infinite (negative : Bool) : Exact :=
  if negative then ((⊥ : WithBot (WithTop ℚ)) : Exact)
  else (((⊤ : WithTop ℚ) : WithBot (WithTop ℚ)) : Exact)

def nan : Exact := ⊤

theorem rat_strictMono : StrictMono rat := by
  intro p q h
  exact WithTop.coe_lt_coe.mpr (WithBot.coe_lt_coe.mpr (WithTop.coe_lt_coe.mpr h))

@[simp] theorem rat_lt_rat {p q : ℚ} : rat p < rat q ↔ p < q := rat_strictMono.lt_iff_lt
@[simp] theorem rat_le_rat {p q : ℚ} : rat p ≤ rat q ↔ p ≤ q := rat_strictMono.le_iff_le
@[simp] theorem rat_inj {p q : ℚ} : rat p = rat q ↔ p = q := rat_strictMono.injective.eq_iff

theorem rat_lt_nan (q : ℚ) : rat q < nan := WithTop.coe_lt_top _

theorem infinite_lt_nan (negative : Bool) : infinite negative < nan := by
  cases negative <;> exact WithTop.coe_lt_top _

theorem rat_lt_infinity (q : ℚ) : rat q < infinite false :=
  WithTop.coe_lt_coe.mpr (WithBot.coe_lt_coe.mpr (WithTop.coe_lt_top q))

theorem infinity_lt_rat (q : ℚ) : infinite true < rat q :=
  WithTop.coe_lt_coe.mpr (WithBot.bot_lt_coe _)

theorem infinity_lt_infinity : infinite true < infinite false :=
  WithTop.coe_lt_coe.mpr (WithBot.bot_lt_coe _)

@[simp] theorem nan_ne_rat (q : ℚ) : nan ≠ rat q := (rat_lt_nan q).ne'

@[simp] theorem infinite_ne_rat (negative : Bool) (q : ℚ) : infinite negative ≠ rat q := by
  cases negative with
  | false => exact (rat_lt_infinity q).ne'
  | true => exact (infinity_lt_rat q).ne

end Exact

namespace Binary64

theorem pow_pos_two (n : Nat) : 0 < Nat.pow 2 n := Nat.two_pow_pos n

theorem unit_pos : 0 < unit := by
  unfold unit
  apply pow_pos_two

theorem unit_pos_rat : (0 : ℚ) < unit := by exact_mod_cast unit_pos

def ratio (negative : Bool) (quanta : Nat) : ℚ := (signed negative quanta : ℚ) / unit

/-- The value that a float stands for; the two zeros are one. -/
def exact : Binary64 → Exact
  | .nan => .nan
  | .infinite negative => .infinite negative
  | .finite negative quanta _ => .rat (ratio negative quanta)

theorem ratio_lt_ratio {m n : Bool} {a b : Nat} :
    ratio m a < ratio n b ↔ signed m a < signed n b := by
  unfold ratio
  rw [div_lt_div_iff_of_pos_right unit_pos_rat]
  exact Int.cast_lt

theorem ratio_inj {m n : Bool} {a b : Nat} : ratio m a = ratio n b ↔ signed m a = signed n b := by
  unfold ratio
  rw [div_left_inj' unit_pos_rat.ne']
  exact Int.cast_inj

theorem ratio_pos {negative : Bool} {quanta : Nat} :
    0 < ratio negative quanta ↔ negative = false ∧ 0 < quanta := by
  unfold ratio
  rw [div_pos_iff_of_pos_right unit_pos_rat, Int.cast_pos]
  cases negative <;> simp [signed]

theorem floor_eq (negative : Bool) (quanta : Nat) (h : Representable quanta) :
    (finite negative quanta h).floor = ⌊ratio negative quanta⌋ := by
  unfold floor ratio
  rw [Rat.floor_intCast_div_natCast]

/-- A float is integral when no fraction is lost in its whole part. -/
theorem isIntegral_iff_floor (negative : Bool) (quanta : Nat) (h : Representable quanta) :
    (finite negative quanta h).isIntegral = true ↔
      (⌊ratio negative quanta⌋ : ℚ) = ratio negative quanta := by
  have hdvd : unit ∣ quanta ↔ (unit : Int) ∣ signed negative quanta := by
    cases negative with
    | false => exact Int.natCast_dvd_natCast.symm
    | true => exact Int.natCast_dvd_natCast.symm.trans dvd_neg.symm
  simp only [isIntegral, decide_eq_true_eq, hdvd]
  unfold ratio
  rw [Rat.floor_intCast_div_natCast, eq_div_iff unit_pos_rat.ne']
  norm_cast
  exact ⟨Int.ediv_mul_cancel, Dvd.intro_left _⟩

/-- A rounded quotient of quanta that is not too large has the value of the quanta it is rounded
to. -/
theorem ofQuanta_exact {negative : Bool} {num den : Nat} (h : roundQuanta num den < overflow) :
    (ofQuanta negative num den).exact = .rat (ratio negative (roundQuanta num den)) := by
  simp only [ofQuanta, h, ↓reduceDIte, exact]

theorem ratio_natAbs (i : Int) : ratio (decide (i < 0)) (i.natAbs * unit) = i := by
  have hsigned : signed (decide (i < 0)) (i.natAbs * unit) = i * unit := by
    by_cases hi : i < 0
    · simp only [signed, hi, decide_true, if_true, Nat.cast_mul, Int.natCast_natAbs,
        abs_of_neg hi, neg_mul, neg_neg]
    · simp only [signed, hi, decide_false, Bool.false_eq_true, if_false, Nat.cast_mul,
        Int.natCast_natAbs, abs_of_nonneg (not_lt.mp hi)]
  rw [ratio, hsigned, Int.cast_mul, Int.cast_natCast, mul_div_cancel_right₀ _ unit_pos_rat.ne']

/-- An integer that the format holds is converted without a loss. -/
theorem ofInt_of_representable {i : Int} (h : Representable (i.natAbs * unit)) :
    (ofInt i).exact = .rat i := by
  have hround := roundQuanta_one h
  have hsmall : roundQuanta (i.natAbs * unit) 1 < overflow := by
    rw [hround]
    exact h.1
  rw [ofInt, ofRatio, ofQuanta_exact hsmall, hround, ratio_natAbs]

/-- A float with a fraction is below 2^52. -/
theorem lt_of_not_isIntegral {negative : Bool} {quanta : Nat} {h : Representable quanta}
    (hi : (finite negative quanta h).isIntegral = false) : quanta < 2 ^ 52 * unit := by
  simp only [isIntegral, decide_eq_false_iff_not] at hi
  unfold unit at hi ⊢
  generalize 1074 = e at hi ⊢
  exact lt_of_not_dvd (gap_dvd h) hi

theorem representable_mul_unit {m : Nat} (h : m < fiftyFourBits) : Representable (m * unit) := by
  have hsmall : 1074 ≤ 2045 := by omega
  unfold unit
  generalize 1074 = k at hsmall ⊢
  exact representable_mul_two_pow h hsmall

/-- The whole part of a number below 2^52 is a number of the format. -/
theorem representable_whole {negative : Bool} {quanta : Nat} (h : quanta < 2 ^ 52 * unit) :
    Representable ((signed negative quanta / unit).natAbs * unit) := by
  have hpos := unit_pos
  have hwhole : (signed negative quanta / unit).natAbs < fiftyFourBits := by
    generalize unit = u at h hpos
    have hu : (0 : Int) < u := Int.natCast_pos.mpr hpos
    have hbound : (quanta : Int) < 2 ^ 52 * u := by exact_mod_cast h
    have hlow : -2 ^ 52 ≤ signed negative quanta / u := by
      rw [Int.le_ediv_iff_mul_le hu]
      cases negative <;> simp only [signed] <;> grind
    have hhigh : signed negative quanta / u ≤ 2 ^ 52 := by
      refine Int.ediv_le_of_le_mul hu ?_
      cases negative <;> simp only [signed] <;> grind
    unfold fiftyFourBits
    omega
  exact representable_mul_unit hwhole

theorem isIntegral_iff (x : Binary64) : x.isIntegral = true ↔ ∃ k : Int, x.exact = .rat k := by
  cases x with
  | nan => simp [isIntegral, exact]
  | infinite negative => simp [isIntegral, exact]
  | finite negative quanta h =>
    rw [isIntegral_iff_floor]
    constructor
    · intro hf
      exact ⟨⌊ratio negative quanta⌋, by rw [exact, hf]⟩
    · intro h
      obtain ⟨k, hk⟩ := h
      rw [Exact.rat_inj.mp hk, Int.floor_intCast]

/-- The order of floats is the order of their values. -/
theorem compare_exact (x y : Binary64) : x.compare y = cmp x.exact y.exact := by
  symm
  cases x with
  | nan =>
    cases y with
    | nan => exact cmp_self_eq_eq _
    | infinite n => exact (cmp_eq_gt_iff _ _).mpr (Exact.infinite_lt_nan n)
    | finite n b hb => exact (cmp_eq_gt_iff _ _).mpr (Exact.rat_lt_nan _)
  | infinite m =>
    cases y with
    | nan => exact (cmp_eq_lt_iff _ _).mpr (Exact.infinite_lt_nan m)
    | infinite n =>
      cases m <;> cases n
      · exact cmp_self_eq_eq _
      · exact (cmp_eq_gt_iff _ _).mpr Exact.infinity_lt_infinity
      · exact (cmp_eq_lt_iff _ _).mpr Exact.infinity_lt_infinity
      · exact cmp_self_eq_eq _
    | finite n b hb =>
      cases m
      · exact (cmp_eq_gt_iff _ _).mpr (Exact.rat_lt_infinity _)
      · exact (cmp_eq_lt_iff _ _).mpr (Exact.infinity_lt_rat _)
  | finite m a ha =>
    cases y with
    | nan => exact (cmp_eq_lt_iff _ _).mpr (Exact.rat_lt_nan _)
    | infinite n =>
      cases n
      · exact (cmp_eq_lt_iff _ _).mpr (Exact.rat_lt_infinity _)
      · exact (cmp_eq_gt_iff _ _).mpr (Exact.infinity_lt_rat _)
    | finite n b hb =>
      rw [Binary64.compare, exact, exact, Exact.rat_strictMono.cmp_map_eq]
      rcases lt_trichotomy (signed m a) (signed n b) with h | h | h
      · rw [(cmp_eq_lt_iff _ _).mpr (ratio_lt_ratio.mpr h), Int.compare_eq_lt.mpr h]
      · rw [(cmp_eq_eq_iff _ _).mpr (ratio_inj.mpr h), Int.compare_eq_eq.mpr h]
      · rw [(cmp_eq_gt_iff _ _).mpr (ratio_lt_ratio.mpr h), Int.compare_eq_gt.mpr h]

theorem isPositive_iff_ratio (negative : Bool) (quanta : Nat) (h : Representable quanta) :
    (finite negative quanta h).isPositive = true ↔ 0 < ratio negative quanta := by
  simp [isPositive, ratio_pos]

theorem isPositive_iff (x : Binary64) :
    x.isPositive = true ↔ .rat 0 < x.exact ∧ x.exact ≠ .nan := by
  cases x with
  | nan => simp [isPositive, exact]
  | infinite negative =>
    cases negative with
    | false => simp [isPositive, exact, Exact.rat_lt_infinity, (Exact.infinite_lt_nan false).ne]
    | true => simp [isPositive, exact, (Exact.infinity_lt_rat 0).le]
  | finite negative quanta h =>
    simp [isPositive_iff_ratio, exact, (Exact.rat_lt_nan _).ne]

end Binary64

namespace Number
open Binary64

/-- The value of a number, whichever way it is written. -/
def exact : Number → Exact
  | .unsigned n => .rat n.toNat
  | .signed i => .rat i.toInt
  | .float x => x.exact

theorem exact_of_toInt? {n : Number} {i : Int} (h : n.toInt? = some i) : n.exact = .rat i := by
  cases n <;> simp [toInt?] at h <;> subst h <;> simp [exact]

theorem float_of_toInt? {n : Number} (h : n.toInt? = none) : ∃ x, n = .float x := by
  cases n with
  | unsigned u => simp [toInt?] at h
  | signed i => simp [toInt?] at h
  | float x => exact ⟨x, rfl⟩

/-- Every integer that can be written lies well inside the wide ones. -/
theorem toInt?_wide {n : Number} {i : Int} (h : n.toInt? = some i) : i.natAbs < wideBound := by
  cases n with
  | unsigned u =>
    simp only [toInt?, Option.some.injEq] at h
    have := u.toNat_lt
    unfold wideBound
    omega
  | signed j =>
    simp only [toInt?, Option.some.injEq] at h
    have := j.toInt_lt
    have := j.le_toInt
    unfold wideBound
    omega
  | float x => simp [toInt?] at h

theorem lt_of_lt_floor {i : Int} {q : ℚ} (h : i < ⌊q⌋) : (i : ℚ) < q :=
  (Int.cast_lt.mpr h).trans_le (Int.floor_le q)

/-- Against an integer the whole part of a rational decides, and where these agree the fraction. -/
theorem cmp_floor (i : Int) (q : ℚ) :
    cmp (i : ℚ) q = match compare i ⌊q⌋ with
      | .eq => if (⌊q⌋ : ℚ) = q then .eq else .lt
      | unequal => unequal := by
  rcases lt_trichotomy i ⌊q⌋ with hlt | heq | hgt
  · rw [Int.compare_eq_lt.mpr hlt]
    exact (cmp_eq_lt_iff _ _).mpr (lt_of_lt_floor hlt)
  · rw [Int.compare_eq_eq.mpr heq, heq]
    by_cases hq : (⌊q⌋ : ℚ) = q
    · rw [hq, cmp_self_eq_eq]
      exact (if_pos rfl).symm
    · rw [(cmp_eq_lt_iff _ _).mpr (lt_of_le_of_ne (Int.floor_le q) hq)]
      exact (if_neg hq).symm
  · rw [Int.compare_eq_gt.mpr hgt]
    exact (cmp_eq_gt_iff _ _).mpr (Int.floor_lt.mp hgt)

/-- Where the whole part of a rational is too wide to be compared, the sign decides. -/
theorem cmp_wide {i : Int} (hi : i.natAbs < wideBound) {q : ℚ}
    (hq : ⌊q⌋ < -wideBound ∨ wideBound ≤ ⌊q⌋) :
    cmp (i : ℚ) q = if 0 < q then .lt else .gt := by
  have hbound : 0 < wideBound := by decide
  by_cases hp : 0 < q
  · rw [if_pos hp]
    have hnonneg : 0 ≤ ⌊q⌋ := Int.floor_nonneg.mpr hp.le
    exact (cmp_eq_lt_iff _ _).mpr (lt_of_lt_floor (by omega))
  · rw [if_neg hp]
    have hle : (⌊q⌋ : ℚ) ≤ 0 := le_trans (Int.floor_le q) (not_lt.mp hp)
    have hnonpos : ⌊q⌋ ≤ 0 := by exact_mod_cast hle
    exact (cmp_eq_gt_iff _ _).mpr (Int.floor_lt.mp (by omega))

/-- Dropping the fraction of a float gives a number of the format again. -/
theorem wholePart_exact (negative : Bool) (quanta : Nat) (h : Representable quanta) :
    (wholePart (.finite negative quanta h)).exact = .rat (finite negative quanta h).floor := by
  unfold wholePart
  cases hi : (finite negative quanta h).isIntegral with
  | true =>
    simp only [Bool.not_true, Bool.and_false, Bool.false_eq_true, if_false, Binary64.exact]
    rw [floor_eq, (isIntegral_iff_floor negative quanta h).mp hi]
  | false =>
    simp only [isFinite, Bool.not_false, Bool.and_true, if_true]
    exact ofInt_of_representable (representable_whole (lt_of_not_isIntegral hi))

/-- The conversion of a float to an integer of 128 bits is exact where there is one of its value. -/
theorem toWide_of_exact {x : Binary64} {i : Int} (h : x.exact = .rat i) (hlow : -wideBound ≤ i)
    (hhigh : i < wideBound) : toWide x = i := by
  cases x with
  | nan => simp [Binary64.exact] at h
  | infinite negative => simp [Binary64.exact] at h
  | finite negative quanta hr =>
    have hsigned : Binary64.signed negative quanta = i * unit := by
      simp only [Binary64.exact, Exact.rat_inj, ratio, div_eq_iff unit_pos_rat.ne'] at h
      exact_mod_cast h
    rw [toWide, hsigned, Int.mul_tdiv_cancel _ (Int.natCast_ne_zero.mpr unit_pos.ne')]
    omega

theorem toWide_wholePart {negative : Bool} {quanta : Nat} {h : Representable quanta}
    (hw : fitsWide (.finite negative quanta h) = true) :
    toWide (wholePart (.finite negative quanta h)) = (finite negative quanta h).floor := by
  simp only [fitsWide, isFinite, Bool.true_and, Bool.and_eq_true, decide_eq_true_eq] at hw
  exact toWide_of_exact (wholePart_exact negative quanta h) hw.1 hw.2

theorem compareIntFloat_exact {i : Int} (hi : i.natAbs < wideBound) (x : Binary64) :
    compareIntFloat i x = cmp (.rat i) x.exact := by
  symm
  cases x with
  | nan => exact (cmp_eq_lt_iff _ _).mpr (Exact.rat_lt_nan _)
  | infinite negative =>
    cases negative
    · exact (cmp_eq_lt_iff _ _).mpr (Exact.rat_lt_infinity _)
    · exact (cmp_eq_gt_iff _ _).mpr (Exact.infinity_lt_rat _)
  | finite negative quanta h =>
    have hfloor := floor_eq negative quanta h
    rw [Binary64.exact, Exact.rat_strictMono.cmp_map_eq, compareIntFloat]
    by_cases hw : fitsWide (.finite negative quanta h) = true
    · rw [cmp_floor, if_pos hw, toWide_wholePart hw, hfloor]
      cases compare i ⌊ratio negative quanta⌋ <;> simp only [isIntegral_iff_floor]
    · have hout : ⌊ratio negative quanta⌋ < -wideBound ∨ wideBound ≤ ⌊ratio negative quanta⌋ := by
        simp only [fitsWide, isFinite, hfloor, Bool.true_and, Bool.and_eq_true,
          decide_eq_true_eq] at hw
        omega
      rw [cmp_wide hi hout, if_neg hw]
      simp only [Binary64.isPositive_iff_ratio]

/-- The order of numbers is the order of their values. -/
theorem compare_exact (a b : Number) : a.compare b = cmp a.exact b.exact := by
  unfold Number.compare
  cases ha : a.toInt? with
  | some i =>
    rw [exact_of_toInt? ha]
    cases hb : b.toInt? with
    | some j =>
      rw [exact_of_toInt? hb, Exact.rat_strictMono.cmp_map_eq, Int.cast_strictMono.cmp_map_eq,
        cmp_eq_compare]
    | none =>
      obtain ⟨y, rfl⟩ := float_of_toInt? hb
      exact compareIntFloat_exact (toInt?_wide ha) y
  | none =>
    obtain ⟨x, rfl⟩ := float_of_toInt? ha
    cases hb : b.toInt? with
    | some j =>
      rw [exact_of_toInt? hb]
      exact (congrArg Ordering.swap (compareIntFloat_exact (toInt?_wide hb) x)).trans (cmp_swap ..)
    | none =>
      obtain ⟨y, rfl⟩ := float_of_toInt? hb
      exact Binary64.compare_exact x y

theorem same_iff (a b : Number) : a.same b = true ↔ a.exact = b.exact := by
  unfold same
  rw [compare_exact, beq_iff_eq, cmp_eq_eq_iff]

theorem isIntegral_iff (n : Number) : n.isIntegral = true ↔ ∃ k : Int, n.exact = .rat k := by
  cases n with
  | unsigned u => exact ⟨fun _ => ⟨u.toNat, by simp [exact]⟩, fun _ => rfl⟩
  | signed i => exact ⟨fun _ => ⟨i.toInt, rfl⟩, fun _ => rfl⟩
  | float x => exact Binary64.isIntegral_iff x

/-- The form that a number is written in matters here: an integer of the signed form is taken for
a negative one. -/
theorem isPositive_iff {n : Number} (hc : n.Canonical) :
    n.isPositive = true ↔ .rat 0 < n.exact ∧ n.exact ≠ .nan := by
  cases n with
  | unsigned u => simp [isPositive, exact, (Exact.rat_lt_nan _).ne]
  | signed i =>
    have hneg : i.toInt < 0 := hc
    simp [isPositive, exact, hneg.le]
  | float x => exact Binary64.isPositive_iff x

theorem toWideInt?_eq_some {n : Number} {i : Int} :
    n.toWideInt? = some i ↔ n.exact = .rat i ∧ i.natAbs < wideBound := by
  cases n with
  | unsigned u =>
    constructor
    · intro (h : toInt? (.unsigned u) = some i)
      exact ⟨exact_of_toInt? h, toInt?_wide h⟩
    · intro h
      obtain ⟨h, -⟩ := h
      simp only [exact, Exact.rat_inj] at h
      have hi : (u.toNat : Int) = i := by exact_mod_cast h
      simp [toWideInt?, toInt?, hi]
  | signed j =>
    constructor
    · intro (h : toInt? (.signed j) = some i)
      exact ⟨exact_of_toInt? h, toInt?_wide h⟩
    · intro h
      obtain ⟨h, -⟩ := h
      simp only [exact, Exact.rat_inj, Int.cast_inj] at h
      simp [toWideInt?, toInt?, h]
  | float x =>
    cases x with
    | nan => simp [toWideInt?, Binary64.isIntegral, exact, Binary64.exact]
    | infinite negative => simp [toWideInt?, Binary64.isIntegral, exact, Binary64.exact]
    | finite negative quanta h =>
      simp only [toWideInt?, Bool.and_eq_true, isIntegral_iff_floor, decide_eq_true_eq, floor_eq,
        Option.ite_none_right_eq_some, Option.some.injEq, exact, Binary64.exact, Exact.rat_inj]
      constructor
      · intro h
        obtain ⟨⟨hint, hw⟩, rfl⟩ := h
        exact ⟨hint.symm, hw⟩
      · intro h
        obtain ⟨hq, hw⟩ := h
        rw [hq, Int.floor_intCast]
        exact ⟨⟨rfl, hw⟩, rfl⟩

theorem toUInt64_eq_iff {m : Nat} (hm : m < UInt64.size) {c : UInt64} :
    m.toUInt64 = c ↔ c.toNat = m := by
  rw [← UInt64.toNat_inj, Nat.toUInt64, UInt64.toNat_ofNat_of_lt' hm]
  exact eq_comm

/-- What an integer gives as a count. -/
theorem cutOff_eq_some {i : Int} {c : UInt64} :
    (if 0 ≤ i then some (min i.toNat (UInt64.size - 1)).toUInt64 else none) = some c ↔
      ∃ k : Nat, (i : ℚ) = k ∧ c.toNat = min k (UInt64.size - 1) := by
  rw [Option.ite_none_right_eq_some, Option.some_inj,
    toUInt64_eq_iff (by unfold UInt64.size; omega)]
  constructor
  · intro h
    obtain ⟨hi, hc⟩ := h
    exact ⟨i.toNat, by exact_mod_cast (Int.toNat_of_nonneg hi).symm, hc⟩
  · intro h
    obtain ⟨k, hk, hc⟩ := h
    have hi : i = k := by exact_mod_cast hk
    rw [hi, Int.toNat_natCast]
    exact ⟨Int.natCast_nonneg k, hc⟩

/-- A count is a number with a natural value, cut off at the greatest machine word. -/
theorem toCount?_eq_some {n : Number} {c : UInt64} :
    n.toCount? = some c ↔ ∃ k : Nat, n.exact = .rat k ∧ c.toNat = min k (UInt64.size - 1) := by
  cases n with
  | unsigned u =>
    have hu := u.toNat_lt
    have hcut := cutOff_eq_some (i := u.toNat) (c := c)
    rw [Int.toNat_natCast, Nat.min_eq_left (by unfold UInt64.size; omega)] at hcut
    simpa [toCount?, exact] using hcut
  | signed i =>
    have hi := i.toInt_lt
    have hcut := cutOff_eq_some (i := i.toInt) (c := c)
    rw [Nat.min_eq_left (by unfold UInt64.size; omega)] at hcut
    simpa only [toCount?, exact, Exact.rat_inj] using hcut
  | float x =>
    cases x with
    | nan => simp [toCount?, Binary64.isIntegral, exact, Binary64.exact]
    | infinite negative => simp [toCount?, Binary64.isIntegral, exact, Binary64.exact]
    | finite negative quanta h =>
      simp only [toCount?, exact, Binary64.exact, Exact.rat_inj, floor_eq]
      by_cases hint : (finite negative quanta h).isIntegral = true
      · have hcut := cutOff_eq_some (i := ⌊ratio negative quanta⌋) (c := c)
        rw [(isIntegral_iff_floor negative quanta h).mp hint] at hcut
        simpa only [hint, Bool.true_and, decide_eq_true_eq] using hcut
      · rw [if_neg (by simp [hint])]
        refine ⟨fun hc => by simp at hc, ?_⟩
        intro h
        obtain ⟨k, hk, -⟩ := h
        refine absurd ((Binary64.isIntegral_iff _).mpr ⟨k, ?_⟩) hint
        rw [Binary64.exact, hk, Int.cast_natCast]

end Number
end JsonSchema
