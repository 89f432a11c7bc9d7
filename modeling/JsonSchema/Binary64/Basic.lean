namespace JsonSchema

/-- The first power of two, counted in quanta, that is above every finite number: 2^1024. -/
def Binary64.ceiling : Nat := 2098

def Binary64.overflow : Nat := Nat.pow 2 ceiling

def Representable (quanta : Nat) : Prop :=
  quanta < Binary64.overflow ∧ Nat.pow 2 (quanta.log2 - 52) ∣ quanta

instance (quanta : Nat) : Decidable (Representable quanta) :=
  inferInstanceAs (Decidable (_ ∧ _))

/-- A floating point number; all NaNs are one. -/
inductive Binary64
  | nan
  | infinite (negative : Bool)
  | finite (negative : Bool) (quanta : Nat) (representable : Representable quanta)
  deriving DecidableEq

namespace Binary64

/-- The number of quanta in 1. -/
def unit : Nat := Nat.pow 2 1074

def signed (negative : Bool) (quanta : Nat) : Int :=
  if negative then -quanta else quanta

theorem log2_mul_two_pow (hm : m ≠ 0) : (m * Nat.pow 2 k).log2 = m.log2 + k := by
  rw [Nat.pow_eq]
  have low : 2 ^ (m.log2 + k) ≤ m * 2 ^ k := by
    rw [Nat.pow_add]
    exact Nat.mul_le_mul_right _ (Nat.log2_self_le hm)
  have high : m * 2 ^ k < 2 ^ (m.log2 + k + 1) := by
    rw [show m.log2 + k + 1 = (m.log2 + 1) + k by omega, Nat.pow_add]
    exact Nat.mul_lt_mul_of_pos_right Nat.lt_log2_self (Nat.two_pow_pos k)
  have hp : m * 2 ^ k ≠ 0 := Nat.mul_ne_zero hm (Nat.ne_of_gt (Nat.two_pow_pos k))
  have := (Nat.le_log2 hp).2 low
  have := (Nat.log2_lt hp).2 high
  omega

def fiftyFourBits : Nat := 0x20000000000000

theorem fiftyFourBits_eq : fiftyFourBits = Nat.pow 2 53 := by decide

/-- Scaling a number of at most 53 bits by a power of two keeps it in the format's grid. -/
theorem grid_mul_two_pow (hm : m ≤ fiftyFourBits) :
    Nat.pow 2 ((m * Nat.pow 2 k).log2 - 52) ∣ m * Nat.pow 2 k := by
  by_cases h0 : m = 0
  · simp [h0]
  · rw [log2_mul_two_pow h0]
    rw [fiftyFourBits_eq] at hm
    simp only [Nat.pow_eq] at hm ⊢
    by_cases he : m = 2 ^ 53
    · subst he
      rw [Nat.log2_two_pow, ← Nat.pow_add]
      exact Nat.pow_dvd_pow 2 (by omega)
    · have : m.log2 < 53 := (Nat.log2_lt h0).2 (by omega)
      exact Nat.dvd_trans (Nat.pow_dvd_pow 2 (by omega)) (Nat.dvd_mul_left ..)

theorem representable_mul_two_pow (hm : m < fiftyFourBits) (hk : k ≤ 2045) :
    Representable (m * Nat.pow 2 k) := by
  refine ⟨?_, grid_mul_two_pow (Nat.le_of_lt hm)⟩
  rw [fiftyFourBits_eq] at hm
  have high : m * Nat.pow 2 k < Nat.pow 2 (53 + k) := by
    rw [Nat.pow_eq, Nat.pow_eq, Nat.pow_add]
    exact Nat.mul_lt_mul_of_pos_right hm (Nat.two_pow_pos k)
  have room : 53 + k ≤ ceiling := by unfold ceiling; omega
  have grow {n : Nat} (h : 53 + k ≤ n) : Nat.pow 2 (53 + k) ≤ Nat.pow 2 n :=
    Nat.pow_le_pow_right (by decide) h
  unfold overflow
  exact Nat.lt_of_lt_of_le high (grow room)

/-- The number that a bit pattern stands for: a sign bit, eleven bits of exponent and fifty-two of
fraction, where all ones in the exponent mean an infinity or a NaN. -/
def ofBits (bits : UInt64) : Binary64 :=
  let negative := decide (0x8000000000000000 ≤ bits.toNat)
  let exponent := bits.toNat / 0x10000000000000 % 0x800
  let fraction := bits.toNat % 0x10000000000000
  if h : exponent = 2047 then
    if fraction = 0 then .infinite negative else .nan
  else if exponent = 0 then
    .finite negative (fraction * Nat.pow 2 0)
      (representable_mul_two_pow (by unfold fiftyFourBits; omega) (by omega))
  else
    .finite negative ((0x10000000000000 + fraction) * Nat.pow 2 (exponent - 1))
      (representable_mul_two_pow (by unfold fiftyFourBits; omega) (by omega))

/-- The bit pattern of a number; of the NaNs, the quiet one without payload. -/
def toBits : Binary64 → UInt64
  | .nan => 0x7ff8000000000000
  | .infinite negative => signBit negative + 0x7ff0000000000000
  | .finite negative quanta _ =>
    let scale := quanta.log2 - 52
    signBit negative + (scale * 0x10000000000000 + quanta / Nat.pow 2 scale).toUInt64
where
  signBit (negative : Bool) : UInt64 := if negative then 0x8000000000000000 else 0

/-- The order of floats, in which every NaN is one value above all others and the zeros agree. -/
protected def compare : Binary64 → Binary64 → Ordering
  | .nan, .nan => .eq
  | .nan, _ => .gt
  | _, .nan => .lt
  | .infinite a, .infinite b => if a = b then .eq else if a then .lt else .gt
  | .infinite negative, .finite .. => if negative then .lt else .gt
  | .finite .., .infinite negative => if negative then .gt else .lt
  | .finite na a _, .finite nb b _ => compare (signed na a) (signed nb b)

def isFinite : Binary64 → Bool
  | .finite .. => true
  | _ => false

def isIntegral : Binary64 → Bool
  | .finite _ quanta _ => decide (unit ∣ quanta)
  | _ => false

def isZero : Binary64 → Bool
  | .finite _ quanta _ => decide (quanta = 0)
  | _ => false

def isPositive : Binary64 → Bool
  | .nan => false
  | .infinite negative => !negative
  | .finite negative quanta _ => !negative && decide (0 < quanta)

/-- The greatest whole number that is not above a finite number; 0 for the others. -/
def floor : Binary64 → Int
  | .finite negative quanta _ => signed negative quanta / unit
  | _ => 0

def neg : Binary64 → Binary64
  | .nan => .nan
  | .infinite negative => .infinite (!negative)
  | .finite negative quanta h => .finite (!negative) quanta h

instance : Neg Binary64 := ⟨neg⟩

end Binary64
end JsonSchema
