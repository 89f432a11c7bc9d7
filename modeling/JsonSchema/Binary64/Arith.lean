import JsonSchema.Binary64.Basic

namespace JsonSchema

/-- The whole number nearest to a quotient; of two that are equally near, the even one. -/
def divNearest (numerator denominator : Nat) : Nat :=
  let whole := numerator / denominator
  let twice := 2 * (numerator % denominator)
  if twice < denominator then whole
  else if denominator < twice then whole + 1
  else if whole % 2 = 0 then whole else whole + 1

theorem divNearest_le (num den : Nat) : divNearest num den ≤ num / den + 1 := by
  unfold divNearest
  grind

namespace Binary64

def roundQuanta (numerator denominator : Nat) : Nat :=
  let scale := (numerator / denominator).log2 - 52
  divNearest numerator (denominator * Nat.pow 2 scale) * Nat.pow 2 scale

theorem representable_roundQuanta (h : roundQuanta num den < overflow) :
    Representable (roundQuanta num den) := by
  refine ⟨h, grid_mul_two_pow ?_⟩
  refine Nat.le_trans (divNearest_le ..) ?_
  rw [← Nat.div_div_eq_div_mul, fiftyFourBits_eq]
  simp only [Nat.pow_eq]
  suffices num / den / 2 ^ ((num / den).log2 - 52) < 2 ^ 53 by omega
  rw [Nat.div_lt_iff_lt_mul (Nat.two_pow_pos _), ← Nat.pow_add]
  exact Nat.lt_of_lt_of_le Nat.lt_log2_self (Nat.pow_le_pow_right (by decide) (by omega))

def ofQuanta (negative : Bool) (numerator denominator : Nat) : Binary64 :=
  let quanta := roundQuanta numerator denominator
  if h : quanta < overflow then .finite negative quanta (representable_roundQuanta h)
  else .infinite negative

def ofRatio (negative : Bool) (numerator denominator : Nat) : Binary64 :=
  ofQuanta negative (numerator * unit) denominator

def ofNat (n : Nat) : Binary64 := ofRatio false n 1

def ofInt (i : Int) : Binary64 := ofRatio (decide (i < 0)) i.natAbs 1

protected def mul : Binary64 → Binary64 → Binary64
  | .nan, _ => .nan
  | _, .nan => .nan
  | .infinite a, .infinite b => .infinite (a ^^ b)
  | .infinite a, .finite b quanta _ => if quanta = 0 then .nan else .infinite (a ^^ b)
  | .finite a quanta _, .infinite b => if quanta = 0 then .nan else .infinite (a ^^ b)
  | .finite na a _, .finite nb b _ => ofQuanta (na ^^ nb) (a * b) unit

protected def div : Binary64 → Binary64 → Binary64
  | .nan, _ => .nan
  | _, .nan => .nan
  | .infinite _, .infinite _ => .nan
  | .infinite a, .finite b .. => .infinite (a ^^ b)
  | .finite a .., .infinite b => ofQuanta (a ^^ b) 0 1
  | .finite na a _, .finite nb b _ =>
    if b = 0 then
      if a = 0 then .nan else .infinite (na ^^ nb)
    else ofQuanta (na ^^ nb) (a * unit) b

instance : Mul Binary64 := ⟨Binary64.mul⟩
instance : Div Binary64 := ⟨Binary64.div⟩

end Binary64
end JsonSchema
