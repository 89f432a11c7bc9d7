import JsonSchema.Number.Order

namespace JsonSchema.Number

/-- The distance from the nearest integer that a quotient may have, 10^-9 as a float, in quanta. -/
def tolerance : Nat := Binary64.roundQuanta Binary64.unit 1000000000

def toWideInt? : Number → Option Int
  | .float x => if x.isIntegral && x.floor.natAbs < wideBound then some x.floor else none
  | integer => integer.toInt?

/-- Whether a finite float is within the tolerance of an integer. Its distance from the nearest one
is a whole number of quanta, so no rounding is involved. -/
def isNearInteger : Binary64 → Bool
  | .finite _ quanta _ =>
    let fraction := quanta % Binary64.unit
    min fraction (Binary64.unit - fraction) ≤ tolerance
  | _ => false

def isMultipleOf (x d : Number) : Bool :=
  match x.toWideInt?, d.toWideInt? with
  | some i, some j => j ≠ 0 && i % j = 0
  | _, _ => !d.toFloat.isZero && isNearInteger (x.toFloat / d.toFloat)

end JsonSchema.Number
