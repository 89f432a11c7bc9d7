import JsonSchema.Binary64.Arith
import JsonSchema.Decimal.Layout

namespace JsonSchema

/-- An integer of either machine range, or a float. -/
inductive Number
  | unsigned (n : UInt64)
  | signed (i : Int64)
  | float (x : Binary64)
  deriving DecidableEq

namespace Number

def ofInt64 (i : Int64) : Number :=
  if 0 ≤ i.toInt then .unsigned i.toInt.toNat.toUInt64 else .signed i

/-- The number in the form that the conversions give it: a signed integer is negative. -/
def Canonical : Number → Prop
  | .signed i => i.toInt < 0
  | _ => True

/-- The integer that was written, and nothing for floats. -/
def toInt? : Number → Option Int
  | .unsigned n => some n.toNat
  | .signed i => some i.toInt
  | .float _ => none

def toFloat : Number → Binary64
  | .unsigned n => .ofNat n.toNat
  | .signed i => .ofInt i.toInt
  | .float x => x

def isIntegral : Number → Bool
  | .float x => x.isIntegral
  | _ => true

def isPositive : Number → Bool
  | .unsigned n => decide (0 < n.toNat)
  | .signed _ => false
  | .float x => x.isPositive

def text : Number → String
  | .unsigned n => toString n.toNat
  | .signed i => toString i.toInt
  | .float .nan => "NaN"
  | .float (.infinite negative) => if negative then "-inf" else "inf"
  | .float (.finite negative quanta _) => Decimal.Layout.plain.text negative quanta

/-- The number in JSON text, which has no word for the numbers that are not finite. -/
def jsonText : Number → String
  | .float (.finite negative quanta _) => Decimal.Layout.json.text negative quanta
  | .float _ => "null"
  | integer => integer.text

/-- The value of a number that is an integer of at least 0, cut off at the largest 64-bit word. -/
def toCount? (n : Number) : Option UInt64 :=
  match n with
  | .unsigned u => some u
  | .signed i => if 0 ≤ i.toInt then some i.toInt.toNat.toUInt64 else none
  | .float x =>
    if x.isIntegral && 0 ≤ x.floor then some (min x.floor.toNat (UInt64.size - 1)).toUInt64
    else none

end Number
end JsonSchema
