import JsonSchema.Binary64.Basic

namespace JsonSchema

/-- The number `significand * 10 ^ exponent`. -/
structure Decimal where
  significand : Nat
  exponent : Int
  deriving DecidableEq

namespace Decimal

def digits (d : Decimal) : List Char :=
  Nat.toDigits 10 d.significand

def leading (d : Decimal) : Int :=
  d.exponent + (d.digits.length - 1)

def digitCount (n : Nat) : Nat :=
  if n = 0 then 0 else (Nat.toDigits 10 n).length

def leadingOfQuanta (quanta : Nat) : Int :=
  let whole := quanta / Binary64.unit
  if whole = 0 then -digitCount ((Binary64.unit - 1) / quanta)
  else digitCount whole - 1

inductive Tie
  | toEven
  | up

/-- The interval of reals that round to a float, in quarters of a quantum. -/
structure Reach where
  low : Nat
  high : Nat
  /-- Whether the ends belong to it: they do when the float is the even neighbour. -/
  closed : Bool

/-- Reach to half way to either neighbour; below a power of two the neighbours are nearer. -/
def Reach.ofQuanta (quanta : Nat) : Reach :=
  let gap := Nat.pow 2 (quanta.log2 - 52)
  let mantissa := quanta / gap
  let below := if mantissa = 0x10000000000000 ∧ 1 < gap then gap else 2 * gap
  { low := 4 * quanta - below, high := 4 * quanta + 2 * gap, closed := mantissa % 2 = 0 }

def Reach.contains (r : Reach) (scale point : Nat) : Bool :=
  if r.closed then r.low * scale ≤ point && point ≤ r.high * scale
  else r.low * scale < point && point < r.high * scale

/-- The decimal on the grid of multiples of `10 ^ exponent` that is in reach and nearest, of the
two next to the float. -/
def onGrid? (tie : Tie) (quanta : Nat) (exponent : Int) : Option Decimal :=
  let reach := Reach.ofQuanta quanta
  let scale := Nat.pow 10 (-exponent).toNat
  let step := 4 * Binary64.unit * Nat.pow 10 exponent.toNat
  let value := 4 * quanta * scale
  let down := value / step
  let below := reach.contains scale (down * step)
  let above := reach.contains scale ((down + 1) * step)
  let lower : Decimal := ⟨down, exponent⟩
  let upper : Decimal := ⟨down + 1, exponent⟩
  if below && above then
    match compare (value - down * step) ((down + 1) * step - value), tie with
    | .lt, _ => some lower
    | .gt, _ => some upper
    | .eq, .toEven => some (if down % 2 = 0 then lower else upper)
    | .eq, .up => some upper
  else if below then some lower
  else if above then some upper
  else none

def carried (d : Decimal) : Decimal :=
  if d.significand = 10 then ⟨1, d.exponent + 1⟩ else d

/-- The shortest decimal that rounds to a number of quanta; seventeen digits are always enough. -/
def shortest (tie : Tie) (quanta : Nat) : Decimal :=
  if quanta = 0 then ⟨0, 0⟩
  else
    let top := leadingOfQuanta quanta
    match (List.range 17).findSome? fun (more : Nat) => onGrid? tie quanta (top - more) with
    | some d => d.carried
    | none => ⟨0, 0⟩

end Decimal
end JsonSchema
