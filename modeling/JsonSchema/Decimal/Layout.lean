import JsonSchema.Decimal.Shortest

namespace JsonSchema.Decimal

def positional (d : Decimal) : String :=
  let zeros (n : Nat) := List.replicate n '0'
  let point := d.digits.length + d.exponent
  if 0 ≤ d.exponent then String.ofList (d.digits ++ zeros d.exponent.toNat)
  else if 0 < point then
    String.ofList (d.digits.take point.toNat ++ '.' :: d.digits.drop point.toNat)
  else String.ofList ('0' :: '.' :: zeros (-point).toNat ++ d.digits)

def scientific (d : Decimal) : String :=
  let mantissa := match d.digits with
    | first :: rest@(_ :: _) => String.ofList (first :: '.' :: rest)
    | short => String.ofList short
  let sign := if d.leading < 0 then "-" else "+"
  mantissa ++ "e" ++ sign ++ toString d.leading.natAbs

structure Layout where
  /-- Which of two equally short and equally near decimals is written. -/
  tie : Tie
  /-- Whether a number with this leading power of ten is written without an exponent. -/
  isPositional : Int → Bool
  /-- Whether a whole number in positional form ends in `.0`. -/
  marksFraction : Bool

def Layout.text (layout : Layout) (negative : Bool) (quanta : Nat) : String :=
  let d := shortest layout.tie quanta
  let magnitude :=
    if !layout.isPositional d.leading then d.scientific
    else if layout.marksFraction && 0 ≤ d.exponent then d.positional ++ ".0"
    else d.positional
  if negative then "-" ++ magnitude else magnitude

/-- Numbers in JSON text: no exponent from 0.00001 up to below 10^16, and always a mark that the
number is not an integer. -/
def Layout.json : Layout where
  tie := .toEven
  isPositional e := -5 ≤ e && e < 16
  marksFraction := true

def Layout.plain : Layout where
  tie := .up
  isPositional _ := true
  marksFraction := false

end JsonSchema.Decimal
