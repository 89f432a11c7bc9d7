import JsonSchema.Number.Basic

namespace JsonSchema.Json

structure Scaled where
  significand : Nat
  exponent : Int

namespace Scaled

def append? (s : Scaled) (digit : Nat) : Option Nat :=
  let longer := 10 * s.significand + digit
  if longer < UInt64.size then some longer else none

/-- Takes the digits before the point. From the first one that does not fit on, each only raises
the exponent. -/
def whole (s : Scaled) : List Nat → Scaled
  | [] => s
  | digit :: rest =>
    match s.append? digit with
    | some longer => whole ⟨longer, s.exponent⟩ rest
    | none => ⟨s.significand, s.exponent + (rest.length + 1)⟩

def fraction (s : Scaled) : List Nat → Scaled
  | [] => s
  | digit :: rest =>
    match s.append? digit with
    | some longer => fraction ⟨longer, s.exponent - 1⟩ rest
    | none => s

def powerOfTen (n : Nat) : Binary64 := .ofNat (Nat.pow 10 n)

def divideByPower (x : Binary64) (n : Nat) : Binary64 :=
  if n ≤ 308 then x / powerOfTen n
  else if x.isZero then x
  else divideByPower (x / powerOfTen 308) (n - 308)
termination_by n

def toFloat? (s : Scaled) : Option Binary64 :=
  let x := Binary64.ofNat s.significand
  if s.exponent < 0 then some (divideByPower x s.exponent.natAbs)
  else if s.exponent ≤ 308 then
    let scaled := x * powerOfTen s.exponent.toNat
    if scaled.isFinite then some scaled else none
  else if x.isZero then some x
  else none

end Scaled

def exponentLimit : Int := 0x7fffffff

def clampExponent (e : Int) : Int := max (-exponentLimit - 1) (min exponentLimit e)

def digitValue (c : Char) : Nat := c.toNat - '0'.toNat

def digitsValue (cs : List Char) : Nat :=
  cs.foldl (fun n c => 10 * n + digitValue c) 0

def splitFraction : List Char → List Char × List Char
  | '.' :: rest => rest.span Char.isDigit
  | rest => ([], rest)

def splitExponent : List Char → Bool × List Char
  | _ :: '-' :: digits => (true, digits)
  | _ :: '+' :: digits => (false, digits)
  | _ :: digits => (false, digits)
  | [] => (false, [])

def magnitude? (cs : List Char) : Option Binary64 :=
  let (wholeDigits, rest) := cs.span Char.isDigit
  let (fractionDigits, rest) := splitFraction rest
  let scaled := (Scaled.whole ⟨0, 0⟩ (wholeDigits.map digitValue)).fraction
    (fractionDigits.map digitValue)
  let (down, exponentDigits) := splitExponent rest
  let exponent := digitsValue exponentDigits
  if exponent ≤ exponentLimit then
    let sum := if down then scaled.exponent - exponent else scaled.exponent + exponent
    { scaled with exponent := clampExponent sum }.toFloat?
  else if down || scaled.significand = 0 then some (.ofNat 0)
  else none

def numberOfLiteral? (literal : List Char) : Option Number :=
  let (negative, cs) := match literal with
    | '-' :: rest => (true, rest)
    | cs => (false, cs)
  let n := digitsValue cs
  if cs.all Char.isDigit && !negative && n < UInt64.size then some (.unsigned n.toUInt64)
  else if cs.all Char.isDigit && negative && 0 < n && n ≤ 0x8000000000000000 then
    some (.signed (-(n : Int)).toInt64)
  else (magnitude? cs).map fun x => .float (if negative then -x else x)

end JsonSchema.Json
