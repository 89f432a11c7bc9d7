import JsonSchema.Number.Basic

namespace JsonSchema.Number

/-- The first power of two beyond the integers of 128 bits. Every written integer lies well inside
and every float from here on is integral. -/
def wideBound : Int := 0x80000000000000000000000000000000

def fitsWide (x : Binary64) : Bool :=
  x.isFinite && -wideBound ≤ x.floor && x.floor < wideBound

def wholePart (x : Binary64) : Binary64 :=
  if x.isFinite && !x.isIntegral then .ofInt x.floor else x

/-- A float as an integer of 128 bits. A fraction is dropped, what lies outside is cut off at the
ends of the range, and NaN becomes 0. -/
def toWide : Binary64 → Int
  | .nan => 0
  | .infinite negative => if negative then -wideBound else wideBound - 1
  | .finite negative quanta _ =>
    max (-wideBound) (min (wideBound - 1) ((Binary64.signed negative quanta).tdiv Binary64.unit))

/-- An integer against a float: against its whole part, and where these agree a fraction makes the
float the greater one. -/
def compareIntFloat (i : Int) (x : Binary64) : Ordering :=
  match x with
  | .nan => .lt
  | .infinite negative => if negative then .gt else .lt
  | .finite .. =>
    if fitsWide x then
      match compare i (toWide (wholePart x)) with
      | .eq => if x.isIntegral then .eq else .lt
      | unequal => unequal
    else if x.isPositive then .lt
    else .gt

protected def compare (a b : Number) : Ordering :=
  match a.toInt?, b.toInt? with
  | some i, some j => compare i j
  | some i, none => compareIntFloat i b.toFloat
  | none, some j => (compareIntFloat j a.toFloat).swap
  | none, none => a.toFloat.compare b.toFloat

instance : Ord Number := ⟨Number.compare⟩

def same (a b : Number) : Bool :=
  a.compare b == .eq

def below (a b : Number) : Bool :=
  a.compare b == .lt

def sort (numbers : List Number) : List Number :=
  numbers.mergeSort fun a b => (a.compare b).isLE

def dropRepeats : List Number → List Number
  | [] => []
  | n :: rest => n :: after n rest
where
  after (last : Number) : List Number → List Number
    | [] => []
    | n :: rest => if last.same n then after last rest else n :: after n rest

end JsonSchema.Number
