import JsonSchema.TypeTag
import JsonSchema.Value.Equality
import JsonSchema.Value.Text
import JsonSchema.Number.Multiple
import JsonSchema.Pattern.Parser

namespace JsonSchema

inductive Limit
  | min
  | max
  deriving DecidableEq

namespace Limit

def allows (limit : Limit) (actual bound : Nat) : Bool :=
  match limit with
  | .min => bound ≤ actual
  | .max => actual ≤ bound

def text : Limit → String
  | .min => "at least"
  | .max => "at most"

end Limit

inductive Side
  | minimum
  | maximum
  deriving DecidableEq

namespace Side

/-- Whether a number is within a limit, which itself counts unless it is exclusive. -/
def allows (side : Side) (exclusive : Bool) (limit n : Number) : Bool :=
  let order := n.compare limit
  match side, exclusive with
  | .minimum, false => order.isGE
  | .minimum, true => order.isGT
  | .maximum, false => order.isLE
  | .maximum, true => order.isLT

def violation (side : Side) (exclusive : Bool) : String :=
  match side, exclusive with
  | .minimum, false => "less than"
  | .minimum, true => "less than or equal to"
  | .maximum, false => "greater than"
  | .maximum, true => "greater than or equal to"

end Side

/-- A check that is not one of this library: its name and the instances that pass it. -/
structure Extension where
  name : String
  accepts : Value → Bool

/-- What one keyword asks. -/
inductive Check
  /-- The instance is of one of these types. -/
  | type (tags : List TypeTag)
  /-- The instance is one of these values. -/
  | enum (members : List Value)
  /-- An object has members of these names. -/
  | required (names : List String)
  /-- A number is divisible. -/
  | multipleOf (divisor : Number)
  /-- A number is not beyond a limit. -/
  | bound (side : Side) (limit : Number) (exclusive : Bool)
  /-- A string has no fewer, or no more, characters. -/
  | length (limit : Limit) (count : UInt64)
  /-- A string contains a match. -/
  | pattern (p : Pattern)
  /-- An array has no fewer, or no more, elements. -/
  | itemCount (limit : Limit) (count : UInt64)
  | extension (e : Extension)

namespace Check

def keyword : Check → String
  | .type _ => "type"
  | .enum _ => "enum"
  | .required _ => "required"
  | .multipleOf _ => "multipleOf"
  | .bound .minimum .. => "minimum"
  | .bound .maximum .. => "maximum"
  | .length .min _ => "minLength"
  | .length .max _ => "maxLength"
  | .pattern _ => "pattern"
  | .itemCount .min _ => "minItems"
  | .itemCount .max _ => "maxItems"
  | .extension e => e.name

def accepts (check : Check) (x : Value) : Bool :=
  match check, x with
  | .type tags, x => tags.any (·.accepts x)
  | .enum members, x => members.any (·.same x)
  | .required names, .object members => names.all fun name => (members.lookup name).isSome
  | .multipleOf d, .number n => n.isMultipleOf d
  | .bound side limit exclusive, .number n => side.allows exclusive limit n
  | .length limit count, .string s => limit.allows s.length count.toNat
  | .pattern p, .string s => p.isIn s
  | .itemCount limit count, .array elements => limit.allows elements.length count.toNat
  | .extension e, x => e.accepts x
  | _, _ => true

def expectedTypes : List TypeTag → String
  | [tag] => tag.text
  | tags => "one of [" ++ ", ".intercalate (tags.map TypeTag.text) ++ "]"

/-- A message for everything that is wrong with an instance. Only missing members are counted one
by one. -/
def complaints (check : Check) (x : Value) : List String :=
  match check, x with
  | .required names, .object members =>
    (names.filter fun name => (members.lookup name).isNone).map fun name =>
      "missing required property `" ++ name ++ "`"
  | .length limit count, .string s =>
    if limit.allows s.length count.toNat then []
    else ["expected " ++ limit.text ++ " " ++ toString count.toNat ++ " characters, found "
      ++ toString s.length]
  | .itemCount limit count, .array elements =>
    if limit.allows elements.length count.toNat then []
    else ["expected " ++ limit.text ++ " " ++ toString count.toNat ++ " items, found "
      ++ toString elements.length]
  | check, x => if check.accepts x then [] else [message check x]
where
  /-- What is wrong with an instance that does not pass, for the checks that say one thing only. -/
  message (check : Check) (x : Value) : String :=
    match check with
    | .type tags => "expected " ++ expectedTypes tags ++ ", found " ++ x.kind.text
    | .enum _ => x.text ++ " is not one of the enumerated values"
    | .multipleOf d => x.text ++ " is not a multiple of " ++ d.text
    | .bound side limit exclusive =>
      x.text ++ " is " ++ side.violation exclusive ++ " " ++ limit.text
    | .pattern p => x.text ++ " does not match /" ++ p.source ++ "/"
    | other => "does not satisfy `" ++ other.keyword ++ "`"

end Check
end JsonSchema
