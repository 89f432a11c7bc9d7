import JsonSchema.Error
import JsonSchema.Rule.Basic

namespace JsonSchema

structure Site where
  members : Members
  location : Location

namespace Site

def invalid (site : Site) (keyword : String) (problem : Problem) : SchemaError :=
  .invalid site.location keyword problem

def flag (site : Site) (keyword : String) : Except SchemaError Bool :=
  match site.members.lookup keyword with
  | none => .ok false
  | some (.bool b) => .ok b
  | some other => .error (site.invalid keyword (.wrongKind [.boolean] other.kind))

def count (site : Site) (keyword : String) (value : Value) : Except SchemaError UInt64 :=
  match value with
  | .number n =>
    match n.toCount? with
    | some count => .ok count
    | none => .error (site.invalid keyword (.notCount value))
  | other => .error (site.invalid keyword (.notCount other))

end Site

/-- The registry that a keyword was found in, as the keyword sees it. -/
structure Peers where
  /-- In the order in which they are listed. -/
  names : List String
  /-- What the keyword of a name makes of any value at any place. -/
  keyword? : String → Option (Site → Value → Except SchemaError Rule)
  /-- The rule of any document, which need not be part of the schema. -/
  compile : Location → Value → Except SchemaError Rule

/-- What a keyword can ask for: the rules of the schemas inside its value, compiled as if they were
at some location, and anything of the registry. -/
structure Nested where
  /-- The value itself is the schema. -/
  self : Location → Except SchemaError Rule
  /-- The elements of the value are schemas; each is at the location with its position. -/
  elements : Location → Except SchemaError (List Rule)
  /-- The members of the value are schemas; each is at the location with its name. -/
  members : Location → Except SchemaError (List (String × Rule))
  peers : Peers

abbrev Keyword := Site → Value → Nested → Except SchemaError Rule

namespace Keyword

def typeTag (site : Site) (value : Value) : Except SchemaError TypeTag :=
  match value with
  | .string name =>
    match TypeTag.parse? name with
    | some tag => .ok tag
    | none => .error (site.invalid "type" (.unknownType name))
  | other => .error (site.invalid "type" (.entryNotString other.kind))

def typeTags (site : Site) (seen : List TypeTag) : List Value → Except SchemaError (List TypeTag)
  | [] => .ok []
  | value :: rest => do
    let tag ← typeTag site value
    if seen.contains tag then .error (site.invalid "type" (.repeated tag.text))
    else pure (tag :: (← typeTags site (seen ++ [tag]) rest))

def type : Keyword := fun site value _ =>
  match value with
  | .string _ => do pure (.check (.type [← typeTag site value]))
  | .array [] => .error (site.invalid "type" .emptyArray)
  | .array elements => do pure (.check (.type (← typeTags site [] elements)))
  | other => .error (site.invalid "type" (.wrongKind [.string, .array] other.kind))

def enum : Keyword := fun site value _ =>
  match value with
  | .array [] => .error (site.invalid "enum" .emptyArray)
  | .array members => .ok (.check (.enum members))
  | other => .error (site.invalid "enum" (.wrongKind [.array] other.kind))

def properties : Keyword := fun site value nested =>
  match value with
  | .object _ => do pure (.properties (← nested.members (site.location.below ["properties"])))
  | other => .error (site.invalid "properties" (.wrongKind [.object] other.kind))

def requiredNames (site : Site) (seen : List String) : List Value → Except SchemaError (List String)
  | [] => .ok []
  | .string name :: rest => do
    if seen.contains name then .error (site.invalid "required" (.repeated name))
    else pure (name :: (← requiredNames site (seen ++ [name]) rest))
  | other :: _ => .error (site.invalid "required" (.entryNotString other.kind))

def required : Keyword := fun site value _ =>
  match value with
  | .array entries => do pure (.check (.required (← requiredNames site [] entries)))
  | other => .error (site.invalid "required" (.wrongKind [.array] other.kind))

def multipleOf : Keyword := fun site value _ =>
  match value with
  | .number n =>
    if n.isPositive then .ok (.check (.multipleOf n))
    else .error (site.invalid "multipleOf" (.notPositive n))
  | other => .error (site.invalid "multipleOf" (.wrongKind [.number] other.kind))

def bound (side : Side) (keyword modifier : String) : Keyword := fun site value _ =>
  match value with
  | .number n => do pure (.check (.bound side n (← site.flag modifier)))
  | other => .error (site.invalid keyword (.wrongKind [.number] other.kind))

def length (limit : Limit) (keyword : String) : Keyword := fun site value _ => do
  pure (.check (.length limit (← site.count keyword value)))

def itemCount (limit : Limit) (keyword : String) : Keyword := fun site value _ => do
  pure (.check (.itemCount limit (← site.count keyword value)))

def pattern : Keyword := fun site value _ =>
  match value with
  | .string source =>
    match Pattern.parse? source with
    | some p => .ok (.check (.pattern p))
    | none => .error (site.invalid "pattern" (.badPattern source))
  | other => .error (site.invalid "pattern" (.wrongKind [.string] other.kind))

def items : Keyword := fun site value nested =>
  let location := site.location.below ["items"]
  match value with
  | .array _ => do pure (.positional (← nested.elements location))
  | _ => do pure (.each (← nested.self location))

end Keyword

inductive Builtin
  | type
  | enum
  | properties
  | required
  | multipleOf
  | minimum
  | maximum
  | minLength
  | maxLength
  | pattern
  | items
  | minItems
  | maxItems
  deriving DecidableEq

namespace Builtin

def all : List Builtin :=
  [.type, .enum, .properties, .required, .multipleOf, .minimum, .maximum, .minLength, .maxLength,
    .pattern, .items, .minItems, .maxItems]

def name : Builtin → String
  | .type => "type"
  | .enum => "enum"
  | .properties => "properties"
  | .required => "required"
  | .multipleOf => "multipleOf"
  | .minimum => "minimum"
  | .maximum => "maximum"
  | .minLength => "minLength"
  | .maxLength => "maxLength"
  | .pattern => "pattern"
  | .items => "items"
  | .minItems => "minItems"
  | .maxItems => "maxItems"

/-- What a built-in keyword makes of its value. It goes by its own name in errors and reports,
whatever name it is registered under. -/
def keyword : Builtin → Keyword
  | .type => Keyword.type
  | .enum => Keyword.enum
  | .properties => Keyword.properties
  | .required => Keyword.required
  | .multipleOf => Keyword.multipleOf
  | .minimum => Keyword.bound .minimum "minimum" "exclusiveMinimum"
  | .maximum => Keyword.bound .maximum "maximum" "exclusiveMaximum"
  | .minLength => Keyword.length .min "minLength"
  | .maxLength => Keyword.length .max "maxLength"
  | .pattern => Keyword.pattern
  | .items => Keyword.items
  | .minItems => Keyword.itemCount .min "minItems"
  | .maxItems => Keyword.itemCount .max "maxItems"

end Builtin
end JsonSchema
