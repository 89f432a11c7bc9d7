import JsonSchema.Number.Basic

namespace JsonSchema

inductive Kind
  | null
  | boolean
  | number
  | string
  | array
  | object
  deriving DecidableEq

namespace Kind

def all : List Kind := [.null, .boolean, .number, .string, .array, .object]

def text : Kind → String
  | .null => "null"
  | .boolean => "boolean"
  | .number => "number"
  | .string => "string"
  | .array => "array"
  | .object => "object"

def withArticle : Kind → String
  | .array => "an array"
  | .object => "an object"
  | other => "a " ++ other.text

def rank : Kind → Nat
  | .null => 0
  | .boolean => 1
  | .number => 2
  | .string => 3
  | .array => 4
  | .object => 5

instance : LE Kind := ⟨fun a b => a.rank ≤ b.rank⟩
instance (a b : Kind) : Decidable (a ≤ b) := inferInstanceAs (Decidable (a.rank ≤ b.rank))

end Kind

inductive Value
  | null
  | bool (b : Bool)
  | number (n : Number)
  | string (s : String)
  | array (elements : List Value)
  | object (members : List (String × Value))

/-- The members of an object, in declaration order. -/
abbrev Members := List (String × Value)

namespace Value

def kind : Value → Kind
  | .null => .null
  | .bool _ => .boolean
  | .number _ => .number
  | .string _ => .string
  | .array _ => .array
  | .object _ => .object

def isNull : Value → Bool
  | .null => true
  | _ => false

def get? (v : Value) (name : String) : Option Value :=
  match v with
  | .object members => members.lookup name
  | _ => none

def has (v : Value) (name : String) : Bool :=
  (v.get? name).isSome

mutual

/-- No object inside the value names a member twice. -/
def UniqueNames : Value → Prop
  | .array elements => UniqueNamesAll elements
  | .object members => (members.map Prod.fst).Nodup ∧ UniqueNamesIn members
  | _ => True
termination_by structural v => v

def UniqueNamesAll : List Value → Prop
  | [] => True
  | v :: rest => UniqueNames v ∧ UniqueNamesAll rest
termination_by structural elements => elements

def UniqueNamesIn : Members → Prop
  | [] => True
  | (_, v) :: rest => UniqueNames v ∧ UniqueNamesIn rest
termination_by structural members => members

end

end Value

namespace Members

/-- Adds a member. One of the same name keeps its place and takes the new value. -/
def insert (name : String) (v : Value) : Members → Members
  | [] => [(name, v)]
  | (other, old) :: rest =>
    if other = name then (name, v) :: rest else (other, old) :: insert name v rest

end Members
end JsonSchema
