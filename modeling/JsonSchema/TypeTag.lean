import JsonSchema.Value.Basic

namespace JsonSchema

inductive TypeTag
  | null
  | boolean
  | integer
  | number
  | string
  | array
  | object
  deriving DecidableEq

namespace TypeTag

def all : List TypeTag := [.null, .boolean, .integer, .number, .string, .array, .object]

def text : TypeTag → String
  | .null => "null"
  | .boolean => "boolean"
  | .integer => "integer"
  | .number => "number"
  | .string => "string"
  | .array => "array"
  | .object => "object"

def parse? (name : String) : Option TypeTag :=
  all.find? fun tag => tag.text = name

def kind : TypeTag → Kind
  | .null => .null
  | .boolean => .boolean
  | .integer => .number
  | .number => .number
  | .string => .string
  | .array => .array
  | .object => .object

def ofKind : Kind → TypeTag
  | .null => .null
  | .boolean => .boolean
  | .number => .number
  | .string => .string
  | .array => .array
  | .object => .object

/-- Whether a value is of a type. An integer is a number without a fractional part, however it is
written. -/
def accepts (tag : TypeTag) (v : Value) : Bool :=
  match tag, v with
  | .integer, .number n => n.isIntegral
  | .integer, _ => false
  | tag, v => tag.kind == v.kind

end TypeTag
end JsonSchema
