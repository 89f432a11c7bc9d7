import JsonSchema.Value.Text
import JsonSchema.Pointer

namespace JsonSchema

/-- The location of a schema inside a schema document: the text of where compiling began, and the
segments walked from there. -/
structure Location where
  base : String
  segments : List String
  deriving DecidableEq

namespace Location

def root : Location := ⟨"#", []⟩

def below (at_ : Location) (segments : List String) : Location :=
  { at_ with segments := at_.segments ++ segments }

def text (at_ : Location) : String :=
  at_.base ++ Pointer.text at_.segments

end Location

inductive Problem
  /-- It has to be of one of some kinds. -/
  | wrongKind (expected : List Kind) (found : Kind)
  /-- A list of names holds something else. -/
  | entryNotString (found : Kind)
  | unknownType (name : String)
  | repeated (name : String)
  | emptyArray
  | notPositive (found : Number)
  /-- It has to be a length or a number of elements. -/
  | notCount (found : Value)
  | badPattern (source : String)
  /-- Keywords make up schemas that lead to more and more of them. -/
  | endless
  /-- A problem that a keyword of a user's own describes. -/
  | other (reason : String)

def Problem.text : Problem → String
  | .wrongKind expected found =>
    "must be " ++ " or ".intercalate (expected.map Kind.withArticle) ++ ", found " ++ found.text
  | .entryNotString found => "entries must be strings, found " ++ found.text
  | .unknownType name => "unknown type name \"" ++ name ++ "\""
  | .repeated name => "lists \"" ++ name ++ "\" more than once"
  | .emptyArray => "must not be an empty array"
  | .notPositive found => "must be greater than 0, found " ++ found.text
  | .notCount found => "must be a non-negative integer, found " ++ found.text
  | .badPattern source => "is not a valid regex: " ++ source
  | .endless => "leads to schemas without end"
  | .other reason => reason

inductive SchemaError
  /-- A schema document is malformed. -/
  | invalid (location : Location) (keyword : String) (problem : Problem)
  /-- A value was read as a kind that it is not. -/
  | kindMismatch (expected found : Kind)

def SchemaError.message : SchemaError → String
  | .invalid location keyword problem =>
    "invalid schema at " ++ location.text ++ ": `" ++ keyword ++ "` " ++ problem.text
  | .kindMismatch expected found =>
    "type mismatch: expected " ++ expected.text ++ ", found " ++ found.text

namespace Value

def asBool : Value → Except SchemaError Bool
  | .bool b => .ok b
  | other => .error (.kindMismatch .boolean other.kind)

def asNumber : Value → Except SchemaError Number
  | .number n => .ok n
  | other => .error (.kindMismatch .number other.kind)

def asString : Value → Except SchemaError String
  | .string s => .ok s
  | other => .error (.kindMismatch .string other.kind)

def asArray : Value → Except SchemaError (List Value)
  | .array elements => .ok elements
  | other => .error (.kindMismatch .array other.kind)

def asObject : Value → Except SchemaError Members
  | .object members => .ok members
  | other => .error (.kindMismatch .object other.kind)

end Value
end JsonSchema
