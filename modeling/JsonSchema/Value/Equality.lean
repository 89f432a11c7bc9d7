import JsonSchema.Value.Basic
import JsonSchema.Number.Order

namespace JsonSchema.Value

mutual

def same : Value → Value → Bool
  | .null, .null => true
  | .bool a, .bool b => a == b
  | .number a, .number b => a.same b
  | .string a, .string b => a == b
  | .array a, .array b => sameElements a b
  | .object a, .object b => a.length == b.length && sameMembers a b
  | _, _ => false
termination_by structural a => a

def sameElements : List Value → List Value → Bool
  | [], [] => true
  | a :: as, b :: bs => same a b && sameElements as bs
  | _, _ => false
termination_by structural as => as

def sameMembers : Members → Members → Bool
  | [], _ => true
  | (name, a) :: rest, other =>
    (match other.lookup name with
      | some b => same a b
      | none => false) && sameMembers rest other
termination_by structural members => members

end

end JsonSchema.Value
