import JsonSchema.Value.Text

namespace JsonSchema.Value

def newLine (depth : Nat) : List Char :=
  '\n' :: List.replicate (2 * depth) ' '

mutual

def prettyChars (depth : Nat) : Value → List Char
  | .array [] => ['[', ']']
  | .array (v :: rest) =>
    '[' :: newLine (depth + 1) ++ prettyChars (depth + 1) v ++ prettyElements (depth + 1) rest
      ++ newLine depth ++ [']']
  | .object [] => ['\x7b', '\x7d']
  | .object ((name, v) :: rest) =>
    '\x7b' :: newLine (depth + 1) ++ quoted name ++ ':' :: ' ' :: prettyChars (depth + 1) v
      ++ prettyMembers (depth + 1) rest ++ newLine depth ++ ['\x7d']
  | v => v.chars
termination_by structural v => v

def prettyElements (depth : Nat) : List Value → List Char
  | [] => []
  | v :: rest => ',' :: newLine depth ++ prettyChars depth v ++ prettyElements depth rest
termination_by structural elements => elements

def prettyMembers (depth : Nat) : Members → List Char
  | [] => []
  | (name, v) :: rest =>
    ',' :: newLine depth ++ quoted name ++ ':' :: ' ' :: prettyChars depth v
      ++ prettyMembers depth rest
termination_by structural members => members

end

def prettyText (v : Value) : String := String.ofList (v.prettyChars 0)

end JsonSchema.Value
