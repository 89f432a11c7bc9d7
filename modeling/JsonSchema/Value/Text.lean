import JsonSchema.Value.Basic

namespace JsonSchema.Value

def hexDigit (n : Nat) : Char :=
  if n < 10 then Char.ofNat ('0'.toNat + n) else Char.ofNat ('a'.toNat + (n - 10))

/-- A character inside a string. Quotes, backslashes and control characters are escaped. -/
def escapeChar (c : Char) : List Char :=
  if c = '"' then ['\\', '"']
  else if c = '\\' then ['\\', '\\']
  else if c = '\x08' then ['\\', 'b']
  else if c = '\x0c' then ['\\', 'f']
  else if c = '\n' then ['\\', 'n']
  else if c = '\r' then ['\\', 'r']
  else if c = '\t' then ['\\', 't']
  else if c.toNat < 0x20 then
    ['\\', 'u', '0', '0', hexDigit (c.toNat / 16), hexDigit (c.toNat % 16)]
  else [c]

def quoted (s : String) : List Char :=
  '"' :: s.toList.flatMap escapeChar ++ ['"']

mutual

def chars : Value → List Char
  | .null => "null".toList
  | .bool b => if b then "true".toList else "false".toList
  | .number n => n.jsonText.toList
  | .string s => quoted s
  | .array elements => '[' :: elementChars true elements ++ [']']
  | .object members => '\x7b' :: memberChars true members ++ ['\x7d']
termination_by structural v => v

def elementChars (first : Bool) : List Value → List Char
  | [] => []
  | v :: rest => (if first then [] else [',']) ++ chars v ++ elementChars false rest
termination_by structural elements => elements

def memberChars (first : Bool) : Members → List Char
  | [] => []
  | (name, v) :: rest =>
    (if first then [] else [',']) ++ quoted name ++ ':' :: chars v ++ memberChars false rest
termination_by structural members => members

end

def text (v : Value) : String := String.ofList v.chars

end JsonSchema.Value
