import JsonSchema.Json.Literal

namespace JsonSchema.Json

/-- A token. Numbers that are too large and strings with half of a surrogate pair are tokens without
a value: a text that skips them is well formed, one that needs them is not. -/
inductive Token
  | openArray
  | closeArray
  | openObject
  | closeObject
  | comma
  | colon
  | null
  | bool (b : Bool)
  | number (n : Option Number)
  | string (s : Option String)
  | bad

inductive NumberPart
  | minus
  | zero
  | whole
  | point
  | fraction
  | mark
  | sign
  | exponent

namespace NumberPart

def next? (part : NumberPart) (c : Char) : Option NumberPart :=
  match part with
  | .minus => if c = '0' then some .zero else if c.isDigit then some .whole else none
  | .zero => afterWhole c
  | .whole => if c.isDigit then some .whole else afterWhole c
  | .point => if c.isDigit then some .fraction else none
  | .fraction => if c.isDigit then some .fraction else afterFraction c
  | .mark => if c = '+' || c = '-' then some .sign else if c.isDigit then some .exponent else none
  | .sign => if c.isDigit then some .exponent else none
  | .exponent => if c.isDigit then some .exponent else none
where
  afterFraction (c : Char) : Option NumberPart :=
    if c = 'e' || c = 'E' then some .mark else none
  afterWhole (c : Char) : Option NumberPart :=
    if c = '.' then some .point else afterFraction c

/-- Whether a literal may end after a part. After a leading zero no digit may follow. -/
def endsBefore (part : NumberPart) (following : Option Char) : Bool :=
  match part with
  | .zero => !(following.any Char.isDigit)
  | .whole | .fraction | .exponent => true
  | .minus | .point | .mark | .sign => false

end NumberPart

inductive EscapePart
  | outside
  | backslash
  | hex (count : Nat) (value : Nat)

structure Quoted where
  /-- The characters so far, the last one first. -/
  reversed : List Char
  /-- The first half of a surrogate pair, when the second has to follow. -/
  pending : Option Nat
  /-- Whether some half of a surrogate pair had no other half. -/
  broken : Bool
  part : EscapePart

namespace Quoted

def start : Quoted := ⟨[], none, false, .outside⟩

def push (q : Quoted) (c : Char) : Quoted :=
  { reversed := c :: q.reversed, pending := none, broken := q.broken || q.pending.isSome,
    part := .outside }

/-- Takes a number written as four hexadecimal digits: a character or half of a pair. -/
def pushUnit (q : Quoted) (unit : Nat) : Quoted :=
  if 0xd800 ≤ unit && unit < 0xdc00 then
    { q with pending := some unit, broken := q.broken || q.pending.isSome, part := .outside }
  else if 0xdc00 ≤ unit && unit < 0xe000 then
    match q.pending with
    | some high =>
      { q with
        reversed := Char.ofNat (0x10000 + (high - 0xd800) * 0x400 + (unit - 0xdc00)) :: q.reversed
        pending := none, part := .outside }
    | none => { q with broken := true, part := .outside }
  else q.push (Char.ofNat unit)

def content? (q : Quoted) : Option String :=
  if q.broken || q.pending.isSome then none else some (String.ofList q.reversed.reverse)

def escaped? (c : Char) : Option Char :=
  if c = '"' || c = '\\' || c = '/' then some c
  else if c = 'b' then some '\x08'
  else if c = 'f' then some '\x0c'
  else if c = 'n' then some '\n'
  else if c = 'r' then some '\r'
  else if c = 't' then some '\t'
  else none

def hexValue? (c : Char) : Option Nat :=
  if c.isDigit then some (c.toNat - '0'.toNat)
  else if 'a' ≤ c && c ≤ 'f' then some (c.toNat - 'a'.toNat + 10)
  else if 'A' ≤ c && c ≤ 'F' then some (c.toNat - 'A'.toNat + 10)
  else none

inductive Step
  | more (q : Quoted)
  | closed
  | malformed

def step (q : Quoted) (c : Char) : Step :=
  match q.part with
  | .outside =>
    if c = '"' then .closed
    else if c = '\\' then .more { q with part := .backslash }
    else if c.toNat < 0x20 then .malformed
    else .more (q.push c)
  | .backslash =>
    if c = 'u' then .more { q with part := .hex 0 0 }
    else match escaped? c with
      | some char => .more (q.push char)
      | none => .malformed
  | .hex count value =>
    match hexValue? c with
    | none => .malformed
    | some digit =>
      let value := 16 * value + digit
      if count = 3 then .more (q.pushUnit value)
      else .more { q with part := .hex (count + 1) value }

end Quoted

inductive Reading
  | between
  /-- A word of which these letters are still to come. -/
  | word (letters : List Char) (token : Token)
  /-- A number literal, with its characters so far, the last one first. -/
  | number (part : NumberPart) (reversed : List Char)
  | string (q : Quoted)

inductive Start
  | space
  | token (t : Token)
  | reading (r : Reading)
  | malformed

def start (c : Char) : Start :=
  if c = ' ' || c = '\t' || c = '\n' || c = '\r' then .space
  else if c = '[' then .token .openArray
  else if c = ']' then .token .closeArray
  else if c = '\x7b' then .token .openObject
  else if c = '\x7d' then .token .closeObject
  else if c = ',' then .token .comma
  else if c = ':' then .token .colon
  else if c = '"' then .reading (.string .start)
  else if c = '-' then .reading (.number .minus [c])
  else if c = '0' then .reading (.number .zero [c])
  else if c.isDigit then .reading (.number .whole [c])
  else if c = 'n' then .reading (.word ['u', 'l', 'l'] .null)
  else if c = 't' then .reading (.word ['r', 'u', 'e'] (.bool true))
  else if c = 'f' then .reading (.word ['a', 'l', 's', 'e'] (.bool false))
  else .malformed

def numberToken (reversed : List Char) : Token :=
  .number (numberOfLiteral? reversed.reverse)

def beginWith (c : Char) (next : Reading → List Token) : List Token :=
  match start c with
  | .space => next .between
  | .token t => t :: next .between
  | .reading r => next r
  | .malformed => [.bad]

def tokensFrom : Reading → List Char → List Token
  | .between, [] => []
  | .word _ _, [] => [.bad]
  | .string _, [] => [.bad]
  | .number part reversed, [] =>
    if part.endsBefore none then [numberToken reversed] else [.bad]
  | .between, c :: rest => beginWith c (tokensFrom · rest)
  | .word letters token, c :: rest =>
    match letters with
    | [] => [.bad]
    | [last] => if c = last then token :: tokensFrom .between rest else [.bad]
    | letter :: more => if c = letter then tokensFrom (.word more token) rest else [.bad]
  | .number part reversed, c :: rest =>
    match part.next? c with
    | some part => tokensFrom (.number part (c :: reversed)) rest
    | none =>
      if part.endsBefore (some c) then numberToken reversed :: beginWith c (tokensFrom · rest)
      else [.bad]
  | .string q, c :: rest =>
    match q.step c with
    | .more q => tokensFrom (.string q) rest
    | .closed => .string q.content? :: tokensFrom .between rest
    | .malformed => [.bad]

def tokens (text : String) : List Token :=
  tokensFrom .between text.toList

end JsonSchema.Json
