import JsonSchema.Unicode.Derived

namespace JsonSchema

structure Boundary where
  before : Option Char
  after : Option Char

inductive WordEdge
  | boundary
  | noBoundary
  | start
  | finish
  | startHalf
  | finishHalf
  deriving DecidableEq

inductive Look
  | textStart
  | textEnd
  | lineStart (crlf : Bool)
  | lineEnd (crlf : Bool)
  | word (edge : WordEdge) (ascii : Bool)
  deriving DecidableEq

namespace Look

def asciiWord : CharSet :=
  .ofRanges [(0x30, 0x39), (0x41, 0x5a), (0x5f, 0x5f), (0x61, 0x7a)]

def isWord (ascii : Bool) (c : Option Char) : Bool :=
  c.any (if ascii then asciiWord else Unicode.word).contains

/-- Whether an assertion holds at a position. Between a carriage return and a line feed there is no
end of a line when the two count as one. -/
def holds (look : Look) (here : Boundary) : Bool :=
  match look with
  | .textStart => here.before.isNone
  | .textEnd => here.after.isNone
  | .lineStart crlf =>
    here.before.isNone || here.before = some '\n'
      || (crlf && here.before = some '\r' && here.after ≠ some '\n')
  | .lineEnd crlf =>
    here.after.isNone || (crlf && here.after = some '\r')
      || (here.after = some '\n' && !(crlf && here.before = some '\r'))
  | .word edge ascii =>
    let before := isWord ascii here.before
    let after := isWord ascii here.after
    match edge with
    | .boundary => before != after
    | .noBoundary => before == after
    | .start => !before && after
    | .finish => before && !after
    | .startHalf => !before
    | .finishHalf => !after

end Look

inductive Regex
  | empty
  /-- One character of a set, marked when it has just been read. -/
  | set (chars : CharSet) (marked : Bool)
  | look (l : Look)
  | seq (first second : Regex)
  | alt (left right : Regex)
  | star (r : Regex)

namespace Regex

/-- Whether the expression matches the empty text at a position. -/
def nullable (here : Boundary) : Regex → Bool
  | .empty => true
  | .set .. => false
  | .look l => l.holds here
  | .seq a b => nullable here a && nullable here b
  | .alt a b => nullable here a || nullable here b
  | .star _ => true

/-- Whether some way of matching that has read a character ends at a position. -/
def reached (here : Boundary) : Regex → Bool
  | .empty => false
  | .set _ marked => marked
  | .look _ => false
  | .seq a b => reached here b || (reached here a && nullable here b)
  | .alt a b => reached here a || reached here b
  | .star a => reached here a

def step (here : Boundary) (c : Char) (enter : Bool) : Regex → Regex
  | .empty => .empty
  | .set chars _ => .set chars (enter && chars.contains c)
  | .look l => .look l
  | .seq a b =>
    .seq (step here c enter a) (step here c ((enter && nullable here a) || reached here a) b)
  | .alt a b => .alt (step here c enter a) (step here c enter b)
  | .star a => .star (step here c (enter || reached here a) a)

/-- Whether the expression matches some part of the text from a position on, or ends a match that
has begun before. -/
def searchFrom (r : Regex) (before : Option Char) : List Char → Bool
  | [] => nullable ⟨before, none⟩ r || reached ⟨before, none⟩ r
  | c :: rest =>
    let here : Boundary := ⟨before, some c⟩
    nullable here r || reached here r || searchFrom (step here c true r) (some c) rest

def search (r : Regex) (text : String) : Bool :=
  searchFrom r none text.toList

def ofSet (chars : CharSet) : Regex := .set chars false

def ofText : List Char → Regex
  | [] => .empty
  | [c] => .ofSet (.single c)
  | c :: rest => .seq (.ofSet (.single c)) (ofText rest)

/-- An expression some number of times, halved again and again so that the result is shallow. -/
def times (r : Regex) (n : Nat) : Regex :=
  if n = 0 then .empty
  else if n = 1 then r
  else .seq (times r (n / 2)) (times r (n - n / 2))

/-- An expression at least `low` and at most `high` times, without limit if there is no `high`. -/
def between (r : Regex) (low : Nat) (high : Option Nat) : Regex :=
  match high with
  | some high =>
    if high = low then times r low
    else if low = 0 then times (.alt r .empty) high
    else .seq (times r low) (times (.alt r .empty) (high - low))
  | none => if low = 0 then .star r else .seq (times r low) (.star r)

end Regex
end JsonSchema
