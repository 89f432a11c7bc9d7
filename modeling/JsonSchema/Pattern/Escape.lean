import JsonSchema.Pattern.Flags
import JsonSchema.Pattern.Regex
import JsonSchema.Unicode.Property

namespace JsonSchema.Pattern

inductive Atom
  | char (c : Char)
  | set (s : CharSet)
  | look (l : Look)

def hexDigit? (c : Char) : Option Nat :=
  if c.isDigit then some (c.toNat - '0'.toNat)
  else if 'a' ≤ c && c ≤ 'f' then some (c.toNat - 'a'.toNat + 10)
  else if 'A' ≤ c && c ≤ 'F' then some (c.toNat - 'A'.toNat + 10)
  else none

def charOf? (n : Nat) : Option Char :=
  if n.isValidChar then some (Char.ofNat n) else none

def hexFixed (f : Flags) (value : Nat) : Nat → List Char → Option (Nat × List Char)
  | 0, cs => some (value, cs)
  | _, [] => none
  | n + 1, c :: rest => do hexFixed f (16 * value + (← hexDigit? c)) n (f.gap rest)

/-- The digits of a character's code point: between braces, or a fixed number of them. Without
`unicode`, a character of one byte has to be ASCII. -/
def hexChar (f : Flags) (letter : Char) (cs : List Char) : Option (Char × List Char) :=
  match f.gap cs with
  | '\x7b' :: rest => do
    let (digits, rest) ← f.untilBrace false rest
    if digits.isEmpty then none
    else
      let value ← digits.foldlM (fun n c => do pure (16 * n + (← hexDigit? c))) 0
      pure (← charOf? value, f.gap rest)
  | cs => do
    let count := if letter = 'x' then 2 else if letter = 'u' then 4 else 8
    let (value, rest) ← hexFixed f 0 count cs
    if letter = 'x' && !f.unicode && 0x80 ≤ value then none
    else pure (← charOf? value, rest)

def propertyClass (f : Flags) (letter : Char) (cs : List Char) : Option (CharSet × List Char) := do
  if !f.unicode then none
  else
    let (set, negated, rest) ← match f.gap cs with
      | '\x7b' :: rest => do
        let (name, rest) ← f.untilBrace false rest
        let (set, negated) ← lookUp name
        pure (set, negated, rest)
      | '\\' :: _ => none
      | c :: rest => do pure (← Unicode.property? (String.singleton c), false, f.gap rest)
      | [] => none
    pure (Flags.signed (negated ^^ (letter = 'P')) (f.fold set), rest)
where
  /-- A property by its name, or by its name and value, with `!=` for all other values. -/
  lookUp (text : List Char) : Option (CharSet × Bool) :=
    match splitAt? text with
    | some (name, negated, value) => do
      pure (← Unicode.propertyValue? (String.ofList name) (String.ofList value), negated)
    | none => do pure (← Unicode.property? (String.ofList text), false)
  splitAt? (text : List Char) : Option (List Char × Bool × List Char) :=
    let unequal := splitUnequal [] text
    if unequal.isSome then unequal
    else
      let (name, rest) := text.span (· ≠ ':')
      if !rest.isEmpty then some (name, false, rest.tail)
      else
        let (name, rest) := text.span (· ≠ '=')
        if rest.isEmpty then none else some (name, false, rest.tail)
  splitUnequal (reversed : List Char) : List Char → Option (List Char × Bool × List Char)
    | '!' :: '=' :: rest => some (reversed.reverse, true, rest)
    | c :: rest => splitUnequal (c :: reversed) rest
    | [] => none

def namedWordEdge? (name : String) : Option WordEdge :=
  match name with
  | "start" => some .start
  | "end" => some .finish
  | "start-half" => some .startHalf
  | "end-half" => some .finishHalf
  | _ => none

/-- A boundary of a word. A brace that a letter or a hyphen follows has to hold the name of a kind
of boundary; any other brace is not part of it. -/
def wordBoundary (f : Flags) (cs : List Char) : Option (Look × List Char) :=
  let plain := some (Look.word .boundary !f.unicode, cs)
  match cs with
  | '\x7b' :: rest =>
    match f.gap rest with
    | [] => none
    | c :: _ =>
      if c.isAlpha || c = '-' then do
        let (name, rest) ← f.untilBrace false rest
        pure (.word (← namedWordEdge? (String.ofList name)) !f.unicode, rest)
      else plain
  | _ => plain

/-- What follows a backslash. Punctuation stands for itself; letters and digits that have no meaning
are refused. -/
def escape (f : Flags) : List Char → Option (Atom × List Char)
  | [] => none
  | c :: rest =>
    let char (c : Char) : Option (Atom × List Char) := some (.char c, rest)
    let look (l : Look) : Option (Atom × List Char) := some (.look l, rest)
    match c with
    | 'x' | 'u' | 'U' => do
      let (char, rest) ← hexChar f c rest
      pure (.char char, rest)
    | 'p' | 'P' => do
      let (set, rest) ← propertyClass f c rest
      pure (.set set, rest)
    | 'd' | 's' | 'w' | 'D' | 'S' | 'W' => do pure (.set (← letterClass? f c), rest)
    | 'a' => char '\x07'
    | 'f' => char '\x0c'
    | 't' => char '\t'
    | 'n' => char '\n'
    | 'r' => char '\r'
    | 'v' => char '\x0b'
    | 'A' => look .textStart
    | 'z' => look .textEnd
    | 'b' => do
      let (l, rest) ← wordBoundary f rest
      pure (.look l, rest)
    | 'B' => look (.word .noBoundary !f.unicode)
    | '<' => look (.word .start !f.unicode)
    | '>' => look (.word .finish !f.unicode)
    | _ => if c.toNat < 0x80 && !c.isAlphanum then char c else none

end JsonSchema.Pattern
