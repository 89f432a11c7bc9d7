import JsonSchema.Unicode.Derived

namespace JsonSchema.Pattern

structure Flags where
  ignoreCase : Bool
  /-- `^` and `$` stand for the ends of lines. -/
  multiLine : Bool
  /-- The point stands for line feeds too. -/
  dotAll : Bool
  swapGreed : Bool
  /-- Classes range over all characters and not over ASCII alone. -/
  unicode : Bool
  /-- A carriage return and a line feed end a line together. -/
  crlf : Bool
  /-- White space and comments inside the pattern do not count. -/
  ignoreSpace : Bool

namespace Flags

def standard : Flags where
  ignoreCase := false
  multiLine := false
  dotAll := false
  swapGreed := false
  unicode := true
  crlf := false
  ignoreSpace := false

def set? (f : Flags) (letter : Char) (on : Bool) : Option Flags :=
  match letter with
  | 'i' => some { f with ignoreCase := on }
  | 'm' => some { f with multiLine := on }
  | 's' => some { f with dotAll := on }
  | 'U' => some { f with swapGreed := on }
  | 'u' => some { f with unicode := on }
  | 'R' => some { f with crlf := on }
  | 'x' => some { f with ignoreSpace := on }
  | _ => none

def skipSpace (inComment : Bool) : List Char → List Char
  | [] => []
  | c :: rest =>
    if inComment then skipSpace (c ≠ '\n') rest
    else if Unicode.whiteSpace.contains c then skipSpace false rest
    else if c = '#' then skipSpace true rest
    else c :: rest

def gap (f : Flags) (cs : List Char) : List Char :=
  if f.ignoreSpace then skipSpace false cs else cs

def untilBrace (f : Flags) (inComment : Bool) : List Char → Option (List Char × List Char)
  | [] => none
  | c :: rest =>
    if f.ignoreSpace && inComment then untilBrace f (c ≠ '\n') rest
    else if f.ignoreSpace && Unicode.whiteSpace.contains c then untilBrace f false rest
    else if f.ignoreSpace && c = '#' then untilBrace f true rest
    else if c = '\x7d' then some ([], rest)
    else (untilBrace f false rest).map fun (body, rest) => (c :: body, rest)

def digits (f : Flags) (inComment : Bool) : List Char → List Char × List Char
  | [] => ([], [])
  | c :: rest =>
    if f.ignoreSpace && inComment then digits f (c ≠ '\n') rest
    else if f.ignoreSpace && Unicode.whiteSpace.contains c then digits f false rest
    else if f.ignoreSpace && c = '#' then digits f true rest
    else if c.isDigit then
      let (body, rest) := digits f false rest
      (c :: body, rest)
    else ([], c :: rest)

/-- The character that is looked at behind a hyphen in a class, where white space does not count. Of
a comment, all but its mark counts. -/
def behindHyphen? (f : Flags) (cs : List Char) : Option Char :=
  if f.ignoreSpace then (afterMark false cs).orElse fun _ => cs.head? else cs.head?
where
  afterMark (marked : Bool) : List Char → Option Char
    | [] => none
    | c :: rest =>
      if Unicode.whiteSpace.contains c then afterMark marked rest
      else if c = '#' && !marked then afterMark true rest
      else some c

def fold (f : Flags) (s : CharSet) : CharSet :=
  if !f.ignoreCase then s else if f.unicode then s.caseClosure else s.asciiCaseClosure

def permit? (f : Flags) (s : CharSet) : Option CharSet :=
  if f.unicode || s.isAscii then some s else none

def signed (negated : Bool) (s : CharSet) : CharSet :=
  if negated then s.complement else s

def dot? (f : Flags) : Option CharSet :=
  if !f.unicode then none
  else if f.dotAll then some .all
  else if f.crlf then some (CharSet.ofRanges [(0xa, 0xa), (0xd, 0xd)]).complement
  else some (CharSet.single '\n').complement

end Flags

def asciiClass? (name : String) : Option CharSet :=
  match name with
  | "alnum" => some (.ofRanges [(0x30, 0x39), (0x41, 0x5a), (0x61, 0x7a)])
  | "alpha" => some (.ofRanges [(0x41, 0x5a), (0x61, 0x7a)])
  | "ascii" => some (.range 0 0x7f)
  | "blank" => some (.ofRanges [(0x9, 0x9), (0x20, 0x20)])
  | "cntrl" => some (.ofRanges [(0, 0x1f), (0x7f, 0x7f)])
  | "digit" => some (.range 0x30 0x39)
  | "graph" => some (.range 0x21 0x7e)
  | "lower" => some (.range 0x61 0x7a)
  | "print" => some (.range 0x20 0x7e)
  | "punct" => some (.ofRanges [(0x21, 0x2f), (0x3a, 0x40), (0x5b, 0x60), (0x7b, 0x7e)])
  | "space" => some (.ofRanges [(0x9, 0xd), (0x20, 0x20)])
  | "upper" => some (.range 0x41 0x5a)
  | "word" => some (.ofRanges [(0x30, 0x39), (0x41, 0x5a), (0x5f, 0x5f), (0x61, 0x7a)])
  | "xdigit" => some (.ofRanges [(0x30, 0x39), (0x41, 0x46), (0x61, 0x66)])
  | _ => none

/-- The class behind a letter such as the `d` for digits; a capital stands for all others. -/
def letterClass? (f : Flags) (letter : Char) : Option CharSet := do
  let s ← match letter.toLower with
    | 'd' => if f.unicode then some Unicode.decimalNumber else asciiClass? "digit"
    | 's' => if f.unicode then some Unicode.whiteSpace else asciiClass? "space"
    | 'w' => if f.unicode then some Unicode.word else asciiClass? "word"
    | _ => none
  f.permit? (Flags.signed letter.isUpper s)

end JsonSchema.Pattern
