namespace JsonSchema

/-- A set of code points: closed ranges in ascending order with gaps between them. -/
structure CharSet where
  ranges : List (Nat × Nat)
  deriving DecidableEq

namespace CharSet

def top : Nat := 0x10ffff

/-- The ranges of a list that starts with an open one, joined where they touch. -/
def joinFrom (low high : Nat) : List (Nat × Nat) → List (Nat × Nat)
  | [] => [(low, high)]
  | (a, b) :: rest =>
    if a ≤ high + 1 then joinFrom low (max high b) rest else (low, high) :: joinFrom a b rest

def ofRanges (ranges : List (Nat × Nat)) : CharSet :=
  match ranges.mergeSort (fun a b => a.1 ≤ b.1) with
  | [] => ⟨[]⟩
  | (low, high) :: rest => ⟨joinFrom low high rest⟩

def empty : CharSet := ⟨[]⟩

def all : CharSet := ⟨[(0, top)]⟩

def range (low high : Nat) : CharSet := ⟨[(low, high)]⟩

def single (c : Char) : CharSet := range c.toNat c.toNat

def within (n : Nat) : List (Nat × Nat) → Bool
  | [] => false
  | (low, high) :: rest => low ≤ n && (n ≤ high || within n rest)

def containsPoint (s : CharSet) (n : Nat) : Bool := within n s.ranges

def contains (s : CharSet) (c : Char) : Bool := s.containsPoint c.toNat

def union (a b : CharSet) : CharSet := ofRanges (a.ranges ++ b.ranges)

def unionAll (sets : List CharSet) : CharSet := ofRanges (sets.flatMap ranges)

def gapsFrom (next : Nat) : List (Nat × Nat) → List (Nat × Nat)
  | [] => if next ≤ top then [(next, top)] else []
  | (low, high) :: rest =>
    if next < low then (next, low - 1) :: gapsFrom (high + 1) rest else gapsFrom (high + 1) rest

def complement (s : CharSet) : CharSet := ⟨gapsFrom 0 s.ranges⟩

def inter (a b : CharSet) : CharSet := (a.complement.union b.complement).complement

def diff (a b : CharSet) : CharSet := a.inter b.complement

def symmDiff (a b : CharSet) : CharSet := (a.union b).diff (a.inter b)

def isAscii (s : CharSet) : Bool := s.ranges.all fun (_, high) => high < 0x80

def hexDigit (c : Char) : Nat :=
  if c.isDigit then c.toNat - '0'.toNat else c.toNat - 'a'.toNat + 10

/-- Ranges in hexadecimal: `41-5a 5f` is a range and a single code point. -/
def readRanges (low : Option Nat) (n : Nat) : List Char → List (Nat × Nat)
  | [] => [(low.getD n, n)]
  | c :: rest =>
    if c = ' ' then (low.getD n, n) :: readRanges none 0 rest
    else if c = '-' then readRanges (some n) 0 rest
    else readRanges low (16 * n + hexDigit c) rest

def ofTable (rows : List String) : CharSet :=
  ⟨rows.flatMap fun row => readRanges none 0 row.toList⟩

end CharSet
end JsonSchema
