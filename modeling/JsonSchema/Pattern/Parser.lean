import JsonSchema.Pattern.Bracket
import JsonSchema.Pattern.Layout
import JsonSchema.Unicode.Latest

namespace JsonSchema.Pattern

structure Piece where
  expr : Expr
  depth : Nat

namespace Piece

def depthLimit : Nat := 250

def empty : Piece := ⟨.empty, 0⟩

/-- The depth of parts that stand together. More than one are a level of their own. -/
def depthAround (parts : List Piece) : Nat :=
  let inner := (parts.map Piece.depth).foldl max 0
  if 1 < parts.length then inner + 1 else inner

def concat (parts : List Piece) : Piece :=
  ⟨.seq (parts.map Piece.expr), depthAround parts⟩

def choice (parts : List Piece) : Piece :=
  ⟨.alt (parts.map Piece.expr), depthAround parts⟩

def inGroup (p : Piece) (index : Option Nat) : Piece :=
  ⟨match index with
    | some index => .group index p.expr
    | none => p.expr, p.depth + 1⟩

def times (p : Piece) (low : Nat) (high : Option Nat) (greedy : Bool) : Piece :=
  ⟨p.expr.times low high greedy, p.depth + 1⟩

end Piece

/-- An element of a sequence. A change of flags matches nothing and cannot be repeated. -/
inductive Item
  | piece (p : Piece)
  | flags

def Item.toPiece : Item → Piece
  | .piece p => p
  | .flags => .empty

structure OpenGroup where
  /-- The number of the group, if it is counted. -/
  index : Option Nat
  /-- The flags that hold again behind the group. -/
  outerFlags : Flags
  /-- The alternatives before the current one, the last one first. -/
  branches : List Piece
  /-- The elements of the current alternative, the last one first. -/
  items : List Item

namespace OpenGroup

def start (index : Option Nat) (outerFlags : Flags) : OpenGroup := ⟨index, outerFlags, [], []⟩

def branch (g : OpenGroup) : Piece := .concat (g.items.reverse.map Item.toPiece)

def add (g : OpenGroup) (p : Piece) : OpenGroup := { g with items := .piece p :: g.items }

def nextBranch (g : OpenGroup) : OpenGroup :=
  { g with branches := g.branch :: g.branches, items := [] }

def close (g : OpenGroup) : Piece := .choice (g.branch :: g.branches).reverse

def repeat? (g : OpenGroup) (low : Nat) (high : Option Nat) (greedy : Bool) : Option OpenGroup :=
  match g.items with
  | .piece p :: rest => some { g with items := .piece (p.times low high greedy) :: rest }
  | _ => none

end OpenGroup

def count? (f : Flags) (cs : List Char) : Option (Nat × List Char) :=
  let (digits, rest) := f.digits false (cs.dropWhile Unicode.whiteSpace.contains)
  let n := digits.foldl (fun n c => 10 * n + (c.toNat - '0'.toNat)) 0
  if digits.isEmpty || UInt32.size ≤ n then none
  else some (n, rest.dropWhile Unicode.whiteSpace.contains)

def countBounds (f : Flags) (cs : List Char) : Option ((Nat × Option Nat) × List Char) := do
  let (low, rest) ← count? f (f.gap cs)
  match rest with
  | '\x7d' :: rest => pure ((low, some low), rest)
  | ',' :: rest =>
    match f.gap rest with
    | '\x7d' :: rest => pure ((low, none), rest)
    | rest =>
      match ← count? f rest with
      | (high, '\x7d' :: rest) => if low ≤ high then pure ((low, some high), rest) else none
      | _ => none
  | _ => none

def lazyMark : List Char → Bool × List Char
  | '?' :: rest => (true, rest)
  | cs => (false, cs)

def flagLetters (f : Flags) (seen : List Char) (on dangling : Bool) :
    List Char → Option (Flags × List Char × Char × List Char)
  | [] => none
  | c :: rest =>
    if c = ':' || c = ')' then if dangling then none else some (f, seen, c, rest)
    else if seen.contains c then none
    else if c = '-' then flagLetters f (c :: seen) false true rest
    else match f.set? c on with
      | some f => flagLetters f (c :: seen) on false rest
      | none => none

def groupName? (cs : List Char) : Option (List Char × List Char) :=
  let (name, rest) := cs.span (· ≠ '>')
  let isFirst (c : Char) := c = '_' || Unicode.Latest.alphabetic.contains c
  let isLater (c : Char) :=
    isFirst c || "._[]".toList.contains c || Unicode.Latest.number.contains c
  match name, rest with
  | first :: later, _ :: rest =>
    if isFirst first && later.all isLater then some (name, rest) else none
  | _, _ => none

inductive Opening
  | group (f : Flags) (counted : Bool) (name : Option (List Char))
  | flags (f : Flags)

def opening (f : Flags) (cs : List Char) : Option (Opening × List Char) :=
  match f.gap cs with
  | '?' :: '=' :: _ | '?' :: '!' :: _ | '?' :: '<' :: '=' :: _ | '?' :: '<' :: '!' :: _ => none
  | '?' :: 'P' :: '<' :: rest | '?' :: '<' :: rest => do
    let (name, rest) ← groupName? rest
    pure (.group f true (some name), rest)
  | '?' :: rest => do
    let (inner, seen, last, rest) ← flagLetters f [] true false rest
    if last = ':' then pure (.group inner false none, rest)
    else if seen.isEmpty then none
    else pure (.flags inner, rest)
  | rest => some (.group f true none, rest)

structure Progress where
  flags : Flags
  current : OpenGroup
  outer : List OpenGroup
  /-- How many groups have been counted. -/
  groups : Nat
  names : List (List Char)

namespace Progress

def start : Progress := ⟨.standard, .start none .standard, [], 0, []⟩

def add (p : Progress) (e : Expr) (depth : Nat) : Progress :=
  { p with current := p.current.add ⟨e, depth⟩ }

def addAtom (p : Progress) : Atom → Progress
  | .char c => p.add (.ofSet (p.flags.fold (.single c))) 0
  | .set s => p.add (.ofSet s) 0
  | .look l => p.add (.look l) 0

def openGroup? (p : Progress) (f : Flags) (counted : Bool) (name : Option (List Char)) :
    Option Progress :=
  if name.any p.names.contains then none
  else
    let groups := if counted then p.groups + 1 else p.groups
    let index := if counted then some groups else none
    some ⟨f, .start index p.flags, p.current :: p.outer, groups, name.toList ++ p.names⟩

def closeGroup? (p : Progress) : Option Progress :=
  match p.outer with
  | [] => none
  | around :: outer =>
    let piece := p.current.close.inGroup p.current.index
    some { p with flags := p.current.outerFlags, current := around.add piece, outer := outer }

/-- Repeats the last element. A mark behind the repetition swaps whether it takes as much as it can,
which does not change where the pattern is found. -/
def repeat? (p : Progress) (low : Nat) (high : Option Nat) (rest : List Char) :
    Option (Progress × List Char) := do
  let (isLazy, rest) := lazyMark rest
  pure ({ p with current := ← p.current.repeat? low high (isLazy == p.flags.swapGreed) }, rest)

def advance (p : Progress) (c : Char) (rest : List Char) : Option (Progress × List Char) :=
  let f := p.flags
  match c with
  | '(' => do
    match ← opening f rest with
    | (.group inner counted name, rest) => pure (← p.openGroup? inner counted name, rest)
    | (.flags inner, rest) =>
      pure ({ p with flags := inner, current.items := .flags :: p.current.items }, rest)
  | ')' => do pure (← p.closeGroup?, rest)
  | '|' => pure ({ p with current := p.current.nextBranch }, rest)
  | '[' => do
    let (n, rest) ← bracketClass f rest
    pure (p.add (.ofSet n.set) n.depth, rest)
  | '?' => p.repeat? 0 (some 1) rest
  | '*' => p.repeat? 0 none rest
  | '+' => p.repeat? 1 none rest
  | '\x7b' => do
    let ((low, high), rest) ← countBounds f rest
    p.repeat? low high (f.gap rest)
  | '\\' => do
    let (atom, rest) ← escape f rest
    pure (p.addAtom atom, rest)
  | '.' => do pure (p.add (.ofSet (← f.dot?)) 0, rest)
  | '^' => pure (p.addAtom (.look (if f.multiLine then .lineStart f.crlf else .textStart)), rest)
  | '$' => pure (p.addAtom (.look (if f.multiLine then .lineEnd f.crlf else .textEnd)), rest)
  | c => pure (p.addAtom (.char c), rest)

end Progress

/-- Reads a pattern to its end. `fuel` is at least the length of the text. -/
def expr? (p : Progress) : Nat → List Char → Option Expr
  | 0, _ => none
  | fuel + 1, cs =>
    match p.flags.gap cs with
    | [] =>
      let whole := p.current.close
      if p.outer.isEmpty && whole.depth ≤ Piece.depthLimit then some whole.expr else none
    | c :: rest =>
      match p.advance c rest with
      | some (p, rest) => expr? p fuel rest
      | none => none

end Pattern

/-- A pattern: its source, and the expression that it stands for. -/
structure Pattern where
  source : String
  regex : Regex

namespace Pattern

def parse? (source : String) : Option Pattern := do
  let cs := source.toList
  let e ← expr? .start (cs.length + 1) cs
  if fits e then pure ⟨source, e.toRegex⟩ else none

def isIn (p : Pattern) (text : String) : Bool := p.regex.search text

end Pattern
end JsonSchema
