import Std.Data.HashMap
import JsonSchema.Pattern.Expr
import JsonSchema.Unicode.Utf8

namespace JsonSchema.Pattern

structure Layout where
  states : Nat
  /-- The bytes that the states hold besides their own. -/
  held : Nat

namespace Layout

def stateSize : Nat := 32

def arcSize : Nat := 8

def linkSize : Nat := 4

def limit : Nat := 10 * 1024 * 1024

def empty : Layout := ⟨0, 0⟩

def size (l : Layout) : Nat := stateSize * l.states + l.held

def add? (l : Layout) (states held : Nat) : Option Layout :=
  let l : Layout := ⟨l.states + states, l.held + held⟩
  if l.size ≤ limit then some l else none

end Layout

structure Placed where
  layout : Layout
  /-- The last state is a fork, which holds a link to what follows. -/
  forks : Bool

def Placed.link? (p : Placed) : Option Layout :=
  p.layout.add? 0 (if p.forks then Layout.linkSize else 0)

def fingerprint (row : List Nat) : UInt64 :=
  row.foldl (fun h n => (h ^^^ n.toUInt64) * 0x100000001b3) 0xcbf29ce484222325

structure Remembered where
  places : Nat
  rows : Std.HashMap Nat (List Nat × Nat)

namespace Remembered

def none (places : Nat) : Remembered := ⟨places, ∅⟩

def place (r : Remembered) (row : List Nat) : Nat :=
  (fingerprint row).toNat % r.places

def find? (r : Remembered) (row : List Nat) : Option Nat :=
  match r.rows[r.place row]? with
  | some (other, state) => if other = row then some state else .none
  | .none => .none

def keep (r : Remembered) (row : List Nat) (state : Nat) : Remembered :=
  { r with rows := r.rows.insert (r.place row) (row, state) }

end Remembered

structure Shared where
  layout : Layout
  known : Remembered

/-- The number of a state that is described by a row and holds some bytes: that of an earlier one,
or else of a new one. -/
def Shared.state? (s : Shared) (row : List Nat) (held : Nat) : Option (Nat × Shared) :=
  match s.known.find? row with
  | some state => some (state, s)
  | none => do
    pure (s.layout.states, ⟨← s.layout.add? 1 held, s.known.keep row s.layout.states⟩)

structure OpenState where
  /-- Range and target of each transition, in a row. -/
  arcs : List Nat
  next : Option (Nat × Nat)

namespace OpenState

def start : OpenState := ⟨[], none⟩

def toward (bytes : Nat × Nat) : OpenState := ⟨[], some bytes⟩

def settle (o : OpenState) (target : Nat) : OpenState :=
  match o.next with
  | some (low, high) => ⟨o.arcs ++ [low, high, target], none⟩
  | none => o

end OpenState

/-- Closes some open states, the last one first. The result is the number of the first one, or
`target` if there is none. -/
def closeStates (target : Nat) (s : Shared) : List OpenState → Option (Nat × Shared)
  | [] => some (target, s)
  | o :: inner => do
    let (next, s) ← closeStates target s inner
    let arcs := (o.settle next).arcs
    s.state? arcs (arcs.length / 3 * Layout.arcSize)

def openEncoding (target : Nat) (s : Shared) :
    List (Nat × Nat) → List OpenState → Option (List OpenState × Shared)
  | bytes :: rest, o :: inner =>
    if o.next = some bytes then do
      let (inner, s) ← openEncoding target s rest inner
      pure (o :: inner, s)
    else do
      let (next, s) ← closeStates target s inner
      pure ({ o.settle next with next := some bytes } :: rest.map OpenState.toward, s)
  | rest, [] => some (rest.map OpenState.toward, s)
  | [], states => some (states, s)

def forwardPlaces : Nat := 10000

/-- Lays out a set that is read forwards. Its last state is the first one. -/
def placeSetForward (l : Layout) (encodings : List (List (Nat × Nat))) : Option Placed := do
  let target := l.states
  let s : Shared := ⟨← l.add? 1 0, .none forwardPlaces⟩
  let (states, s) ← encodings.foldlM
    (fun (states, s) encoding => openEncoding target s encoding states) ([OpenState.start], s)
  let (_, s) ← closeStates target s states
  pure ⟨s.layout, false⟩

def backwardPlaces : Nat := 1000

/-- Lays out an encoding that is read backwards: a state for each byte, which leads to the one for
the byte before it. The result is the state for the last byte. -/
def placeEncoding (target : Nat) (s : Shared) : List (Nat × Nat) → Option (Nat × Shared)
  | [] => some (target, s)
  | (low, high) :: rest => do
    let (state, s) ← s.state? [target, low, high] 0
    placeEncoding state s rest

def placeSetBackward (l : Layout) (encodings : List (List (Nat × Nat))) : Option Placed := do
  let target := l.states + 1
  let s : Shared := ⟨← l.add? 2 0, .none backwardPlaces⟩
  let s ← encodings.foldlM
    (fun s encoding => do
      let (_, s) ← placeEncoding target s encoding
      pure { s with layout := ← s.layout.add? 0 Layout.linkSize }) s
  pure ⟨s.layout, false⟩

def placeSet (backward : Bool) (l : Layout) (chars : CharSet) : Option Placed := do
  if chars.isAscii then pure ⟨← l.add? 2 (chars.ranges.length * Layout.arcSize), false⟩
  else if backward then placeSetBackward l (Unicode.utf8Sequences chars)
  else placeSetForward l (Unicode.utf8Sequences chars)

def betweenEnds : List (List Nat) → List (List (List Nat))
  | [] => [[]]
  | word :: rest =>
    match word, betweenEnds rest with
    | [], rows => [] :: rows
    | word, row :: rows => (word :: row) :: rows
    | word, [] => [[word]]

/-- Texts without those, but one, that are at their end before any other text comes. -/
def withoutIdleEnds : List (List Nat) → List (List Nat)
  | [] :: rest => [] :: rest.dropWhile List.isEmpty
  | words => words

def firstBytes (row : List (List Nat)) : List Nat :=
  (row.filterMap List.head?).eraseDups

def tailsBehind (byte : Nat) (row : List (List Nat)) : List (List Nat) :=
  row.filterMap fun word => match word with
    | first :: rest => if first = byte then some rest else none
    | [] => none

def placeWords (l : Layout) : Nat → List (List Nat) → Option Layout
  | 0, _ => some l
  | depth + 1, words => do
    if words.all List.isEmpty then pure l
    else
      let rows := betweenEnds (withoutIdleEnds words)
      let firsts := (rows.map firstBytes).filter (!·.isEmpty)
      let l ← firsts.foldlM (fun (l : Layout) bytes =>
        l.add? 1 (if bytes.length = 1 then 0 else bytes.length * Layout.arcSize)) l
      let l ← l.add? 1 ((firsts.length + (rows.length - 1)) * Layout.linkSize)
      let children := rows.flatMap fun row => (firstBytes row).map fun byte => tailsBehind byte row
      children.foldlM (fun l words => placeWords l depth words) l

def bytesOf (chars : List Char) : List Nat :=
  chars.flatMap fun c => Unicode.utf8Bytes c.toNat

def textBytes? : Expr → Option (List Nat)
  | .text chars => some (bytesOf chars)
  | _ => none

abbrev Placing := Layout → Option Placed

def placeMore (one : Placing) (p : Placed) : Nat → Option Placed
  | 0 => some p
  | n + 1 => do placeMore one (← one (← p.link?)) n

def placeTimes (one : Placing) (l : Layout) : Nat → Option Placed
  | 0 => do pure ⟨← l.add? 1 0, false⟩
  | n + 1 => do placeMore one (← one l) n

def placeOptions (one : Placing) (p : Placed) : Nat → Option Placed
  | 0 => some p
  | n + 1 => do
    let l ← p.layout.add? 1 ((if p.forks then 3 else 2) * Layout.linkSize)
    placeOptions one (← one l) n

def placeOptional (one : Placing) (l : Layout) : Option Placed := do
  let p ← one (← l.add? 1 (2 * Layout.linkSize))
  pure ⟨← (← p.link?).add? 1 0, false⟩

/-- An expression that is repeated `low` times or more. Where it may match the empty text, no
repetition is told apart from that. -/
def placeWithout (one : Placing) (takesSome : Bool) (low : Nat) (l : Layout) : Option Placed := do
  if low = 0 then
    if takesSome then
      let p ← one (← l.add? 1 Layout.linkSize)
      pure ⟨← p.link?, true⟩
    else
      let p ← one l
      pure ⟨← (← p.link?).add? 3 (4 * Layout.linkSize), false⟩
  else
    let p ← placeTimes one l low
    pure ⟨← (← p.link?).add? 1 Layout.linkSize, true⟩

def placeCounted (one : Placing) (takesSome : Bool) (low : Nat) (high : Option Nat) (l : Layout) :
    Option Placed := do
  match high with
  | none => placeWithout one takesSome low l
  | some high =>
    if low = 0 && high = 1 then placeOptional one l
    else if low = high then placeTimes one l low
    else
      let p ← placeTimes one l low
      let p ← placeOptions one { p with layout := ← p.layout.add? 1 0 } (high - low)
      pure ⟨← p.link?, false⟩

def placeFork (p : Placed) (forksBefore : Bool) : Option Layout := do
  (← p.link?).add? 2 ((if forksBefore then 3 else 2) * Layout.linkSize)

mutual

def place (backward : Bool) (e : Expr) (l : Layout) : Option Placed := do
  match e with
  | .empty => pure ⟨← l.add? 1 0, false⟩
  | .text chars => pure ⟨← l.add? (bytesOf chars).length 0, false⟩
  | .set chars => placeSet backward l chars
  | .look _ => pure ⟨← l.add? 1 0, false⟩
  | .counted body low high _ => placeCounted (place backward body) body.takesSome low high l
  | .group _ body =>
    if backward then place backward body l
    else
      let p ← place backward body (← l.add? 1 0)
      pure ⟨← (← p.link?).add? 1 0, false⟩
  | .sequence parts => if backward then placeBackward parts l else placeForward parts l
  | .choice parts =>
    match parts.mapM textBytes? with
    | some words =>
      let words := if backward then words.map List.reverse else words
      let depth := (words.map List.length).foldl max 0
      pure ⟨← placeWords (← l.add? 1 0) (depth + 1) words, false⟩
    | none => placeChoice backward parts l

def placeForward (parts : List Expr) (l : Layout) : Option Placed := do
  match parts with
  | [] => pure ⟨l, false⟩
  | [e] => place false e l
  | e :: rest => placeForward rest (← (← place false e l).link?)

def placeBackward (parts : List Expr) (l : Layout) : Option Placed := do
  match parts with
  | [] => pure ⟨l, false⟩
  | [e] => place true e l
  | e :: rest => place true e (← (← placeBackward rest l).link?)

/-- Lays out the parts of a choice. The fork to them comes behind the first two. -/
def placeChoice (backward : Bool) (parts : List Expr) (l : Layout) : Option Placed := do
  match parts with
  | first :: second :: rest =>
    let p ← place backward first l
    let q ← place backward second p.layout
    placeRest backward rest (← placeFork q p.forks)
  | [e] => place backward e l
  | [] => pure ⟨← l.add? 1 0, false⟩

def placeRest (backward : Bool) (parts : List Expr) (l : Layout) : Option Placed := do
  match parts with
  | [] => pure ⟨l, false⟩
  | e :: rest =>
    let p ← place backward e l
    placeRest backward rest (← (← p.link?).add? 0 Layout.linkSize)

end

/-- Lays out the automaton of a whole pattern. Unless the pattern is fixed at its first end it may
begin anywhere. The whole is a group, and a last state says that it has matched. -/
def placePattern (backward : Bool) (e : Expr) : Option Layout := do
  let isFixed := if backward then e.isFixedAtEnd else e.isFixedAtStart
  let l ← if isFixed then Layout.empty.add? 1 0
    else Layout.empty.add? 3 (Layout.arcSize + 2 * Layout.linkSize)
  let p ← place backward (.group 0 e) l
  (← p.link?).add? 1 0

def fits (e : Expr) : Bool :=
  (placePattern false e).isSome && (placePattern true e).isSome

end JsonSchema.Pattern
