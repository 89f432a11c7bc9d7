import JsonSchema.Pattern.Escape

namespace JsonSchema.Pattern

structure Nested where
  set : CharSet
  depth : Nat

structure Items where
  count : Nat
  set : CharSet
  depth : Nat

namespace Items

def none : Items := ⟨0, .empty, 0⟩

def add (items : Items) (n : Nested) : Items :=
  ⟨items.count + 1, items.set.union n.set, max items.depth n.depth⟩

def toNested (items : Items) : Nested :=
  ⟨items.set, if 1 < items.count then items.depth + 1 else items.depth⟩

end Items

inductive SetOp
  | inter
  | diff
  | symmDiff

def SetOp.apply (op : SetOp) (a b : CharSet) : CharSet :=
  match op with
  | .inter => a.inter b
  | .diff => a.diff b
  | .symmDiff => a.symmDiff b

structure OpenClass where
  negated : Bool
  /-- What stands before the last operator. -/
  left : Option (Nested × SetOp)
  items : Items

namespace OpenClass

def add (o : OpenClass) (n : Nested) : OpenClass :=
  { o with items := o.items.add n }

def value (f : Flags) (o : OpenClass) : Nested :=
  let right := o.items.toNested
  match o.left with
  | some (left, op) =>
    ⟨op.apply (f.fold left.set) (f.fold right.set), max left.depth right.depth + 1⟩
  | none => right

def operator (f : Flags) (o : OpenClass) (op : SetOp) : OpenClass :=
  { o with left := some (o.value f, op), items := .none }

def close? (f : Flags) (o : OpenClass) : Option Nested := do
  let n := o.value f
  pure ⟨← f.permit? (Flags.signed o.negated (f.fold n.set)), n.depth + 1⟩

end OpenClass

def leadingHyphens (f : Flags) (items : Items) (inComment : Bool) :
    List Char → Items × List Char
  | [] => (items, [])
  | c :: rest =>
    if f.ignoreSpace && inComment then leadingHyphens f items (c ≠ '\n') rest
    else if c = '-' then leadingHyphens f (items.add ⟨.single '-', 0⟩) false rest
    else if f.ignoreSpace && Unicode.whiteSpace.contains c then leadingHyphens f items false rest
    else if f.ignoreSpace && c = '#' then leadingHyphens f items true rest
    else (items, c :: rest)

/-- The beginning of a class, behind its bracket. A closing bracket in front of everything else
stands for itself. -/
def openClass (f : Flags) (cs : List Char) : OpenClass × List Char :=
  let (negated, cs) := match f.gap cs with
    | '^' :: rest => (true, f.gap rest)
    | cs => (false, cs)
  match leadingHyphens f .none false cs with
  | (items, ']' :: rest) =>
    if items.count = 0 then (⟨negated, none, items.add ⟨.single ']', 0⟩⟩, f.gap rest)
    else (⟨negated, none, items⟩, ']' :: rest)
  | (items, cs) => (⟨negated, none, items⟩, cs)

/-- A named class such as `[:alpha:]`, behind its bracket. Where there is none the bracket begins a
nested class. -/
def namedClass? (f : Flags) (cs : List Char) : Option (CharSet × List Char) :=
  match cs with
  | ':' :: cs =>
    let (negated, cs) := match cs with
      | '^' :: rest => (true, rest)
      | cs => (false, cs)
    let (name, rest) := cs.span (· ≠ ':')
    match rest with
    | ':' :: ']' :: rest => do
      let set ← asciiClass? (String.ofList name)
      pure (Flags.signed negated (f.fold set), rest)
    | _ => none
  | _ => none

def classAtom (f : Flags) : List Char → Option (Atom × List Char)
  | [] => none
  | '\\' :: rest => escape f rest
  | c :: rest => some (.char c, rest)

/-- A character, a range of characters or an escape. A hyphen before the end of the class, or before
another hyphen, is no range. -/
def classItem (f : Flags) (cs : List Char) : Option (CharSet × List Char) := do
  let (atom, rest) ← classAtom f cs
  match f.gap rest with
  | [] => none
  | '-' :: more =>
    let next := f.behindHyphen? more
    if next = some ']' || next = some '-' then pure (← alone atom, '-' :: more)
    else
      let (last, rest) ← classAtom f (f.gap more)
      match atom, last with
      | .char a, .char b =>
        if a ≤ b then pure (← f.permit? (.range a.toNat b.toNat), rest) else none
      | _, _ => none
  | rest => pure (← alone atom, rest)
where
  alone : Atom → Option CharSet
    | .char c => f.permit? (.single c)
    | .set s => some s
    | .look _ => none

def classRest (f : Flags) (current : OpenClass) (outer : List OpenClass) :
    Nat → List Char → Option (Nested × List Char)
  | 0, _ => none
  | fuel + 1, cs =>
    match f.gap cs with
    | [] => none
    | '[' :: rest =>
      match namedClass? f rest with
      | some (set, rest) =>
        match f.permit? set with
        | some set => classRest f (current.add ⟨set, 0⟩) outer fuel rest
        | none => none
      | none =>
        let (inner, rest) := openClass f rest
        classRest f inner (current :: outer) fuel rest
    | ']' :: rest =>
      match current.close? f, outer with
      | none, _ => none
      | some n, [] => some (n, rest)
      | some n, around :: outer => classRest f (around.add n) outer fuel rest
    | '&' :: '&' :: rest => classRest f (current.operator f .inter) outer fuel rest
    | '-' :: '-' :: rest => classRest f (current.operator f .diff) outer fuel rest
    | '~' :: '~' :: rest => classRest f (current.operator f .symmDiff) outer fuel rest
    | cs =>
      match classItem f cs with
      | some (set, rest) => classRest f (current.add ⟨set, 0⟩) outer fuel rest
      | none => none

def bracketClass (f : Flags) (cs : List Char) : Option (Nested × List Char) :=
  let (current, rest) := openClass f cs
  classRest f current [] (cs.length + 1) rest

end JsonSchema.Pattern
