import JsonSchema.Pattern.Regex

namespace JsonSchema.Pattern

inductive Expr
  | empty
  /-- Characters one after the other. -/
  | text (chars : List Char)
  /-- One character of a set. -/
  | set (chars : CharSet)
  | look (l : Look)
  | counted (body : Expr) (low : Nat) (high : Option Nat) (greedy : Bool)
  /-- A group that is counted from the start of the pattern. -/
  | group (index : Nat) (body : Expr)
  | sequence (parts : List Expr)
  | choice (parts : List Expr)

namespace Expr

mutual

def same : Expr → Expr → Bool
  | .empty, .empty => true
  | .text a, .text b => a = b
  | .set a, .set b => a = b
  | .look a, .look b => a = b
  | .counted a low high greedy, .counted b low' high' greedy' =>
    same a b && low = low' && high = high' && greedy = greedy'
  | .group i a, .group j b => i = j && same a b
  | .sequence as, .sequence bs => sameAll as bs
  | .choice as, .choice bs => sameAll as bs
  | _, _ => false

def sameAll : List Expr → List Expr → Bool
  | [], [] => true
  | a :: as, b :: bs => same a b && sameAll as bs
  | _, _ => false

end

mutual

def isWidthless : Expr → Bool
  | .empty => true
  | .text _ => false
  | .set _ => false
  | .look _ => true
  | .counted body _ high _ => high.isSome && isWidthless body
  | .group _ body => isWidthless body
  | .sequence parts => allWidthless parts
  | .choice parts => allWidthless parts

def allWidthless : List Expr → Bool
  | [] => true
  | e :: rest => isWidthless e && allWidthless rest

end

mutual

/-- The least number of characters that an expression takes. There is none if part of it can never
match. -/
def leastWidth : Expr → Option Nat
  | .empty => some 0
  | .text chars => some chars.length
  | .set chars => if chars.ranges.isEmpty then none else some 1
  | .look _ => some 0
  | .counted body low _ _ => (leastWidth body).map (low * ·)
  | .group _ body => leastWidth body
  | .sequence parts => sumOfWidths parts
  | .choice parts => leastOfWidths parts

def sumOfWidths : List Expr → Option Nat
  | [] => some 0
  | e :: rest => do pure ((← leastWidth e) + (← sumOfWidths rest))

def leastOfWidths : List Expr → Option Nat
  | [] => none
  | [e] => leastWidth e
  | e :: rest => do pure (min (← leastWidth e) (← leastOfWidths rest))

end

def takesSome (e : Expr) : Bool :=
  (leastWidth e).any (0 < ·)

mutual

def isFixedAtStart : Expr → Bool
  | .empty => false
  | .text _ => false
  | .set _ => false
  | .look l => l = .textStart
  | .counted body low _ _ => 0 < low && isFixedAtStart body
  | .group _ body => isFixedAtStart body
  | .sequence parts => beginsFixed parts
  | .choice parts => allFixedAtStart parts

def beginsFixed : List Expr → Bool
  | [] => false
  | e :: rest => isFixedAtStart e || (isWidthless e && beginsFixed rest)

def allFixedAtStart : List Expr → Bool
  | [] => true
  | e :: rest => isFixedAtStart e && allFixedAtStart rest

end

mutual

def isFixedAtEnd : Expr → Bool
  | .empty => false
  | .text _ => false
  | .set _ => false
  | .look l => l = .textEnd
  | .counted body low _ _ => 0 < low && isFixedAtEnd body
  | .group _ body => isFixedAtEnd body
  | .sequence parts => endsFixed parts
  | .choice parts => allFixedAtEnd parts

def endsFixed : List Expr → Bool
  | [] => false
  | e :: rest => endsFixed rest || (allWidthless rest && isFixedAtEnd e)

def allFixedAtEnd : List Expr → Bool
  | [] => true
  | e :: rest => isFixedAtEnd e && allFixedAtEnd rest

end

def ofSet (chars : CharSet) : Expr :=
  let chars := chars.diff Unicode.surrogate
  match chars.ranges with
  | [(low, high)] => if low = high then .text [Char.ofNat low] else .set chars
  | _ => .set chars

def times (e : Expr) (low : Nat) (high : Option Nat) (greedy : Bool) : Expr :=
  let (low, high) := if e.isWidthless then (min low 1, some (min (high.getD 1) 1)) else (low, high)
  if high = some 0 then .empty
  else if low = 1 && high = some 1 then e
  else .counted e low high greedy

def joinTexts : List Expr → List Expr
  | [] => []
  | .text a :: rest =>
    match joinTexts rest with
    | .text b :: rest => .text (a ++ b) :: rest
    | rest => .text a :: rest
  | e :: rest => e :: joinTexts rest

def seq (parts : List Expr) : Expr :=
  let flat := parts.flatMap fun
    | .empty => []
    | .sequence inner => inner
    | e => [e]
  match joinTexts flat with
  | [] => .empty
  | [e] => e
  | parts => .sequence parts

def asSet? : Expr → Option CharSet
  | .text [c] => some (.single c)
  | .set chars => some chars
  | _ => none

def oneOf (parts : List Expr) : Expr :=
  let flat := parts.flatMap fun
    | .choice inner => inner
    | e => [e]
  match flat, flat.mapM asSet? with
  | [e], _ => e
  | _, some sets => ofSet (.unionAll sets)
  | parts, none => .choice parts

def parts? : Expr → Option (List Expr)
  | .sequence parts => some parts
  | _ => none

def commonParts : List Expr → List Expr → List Expr
  | a :: as, b :: bs => if same a b then a :: commonParts as bs else []
  | _, _ => []

/-- One of several expressions. What they all begin with is not chosen from. -/
def alt (parts : List Expr) : Expr :=
  match oneOf parts with
  | .choice parts =>
    match parts.mapM parts? with
    | some (first :: rest) =>
      match rest.foldl commonParts first with
      | [] => .choice parts
      | shared =>
        seq (shared ++ [oneOf ((first :: rest).map fun parts => seq (parts.drop shared.length))])
    | _ => .choice parts
  | e => e

mutual

def toRegex : Expr → Regex
  | .empty => .empty
  | .text chars => Regex.ofText chars
  | .set chars => .ofSet chars
  | .look l => .look l
  | .counted body low high _ => (toRegex body).between low high
  | .group _ body => toRegex body
  | .sequence parts => sequenceRegex parts
  | .choice parts => choiceRegex parts

def sequenceRegex : List Expr → Regex
  | [] => .empty
  | [e] => toRegex e
  | e :: rest => .seq (toRegex e) (sequenceRegex rest)

def choiceRegex : List Expr → Regex
  | [] => .ofSet .empty
  | [e] => toRegex e
  | e :: rest => .alt (toRegex e) (choiceRegex rest)

end

end Expr
end JsonSchema.Pattern
