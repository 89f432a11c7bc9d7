import JsonSchema.Rule.Check
import JsonSchema.Report

namespace JsonSchema

inductive Rule
  /-- The schemas `true` and `false`, for all instances and for none. -/
  | constant (accept : Bool)
  /-- The keywords of one schema, in declaration order. -/
  | all (rules : List Rule)
  | check (c : Check)
  /-- A rule for every member of some names. -/
  | properties (rules : List (String × Rule))
  /-- One rule for all elements. -/
  | each (rule : Rule)
  /-- A rule for each of the first elements. -/
  | positional (rules : List Rule)

namespace Rule

def acceptAll : Rule := .all []

def keyword? : Rule → Option String
  | .constant _ => none
  | .all _ => none
  | .check c => some c.keyword
  | .properties _ => some "properties"
  | .each _ => some "items"
  | .positional _ => some "items"

mutual

def size : Rule → Nat
  | .constant _ => 0
  | .all rules => sizeAll rules
  | .check _ => 1
  | .properties rules => 1 + sizeNamed rules
  | .each rule => 1 + size rule
  | .positional rules => 1 + sizeAll rules
termination_by structural rule => rule

def sizeAll : List Rule → Nat
  | [] => 0
  | rule :: rest => size rule + sizeAll rest
termination_by structural rules => rules

def sizeNamed : List (String × Rule) → Nat
  | [] => 0
  | (_, rule) :: rest => size rule + sizeNamed rest
termination_by structural rules => rules

end

mutual

def accepts : Rule → Value → Bool
  | .constant accept, _ => accept
  | .all rules, x => acceptsAll rules x
  | .check c, x => c.accepts x
  | .properties rules, .object members => acceptsNamed rules members
  | .each rule, .array elements => elements.all (accepts rule)
  | .positional rules, .array elements => acceptsPositional rules elements
  | _, _ => true
termination_by structural rule => rule

def acceptsAll : List Rule → Value → Bool
  | [], _ => true
  | rule :: rest, x => accepts rule x && acceptsAll rest x
termination_by structural rules => rules

def acceptsNamed : List (String × Rule) → Members → Bool
  | [], _ => true
  | (name, rule) :: rest, members =>
    (match members.lookup name with
      | some x => accepts rule x
      | none => true) && acceptsNamed rest members
termination_by structural rules => rules

def acceptsPositional : List Rule → List Value → Bool
  | rule :: rules, x :: elements => accepts rule x && acceptsPositional rules elements
  | _, _ => true
termination_by structural rules => rules

end

mutual

def visit : Rule → Value → Walk → Walk
  | .constant true, _, w => w
  | .constant false, _, w => w.fail "false" "no value satisfies the `false` schema"
  | .all rules, x, w => visitAll rules x w
  | .check c, x, w => (c.complaints x).foldl (fun w message => w.fail c.keyword message) w
  | .properties rules, .object members, w => visitNamed rules members w
  | .each rule, .array elements, w =>
    (elements.zipIdx.foldl (fun w (x, i) => (visit rule x (w.push (toString i))).pop)) w
  | .positional rules, .array elements, w => visitPositional rules 0 elements w
  | _, _, w => w
termination_by structural rule => rule

def visitAll : List Rule → Value → Walk → Walk
  | [], _, w => w
  | rule :: rest, x, w => visitAll rest x (visit rule x w)
termination_by structural rules => rules

def visitNamed : List (String × Rule) → Members → Walk → Walk
  | [], _, w => w
  | (name, rule) :: rest, members, w =>
    match members.lookup name with
    | some x => visitNamed rest members (visit rule x (w.push name)).pop
    | none => visitNamed rest members w
termination_by structural rules => rules

def visitPositional : List Rule → Nat → List Value → Walk → Walk
  | rule :: rules, i, x :: elements, w =>
    visitPositional rules (i + 1) elements (visit rule x (w.push (toString i))).pop
  | _, _, _, w => w
termination_by structural rules => rules

end

def report (rule : Rule) (x : Value) : Report :=
  (rule.visit x .start).report

end Rule
end JsonSchema
