import JsonSchema.Rule.Basic

namespace JsonSchema.Rule

/-- A rule inside another one, its value inside the instance, and the segments that lead there. -/
structure Part where
  segments : List String
  rule : Rule
  value : Value

/-- The rules directly inside a rule that have something to say about an instance, in the order in
which they say it. -/
def parts : Rule → Value → List Part
  | .all rules, x => rules.map fun r => ⟨[], r, x⟩
  | .properties rules, .object members =>
    rules.filterMap fun p => (members.lookup p.1).map fun y => ⟨[p.1], p.2, y⟩
  | .each rule, .array elements => elements.zipIdx.map fun p => ⟨[toString p.2], rule, p.1⟩
  | .positional rules, .array elements =>
    (rules.zip elements).zipIdx.map fun p => ⟨[toString p.2], p.1.1, p.1.2⟩
  | _, _ => []

theorem smaller_in_all {r : Rule} {rules : List Rule} (h : r ∈ rules) :
    sizeOf r < sizeOf (all rules) := by
  have := List.sizeOf_lt_of_mem h
  simp only [all.sizeOf_spec]
  omega

theorem smaller_in_properties {p : String × Rule} {rules : List (String × Rule)} (h : p ∈ rules) :
    sizeOf p.2 < sizeOf (properties rules) := by
  have := List.sizeOf_lt_of_mem h
  obtain ⟨name, r⟩ := p
  simp only [Prod.mk.sizeOf_spec] at this
  simp only [properties.sizeOf_spec]
  omega

theorem smaller_in_positional {r : Rule} {rules : List Rule} (h : r ∈ rules) :
    sizeOf r < sizeOf (positional rules) := by
  have := List.sizeOf_lt_of_mem h
  simp only [positional.sizeOf_spec]
  omega

theorem parts_smaller {rule : Rule} {x : Value} {p : Part} (h : p ∈ rule.parts x) :
    sizeOf p.rule < sizeOf rule := by
  fun_cases parts rule x with
  | case1 rules x =>
    obtain ⟨r, hr, rfl⟩ := List.mem_map.mp h
    exact smaller_in_all hr
  | case2 rules members =>
    obtain ⟨q, hq, he⟩ := List.mem_filterMap.mp h
    obtain ⟨y, -, rfl⟩ := Option.map_eq_some_iff.mp he
    exact smaller_in_properties hq
  | case3 rule elements =>
    obtain ⟨q, -, rfl⟩ := List.mem_map.mp h
    simp only [each.sizeOf_spec]
    omega
  | case4 rules elements =>
    obtain ⟨⟨⟨r, y⟩, i⟩, hq, rfl⟩ := List.mem_map.mp h
    exact smaller_in_positional (List.of_mem_zip (List.fst_mem_of_mem_zipIdx hq)).1
  | case5 => simp [parts] at h

/-- What holds of a rule and an instance when it holds of all parts holds always. -/
theorem parts_induction {P : Rule → Value → Prop}
    (step : ∀ rule x, (∀ p ∈ rule.parts x, P p.rule p.value) → P rule x) (rule : Rule) (x : Value) :
    P rule x := by
  apply step
  intro p hp
  exact parts_induction step p.rule p.value
termination_by sizeOf rule
decreasing_by exact parts_smaller hp

mutual

def checks : Rule → List Check
  | .constant _ => []
  | .all rules => checksAll rules
  | .check c => [c]
  | .properties rules => checksNamed rules
  | .each rule => checks rule
  | .positional rules => checksAll rules
termination_by structural rule => rule

def checksAll : List Rule → List Check
  | [] => []
  | rule :: rest => checks rule ++ checksAll rest
termination_by structural rules => rules

def checksNamed : List (String × Rule) → List Check
  | [] => []
  | (_, rule) :: rest => checks rule ++ checksNamed rest
termination_by structural rules => rules

end

theorem checksAll_eq (rules : List Rule) : checksAll rules = rules.flatMap checks := by
  induction rules with
  | nil => rfl
  | cons r rest ih => rw [checksAll, ih, List.flatMap_cons]

theorem checksNamed_eq (rules : List (String × Rule)) :
    checksNamed rules = rules.flatMap fun p => p.2.checks := by
  induction rules with
  | nil => rfl
  | cons p rest ih => rw [checksNamed, ih, List.flatMap_cons]

theorem checks_of_parts {rule : Rule} {x : Value} {p : Part} (h : p ∈ rule.parts x) {c : Check}
    (hc : c ∈ p.rule.checks) : c ∈ rule.checks := by
  fun_cases parts rule x with
  | case1 rules x =>
    obtain ⟨r, hr, rfl⟩ := List.mem_map.mp h
    rw [checks, checksAll_eq]
    exact List.mem_flatMap.mpr ⟨r, hr, hc⟩
  | case2 rules members =>
    obtain ⟨q, hq, he⟩ := List.mem_filterMap.mp h
    obtain ⟨y, -, rfl⟩ := Option.map_eq_some_iff.mp he
    rw [checks, checksNamed_eq]
    exact List.mem_flatMap.mpr ⟨q, hq, hc⟩
  | case3 rule elements =>
    obtain ⟨q, -, rfl⟩ := List.mem_map.mp h
    exact hc
  | case4 rules elements =>
    obtain ⟨⟨⟨r, y⟩, i⟩, hq, rfl⟩ := List.mem_map.mp h
    rw [checks, checksAll_eq]
    have hr := (List.of_mem_zip (List.fst_mem_of_mem_zipIdx hq)).1
    exact List.mem_flatMap.mpr ⟨r, hr, hc⟩
  | case5 => simp [parts] at h

theorem acceptsAll_eq (rules : List Rule) (x : Value) :
    acceptsAll rules x = rules.all fun r => r.accepts x := by
  induction rules with
  | nil => rfl
  | cons r rest ih => rw [acceptsAll, ih, List.all_cons]

theorem acceptsNamed_eq (rules : List (String × Rule)) (members : Members) :
    acceptsNamed rules members = rules.all fun p => (members.lookup p.1).all p.2.accepts := by
  induction rules with
  | nil => rfl
  | cons p rest ih =>
    obtain ⟨name, r⟩ := p
    rw [acceptsNamed, ih, List.all_cons]
    cases members.lookup name <;> rfl

theorem acceptsPositional_eq (rules : List Rule) (elements : List Value) :
    acceptsPositional rules elements = (rules.zip elements).all fun p => p.1.accepts p.2 := by
  induction rules generalizing elements with
  | nil => cases elements <;> rfl
  | cons r rest ih =>
    cases elements with
    | nil => rfl
    | cons x elements => rw [acceptsPositional, ih, List.zip_cons_cons, List.all_cons]

def acceptsAlone : Rule → Value → Bool
  | .constant accept, _ => accept
  | .check c, x => c.accepts x
  | _, _ => true

/-- An instance follows a rule when it does what the rule asks by itself and its parts follow
theirs. -/
theorem accepts_eq (rule : Rule) (x : Value) :
    rule.accepts x =
      (rule.acceptsAlone x && (rule.parts x).all fun p => p.rule.accepts p.value) := by
  cases rule with
  | constant accept => simp [accepts, acceptsAlone, parts]
  | all rules => simp [accepts, acceptsAlone, parts, acceptsAll_eq, Function.comp_def]
  | check c => simp [accepts, acceptsAlone, parts]
  | properties rules =>
    cases x with
    | object members =>
      simp only [accepts, acceptsAlone, parts, acceptsNamed_eq, Bool.true_and, List.all_filterMap]
      congr 1
      funext p
      cases members.lookup p.1 <;> rfl
    | _ => simp [accepts, acceptsAlone, parts]
  | each rule =>
    cases x with
    | array elements =>
      simp only [accepts, acceptsAlone, parts, Bool.true_and, List.all_map]
      rw [← List.zipIdx_map_fst 0 elements, List.all_map, List.zipIdx_map_fst]
      rfl
    | _ => simp [accepts, acceptsAlone, parts]
  | positional rules =>
    cases x with
    | array elements =>
      simp only [accepts, acceptsAlone, parts, acceptsPositional_eq, Bool.true_and, List.all_map]
      rw [← List.zipIdx_map_fst 0 (rules.zip elements), List.all_map, List.zipIdx_map_fst]
      rfl
    | _ => simp [accepts, acceptsAlone, parts]

end JsonSchema.Rule
