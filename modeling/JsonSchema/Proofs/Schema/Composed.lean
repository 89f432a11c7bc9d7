import JsonSchema.Proofs.Pointer.Lookup
import JsonSchema.Proofs.Rule.Failures
import JsonSchema.Proofs.Schema.Relocated

namespace JsonSchema

namespace Report

def below (front : InstancePath) (r : Report) : Report :=
  { r with failures := r.failures.map fun f => f.below front }

def joined (reports : List Report) : Report :=
  ⟨reports.all valid, reports.flatMap failures⟩

theorem below_nil (r : Report) : r.below [] = r := by
  simp [below, Failure.below]

theorem below_below (front outer : InstancePath) (r : Report) :
    (r.below front).below outer = r.below (outer ++ front) := by
  simp [below, Failure.below]

theorem joined_singleton (r : Report) : joined [r] = r := by
  simp [joined]

theorem joined_below (front : InstancePath) (reports : List Report) :
    (joined reports).below front = joined (reports.map (below front)) := by
  simp [joined, below, List.map_flatMap, List.flatMap_map, Function.comp_def]

theorem joined_map {α : Type} (items : List α) (reports : α → List Report) :
    joined (items.map fun a => joined (reports a)) = joined (items.flatMap reports) := by
  simp [joined, List.flatMap_map, List.flatMap_assoc, Function.comp_def]

end Report

namespace Rule
open Report (joined)

/-- A rule that asks nothing by itself reports what its parts report, each further inside. -/
theorem report_parts {rule : Rule} {x : Value} (h : rule.failuresAlone [] x = []) :
    rule.report x =
      joined ((rule.parts x).map fun p => (p.rule.report p.value).below p.segments) := by
  have hfailures : rule.failures [] x = (rule.parts x).flatMap fun p =>
      (p.rule.failures [] p.value).map fun f => f.below p.segments := by
    rw [failures_eq, h, List.nil_append]
    refine List.flatMap_congr fun p _ => ?_
    rw [List.nil_append, ← failures_below, List.append_nil]
  simp only [report_eq, joined, Report.below, List.flatMap_map, List.all_map, Report.mk.injEq]
  refine ⟨?_, hfailures⟩
  rw [hfailures, Bool.eq_iff_iff]
  simp

theorem report_all_one (rule : Rule) (x : Value) : (all [rule]).report x = rule.report x := by
  rw [report_parts rfl]
  simp [parts, Report.below_nil, Report.joined_singleton]

theorem report_no_parts {rule : Rule} {x : Value} (h : rule.failuresAlone [] x = [])
    (hparts : rule.parts x = []) : (all [rule]).report x = joined [] := by
  rw [report_all_one, report_parts h, hparts, List.map_nil]

/-- The report of a schema for one member is its own report on that member, below its name. -/
theorem report_member {name : String} {rule : Rule} {members : Members} :
    (all [.properties [(name, rule)]]).report (.object members) =
      joined ((members.lookup name).toList.map fun y => (rule.report y).below [name]) := by
  rw [report_all_one, report_parts rfl]
  cases h : members.lookup name <;> simp [parts, h]

theorem report_each (rule : Rule) (elements : List Value) :
    (all [.each rule]).report (.array elements) =
      joined (elements.zipIdx.map fun p => (rule.report p.1).below [toString p.2]) := by
  rw [report_all_one, report_parts rfl, parts, List.map_map]
  rfl

theorem report_positional (rules : List Rule) (elements : List Value) :
    (all [.positional rules]).report (.array elements) =
      joined ((rules.zip elements).zipIdx.map fun p =>
        (p.1.1.report p.1.2).below [toString p.2]) := by
  rw [report_all_one, report_parts rfl, parts, List.map_map]
  rfl

end Rule

namespace Draft4
open Report (joined)

structure Accepted where
  document : Value
  rule : Rule
  compiled : Registry.draft4.compile .root document = .ok rule

def Accepted.report (schema : Accepted) (x : Value) : Report :=
  schema.rule.report x

def Reports (document x : Value) (report : Report) : Prop :=
  ∃ rule, Registry.draft4.compile .root document = .ok rule ∧ rule.report x = report

/-- A schema put together from others, which are nested in it as they are: for the member of a name,
for all elements, or for the element at each position. -/
inductive Composed
  | alone (schema : Accepted)
  | member (name : String) (inner : Composed)
  | each (inner : Composed)
  | positional (inners : List Composed)

structure Place where
  path : InstancePath
  schema : Accepted
  value : Value

namespace Place

def below (front : InstancePath) (p : Place) : Place :=
  { p with path := front ++ p.path }

def report (p : Place) : Report :=
  (p.schema.report p.value).below p.path

theorem report_below (front : InstancePath) (p : Place) :
    (p.below front).report = p.report.below front := by
  rw [report, report, below, Report.below_below]

end Place

namespace Composed

mutual

def document : Composed → Value
  | .alone schema => schema.document
  | .member name inner => .object [("properties", .object [(name, document inner)])]
  | .each inner => .object [("items", document inner)]
  | .positional inners => .object [("items", .array (documents inners))]
termination_by structural schema => schema

def documents : List Composed → List Value
  | [] => []
  | inner :: rest => document inner :: documents rest
termination_by structural inners => inners

end

mutual

def rule : Composed → Rule
  | .alone schema => schema.rule
  | .member name inner => .all [.properties [(name, rule inner)]]
  | .each inner => .all [.each (rule inner)]
  | .positional inners => .all [.positional (rules inners)]
termination_by structural schema => schema

def rules : List Composed → List Rule
  | [] => []
  | inner :: rest => rule inner :: rules rest
termination_by structural inners => inners

end

mutual

/-- Where the schemas inside apply to an instance. A place further inside has the path of the place
around it in front of its own. -/
def places : Composed → Value → List Place
  | .alone schema, x => [⟨[], schema, x⟩]
  | .member name inner, .object members =>
    match members.lookup name with
    | some y => (places inner y).map (Place.below [name])
    | none => []
  | .each inner, .array elements =>
    elements.zipIdx.flatMap fun (y, i) => (places inner y).map (Place.below [toString i])
  | .positional inners, .array elements => placesFrom 0 inners elements
  | _, _ => []
termination_by structural schema => schema

def placesFrom : Nat → List Composed → List Value → List Place
  | i, inner :: inners, y :: elements =>
    (places inner y).map (Place.below [toString i]) ++ placesFrom (i + 1) inners elements
  | _, _, _ => []
termination_by structural _ inners => inners

end

theorem documents_eq (inners : List Composed) : documents inners = inners.map document := by
  induction inners with
  | nil => rfl
  | cons inner rest ih => rw [documents, ih, List.map_cons]

theorem rules_eq (inners : List Composed) : rules inners = inners.map rule := by
  induction inners with
  | nil => rfl
  | cons inner rest ih => rw [rules, ih, List.map_cons]

theorem placesFrom_eq (i : Nat) (inners : List Composed) (elements : List Value) :
    placesFrom i inners elements = ((inners.zip elements).zipIdx i).flatMap fun p =>
      (p.1.1.places p.1.2).map (Place.below [toString p.2]) := by
  induction inners generalizing i elements with
  | nil => simp [placesFrom]
  | cons inner rest ih =>
    cases elements with
    | nil => simp [placesFrom]
    | cons y elements =>
      rw [placesFrom, ih, List.zip_cons_cons, List.zipIdx_cons, List.flatMap_cons]

/-- What holds of a schema when it holds of all schemas directly nested in it holds of every one. -/
@[elab_as_elim]
theorem composed_induction {P : Composed → Prop} (alone : ∀ schema, P (.alone schema))
    (member : ∀ name inner, P inner → P (.member name inner))
    (each : ∀ inner, P inner → P (.each inner))
    (positional : ∀ inners, (∀ inner ∈ inners, P inner) → P (.positional inners))
    (schema : Composed) : P schema := by
  match schema with
  | .alone schema => exact alone schema
  | .member name inner =>
    exact member name inner (composed_induction alone member each positional inner)
  | .each inner => exact each inner (composed_induction alone member each positional inner)
  | .positional inners =>
    apply positional
    intro inner hinner
    exact composed_induction alone member each positional inner
termination_by sizeOf schema
decreasing_by
  · simp only [Composed.member.sizeOf_spec]
    omega
  · simp only [Composed.each.sizeOf_spec]
    omega
  · have := List.sizeOf_lt_of_mem hinner
    simp only [Composed.positional.sizeOf_spec]
    omega

section Compiled
open Registry (draft4)
variable {location : Location}

theorem compile_member {name : String} {document : Value} {rule : Rule}
    (h : draft4.compile .root document = .ok rule) :
    draft4.compile location (.object [("properties", .object [(name, document)])]) =
      .ok (.all [.properties [(name, rule)]]) := by
  apply Registry.compile_keyword .properties
  refine Keyword.properties_ok.mpr ⟨[(name, document)], _, rfl, rfl, ?_⟩
  have hchild := (Registry.compile_anywhere Registry.draft4_standard
    ((location.below ["properties"]).below [name])).mpr h
  simp only [Registry.nested_members, Registry.compileMembers_eq, List.mapM_cons, hchild]
  rfl

theorem compile_each {document : Value} {rule : Rule}
    (h : draft4.compile .root document = .ok rule) :
    draft4.compile location (.object [("items", document)]) = .ok (.all [.each rule]) := by
  apply Registry.compile_keyword .items
  refine Keyword.items_ok.mpr (.inr ⟨?_, rule, rfl, ?_⟩)
  · rintro documents rfl
    cases h
  · exact (Registry.compile_anywhere Registry.draft4_standard _).mpr h

theorem compile_positional {α : Type} {schemas : List α} {document : α → Value} {rule : α → Rule}
    (h : ∀ a ∈ schemas, draft4.compile .root (document a) = .ok (rule a)) :
    draft4.compile location (.object [("items", .array (schemas.map document))]) =
      .ok (.all [.positional (schemas.map rule)]) := by
  apply Registry.compile_keyword .items
  refine Keyword.items_ok.mpr (.inl ⟨schemas.map document, _, rfl, rfl, ?_⟩)
  change draft4.compileElements _ 0 (schemas.map document) = .ok (schemas.map rule)
  have hrules : schemas.map rule = schemas.zipIdx.map fun p => rule p.1 := by
    rw [← Function.comp_def, ← List.map_map, List.zipIdx_map_fst]
  rw [Registry.compileElements_eq, List.zipIdx_map, hrules, mapM_eq_ok,
    List.forall₂_map_left_iff, List.forall₂_map_right_iff, List.forall₂_same]
  intro p hp
  exact (Registry.compile_anywhere Registry.draft4_standard _).mpr
    (h p.1 (List.fst_mem_of_mem_zipIdx hp))

end Compiled

/-- The document of the whole compiles to the rule of the whole. -/
theorem compile_document (schema : Composed) :
    Registry.draft4.compile .root schema.document = .ok schema.rule := by
  induction schema using composed_induction with
  | alone schema => exact schema.compiled
  | member name inner ih => exact compile_member ih
  | each inner ih => exact compile_each ih
  | positional inners ih =>
    rw [document, rule, documents_eq, rules_eq]
    exact compile_positional ih

/-- A schema reports what the schemas nested in it report on their own, each from its places. -/
def ReportsPlaces (schema : Composed) (x : Value) : Prop :=
  schema.rule.report x = joined ((schema.places x).map Place.report)

theorem joined_places {α : Type} {items : List α} {schema : α → Composed} {value : α → Value}
    (front : α → InstancePath) (h : ∀ a ∈ items, (schema a).ReportsPlaces (value a)) :
    joined (items.map fun a => ((schema a).rule.report (value a)).below (front a)) =
      joined ((items.flatMap fun a =>
        ((schema a).places (value a)).map (Place.below (front a))).map Place.report) := by
  have hreports : ∀ a ∈ items, ((schema a).rule.report (value a)).below (front a) =
      joined ((((schema a).places (value a)).map (Place.below (front a))).map Place.report) := by
    intro a ha
    rw [h a ha, Report.joined_below, List.map_map, List.map_map]
    simp only [Function.comp_def, Place.report_below]
  rw [List.map_congr_left hreports, Report.joined_map, List.map_flatMap]

theorem reportsPlaces (schema : Composed) (x : Value) : schema.ReportsPlaces x := by
  induction schema using composed_induction generalizing x with
  | alone schema =>
    simp [ReportsPlaces, rule, places, Place.report, Accepted.report, Report.below_nil,
      Report.joined_singleton]
  | member name inner ih =>
    rw [ReportsPlaces, rule]
    cases x with
    | object members =>
      rw [Rule.report_member, joined_places (fun _ => [name]) fun y _ => ih y, places]
      cases members.lookup name <;> simp
    | _ => exact Rule.report_no_parts rfl rfl
  | each inner ih =>
    rw [ReportsPlaces, rule]
    cases x with
    | array elements =>
      have hinner : ∀ p ∈ elements.zipIdx, inner.ReportsPlaces p.1 := fun p _ => ih p.1
      rw [Rule.report_each, places]
      exact joined_places (fun p => [toString p.2]) hinner
    | _ => exact Rule.report_no_parts rfl rfl
  | positional inners ih =>
    rw [ReportsPlaces, rule, rules_eq]
    cases x with
    | array elements =>
      have hpairs : ((inners.map rule).zip elements).zipIdx =
          (inners.zip elements).zipIdx.map fun p => ((p.1.1.rule, p.1.2), p.2) := by
        rw [List.zip_map_left, List.zipIdx_map]
        rfl
      have hinners : ∀ p ∈ (inners.zip elements).zipIdx, p.1.1.ReportsPlaces p.1.2 := by
        intro p hp
        exact ih p.1.1 (List.of_mem_zip (List.fst_mem_of_mem_zipIdx hp)).1 p.1.2
      rw [Rule.report_positional, hpairs, List.map_map, places, placesFrom_eq]
      exact joined_places (fun p => [toString p.2]) hinners
    | _ => exact Rule.report_no_parts rfl rfl

end Composed

/-- A nested schema reports just what it reports on its own, further inside: a schema for a member
on the member, a schema for all elements on each element in turn, and schemas for positions on those
elements that are there. Schemas nested in each other report from all their places, with the paths
one behind the other; and as text, a path further inside has the escaped name or the position in
front. -/
theorem report_composed :
    (∀ (schema : Accepted) name members v, members.lookup name = some v →
      Reports (.object [("properties", .object [(name, schema.document)])]) (.object members)
        ((schema.report v).below [name])) ∧
      (∀ (schema : Accepted) elements,
        Reports (.object [("items", schema.document)]) (.array elements)
          (joined (elements.zipIdx.map fun p => (schema.report p.1).below [toString p.2]))) ∧
      (∀ (schemas : List Accepted) elements,
        Reports (.object [("items", .array (schemas.map Accepted.document))]) (.array elements)
          (joined ((schemas.zip elements).zipIdx.map fun p =>
            (p.1.1.report p.1.2).below [toString p.2]))) ∧
      (∀ (schema : Composed) x,
        Reports schema.document x (joined ((schema.places x).map Place.report))) ∧
      (∀ name path, Pointer.text (name :: path) = "/" ++ Pointer.escape name ++ Pointer.text path) ∧
      ∀ (i : Nat) path,
        Pointer.text (toString i :: path) = "/" ++ toString i ++ Pointer.text path := by
  refine ⟨?_, ?_, ?_, ?_, Pointer.text_cons, ?_⟩
  · intro schema name members v hv
    refine ⟨_, Composed.compile_member schema.compiled, ?_⟩
    rw [Rule.report_member, hv, Option.toList_some, List.map_singleton, Report.joined_singleton]
    rfl
  · intro schema elements
    exact ⟨_, Composed.compile_each schema.compiled, Rule.report_each schema.rule elements⟩
  · intro schemas elements
    refine ⟨_, Composed.compile_positional fun schema _ => schema.compiled, ?_⟩
    rw [Rule.report_positional, List.zip_map_left, List.zipIdx_map, List.map_map]
    rfl
  · intro schema x
    exact ⟨schema.rule, schema.compile_document, schema.reportsPlaces x⟩
  · intro i path
    rw [Pointer.text_cons, Pointer.escape_toString]

/-- Two elements in a member whose name has a slash, of which the first has to be a string and the
second is refused whatever it is; a third has no schema. -/
theorem report_composed_escaped :
    let text : Accepted :=
      ⟨.object [("type", .string "string")], .all [.check (.type [.string])], rfl⟩
    let never : Accepted := ⟨.bool false, .constant false, rfl⟩
    let pair : Accepted := ⟨.object [("items", .array [text.document, never.document])],
      .all [.positional [text.rule, never.rule]], rfl⟩
    let members : Members := [("b", .null), ("a/b", .array [.null, .null, .null])]
    members.lookup "a/b" = some (.array [.null, .null, .null]) ∧
      Reports (.object [("properties", .object [("a/b", pair.document)])]) (.object members)
        ⟨false, [⟨"type", ["a/b", "0"], "expected string, found null"⟩,
          ⟨"false", ["a/b", "1"], "no value satisfies the `false` schema"⟩]⟩ ∧
      Pointer.text ["a/b", "1"] = "/a~1b/1" := by
  intro text never pair members
  have hlookup : members.lookup "a/b" = some (.array [.null, .null, .null]) := rfl
  exact ⟨hlookup, report_composed.1 pair "a/b" members _ hlookup, by decide +kernel⟩

end Draft4
end JsonSchema
