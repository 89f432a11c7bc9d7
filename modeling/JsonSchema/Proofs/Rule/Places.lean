import JsonSchema.CommandLine.Input
import JsonSchema.Proofs.Pointer.Lookup
import JsonSchema.Proofs.Rule.Failures
import JsonSchema.Registry

namespace JsonSchema.Rule
open Pointer (Step follow?)

/-- Steps lead from a rule to one inside it. The keywords of one schema are reached without a
step, the schemas nested in them by the name or the position that they are for. -/
inductive Leads : Rule → List Step → Rule → Prop
  | self (rule : Rule) : Leads rule [] rule
  | all {rules : List Rule} {rule q : Rule} {steps : List Step} (hr : rule ∈ rules)
    (h : Leads rule steps q) : Leads (.all rules) steps q
  | member {rules : List (String × Rule)} {name : String} {rule q : Rule} {steps : List Step}
    (hr : (name, rule) ∈ rules) (h : Leads rule steps q) :
    Leads (.properties rules) (.member name :: steps) q
  | each {rule q : Rule} {steps : List Step} (i : Nat) (h : Leads rule steps q) :
    Leads (.each rule) (.element i :: steps) q
  | positional {rules : List Rule} {i : Nat} {rule q : Rule} {steps : List Step}
    (hr : rules[i]? = some rule) (h : Leads rule steps q) :
    Leads (.positional rules) (.element i :: steps) q

/-- The keyword that a rule by itself is reported under when it rejects an instance. The keywords
that only hand instances on to nested schemas are never reported. -/
def reportedAs? : Rule → Option String
  | .constant false => some "false"
  | .check c => some c.keyword
  | _ => none

theorem parts_member {rules : List (String × Rule)} {name : String} {rule : Rule} {x y : Value}
    (hr : (name, rule) ∈ rules) (h : (Step.member name).enter? x = some y) :
    ⟨[name], rule, y⟩ ∈ (properties rules).parts x := by
  cases x with
  | object members =>
    have hl : members.lookup name = some y := h
    exact List.mem_filterMap.mpr ⟨(name, rule), hr, by simp [hl]⟩
  | _ => cases h

theorem parts_each {rule : Rule} {i : Nat} {x y : Value} (h : (Step.element i).enter? x = some y) :
    ⟨[toString i], rule, y⟩ ∈ (each rule).parts x := by
  cases x with
  | array elements =>
    have hi : elements[i]? = some y := h
    exact List.mem_map.mpr ⟨(y, i), List.mk_mem_zipIdx_iff_getElem?.mpr hi, rfl⟩
  | _ => cases h

theorem parts_positional {rules : List Rule} {rule : Rule} {i : Nat} {x y : Value}
    (hr : rules[i]? = some rule) (h : (Step.element i).enter? x = some y) :
    ⟨[toString i], rule, y⟩ ∈ (positional rules).parts x := by
  cases x with
  | array elements =>
    have hi : elements[i]? = some y := h
    have hzip : (rules.zip elements)[i]? = some (rule, y) := by
      rw [List.getElem?_zip_eq_some]
      exact ⟨hr, hi⟩
    exact List.mem_map.mpr ⟨((rule, y), i), List.mk_mem_zipIdx_iff_getElem?.mpr hzip, rfl⟩
  | _ => cases h

/-- What leads to a part of a rule leads to its value in the instance as well. -/
theorem parts_lead {rule : Rule} {x : Value} {p : Part} (h : p ∈ rule.parts x) :
    ∃ steps, p.segments = steps.map Step.segment ∧ follow? x steps = some p.value ∧
      ∀ more q, Leads p.rule more q → Leads rule (steps ++ more) q := by
  fun_cases parts rule x with
  | case1 rules x =>
    obtain ⟨r, hr, rfl⟩ := List.mem_map.mp h
    exact ⟨[], rfl, rfl, fun more q hq => .all hr hq⟩
  | case2 rules members =>
    obtain ⟨⟨name, r⟩, hr, he⟩ := List.mem_filterMap.mp h
    obtain ⟨y, hy, rfl⟩ := Option.map_eq_some_iff.mp he
    have hy : members.lookup name = some y := hy
    refine ⟨[.member name], rfl, ?_, fun more q hq => .member hr hq⟩
    simp [follow?, Step.enter?, Value.get?, hy]
  | case3 r elements =>
    obtain ⟨⟨y, i⟩, hy, rfl⟩ := List.mem_map.mp h
    have hi : elements[i]? = some y := List.mk_mem_zipIdx_iff_getElem?.mp hy
    refine ⟨[.element i], rfl, ?_, fun more q hq => .each i hq⟩
    simp [follow?, Step.enter?, hi]
  | case4 rules elements =>
    obtain ⟨⟨⟨r, y⟩, i⟩, hy, rfl⟩ := List.mem_map.mp h
    have hzip := List.mk_mem_zipIdx_iff_getElem?.mp hy
    obtain ⟨hr, hi⟩ := List.getElem?_zip_eq_some.mp hzip
    refine ⟨[.element i], rfl, ?_, fun more q hq => .positional hr hq⟩
    simp [follow?, Step.enter?, hi]
  | case5 => simp [parts] at h

theorem mem_failures {rule : Rule} {path : InstancePath} {x : Value} {f : Failure} :
    f ∈ rule.failures path x ↔ f ∈ rule.failuresAlone path x ∨
      ∃ p ∈ rule.parts x, f ∈ p.rule.failures (path ++ p.segments) p.value := by
  rw [failures_eq, List.mem_append, List.mem_flatMap]

theorem failures_of_leads {rule q : Rule} {steps : List Step} (h : Leads rule steps q)
    {path : InstancePath} {x y : Value} (hy : follow? x steps = some y) {f : Failure}
    (hf : f ∈ q.failuresAlone (path ++ steps.map Step.segment) y) : f ∈ rule.failures path x := by
  -- The induction is on the way down the rule; each step of it is a part to descend into.
  induction h generalizing path x with
  | self rule =>
    obtain rfl := Option.some.inj hy
    rw [List.map_nil, List.append_nil] at hf
    exact mem_failures.mpr (.inl hf)
  | @all rules rule q steps hr _ ih =>
    have hpart : ⟨[], rule, x⟩ ∈ (all rules).parts x := List.mem_map_of_mem hr
    refine mem_failures.mpr (.inr ⟨_, hpart, ?_⟩)
    rw [List.append_nil]
    exact ih hy hf
  | member hr _ ih =>
    obtain ⟨w, hw, hrest⟩ := Option.bind_eq_some_iff.mp hy
    refine mem_failures.mpr (.inr ⟨_, parts_member hr hw, ih hrest ?_⟩)
    rwa [List.append_assoc]
  | each i _ ih =>
    obtain ⟨w, hw, hrest⟩ := Option.bind_eq_some_iff.mp hy
    refine mem_failures.mpr (.inr ⟨_, parts_each hw, ih hrest ?_⟩)
    rwa [List.append_assoc]
  | positional hr _ ih =>
    obtain ⟨w, hw, hrest⟩ := Option.bind_eq_some_iff.mp hy
    refine mem_failures.mpr (.inr ⟨_, parts_positional hr hw, ih hrest ?_⟩)
    rwa [List.append_assoc]

theorem leads_of_failures {rule : Rule} {path : InstancePath} {x : Value} {f : Failure}
    (h : f ∈ rule.failures path x) :
    ∃ steps q y, Leads rule steps q ∧ follow? x steps = some y ∧
      f ∈ q.failuresAlone (path ++ steps.map Step.segment) y := by
  induction rule, x using parts_induction generalizing path with
  | step rule x ih =>
    rcases mem_failures.mp h with halone | ⟨p, hp, hf⟩
    · exact ⟨[], rule, x, .self rule, rfl, by simpa using halone⟩
    · obtain ⟨steps, q, y, hleads, hy, hf⟩ := ih p hp hf
      obtain ⟨front, hsegments, hvalue, hlead⟩ := parts_lead hp
      refine ⟨front ++ steps, q, y, hlead steps q hleads, ?_, ?_⟩
      · rw [Pointer.follow?_append, hvalue, Option.bind_some, hy]
      · rwa [List.map_append, ← hsegments, ← List.append_assoc]

theorem accepts_of_reported {q : Rule} {keyword : String} (hq : q.reportedAs? = some keyword)
    (y : Value) : q.accepts y = q.acceptsAlone y := by
  cases q with
  | constant accept => rfl
  | check c => rfl
  | _ => cases hq

theorem mem_failuresAlone {q : Rule} {path : InstancePath} {y : Value} {f : Failure}
    (h : f ∈ q.failuresAlone path y) :
    q.reportedAs? = some f.keyword ∧ f.path = path ∧ q.accepts y = false := by
  have hnot : q.acceptsAlone y ≠ true := by
    rw [Ne, acceptsAlone_iff q path y]
    exact List.ne_nil_of_mem h
  have hform : q.reportedAs? = some f.keyword ∧ f.path = path := by
    fun_cases failuresAlone q path y with
    | case1 =>
      obtain rfl := List.mem_singleton.mp h
      exact ⟨rfl, rfl⟩
    | case2 c =>
      obtain ⟨message, -, rfl⟩ := List.mem_map.mp h
      exact ⟨rfl, rfl⟩
    | case3 => simp [failuresAlone] at h
  exact ⟨hform.1, hform.2, by rw [accepts_of_reported hform.1]; simpa using hnot⟩

theorem exists_failuresAlone {q : Rule} {keyword : String} (hq : q.reportedAs? = some keyword)
    {y : Value} (hy : q.accepts y = false) (path : InstancePath) :
    ∃ f ∈ q.failuresAlone path y, f.keyword = keyword ∧ f.path = path := by
  have hne : q.failuresAlone path y ≠ [] := by
    rw [Ne, ← acceptsAlone_iff q path y, ← accepts_of_reported hq, hy]
    decide
  obtain ⟨f, hf⟩ := List.exists_mem_of_ne_nil _ hne
  obtain ⟨hkeyword, hpath, -⟩ := mem_failuresAlone hf
  rw [hq] at hkeyword
  exact ⟨f, hf, (Option.some.inj hkeyword).symm, hpath⟩

/-- The report of any rule points at what is rejected, and leaves nothing out. As a pointer, the
path of a failure selects a part of the instance that a rule at the same place, of the keyword that
is reported, rejects; and each rule that rejects what is at its place is reported there. -/
theorem report_points_at_rejections (rule : Rule) {x : Value} (hx : x.Indexable) :
    (∀ f ∈ (rule.report x).failures, ∃ steps q y,
      f.path = steps.map Step.segment ∧ Leads rule steps q ∧ follow? x steps = some y ∧
        (∀ ndjson label, CommandLine.Selection.select ⟨ndjson, some (Pointer.text f.path)⟩ label x =
          .ok ⟨label, y⟩) ∧
        q.reportedAs? = some f.keyword ∧ q.accepts y = false) ∧
      ∀ steps q y keyword, Leads rule steps q → follow? x steps = some y →
        q.reportedAs? = some keyword → q.accepts y = false →
          ∃ f ∈ (rule.report x).failures, f.keyword = keyword ∧
            f.path = steps.map Step.segment := by
  rw [report_eq]
  constructor
  · intro f hf
    obtain ⟨steps, q, y, hleads, hy, hf⟩ := leads_of_failures hf
    obtain ⟨hkeyword, hpath, hrejects⟩ := mem_failuresAlone hf
    rw [List.nil_append] at hpath
    refine ⟨steps, q, y, hpath, hleads, hy, ?_, hkeyword, hrejects⟩
    intro ndjson label
    have hfound := Pointer.find?_text hx hy
    simp only [CommandLine.Selection.select, hpath, hfound]
  · intro steps q y keyword hleads hy hkeyword hrejects
    obtain ⟨f, hf, hname, hpath⟩ :=
      exists_failuresAlone hkeyword hrejects ([] ++ steps.map Step.segment)
    exact ⟨f, failures_of_leads hleads hy hf, hname, hpath⟩

/-- In a member whose name has a slash, the second element has to be a string and is not. -/
theorem report_points_at_rejections_escaped :
    let document : Value := .object [("properties", .object [("a/b", .object
      [("items", .array [.bool true, .object [("type", .string "string")]])])])]
    let rule : Rule := .all [.properties
      [("a/b", .all [.positional [.constant true, .all [.check (.type [.string])]]])]]
    let x : Value := .object [("a/b", .array [.null, .bool true])]
    Registry.draft4.compile .root document = .ok rule ∧
      ∃ f ∈ (rule.report x).failures, f.keyword = "type" ∧ f.path = ["a/b", "1"] ∧
        CommandLine.Selection.select ⟨false, some (Pointer.text f.path)⟩ "x" x =
          .ok ⟨"x", .bool true⟩ := by
  intro document rule x
  have hx : x.Indexable := by
    have hn : Value.null.readings = [.null] := rfl
    have hb : (Value.bool true).readings = [.bool true] := rfl
    simp [x, Value.Indexable, Value.throughout_object, Value.throughout_array,
      Value.throughout_atom hn, Value.throughout_atom hb, UInt64.size]
  have hleads : Leads rule [.member "a/b", .element 1] (.check (.type [.string])) :=
    .all (.head _) (.member (.head _) (.all (.head _) (.positional rfl (.all (.head _) (.self _)))))
  obtain ⟨f, hf, hkeyword, hpath⟩ :=
    (report_points_at_rejections rule hx).2 _ _ (.bool true) "type" hleads rfl rfl rfl
  refine ⟨rfl, f, hf, hkeyword, hpath, ?_⟩
  rw [hpath]
  rfl

end JsonSchema.Rule
