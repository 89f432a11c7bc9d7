import JsonSchema.Proofs.Paired
import JsonSchema.Proofs.Rule.Distinct
import JsonSchema.Proofs.Schema.Compiled

namespace JsonSchema

namespace Builtin

/-- The rules that a keyword can make: checks under its own name, except for the two keywords that
nest schemas. -/
inductive Makes : Builtin → Rule → Prop
  | check {b : Builtin} {c : Check} (hname : c.keyword = b.name)
    (hnames : ∀ names, c = .required names → names.Nodup) : Makes b (.check c)
  | properties (rules : List (String × Rule)) : Makes .properties (.properties rules)
  | each (rule : Rule) : Makes .items (.each rule)
  | positional (rules : List Rule) : Makes .items (.positional rules)

variable {b : Builtin} {site : Site} {value : Value} {nested : Nested} {rule : Rule}

theorem makes_of_ok (h : b.keyword site value nested = .ok rule) : b.Makes rule := by
  cases b with
  | type =>
    simp only [keyword, Keyword.type_ok] at h
    obtain ⟨tags, rfl, -⟩ := h
    exact .check rfl (by rintro _ ⟨⟩)
  | enum =>
    simp only [keyword, Keyword.enum_ok] at h
    obtain ⟨values, -, -, rfl⟩ := h
    exact .check rfl (by rintro _ ⟨⟩)
  | properties =>
    obtain ⟨documents, rules, -, rfl, -⟩ := Keyword.properties_ok.mp h
    exact .properties rules
  | required =>
    simp only [keyword, Keyword.required_ok] at h
    obtain ⟨names, hnames, -, rfl⟩ := h
    refine .check rfl fun others he => ?_
    cases he
    exact hnames
  | multipleOf =>
    simp only [keyword, Keyword.multipleOf_ok] at h
    obtain ⟨n, -, -, rfl⟩ := h
    exact .check rfl (by rintro _ ⟨⟩)
  | minimum | maximum =>
    simp only [keyword, Keyword.bound_ok] at h
    obtain ⟨n, exclusive, -, rfl, -⟩ := h
    exact .check rfl (by rintro _ ⟨⟩)
  | minLength | maxLength =>
    simp only [keyword, Keyword.length_ok] at h
    obtain ⟨n, count, -, -, rfl⟩ := h
    exact .check rfl (by rintro _ ⟨⟩)
  | minItems | maxItems =>
    simp only [keyword, Keyword.itemCount_ok] at h
    obtain ⟨n, count, -, -, rfl⟩ := h
    exact .check rfl (by rintro _ ⟨⟩)
  | pattern =>
    simp only [keyword, Keyword.pattern_ok] at h
    obtain ⟨source, p, -, -, rfl⟩ := h
    exact .check rfl (by rintro _ ⟨⟩)
  | items =>
    rcases Keyword.items_ok.mp h with ⟨documents, rules, -, rfl, -⟩ | ⟨-, inner, rfl, -⟩
    · exact .positional rules
    · exact .each inner

theorem Makes.keyword? (h : b.Makes rule) : rule.keyword? = some b.name := by
  cases h with
  | check hname _ => exact congrArg some hname
  | _ => rfl

end Builtin

namespace Registry
variable {r : Registry}

/-- The names of the keywords of an object are among the names of its members, in their order. -/
theorem uses_names (members : Members) :
    ((r.uses members).map fun use => use.2.1).Sublist (members.map Prod.fst) := by
  induction members with
  | nil => exact .slnil
  | cons m rest ih =>
    cases h : r.get? m.1 with
    | none => simpa [uses, h] using ih.cons m.1
    | some k => simpa [uses, h] using ih.cons_cons m.1

end Registry

namespace Draft4
variable {site : Site} {value : Value} {rule : Rule}

/-- A keyword asks nothing twice if the schemas inside its value do not. -/
theorem apply_irredundant {b : Builtin} (hv : value.UniqueNames)
    (hin : ∀ d ∈ value.readings, d.UniqueNames → ∀ location rule,
      Registry.draft4.compile location d = .ok rule → rule.Irredundant)
    (h : Registry.draft4.apply b.keyword site value = .ok rule) : rule.Irredundant := by
  cases b with
  | properties =>
    obtain ⟨documents, rules, rfl, rfl, hrules⟩ := Keyword.properties_ok.mp h
    obtain ⟨hnames, hdocuments⟩ := Value.uniqueNames_object.mp hv
    change Registry.draft4.compileMembers _ documents = .ok rules at hrules
    rw [Registry.compileMembers_eq, mapM_eq_ok] at hrules
    refine .properties ?_ fun named hnamed => ?_
    · have hsame : documents.map Prod.fst = rules.map Prod.fst := by
        rw [← List.forall₂_eq_eq_eq, List.forall₂_map_left_iff, List.forall₂_map_right_iff]
        refine hrules.imp fun m named h => ?_
        obtain ⟨rule, -, rfl⟩ := map_eq_ok.mp h
        rfl
      rwa [← hsame]
    · obtain ⟨m, hm, h⟩ := exists_of_forall₂ hrules hnamed
      obtain ⟨rule, hrule, rfl⟩ := map_eq_ok.mp h
      exact hin m.2 (Value.member_mem_readings hm) (hdocuments m hm) _ _ hrule
  | items =>
    rcases Keyword.items_ok.mp h with ⟨documents, rules, rfl, rfl, hrules⟩ | ⟨-, inner, rfl, hself⟩
    · refine .positional fun rule hrule => ?_
      obtain ⟨d, hd, location, h⟩ :=
        exists_of_forall₂ (Registry.compileElements_forall₂ hrules) hrule
      exact hin d (Value.element_mem_readings hd) (Value.uniqueNames_array.mp hv d hd) _ _ h
    · exact .each (hin value value.self_mem_readings hv _ _ hself)
  | _ =>
    cases Builtin.makes_of_ok h with
    | check _ hnames => exact .check hnames

/-- A document without repeated names compiles to a rule that asks nothing twice. -/
theorem compile_irredundant (document : Value) (hu : document.UniqueNames) : ∀ location rule,
    Registry.draft4.compile location document = .ok rule → rule.Irredundant := by
  induction document using Value.document_induction with
  | other v hv =>
    intro location rule h
    cases v with
    | bool accept =>
      cases h
      exact .constant accept
    | object members => exact absurd rfl (hv members)
    | _ => cases h
  | object members ih =>
    intro location rule h
    obtain ⟨hnames, hvalues⟩ := Value.uniqueNames_object.mp hu
    obtain ⟨rules, hrules, rfl⟩ := Registry.compile_object_ok.mp h
    rw [Registry.compileKeywords_eq, mapM_eq_ok] at hrules
    -- The rules stand in the order of the members that are used, and go by their names.
    have hkeywords : ((Registry.draft4.uses members).map fun use => use.2.1).map some =
        rules.map Rule.keyword? := by
      rw [List.map_map, ← List.forall₂_eq_eq_eq, List.forall₂_map_left_iff,
        List.forall₂_map_right_iff]
      refine (forall₂_mem hrules).imp fun use rule h => ?_
      obtain ⟨⟨huse, -⟩, h⟩ := h
      obtain ⟨b, hname, hkeyword⟩ := Registry.get?_draft4.mp (Registry.mem_uses.mp huse).2
      rw [← hkeyword] at h
      rw [(Builtin.makes_of_ok h).keyword?, hname]
      rfl
    refine .all (hnames.sublist (Registry.uses_names members)) hkeywords.symm fun rule hrule => ?_
    obtain ⟨use, huse, h⟩ := exists_of_forall₂ hrules hrule
    obtain ⟨hm, hk⟩ := Registry.mem_uses.mp huse
    obtain ⟨b, -, hkeyword⟩ := Registry.get?_draft4.mp hk
    rw [← hkeyword] at h
    exact apply_irredundant (hvalues use.2 hm) (ih use.2 hm) h

/-- A report never repeats itself. No two of its failures have the same keyword, path and message,
and two have the same keyword and path only if this is `required` and they name two different
members, both of which the object at the path lacks. -/
theorem report_distinct {document : Value} (hu : document.UniqueNames) {location : Location}
    {rule : Rule} (h : Registry.draft4.compile location document = .ok rule) (x : Value) :
    ((rule.report x).failures.map fun f => (f.keyword, Pointer.text f.path, f.message)).Nodup ∧
      (rule.report x).failures.Pairwise fun f g =>
        f.keyword = g.keyword → Pointer.text f.path = Pointer.text g.path →
          Rule.LackTwo [] x f g := by
  have happart := Rule.failures_apart (compile_irredundant document hu location rule h) [] x
  have htext : (rule.failures [] x).Pairwise fun f g => f.keyword = g.keyword →
      Pointer.text f.path = Pointer.text g.path → Rule.LackTwo [] x f g :=
    happart.imp fun h hkeyword hpath => h hkeyword (Pointer.text_injective hpath)
  rw [Rule.report_eq]
  refine ⟨?_, htext⟩
  rw [List.Nodup, List.pairwise_map]
  refine htext.imp fun {f g} h he => ?_
  obtain ⟨hkeyword, hrest⟩ := Prod.mk.inj he
  obtain ⟨hpath, hmessage⟩ := Prod.mk.inj hrest
  obtain ⟨-, -, -, name, other, -, -, -, -, hne, hname, hother⟩ := h hkeyword hpath
  rw [hname, hother] at hmessage
  exact hne (Check.missing_injective hmessage)

/-- One object lacks two members, and another one lacks the first of them too. The names of the
objects differ only when they are written as segments of a pointer. -/
theorem report_distinct_required :
    let lists : Value := .array [.string "a", .string "b"]
    let document : Value := .object [("properties", .object
      [("~1", .object [("required", lists)]),
        ("/", .object [("required", .array [.string "a"]), ("type", .string "array")])])]
    let rule : Rule := .all [.properties
      [("~1", .all [.check (.required ["a", "b"])]),
        ("/", .all [.check (.required ["a"]), .check (.type [.array])])]]
    let x : Value := .object [("/", .object []), ("~1", .object [])]
    Registry.draft4.compile .root document = .ok rule ∧
      (rule.report x).failures.map (fun f => (f.keyword, Pointer.text f.path)) =
        [("required", "/~01"), ("required", "/~01"), ("required", "/~1"), ("type", "/~1")] ∧
      ((rule.report x).failures.map fun f =>
        (f.keyword, Pointer.text f.path, f.message)).Nodup := by
  intro lists document rule x
  have hu : document.UniqueNames := by
    simp [document, lists, Value.UniqueNames, Value.UniqueNamesIn, Value.UniqueNamesAll]
  have hrule : Registry.draft4.compile .root document = .ok rule := rfl
  exact ⟨hrule, by decide +kernel, (report_distinct hu hrule x).1⟩

end Draft4
end JsonSchema
