import JsonSchema.Proofs.Schema.Compiled

namespace JsonSchema.Draft4

def isSet (siblings : Members) (name : String) : Bool :=
  match siblings.lookup name with
  | some (.bool on) => on
  | _ => false

def entryType? : Value → Option TypeTag
  | .string name => TypeTag.parse? name
  | _ => none

def entryName? : Value → Option String
  | .string name => some name
  | _ => none

def alone (b : Builtin) (value : Value) : Rule :=
  match b.keyword ⟨[], .root⟩ value (Registry.empty.nested value) with
  | .ok rule => rule
  | .error _ => .acceptAll

mutual

def reading (document : Value) : Rule :=
  match document with
  | .bool accept => .constant accept
  | .object members => .all (members.filterMap fun m =>
      (Builtin.named? m.1).map fun b => readingAt b members m.2)
  | _ => .acceptAll
termination_by (sizeOf document, 0)
decreasing_by exact Prod.Lex.left _ _ (Value.smaller_in_object ‹_›)

def readingAt (b : Builtin) (siblings : Members) (value : Value) : Rule :=
  match b, value with
  | .type, .array entries => .check (.type (entries.filterMap entryType?))
  | .enum, .array values => .check (.enum values)
  | .properties, .object documents => .properties (documents.map fun m => (m.1, reading m.2))
  | .required, .array entries => .check (.required (entries.filterMap entryName?))
  | .minimum, .number n => .check (.bound .minimum n (isSet siblings "exclusiveMinimum"))
  | .maximum, .number n => .check (.bound .maximum n (isSet siblings "exclusiveMaximum"))
  | .items, .array documents => .positional (documents.map reading)
  | .items, document => .each (reading document)
  | b, value => alone b value
termination_by (sizeOf value, 1)
decreasing_by
  · exact Prod.Lex.left _ _ (Value.smaller_in_object ‹_›)
  · exact Prod.Lex.left _ _ (Value.smaller_in_array ‹_›)
  · exact Prod.Lex.right _ (by decide)

end

def rulesOf (siblings members : Members) : List Rule :=
  members.filterMap fun m => (Builtin.named? m.1).map fun b => readingAt b siblings m.2

theorem reading_object (members : Members) :
    reading (.object members) = .all (rulesOf members members) := by
  rw [reading, rulesOf]

theorem rulesOf_named (siblings before after : Members) (b : Builtin) (v : Value) :
    rulesOf siblings (before ++ (b.name, v) :: after) =
      rulesOf siblings before ++ readingAt b siblings v :: rulesOf siblings after := by
  have hb : Builtin.named? b.name = some b := Builtin.named?_eq_some.mpr rfl
  simp only [rulesOf, List.filterMap_append, List.filterMap_cons, hb, Option.map_some]

section Compiled
variable {site : Site} {value : Value} {rule : Rule}

theorem entryType?_toValue (tag : TypeTag) : entryType? tag.toValue = some tag :=
  TypeTag.parse?_eq_some.mpr rfl

theorem isSet_of_flag {name : String} {on : Bool} (h : site.flag name = .ok on) :
    isSet site.members name = on := by
  have h := Site.flag_ok.mp h
  unfold isSet
  cases hv : site.members.lookup name with
  | none => simpa [hv] using h
  | some v =>
    rw [hv, Option.getD_some] at h
    simp [h]

theorem map_eq_of_forall₂ {r : α → β → Prop} {as : List α} {bs : List β}
    (h : List.Forall₂ r as bs) {f : α → β} (hf : ∀ a ∈ as, ∀ b, r a b → f a = b) :
    as.map f = bs := by
  induction h with
  | nil => rfl
  | cons hab _ ih =>
    rw [List.map_cons, hf _ List.mem_cons_self _ hab,
      ih fun a ha => hf a (List.mem_cons_of_mem _ ha)]

theorem alone_eq {b : Builtin}
    (h : b.keyword ⟨[], .root⟩ value (Registry.empty.nested value) = .ok rule) :
    alone b value = rule := by
  rw [alone, h]

section Alone
variable (nested : Nested)

theorem type_reading (h : Keyword.type site value nested = .ok rule) :
    readingAt .type site.members value = rule := by
  obtain ⟨tags, rfl, hvalue⟩ := Keyword.type_ok.mp h
  rcases hvalue with ⟨tag, rfl, rfl⟩ | ⟨-, -, rfl⟩
  · have halone : alone .type tag.toValue = .check (.type [tag]) := by cases tag <;> rfl
    rw [TypeTag.toValue] at halone ⊢
    rw [readingAt]
    · exact halone
    all_goals simp
  · have htags : (tags.map TypeTag.toValue).filterMap entryType? = tags := by
      simp [List.filterMap_map, entryType?_toValue]
    rw [readingAt, htags]

theorem enum_reading (h : Keyword.enum site value nested = .ok rule) :
    readingAt .enum site.members value = rule := by
  obtain ⟨values, -, rfl, rfl⟩ := Keyword.enum_ok.mp h
  rw [readingAt]

theorem required_reading (h : Keyword.required site value nested = .ok rule) :
    readingAt .required site.members value = rule := by
  obtain ⟨names, -, rfl, rfl⟩ := Keyword.required_ok.mp h
  have hnames : (names.map Value.string).filterMap entryName? = names := by
    simp [List.filterMap_map, Function.comp_def, entryName?]
  rw [readingAt, hnames]

theorem multipleOf_reading (h : Keyword.multipleOf site value nested = .ok rule) :
    readingAt .multipleOf site.members value = rule := by
  obtain ⟨n, hn, rfl, rfl⟩ := Keyword.multipleOf_ok.mp h
  rw [readingAt]
  · exact alone_eq (if_pos hn)
  all_goals simp

theorem pattern_reading (h : Keyword.pattern site value nested = .ok rule) :
    readingAt .pattern site.members value = rule := by
  obtain ⟨source, p, rfl, hp, rfl⟩ := Keyword.pattern_ok.mp h
  rw [readingAt]
  · exact alone_eq (by simp [Builtin.keyword, Keyword.pattern, hp])
  all_goals simp

theorem bound_reading {side : Side} {keyword modifier : String}
    (h : Keyword.bound side keyword modifier site value nested = .ok rule) :
    ∃ n, value = .number n ∧ rule = .check (.bound side n (isSet site.members modifier)) := by
  obtain ⟨n, on, rfl, rfl, hflag⟩ := Keyword.bound_ok.mp h
  exact ⟨n, rfl, by rw [isSet_of_flag hflag]⟩

end Alone

section Nested
variable {r : Registry}
  (hin : ∀ d ∈ value.readings, ∀ location rule, r.compile location d = .ok rule → reading d = rule)
include hin

theorem properties_reading (h : r.apply Keyword.properties site value = .ok rule) :
    readingAt .properties site.members value = rule := by
  obtain ⟨documents, rules, rfl, rfl, hrules⟩ := Keyword.properties_ok.mp h
  change r.compileMembers _ documents = .ok rules at hrules
  rw [Registry.compileMembers_eq, mapM_eq_ok] at hrules
  have hread : documents.map (fun m => (m.1, reading m.2)) = rules := by
    refine map_eq_of_forall₂ hrules fun m hm named hnamed => ?_
    obtain ⟨rule, hrule, rfl⟩ := map_eq_ok.mp hnamed
    rw [hin m.2 (Value.member_mem_readings hm) _ _ hrule]
  rw [readingAt, hread]

theorem items_reading (h : r.apply Keyword.items site value = .ok rule) :
    readingAt .items site.members value = rule := by
  rcases Keyword.items_ok.mp h with ⟨documents, rules, rfl, rfl, hrules⟩ | ⟨hno, inner, rfl, hself⟩
  · have hread : documents.map reading = rules := by
      refine map_eq_of_forall₂ (Registry.compileElements_forall₂ hrules) fun d hd rule hrule => ?_
      obtain ⟨location, hrule⟩ := hrule
      exact hin d (Value.element_mem_readings hd) location rule hrule
    rw [readingAt, hread]
  · have hread := hin value value.self_mem_readings _ _ hself
    rw [readingAt, hread]
    exact hno

end Nested

/-- What a keyword makes of its value is what is read in it, if this is so for the schemas inside.
-/
theorem readingAt_of_apply (b : Builtin)
    (hin : ∀ d ∈ value.readings, ∀ location rule,
      Registry.draft4.compile location d = .ok rule → reading d = rule)
    (h : Registry.draft4.apply b.keyword site value = .ok rule) :
    readingAt b site.members value = rule := by
  cases b with
  | type => exact type_reading (Registry.draft4.nested value) h
  | enum => exact enum_reading (Registry.draft4.nested value) h
  | properties => exact properties_reading hin h
  | required => exact required_reading (Registry.draft4.nested value) h
  | multipleOf => exact multipleOf_reading (Registry.draft4.nested value) h
  | minimum | maximum =>
    obtain ⟨n, rfl, rfl⟩ := bound_reading (Registry.draft4.nested value) h
    rw [readingAt]
  | minLength | maxLength | minItems | maxItems =>
    rw [readingAt]
    · exact alone_eq (Keyword.counted_ok.mpr (Keyword.counted_ok.mp h))
    all_goals simp
  | pattern => exact pattern_reading (Registry.draft4.nested value) h
  | items => exact items_reading hin h

theorem rulesOf_of_compile {members : Members} {rules : List Rule}
    (hin : ∀ m ∈ members, ∀ d ∈ m.2.readings, ∀ location rule,
      Registry.draft4.compile location d = .ok rule → reading d = rule)
    (h : Registry.draft4.compileKeywords site members = .ok rules) :
    rulesOf site.members members = rules := by
  induction members generalizing rules with
  | nil =>
    cases h
    rfl
  | cons m rest ih =>
    obtain ⟨name, value⟩ := m
    have hrest : ∀ {rules}, Registry.draft4.compileKeywords site rest = .ok rules →
        rulesOf site.members rest = rules := ih fun m hm => hin m (List.mem_cons_of_mem _ hm)
    rw [Registry.compileKeywords_cons, Registry.get?_named] at h
    cases hb : Builtin.named? name with
    | none =>
      rw [hb] at h
      simpa [rulesOf, hb] using hrest h
    | some b =>
      rw [hb] at h
      simp only [Option.map_some, bind_eq_ok, pure_eq_ok] at h
      obtain ⟨rule, hrule, others, hothers, rfl⟩ := h
      have hvalue := readingAt_of_apply b (hin _ List.mem_cons_self) hrule
      have hothers := hrest hothers
      simp only [rulesOf] at hothers
      simp [rulesOf, hb, hvalue, hothers]

/-- A schema is compiled to what is read in it. -/
theorem reading_of_compile (document : Value) : ∀ location rule,
    Registry.draft4.compile location document = .ok rule → reading document = rule := by
  induction document using Value.document_induction with
  | other v hv =>
    intro location rule h
    cases v with
    | bool accept =>
      cases h
      rw [reading]
    | object members => exact absurd rfl (hv members)
    | _ => cases h
  | object members ih =>
    intro location rule h
    obtain ⟨rules, hrules, rfl⟩ := Registry.compile_object_ok.mp h
    rw [reading_object, rulesOf_of_compile ih hrules]

end Compiled

end JsonSchema.Draft4
