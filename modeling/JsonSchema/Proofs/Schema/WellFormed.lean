import JsonSchema.Schema
import JsonSchema.Proofs.Number.Exact
import JsonSchema.Proofs.Schema.Compiled
import Mathlib.Data.List.Nodup
import Mathlib.Data.Set.List

namespace JsonSchema

namespace Draft4

def typeNames : List String :=
  ["null", "boolean", "integer", "number", "string", "array", "object"]

def IsCount (n : Number) : Prop := ∃ k : Nat, n.exact = .rat k

def IsFlag (members : Members) (name : String) : Prop :=
  ∀ v, members.lookup name = some v → ∃ b, v = .bool b

mutual

/-- A document that is a schema: a boolean, or an object that gives every keyword in it a value that
the keyword can have. -/
def WellFormed (document : Value) : Prop :=
  match document with
  | .bool _ => True
  | .object members => ∀ m ∈ members, ∀ b : Builtin, b.name = m.1 → Fits b members m.2
  | _ => False
termination_by (sizeOf document, 0)
decreasing_by exact Prod.Lex.left _ _ (Value.smaller_in_object ‹_›)

def Fits (b : Builtin) (members : Members) (value : Value) : Prop :=
  match b, value with
  | .type, .string name => name ∈ typeNames
  | .type, .array names =>
    names ≠ [] ∧ names.Nodup ∧ ∀ v ∈ names, ∃ name ∈ typeNames, v = .string name
  | .enum, .array values => values ≠ []
  | .properties, .object documents => ∀ m ∈ documents, WellFormed m.2
  | .required, .array names => names.Nodup ∧ ∀ v ∈ names, ∃ name, v = .string name
  | .multipleOf, .number n => .rat 0 < n.exact ∧ n.exact ≠ .nan
  | .minimum, .number _ => IsFlag members "exclusiveMinimum"
  | .maximum, .number _ => IsFlag members "exclusiveMaximum"
  | .minLength, .number n => IsCount n
  | .maxLength, .number n => IsCount n
  | .minItems, .number n => IsCount n
  | .maxItems, .number n => IsCount n
  | .pattern, .string source => (Pattern.parse? source).isSome = true
  | .items, .array documents => ∀ d ∈ documents, WellFormed d
  | .items, document => WellFormed document
  | _, _ => False
termination_by (sizeOf value, 1)
decreasing_by
  · exact Prod.Lex.left _ _ (Value.smaller_in_object ‹_›)
  · exact Prod.Lex.left _ _ (Value.smaller_in_array ‹_›)
  · exact Prod.Lex.right _ (by decide)

end

theorem mem_typeNames {name : String} : name ∈ typeNames ↔ ∃ tag : TypeTag, tag.text = name := by
  constructor
  · intro h
    simp only [typeNames, List.mem_cons, List.not_mem_nil, or_false] at h
    rcases h with rfl | rfl | rfl | rfl | rfl | rfl | rfl
    · exact ⟨.null, rfl⟩
    · exact ⟨.boolean, rfl⟩
    · exact ⟨.integer, rfl⟩
    · exact ⟨.number, rfl⟩
    · exact ⟨.string, rfl⟩
    · exact ⟨.array, rfl⟩
    · exact ⟨.object, rfl⟩
  · intro h
    obtain ⟨tag, rfl⟩ := h
    cases tag <;> decide

/-- A list without repeats whose elements all come from somewhere comes from a list without
repeats. -/
theorem exists_nodup_map {f : α → β} (hf : Function.Injective f) {bs : List β} :
    (∃ as : List α, as.Nodup ∧ bs = as.map f) ↔ bs.Nodup ∧ ∀ b ∈ bs, ∃ a, f a = b := by
  constructor
  · intro h
    obtain ⟨as, hnodup, rfl⟩ := h
    refine ⟨hnodup.map hf, ?_⟩
    intro b hb
    obtain ⟨a, -, rfl⟩ := List.mem_map.mp hb
    exact ⟨a, rfl⟩
  · intro h
    obtain ⟨hnodup, hall⟩ := h
    have hrange : bs ∈ Set.range (List.map f) := by
      rw [Set.range_list_map]
      exact hall
    obtain ⟨as, rfl⟩ := hrange
    exact ⟨as, hnodup.of_map, rfl⟩

section Succeeds
variable {site : Site} {value : Value} (nested : Nested)

theorem type_fits : (∃ rule, Keyword.type site value nested = .ok rule) ↔
    Fits .type site.members value := by
  have hinj : Function.Injective TypeTag.toValue := by
    intro s t h
    exact TypeTag.text_injective (Value.string.inj h)
  have hnamed (v : Value) : (∃ tag : TypeTag, tag.toValue = v) ↔
      ∃ name ∈ typeNames, v = .string name := by
    simp only [mem_typeNames, TypeTag.toValue]
    constructor
    · intro h
      obtain ⟨tag, rfl⟩ := h
      exact ⟨tag.text, ⟨tag, rfl⟩, rfl⟩
    · intro h
      obtain ⟨_, ⟨tag, rfl⟩, rfl⟩ := h
      exact ⟨tag, rfl⟩
  have hvalue : (∃ rule, Keyword.type site value nested = .ok rule) ↔
      (∃ tag : TypeTag, tag.toValue = value) ∨
        ∃ values, values ≠ [] ∧ value = .array values ∧
          ∃ tags : List TypeTag, tags.Nodup ∧ values = tags.map TypeTag.toValue := by
    simp only [Keyword.type_ok]
    constructor
    · intro h
      obtain ⟨_, tags, -, ⟨tag, -, rfl⟩ | ⟨hne, hnodup, rfl⟩⟩ := h
      · exact .inl ⟨tag, rfl⟩
      · exact .inr ⟨_, by simpa using hne, rfl, tags, hnodup, rfl⟩
    · intro h
      rcases h with ⟨tag, rfl⟩ | ⟨_, hne, rfl, tags, hnodup, rfl⟩
      · exact ⟨_, [tag], rfl, .inl ⟨tag, rfl, rfl⟩⟩
      · exact ⟨_, tags, rfl, .inr ⟨by simpa using hne, hnodup, rfl⟩⟩
  rw [hvalue]
  simp only [exists_nodup_map hinj, hnamed]
  cases value <;> simp [Fits]

theorem enum_fits : (∃ rule, Keyword.enum site value nested = .ok rule) ↔
    Fits .enum site.members value := by
  simp only [Keyword.enum_ok]
  cases value <;> simp [Fits]

theorem required_fits : (∃ rule, Keyword.required site value nested = .ok rule) ↔
    Fits .required site.members value := by
  have hinj : Function.Injective Value.string := fun _ _ => Value.string.inj
  have hvalue : (∃ rule, Keyword.required site value nested = .ok rule) ↔
      ∃ values, value = .array values ∧
        ∃ names : List String, names.Nodup ∧ values = names.map Value.string := by
    simp only [Keyword.required_ok]
    constructor
    · intro h
      obtain ⟨_, names, hnodup, rfl, -⟩ := h
      exact ⟨_, rfl, names, hnodup, rfl⟩
    · intro h
      obtain ⟨_, rfl, names, hnodup, rfl⟩ := h
      exact ⟨_, names, hnodup, rfl, rfl⟩
  rw [hvalue]
  simp only [exists_nodup_map hinj]
  cases value <;> simp [Fits, eq_comm]

theorem multipleOf_fits (hc : ∀ n, value = .number n → n.Canonical) :
    (∃ rule, Keyword.multipleOf site value nested = .ok rule) ↔
      Fits .multipleOf site.members value := by
  simp only [Keyword.multipleOf_ok]
  cases value with
  | number n => simp [Fits, Number.isPositive_iff (hc n rfl)]
  | _ => simp [Fits]

theorem flag_succeeds {name : String} :
    (∃ b, site.flag name = .ok b) ↔ IsFlag site.members name := by
  simp only [Site.flag_ok, IsFlag]
  cases site.members.lookup name <;> simp

theorem count_succeeds {n : Number} : (∃ c, n.toCount? = some c) ↔ IsCount n := by
  simp only [Number.toCount?_eq_some, IsCount]
  constructor
  · intro h
    obtain ⟨_, k, hk, -⟩ := h
    exact ⟨k, hk⟩
  · intro h
    obtain ⟨k, hk⟩ := h
    have hsize : min k (UInt64.size - 1) < UInt64.size := by unfold UInt64.size; omega
    exact ⟨_, k, hk, (Number.toUInt64_eq_iff hsize).mp rfl⟩

theorem bound_succeeds {side : Side} {keyword modifier : String} :
    (∃ rule, Keyword.bound side keyword modifier site value nested = .ok rule) ↔
      ∃ n, value = .number n ∧ IsFlag site.members modifier := by
  simp only [Keyword.bound_ok, ← flag_succeeds]
  constructor
  · intro h
    obtain ⟨_, n, exclusive, hv, -, hflag⟩ := h
    exact ⟨n, hv, exclusive, hflag⟩
  · intro h
    obtain ⟨n, hv, exclusive, hflag⟩ := h
    exact ⟨_, n, exclusive, hv, rfl, hflag⟩

theorem counted_succeeds {keyword : String} {make : UInt64 → Rule} :
    (∃ rule, (do pure (make (← site.count keyword value))) = .ok rule) ↔
      ∃ n, value = .number n ∧ IsCount n := by
  simp only [Keyword.counted_ok, ← count_succeeds]
  constructor
  · intro h
    obtain ⟨_, n, count, hv, hc, -⟩ := h
    exact ⟨n, hv, count, hc⟩
  · intro h
    obtain ⟨n, hv, count, hc⟩ := h
    exact ⟨_, n, count, hv, hc, rfl⟩

theorem pattern_fits : (∃ rule, Keyword.pattern site value nested = .ok rule) ↔
    Fits .pattern site.members value := by
  simp only [Keyword.pattern_ok]
  cases value <;> simp [Fits, Option.isSome_iff_exists]

end Succeeds

section Nested
variable {r : Registry} {site : Site} {value : Value}
  (h : ∀ d ∈ value.readings, ∀ location, (∃ rule, r.compile location d = .ok rule) ↔ WellFormed d)
include h

theorem properties_fits : (∃ rule, r.apply Keyword.properties site value = .ok rule) ↔
    Fits .properties site.members value := by
  rw [Registry.properties_succeeds]
  cases value with
  | object documents =>
    simp only [Value.object.injEq, exists_eq_left', Fits]
    exact forall₂_congr fun m hm => h m.2 (Value.member_mem_readings hm) _
  | _ => simp [Fits]

theorem items_fits : (∃ rule, r.apply Keyword.items site value = .ok rule) ↔
    Fits .items site.members value := by
  rw [Registry.items_succeeds]
  cases value with
  | array documents =>
    have hno : ¬ ∀ others, Value.array documents ≠ .array others := fun hno => hno documents rfl
    simp only [Value.array.injEq, exists_eq_left', hno, false_and, or_false, Fits]
    constructor
    · intro hall d hd
      obtain ⟨i, hi⟩ := List.mem_iff_getElem?.mp hd
      have hp := List.mk_mem_zipIdx_iff_getElem?.mpr hi
      exact (h d (Value.element_mem_readings hd) _).mp (hall (d, i) hp)
    · intro hall p hp
      have hd := List.fst_mem_of_mem_zipIdx hp
      exact (h p.1 (Value.element_mem_readings hd) _).mpr (hall p.1 hd)
  | _ =>
    have hself := h _ (Value.self_mem_readings _) (site.location.below ["items"])
    rw [Fits, ← hself]
    · simp
    all_goals simp

end Nested

/-- A keyword makes a rule of the values that fit it. -/
theorem keyword_fits {r : Registry} (b : Builtin) {site : Site} {value : Value}
    (hc : ∀ n, value = .number n → n.Canonical)
    (h : ∀ d ∈ value.readings, ∀ location,
      (∃ rule, r.compile location d = .ok rule) ↔ WellFormed d) :
    (∃ rule, r.apply b.keyword site value = .ok rule) ↔ Fits b site.members value := by
  cases b with
  | type => exact type_fits (r.nested value)
  | enum => exact enum_fits (r.nested value)
  | properties => exact properties_fits h
  | required => exact required_fits (r.nested value)
  | multipleOf => exact multipleOf_fits (r.nested value) hc
  | minimum | maximum =>
    simp only [Registry.apply, Builtin.keyword, bound_succeeds]
    cases value <;> simp [Fits]
  | minLength | maxLength | minItems | maxItems =>
    refine counted_succeeds.trans ?_
    cases value <;> simp [Fits]
  | pattern => exact pattern_fits (r.nested value)
  | items => exact items_fits h

/-- What a keyword makes a rule of fits it, also where numbers are not as the conversions give
them: a divisor that is taken for a positive one is positive. -/
theorem fits_of_apply {r : Registry} (b : Builtin) {site : Site} {value : Value}
    (h : ∀ d ∈ value.readings, ∀ location rule, r.compile location d = .ok rule → WellFormed d)
    (hok : ∃ rule, r.apply b.keyword site value = .ok rule) : Fits b site.members value := by
  cases b with
  | type => exact (type_fits (r.nested value)).mp hok
  | enum => exact (enum_fits (r.nested value)).mp hok
  | properties =>
    obtain ⟨documents, rfl, hall⟩ := Registry.properties_succeeds.mp hok
    rw [Fits]
    intro m hm
    obtain ⟨rule, hrule⟩ := hall m hm
    exact h m.2 (Value.member_mem_readings hm) _ rule hrule
  | required => exact (required_fits (r.nested value)).mp hok
  | multipleOf =>
    refine (multipleOf_fits (r.nested value) ?_).mp hok
    obtain ⟨rule, hrule⟩ := hok
    have hrule : Keyword.multipleOf site value (r.nested value) = .ok rule := hrule
    obtain ⟨n, hn, rfl, -⟩ := Keyword.multipleOf_ok.mp hrule
    intro m hm
    obtain rfl := Value.number.inj hm
    cases n with
    | signed i => cases hn
    | _ => trivial
  | minimum | maximum =>
    obtain ⟨n, rfl, hflag⟩ := (bound_succeeds (r.nested value)).mp hok
    rw [Fits]
    exact hflag
  | minLength | maxLength | minItems | maxItems =>
    obtain ⟨n, rfl, hcount⟩ := counted_succeeds.mp hok
    rw [Fits]
    exact hcount
  | pattern => exact (pattern_fits (r.nested value)).mp hok
  | items =>
    rcases Registry.items_succeeds.mp hok with ⟨documents, rfl, hall⟩ | ⟨hno, rule, hrule⟩
    · rw [Fits]
      intro d hd
      obtain ⟨i, hi⟩ := List.mem_iff_getElem?.mp hd
      obtain ⟨rule, hrule⟩ := hall (d, i) (List.mk_mem_zipIdx_iff_getElem?.mpr hi)
      exact h d (Value.element_mem_readings hd) _ rule hrule
    · rw [Fits]
      · exact h value value.self_mem_readings _ rule hrule
      · exact hno

/-- Whatever its numbers, a document that compiles is well formed. -/
theorem wellFormed_of_compile (document : Value) : ∀ location rule,
    Registry.draft4.compile location document = .ok rule → WellFormed document := by
  induction document using Value.document_induction with
  | other v hv =>
    intro location rule h
    cases v with
    | bool accept => simp [WellFormed]
    | object members => exact absurd rfl (hv members)
    | _ => cases h
  | object members ih =>
    intro location rule h
    have hall := Registry.compile_object_succeeds.mp ⟨rule, h⟩
    rw [WellFormed]
    intro m hm b hb
    exact fits_of_apply b (ih m hm) (hall m hm b hb)

/-- All numbers in a document are as the conversions give them. -/
def CanonicalNumbers (document : Value) : Prop :=
  document.Throughout fun v => ∀ n, v = .number n → n.Canonical

theorem compile_ok_iff {document : Value} (hc : CanonicalNumbers document) :
    ∀ location, (∃ rule, Registry.draft4.compile location document = .ok rule) ↔
      WellFormed document := by
  induction document using Value.document_induction with
  | other v hv =>
    intro location
    cases v with
    | bool accept => simp [Registry.compile, Registry.compileWith, WellFormed]
    | object members => exact absurd rfl (hv members)
    | _ => simp [Registry.compile, Registry.compileWith, WellFormed]
  | object members ih =>
    intro location
    rw [Registry.compile_object_succeeds, WellFormed]
    refine forall₂_congr fun m hm => forall₂_congr fun b _ => ?_
    have hin := Value.Throughout.member hc hm
    exact keyword_fits b hin.self fun d hd => ih m hm d hd (hin.reading hd)

/-- Wrapping accepts the well-formed documents and refuses all others as malformed. -/
theorem wrap_iff_wellFormed {document : Value} (hc : CanonicalNumbers document) :
    ((∃ node, SchemaNode.wrap .draft4 document = .ok node) ↔ WellFormed document) ∧
      (¬ WellFormed document → ∃ location keyword problem,
        SchemaNode.wrap .draft4 document = .error (.invalid location keyword problem)) := by
  have hok : (∃ node, SchemaNode.wrap .draft4 document = .ok node) ↔ WellFormed document := by
    rw [← compile_ok_iff hc .root]
    simp [SchemaNode.wrap, map_eq_ok]
  refine ⟨hok, ?_⟩
  intro hn
  have hform : FailsAs SchemaError.Malformed (SchemaNode.wrap .draft4 document) :=
    (Registry.compile_failsAs_malformed Registry.draft4_standard document .root).bind
      fun rule => .ok _
  obtain ⟨e, he, location, keyword, problem, rfl⟩ := hform.of_not_ok (fun h => hn (hok.mp h))
  exact ⟨location, keyword, problem, he⟩

/-- The divisors 2 and 0 in a schema inside a list of schemas. -/
theorem wrap_iff_wellFormed_divisor :
    let document (n : UInt64) : Value := .object
      [("items", .array [.bool false, .object [("multipleOf", .number (.unsigned n))]])]
    (∃ node, SchemaNode.wrap .draft4 (document 2) = .ok node) ∧
      ∃ location keyword problem,
        SchemaNode.wrap .draft4 (document 0) = .error (.invalid location keyword problem) := by
  intro document
  have hc (n : UInt64) : CanonicalNumbers (document n) := by
    have hb : (Value.bool false).readings = [.bool false] := rfl
    have hu : (Value.number (.unsigned n)).readings = [.number (.unsigned n)] := rfl
    simp [document, CanonicalNumbers, Value.throughout_object, Value.throughout_array,
      Value.throughout_atom hb, Value.throughout_atom hu, Number.Canonical]
  have hw (n : UInt64) : WellFormed (document n) ↔ 0 < n.toNat := by
    have hitems (b : Builtin) : b.name = "items" ↔ b = .items :=
      Builtin.name_injective.eq_iff (b := .items)
    have hmultiple (b : Builtin) : b.name = "multipleOf" ↔ b = .multipleOf :=
      Builtin.name_injective.eq_iff (b := .multipleOf)
    simp [document, WellFormed, Fits, hitems, hmultiple, Number.exact, (Exact.nan_ne_rat _).symm]
  exact ⟨(wrap_iff_wellFormed (hc 2)).1.mpr ((hw 2).mpr (by decide)),
    (wrap_iff_wellFormed (hc 0)).2 fun h => absurd ((hw 0).mp h) (by decide)⟩

end Draft4
end JsonSchema
