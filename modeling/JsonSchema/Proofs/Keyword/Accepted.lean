import JsonSchema.Keyword
import JsonSchema.Proofs.Outcome

namespace JsonSchema

namespace TypeTag

theorem parse?_eq_some {name : String} {tag : TypeTag} :
    parse? name = some tag ↔ tag.text = name := by
  constructor
  · intro h
    simpa using List.find?_some h
  · intro he
    subst he
    cases tag <;> decide

theorem text_injective : Function.Injective text := by
  intro s t h
  cases s <;> cases t <;> first | rfl | simp [text] at h

def toValue (tag : TypeTag) : Value := .string tag.text

end TypeTag

namespace Site
variable {site : Site}

theorem flag_ok {keyword : String} {b : Bool} :
    site.flag keyword = .ok b ↔
      (site.members.lookup keyword).getD (.bool false) = .bool b := by
  unfold flag
  split
  · rename_i h
    simp [h]
  · rename_i c h
    simp [h]
  · rename_i other hother h
    rw [h]
    simpa using hother b

theorem count_ok {keyword : String} {value : Value} {c : UInt64} :
    site.count keyword value = .ok c ↔ ∃ n, value = .number n ∧ n.toCount? = some c := by
  cases value with
  | number n =>
    cases h : n.toCount? with
    | none => simp [count, h]
    | some d => simp [count, h]
  | _ => simp [count]

end Site

namespace Keyword
variable {site : Site} {value : Value} {nested : Nested} {rule : Rule}

theorem typeTag_ok {tag : TypeTag} : typeTag site value = .ok tag ↔ value = tag.toValue := by
  cases value with
  | string name =>
    simp only [typeTag, TypeTag.toValue, Value.string.injEq]
    cases h : TypeTag.parse? name with
    | none =>
      simp only [reduceCtorEq, false_iff]
      intro he
      subst he
      simp [TypeTag.parse?_eq_some.mpr rfl] at h
    | some found =>
      have hname := TypeTag.parse?_eq_some.mp h
      rw [← hname, TypeTag.text_injective.eq_iff]
      simp
  | _ => simp [typeTag, TypeTag.toValue]

def Fresh (seen items : List α) : Prop := items.Nodup ∧ ∀ a ∈ items, a ∉ seen

theorem fresh_nil {items : List α} : Fresh [] items ↔ items.Nodup := by simp [Fresh]

theorem fresh_cons {seen items : List α} {a : α} :
    Fresh seen (a :: items) ↔ a ∉ seen ∧ Fresh (seen ++ [a]) items := by
  constructor
  · intro h
    obtain ⟨hnodup, hnew⟩ := h
    obtain ⟨hnot, hnodup⟩ := List.nodup_cons.mp hnodup
    refine ⟨hnew a (by simp), hnodup, ?_⟩
    intro b hb hs
    rcases List.mem_append.mp hs with hs | hs
    · exact hnew b (by simp [hb]) hs
    · rw [List.mem_singleton.mp hs] at hb
      exact hnot hb
  · intro h
    obtain ⟨ha, hnodup, hnew⟩ := h
    refine ⟨List.nodup_cons.mpr ⟨?_, hnodup⟩, ?_⟩
    · intro hm
      exact hnew a hm (by simp)
    · intro b hb hs
      rcases List.mem_cons.mp hb with rfl | hb
      · exact ha hs
      · exact hnew b hb (by simp [hs])

/-- Types are read one by one, and none of them is listed twice. -/
theorem typeTags_ok {seen : List TypeTag} {values : List Value} {tags : List TypeTag} :
    typeTags site seen values = .ok tags ↔
      values = tags.map TypeTag.toValue ∧ Fresh seen tags := by
  induction values generalizing seen tags with
  | nil => cases tags <;> simp [typeTags, Fresh]
  | cons value rest ih =>
    simp only [typeTags, bind_eq_ok, typeTag_ok]
    constructor
    · intro h
      obtain ⟨tag, rfl, h⟩ := h
      split at h
      · cases h
      · rename_i hseen
        simp only [bind_eq_ok, pure_eq_ok, ih] at h
        obtain ⟨tags, ⟨rfl, hfresh⟩, rfl⟩ := h
        exact ⟨rfl, fresh_cons.mpr ⟨by simpa using hseen, hfresh⟩⟩
    · intro h
      obtain ⟨he, hfresh⟩ := h
      cases tags with
      | nil => simp at he
      | cons tag tags =>
        simp only [List.map_cons, List.cons.injEq] at he
        obtain ⟨hseen, hfresh⟩ := fresh_cons.mp hfresh
        refine ⟨tag, he.1, ?_⟩
        rw [if_neg (by simpa using hseen)]
        simp only [bind_eq_ok, pure_eq_ok, ih]
        exact ⟨tags, ⟨he.2, hfresh⟩, rfl⟩

/-- Names are read one by one, and none of them is listed twice. -/
theorem requiredNames_ok {seen : List String} {values : List Value} {names : List String} :
    requiredNames site seen values = .ok names ↔
      values = names.map Value.string ∧ Fresh seen names := by
  induction values generalizing seen names with
  | nil => cases names <;> simp [requiredNames, Fresh]
  | cons value rest ih =>
    cases value with
    | string name =>
      simp only [requiredNames]
      constructor
      · intro h
        split at h
        · cases h
        · rename_i hseen
          simp only [bind_eq_ok, pure_eq_ok, ih] at h
          obtain ⟨names, ⟨rfl, hfresh⟩, rfl⟩ := h
          exact ⟨rfl, fresh_cons.mpr ⟨by simpa using hseen, hfresh⟩⟩
      · intro h
        obtain ⟨he, hfresh⟩ := h
        cases names with
        | nil => simp at he
        | cons first names =>
          simp only [List.map_cons, List.cons.injEq, Value.string.injEq] at he
          obtain ⟨rfl, hrest⟩ := he
          obtain ⟨hseen, hfresh⟩ := fresh_cons.mp hfresh
          rw [if_neg (by simpa using hseen)]
          simp only [bind_eq_ok, pure_eq_ok, ih]
          exact ⟨names, ⟨hrest, hfresh⟩, rfl⟩
    | _ => cases names <;> simp [requiredNames]

theorem type_ok : type site value nested = .ok rule ↔
    ∃ tags, rule = .check (.type tags) ∧
      ((∃ tag, tags = [tag] ∧ value = tag.toValue) ∨
        tags ≠ [] ∧ tags.Nodup ∧ value = .array (tags.map TypeTag.toValue)) := by
  constructor
  · intro h
    unfold type at h
    split at h
    · simp only [bind_eq_ok, pure_eq_ok, typeTag_ok] at h
      obtain ⟨tag, hv, rfl⟩ := h
      exact ⟨[tag], rfl, .inl ⟨tag, rfl, hv⟩⟩
    · cases h
    · rename_i elements hne
      simp only [bind_eq_ok, pure_eq_ok, typeTags_ok, fresh_nil] at h
      obtain ⟨tags, ⟨rfl, hnodup⟩, rfl⟩ := h
      refine ⟨tags, rfl, .inr ⟨?_, hnodup, rfl⟩⟩
      intro he
      subst he
      exact hne rfl
    · cases h
  · intro h
    obtain ⟨tags, rfl, ⟨tag, rfl, rfl⟩ | ⟨hne, hnodup, rfl⟩⟩ := h
    · have htag : typeTag site tag.toValue = .ok tag := typeTag_ok.mpr rfl
      simp only [type, TypeTag.toValue] at htag ⊢
      rw [htag]
      rfl
    · have htags : typeTags site [] (tags.map TypeTag.toValue) = .ok tags :=
        typeTags_ok.mpr ⟨rfl, fresh_nil.mpr hnodup⟩
      cases tags with
      | nil => exact absurd rfl hne
      | cons tag tags =>
        rw [List.map_cons] at htags ⊢
        simp only [type, htags]
        rfl

theorem enum_ok : enum site value nested = .ok rule ↔
    ∃ values, values ≠ [] ∧ value = .array values ∧ rule = .check (.enum values) := by
  cases value with
  | array values =>
    cases values with
    | nil => simp [enum]
    | cons v rest => simp [enum, eq_comm]
  | _ => simp [enum]

theorem properties_ok : properties site value nested = .ok rule ↔
    ∃ documents rules, value = .object documents ∧ rule = .properties rules ∧
      nested.members (site.location.below ["properties"]) = .ok rules := by
  cases value with
  | object documents =>
    simp only [properties, bind_eq_ok, pure_eq_ok]
    constructor
    · intro h
      obtain ⟨rules, h, rfl⟩ := h
      exact ⟨documents, rules, rfl, rfl, h⟩
    · intro h
      obtain ⟨_, rules, _, rfl, h⟩ := h
      exact ⟨rules, h, rfl⟩
  | _ => simp [properties]

theorem required_ok : required site value nested = .ok rule ↔
    ∃ names, names.Nodup ∧ value = .array (names.map Value.string) ∧
      rule = .check (.required names) := by
  cases value with
  | array entries =>
    simp only [required, bind_eq_ok, pure_eq_ok, requiredNames_ok, fresh_nil, Value.array.injEq]
    constructor
    · intro h
      obtain ⟨names, ⟨he, hnodup⟩, rfl⟩ := h
      exact ⟨names, hnodup, he, rfl⟩
    · intro h
      obtain ⟨names, hnodup, he, rfl⟩ := h
      exact ⟨names, ⟨he, hnodup⟩, rfl⟩
  | _ => simp [required]

theorem multipleOf_ok : multipleOf site value nested = .ok rule ↔
    ∃ n : Number, n.isPositive = true ∧ value = .number n ∧ rule = .check (.multipleOf n) := by
  cases value with
  | number n =>
    by_cases h : n.isPositive = true
    · simp [multipleOf, h, @eq_comm _ rule]
    · simp [multipleOf, h]
  | _ => simp [multipleOf]

theorem bound_ok {side : Side} {keyword modifier : String} :
    bound side keyword modifier site value nested = .ok rule ↔
      ∃ n exclusive, value = .number n ∧ rule = .check (.bound side n exclusive) ∧
        site.flag modifier = .ok exclusive := by
  cases value with
  | number n =>
    simp only [bound, bind_eq_ok, pure_eq_ok]
    constructor
    · intro h
      obtain ⟨exclusive, h, rfl⟩ := h
      exact ⟨n, exclusive, rfl, rfl, h⟩
    · intro h
      obtain ⟨_, exclusive, ⟨rfl⟩, rfl, h⟩ := h
      exact ⟨exclusive, h, rfl⟩
  | _ => simp [bound]

theorem counted_ok {keyword : String} {make : UInt64 → Rule} :
    (do pure (make (← site.count keyword value))) = .ok rule ↔
      ∃ n count, value = .number n ∧ n.toCount? = some count ∧ rule = make count := by
  simp only [bind_eq_ok, pure_eq_ok, Site.count_ok]
  constructor
  · intro h
    obtain ⟨count, ⟨n, hv, hc⟩, rfl⟩ := h
    exact ⟨n, count, hv, hc, rfl⟩
  · intro h
    obtain ⟨n, count, hv, hc, rfl⟩ := h
    exact ⟨count, ⟨n, hv, hc⟩, rfl⟩

theorem length_ok {limit : Limit} {keyword : String} :
    length limit keyword site value nested = .ok rule ↔
      ∃ n count, value = .number n ∧ n.toCount? = some count ∧
        rule = .check (.length limit count) :=
  counted_ok

theorem itemCount_ok {limit : Limit} {keyword : String} :
    itemCount limit keyword site value nested = .ok rule ↔
      ∃ n count, value = .number n ∧ n.toCount? = some count ∧
        rule = .check (.itemCount limit count) :=
  counted_ok

theorem pattern_ok : pattern site value nested = .ok rule ↔
    ∃ source p, value = .string source ∧ Pattern.parse? source = some p ∧
      rule = .check (.pattern p) := by
  cases value with
  | string source => cases h : Pattern.parse? source <;> simp [pattern, h, eq_comm]
  | _ => simp [pattern]

/-- A list holds a schema for each position, and any other value is one for all elements. -/
theorem items_ok : items site value nested = .ok rule ↔
    (∃ documents rules, value = .array documents ∧ rule = .positional rules ∧
        nested.elements (site.location.below ["items"]) = .ok rules) ∨
      (∀ documents, value ≠ .array documents) ∧ ∃ inner, rule = .each inner ∧
        nested.self (site.location.below ["items"]) = .ok inner := by
  cases value with
  | array documents =>
    simp only [items, bind_eq_ok, pure_eq_ok]
    constructor
    · intro h
      obtain ⟨rules, h, rfl⟩ := h
      exact .inl ⟨documents, rules, rfl, rfl, h⟩
    · intro h
      rcases h with ⟨_, rules, _, rfl, h⟩ | ⟨hno, _⟩
      · exact ⟨rules, h, rfl⟩
      · exact absurd rfl (hno documents)
  | _ =>
    simp only [items, bind_eq_ok, pure_eq_ok, reduceCtorEq, false_and, exists_false, false_or,
      ne_eq, not_false_eq_true, implies_true, true_and]
    exact exists_congr fun inner => ⟨fun ⟨h, he⟩ => ⟨he.symm, h⟩, fun ⟨he, h⟩ => ⟨h, he.symm⟩⟩

end Keyword

structure Nested.FailsAs (form : SchemaError → Prop) (nested : Nested) : Prop where
  self (location : Location) : JsonSchema.FailsAs form (nested.self location)
  elements (location : Location) : JsonSchema.FailsAs form (nested.elements location)
  members (location : Location) : JsonSchema.FailsAs form (nested.members location)

section Refused
variable {form : SchemaError → Prop} {site : Site}

theorem Site.flag_failsAs {keyword : String}
    (h : ∀ v, site.members.lookup keyword = some v → (∀ b, v ≠ .bool b) →
      ∀ problem, form (site.invalid keyword problem)) : FailsAs form (site.flag keyword) := by
  unfold flag
  split
  · exact .ok _
  · exact .ok _
  · rename_i v hno hv
    exact .error (h v hv hno _)

theorem Site.count_failsAs {keyword : String}
    (h : ∀ problem, form (site.invalid keyword problem)) (value : Value) :
    FailsAs form (site.count keyword value) := by
  unfold count
  split
  · split
    · exact .ok _
    · exact .error (h _)
  · exact .error (h _)

namespace Keyword

theorem typeTag_failsAs (h : ∀ problem, form (site.invalid "type" problem)) (value : Value) :
    FailsAs form (typeTag site value) := by
  unfold typeTag
  split
  · split
    · exact .ok _
    · exact .error (h _)
  · exact .error (h _)

theorem typeTags_failsAs (h : ∀ problem, form (site.invalid "type" problem))
    (seen : List TypeTag) (values : List Value) : FailsAs form (typeTags site seen values) := by
  induction values generalizing seen with
  | nil => exact .ok []
  | cons value rest ih =>
    rw [typeTags]
    refine (typeTag_failsAs h value).bind fun tag => ?_
    split
    · exact .error (h _)
    · exact (ih _).bind fun tags => .ok _

theorem requiredNames_failsAs (h : ∀ problem, form (site.invalid "required" problem))
    (seen : List String) (values : List Value) :
    FailsAs form (requiredNames site seen values) := by
  induction values generalizing seen with
  | nil => exact .ok []
  | cons value rest ih =>
    cases value with
    | string name =>
      rw [requiredNames]
      split
      · exact .error (h _)
      · exact (ih _).bind fun names => .ok _
    | _ => exact .error (h _)

end Keyword
end Refused

namespace Builtin

def modifier? : Builtin → Option String
  | .minimum => some "exclusiveMinimum"
  | .maximum => some "exclusiveMaximum"
  | _ => none

/-- Nothing but the value can be at fault: it nests no schemas and no sibling is looked at. -/
def StandsAlone (b : Builtin) (value : Value) : Prop :=
  match b, value with
  | .properties, .object _ => False
  | .items, _ => False
  | .minimum, .number _ => False
  | .maximum, .number _ => False
  | _, _ => True

/-- The errors with which a keyword refuses a value: for the value itself, for a sibling that is
not a boolean, or for a schema nested in the value. -/
inductive Refusal (site : Site) (value : Value) (nested : Nested) : Builtin → SchemaError → Prop
  | own {b : Builtin} (h : b.StandsAlone value) (problem : Problem) :
    Refusal site value nested b (site.invalid b.name problem)
  | modifier {b : Builtin} {name : String} {n : Number} {v : Value} (hb : b.modifier? = some name)
    (hn : value = .number n) (hv : site.members.lookup name = some v) (hno : ∀ flag, v ≠ .bool flag)
    (problem : Problem) : Refusal site value nested b (site.invalid name problem)
  | members {documents : Members} {e : SchemaError} (hv : value = .object documents)
    (h : nested.members (site.location.below ["properties"]) = .error e) :
    Refusal site value nested .properties e
  | elements {documents : List Value} {e : SchemaError} (hv : value = .array documents)
    (h : nested.elements (site.location.below ["items"]) = .error e) :
    Refusal site value nested .items e
  | self {e : SchemaError} (hv : ∀ documents, value ≠ .array documents)
    (h : nested.self (site.location.below ["items"]) = .error e) :
    Refusal site value nested .items e

theorem bound_refusal {b : Builtin} {site : Site} {value : Value} {nested : Nested} {side : Side}
    {modifier : String} (hb : b.modifier? = some modifier)
    (hown : (∀ n, value ≠ .number n) → b.StandsAlone value) :
    FailsAs (Refusal site value nested b)
      (Keyword.bound side b.name modifier site value nested) := by
  unfold Keyword.bound
  split
  · exact (Site.flag_failsAs fun v hv hno => .modifier hb rfl hv hno).bind fun _ => .ok _
  · rename_i hno
    exact .error (.own (hown hno) _)

/-- A built-in keyword refuses a value in one of these ways only. -/
theorem refusal (b : Builtin) (site : Site) (value : Value) (nested : Nested) :
    FailsAs (Refusal site value nested b) (b.keyword site value nested) := by
  have hown (h : b.StandsAlone value) (problem : Problem) :
      Refusal site value nested b (site.invalid b.name problem) := .own h problem
  cases b with
  | type =>
    simp only [keyword, Keyword.type]
    split
    · exact (Keyword.typeTag_failsAs (hown trivial) _).bind fun _ => .ok _
    · exact .error (hown trivial _)
    · exact (Keyword.typeTags_failsAs (hown trivial) _ _).bind fun _ => .ok _
    · exact .error (hown trivial _)
  | enum =>
    simp only [keyword, Keyword.enum]
    split
    · exact .error (hown trivial _)
    · exact .ok _
    · exact .error (hown trivial _)
  | properties =>
    simp only [keyword, Keyword.properties]
    split
    · exact FailsAs.bind (fun e h => .members rfl h) fun _ => .ok _
    · rename_i hno
      exact .error (hown (by cases value <;> simp_all [StandsAlone]) _)
  | required =>
    simp only [keyword, Keyword.required]
    split
    · exact (Keyword.requiredNames_failsAs (hown trivial) _ _).bind fun _ => .ok _
    · exact .error (hown trivial _)
  | multipleOf =>
    simp only [keyword, Keyword.multipleOf]
    split
    · split
      · exact .ok _
      · exact .error (hown trivial _)
    · exact .error (hown trivial _)
  | minimum | maximum =>
    exact bound_refusal rfl fun hno => by cases value <;> simp_all [StandsAlone]
  | minLength | maxLength | minItems | maxItems =>
    exact (Site.count_failsAs (hown trivial) _).bind fun _ => .ok _
  | pattern =>
    simp only [keyword, Keyword.pattern]
    split
    · split
      · exact .ok _
      · exact .error (hown trivial _)
    · exact .error (hown trivial _)
  | items =>
    simp only [keyword, Keyword.items]
    split
    · exact FailsAs.bind (fun e h => .elements rfl h) fun _ => .ok _
    · rename_i hno
      exact FailsAs.bind (fun e h => .self hno h) fun _ => .ok _

end Builtin
end JsonSchema
