import JsonSchema.Proofs.Schema.Compiled

namespace JsonSchema

def Location.within (inner outer : Location) : Location :=
  outer.below inner.segments

theorem Location.root_within (outer : Location) : Location.root.within outer = outer := by
  simp [within, below, root]

theorem Location.below_within (inner outer : Location) (segments : List String) :
    (inner.within outer).below segments = (inner.below segments).within outer := by
  simp [within, below]

def SchemaError.within (outer : Location) : SchemaError → SchemaError
  | .invalid location keyword problem => .invalid (location.within outer) keyword problem
  | .kindMismatch expected found => .kindMismatch expected found

def Site.within (site : Site) (outer : Location) : Site :=
  { site with location := site.location.within outer }

/-- What a step gives further inside is what it gives on its own, with its errors moved along. -/
def Uniform {α : Type} (outer : Location) (step : Location → Except SchemaError α) : Prop :=
  ∀ inner, step (inner.within outer) = (step inner).mapError (·.within outer)

structure Nested.Uniform (outer : Location) (nested : Nested) : Prop where
  self : JsonSchema.Uniform outer nested.self
  elements : JsonSchema.Uniform outer nested.elements
  members : JsonSchema.Uniform outer nested.members

section Moved
variable (site : Site) (outer : Location)

theorem Site.flag_within (keyword : String) :
    (site.within outer).flag keyword = (site.flag keyword).mapError (·.within outer) := by
  simp only [flag, within]
  split <;> rfl

theorem Site.count_within (keyword : String) (value : Value) :
    (site.within outer).count keyword value =
      (site.count keyword value).mapError (·.within outer) := by
  unfold count
  split
  · split <;> rfl
  · rfl

namespace Keyword

theorem typeTag_within (value : Value) :
    typeTag (site.within outer) value = (typeTag site value).mapError (·.within outer) := by
  unfold typeTag
  split
  · split <;> rfl
  · rfl

theorem typeTags_within (seen : List TypeTag) (values : List Value) :
    typeTags (site.within outer) seen values =
      (typeTags site seen values).mapError (·.within outer) := by
  induction values generalizing seen with
  | nil => rfl
  | cons value rest ih =>
    rw [typeTags, typeTags, mapError_bind, typeTag_within]
    congr 1
    funext tag
    split
    · rfl
    · rw [mapError_bind, ih]
      rfl

theorem requiredNames_within (seen : List String) (values : List Value) :
    requiredNames (site.within outer) seen values =
      (requiredNames site seen values).mapError (·.within outer) := by
  induction values generalizing seen with
  | nil => rfl
  | cons value rest ih =>
    cases value with
    | string name =>
      rw [requiredNames, requiredNames]
      split
      · rfl
      · rw [mapError_bind, ih]
        rfl
    | _ => rfl

theorem bound_within (side : Side) (keyword modifier : String) (value : Value) (nested : Nested) :
    bound side keyword modifier (site.within outer) value nested =
      (bound side keyword modifier site value nested).mapError (·.within outer) := by
  cases value with
  | number n =>
    simp only [bound]
    rw [mapError_bind, Site.flag_within]
    rfl
  | _ => rfl

theorem counted_within (keyword : String) (make : UInt64 → Rule) (value : Value) :
    (do pure (make (← (site.within outer).count keyword value))) =
      (do pure (make (← site.count keyword value)) : Except SchemaError Rule).mapError
        (·.within outer) := by
  rw [mapError_bind, Site.count_within]
  rfl

end Keyword

/-- A built-in keyword makes the same of its value wherever its schema is. -/
theorem Builtin.keyword_within (b : Builtin) (value : Value) {nested : Nested}
    (h : nested.Uniform outer) : b.keyword (site.within outer) value nested =
      (b.keyword site value nested).mapError (·.within outer) := by
  cases b with
  | type =>
    cases value with
    | string name =>
      simp only [keyword, Keyword.type]
      rw [mapError_bind, Keyword.typeTag_within]
      rfl
    | array elements =>
      cases elements with
      | nil => rfl
      | cons v rest =>
        simp only [keyword, Keyword.type]
        rw [mapError_bind, Keyword.typeTags_within]
        rfl
    | _ => rfl
  | enum =>
    cases value with
    | array members => cases members <;> rfl
    | _ => rfl
  | properties =>
    cases value with
    | object documents =>
      simp only [keyword, Keyword.properties]
      rw [mapError_bind, Site.within, Location.below_within, h.members]
      rfl
    | _ => rfl
  | required =>
    cases value with
    | array entries =>
      simp only [keyword, Keyword.required]
      rw [mapError_bind, Keyword.requiredNames_within]
      rfl
    | _ => rfl
  | multipleOf =>
    cases value with
    | number n =>
      simp only [keyword, Keyword.multipleOf]
      split <;> rfl
    | _ => rfl
  | minimum | maximum => exact Keyword.bound_within site outer _ _ _ value nested
  | minLength | maxLength | minItems | maxItems => exact Keyword.counted_within site outer _ _ value
  | pattern =>
    cases value with
    | string source =>
      simp only [keyword, Keyword.pattern]
      split <;> rfl
    | _ => rfl
  | items =>
    cases value with
    | array documents =>
      simp only [keyword, Keyword.items]
      rw [mapError_bind, Site.within, Location.below_within, h.elements]
      rfl
    | _ =>
      simp only [keyword, Keyword.items]
      rw [mapError_bind, Site.within, Location.below_within, h.self]
      rfl

end Moved

namespace Registry
variable {r : Registry} {outer : Location}

theorem nested_uniform {value : Value}
    (h : ∀ d ∈ value.readings, Uniform outer fun location => r.compile location d) :
    (r.nested value).Uniform outer := by
  refine ⟨h value value.self_mem_readings, ?_, ?_⟩
  · intro inner
    cases value with
    | array documents =>
      simp only [nested_elements, compileElements_eq, mapError_mapM]
      refine mapM_congr fun p hp => ?_
      rw [Location.below_within]
      exact h p.1 (Value.element_mem_readings (List.fst_mem_of_mem_zipIdx hp)) _
    | _ => rfl
  · intro inner
    cases value with
    | object documents =>
      simp only [nested_members, compileMembers_eq, mapError_mapM, mapError_map]
      refine mapM_congr fun m hm => ?_
      rw [Location.below_within]
      exact congrArg _ (h m.2 (Value.member_mem_readings hm) _)
    | _ => rfl

/-- A schema is compiled alike wherever it is, if all keywords are built-in ones. -/
theorem compile_within (hr : r.Standard) (outer : Location) (document : Value) :
    Uniform outer fun location => r.compile location document := by
  induction document using Value.document_induction with
  | other v hv =>
    intro inner
    cases v with
    | object members => exact absurd rfl (hv members)
    | _ => rfl
  | object members ih =>
    intro inner
    simp only [compile_object, mapError_map, mapError_mapM]
    refine congrArg _ (mapM_congr fun use huse => ?_)
    obtain ⟨hm, hk⟩ := mem_uses.mp huse
    obtain ⟨b, hb⟩ := hr _ _ hk
    rw [← hb]
    exact b.keyword_within ⟨members, inner⟩ outer use.2.2 (nested_uniform (ih _ hm))

/-- Anywhere a schema gives what it gives on its own, with its errors moved there. -/
theorem compile_moved (hr : r.Standard) (location : Location) (document : Value) :
    r.compile location document = (r.compile .root document).mapError (·.within location) := by
  have huniform := compile_within hr location document .root
  rwa [Location.root_within] at huniform

/-- Wherever a schema is compiled, it is accepted there and gives its rule if it does so on its own.
-/
theorem compile_anywhere (hr : r.Standard) (location : Location) {document : Value} {rule : Rule} :
    r.compile location document = .ok rule ↔ r.compile .root document = .ok rule := by
  rw [compile_moved hr, mapError_eq_ok]

end Registry
end JsonSchema
