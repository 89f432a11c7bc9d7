import JsonSchema.Proofs.Schema.Compiled

namespace JsonSchema

namespace Members
variable {before after : Members} {key name : String}

theorem lookup_insert (h : name ≠ key) (v : Value) :
    (before ++ (key, v) :: after).lookup name = (before ++ after).lookup name := by
  have hkey : (name == key) = false := beq_eq_false_iff_ne.mpr h
  simp only [List.lookup_append, List.lookup_cons, hkey]

theorem lookup_replace (h : name ≠ key) (v w : Value) :
    (before ++ (key, v) :: after).lookup name = (before ++ (key, w) :: after).lookup name := by
  rw [lookup_insert h, lookup_insert h]

end Members

namespace Keyword

theorem typeTags_siblings (as bs : Members) (location : Location) (seen : List TypeTag)
    (values : List Value) :
    typeTags ⟨as, location⟩ seen values = typeTags ⟨bs, location⟩ seen values := by
  induction values generalizing seen with
  | nil => rfl
  | cons v rest ih =>
    simp only [typeTags, ih]
    rfl

theorem requiredNames_siblings (as bs : Members) (location : Location) (seen : List String)
    (values : List Value) :
    requiredNames ⟨as, location⟩ seen values = requiredNames ⟨bs, location⟩ seen values := by
  induction values generalizing seen with
  | nil => rfl
  | cons v rest ih =>
    cases v with
    | string name =>
      simp only [requiredNames, ih]
      rfl
    | _ => rfl

theorem bound_siblings {as bs : Members} {modifier : String}
    (h : as.lookup modifier = bs.lookup modifier) (side : Side) (keyword : String)
    (location : Location) (value : Value) (nested : Nested) :
    bound side keyword modifier ⟨as, location⟩ value nested =
      bound side keyword modifier ⟨bs, location⟩ value nested := by
  have hflag : Site.flag ⟨as, location⟩ modifier = Site.flag ⟨bs, location⟩ modifier := by
    simp only [Site.flag, h]
    rfl
  cases value with
  | number n => simp only [bound, hflag]
  | _ => rfl

end Keyword

namespace Builtin

/-- A sibling that a keyword looks at is no keyword itself. -/
theorem modifier?_ne {b : Builtin} {name : String} (h : b.modifier? = some name) (c : Builtin) :
    name ≠ c.name := by
  cases b <;> simp only [modifier?, Option.some.injEq, reduceCtorEq] at h
  all_goals
    subst h
    cases c <;> decide

/-- Among other siblings a keyword makes the same of its value, if the sibling that it looks at is
the same. -/
theorem keyword_siblings (b : Builtin) {as bs : Members}
    (h : ∀ name, b.modifier? = some name → as.lookup name = bs.lookup name) (location : Location)
    (value : Value) (nested : Nested) :
    b.keyword ⟨as, location⟩ value nested = b.keyword ⟨bs, location⟩ value nested := by
  cases b with
  | type =>
    cases value with
    | array elements =>
      cases elements with
      | nil => rfl
      | cons v rest => simp only [keyword, Keyword.type, Keyword.typeTags_siblings as bs]
    | _ => rfl
  | required =>
    cases value with
    | array entries => simp only [keyword, Keyword.required, Keyword.requiredNames_siblings as bs]
    | _ => rfl
  | minimum => exact Keyword.bound_siblings (h _ rfl) .minimum "minimum" location value nested
  | maximum => exact Keyword.bound_siblings (h _ rfl) .maximum "maximum" location value nested
  | minLength | maxLength | minItems | maxItems => cases value <;> rfl
  | _ => rfl

def subschemas (b : Builtin) (value : Value) : List Value :=
  match b, value with
  | .properties, .object documents => documents.map Prod.snd
  | .items, .array documents => documents
  | .items, document => [document]
  | _, _ => []

theorem subschemas_readings {b : Builtin} {value d : Value} (h : d ∈ b.subschemas value) :
    d ∈ value.readings := by
  unfold subschemas at h
  split at h
  · exact List.mem_cons_of_mem _ h
  · exact List.mem_cons_of_mem _ h
  · rw [List.mem_singleton.mp h]
    exact Value.self_mem_readings _
  · cases h

end Builtin

namespace Registry
variable {r s : Registry}

theorem compileKeywords_append (site : Site) (as bs : Members) :
    r.compileKeywords site (as ++ bs) = (do
      let front ← r.compileKeywords site as
      let back ← r.compileKeywords site bs
      pure (front ++ back)) := by
  rw [compileKeywords_eq, compileKeywords_eq, compileKeywords_eq, uses, List.filterMap_append,
    List.mapM_append]
  rfl

/-- Keywords are compiled alike among other siblings, if those that they look at are the same. -/
theorem compileKeywords_siblings {as bs members : Members} (location : Location)
    (h : ∀ (b : Builtin) (name : String), b.modifier? = some name →
      b.name ∈ members.map Prod.fst → as.lookup name = bs.lookup name) :
    draft4.compileKeywords ⟨as, location⟩ members =
      draft4.compileKeywords ⟨bs, location⟩ members := by
  induction members with
  | nil => rfl
  | cons m rest ih =>
    obtain ⟨name, value⟩ := m
    have hrest := ih fun b modifier hb hm => h b modifier hb (List.mem_cons_of_mem _ hm)
    rw [compileKeywords_cons, compileKeywords_cons, hrest]
    cases hk : draft4.get? name with
    | none => rfl
    | some k =>
      obtain ⟨b, rfl, rfl⟩ := get?_draft4.mp hk
      have hsame := b.keyword_siblings (fun modifier hb => h b modifier hb (by simp)) location
        value (draft4.nested value)
      simp only [apply, hsame]

theorem elementsWith_congr {p q : Peers} {documents : List Value}
    (h : ∀ d ∈ documents, ∀ location, r.compileWith p location d = s.compileWith q location d)
    (location : Location) (i : Nat) :
    r.elementsWith p location i documents = s.elementsWith q location i documents := by
  rw [elementsWith_eq, elementsWith_eq]
  exact mapM_congr fun m hm => h m.1 (List.fst_mem_of_mem_zipIdx hm) _

theorem membersWith_congr {p q : Peers} {documents : Members}
    (h : ∀ m ∈ documents, ∀ location, r.compileWith p location m.2 = s.compileWith q location m.2)
    (location : Location) :
    r.membersWith p location documents = s.membersWith q location documents := by
  rw [membersWith_eq, membersWith_eq]
  exact mapM_congr fun m hm => congrArg _ (h m hm _)

theorem keywordsWith_congr {p q : Peers} {site : Site} {members : Members}
    (hget : ∀ m ∈ members, r.get? m.1 = s.get? m.1)
    (hkey : ∀ m ∈ members, ∀ k, r.get? m.1 = some k →
      k site m.2 (r.nestedWith p m.2) = k site m.2 (s.nestedWith q m.2)) :
    r.keywordsWith p site members = s.keywordsWith q site members := by
  induction members with
  | nil => rfl
  | cons m rest ih =>
    obtain ⟨name, value⟩ := m
    have hrest := ih (fun m hm => hget m (List.mem_cons_of_mem _ hm))
      fun m hm => hkey m (List.mem_cons_of_mem _ hm)
    rw [keywordsWith_cons, keywordsWith_cons, ← hget _ List.mem_cons_self, hrest]
    cases hk : r.get? name with
    | none => rfl
    | some k => simp only [hkey _ List.mem_cons_self k hk]

/-- A built-in keyword looks at none but the schemas that are nested in its value. -/
theorem builtin_congr (b : Builtin) (site : Site) {p q : Peers} {value : Value}
    (h : ∀ d ∈ b.subschemas value, ∀ location,
      r.compileWith p location d = s.compileWith q location d) :
    b.keyword site value (r.nestedWith p value) = b.keyword site value (s.nestedWith q value) := by
  cases b with
  | properties =>
    cases value with
    | object documents =>
      have hmembers := membersWith_congr fun m hm => h m.2 (List.mem_map_of_mem hm)
      simp only [Builtin.keyword, Keyword.properties, nestedWith, hmembers]
    | _ => rfl
  | items =>
    cases value with
    | array documents =>
      have helements (location : Location) :
          r.elementsWith p location 0 documents = s.elementsWith q location 0 documents :=
        elementsWith_congr h location 0
      simp only [Builtin.keyword, Keyword.items, nestedWith, helements]
    | _ =>
      have hself := h _ (List.mem_singleton_self _)
      simp only [Builtin.keyword, Keyword.items, nestedWith, hself]
  | _ => rfl

end Registry
end JsonSchema
