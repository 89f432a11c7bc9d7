import JsonSchema.Proofs.Rule.Parts
import JsonSchema.Proofs.Schema.WellFormed

namespace JsonSchema

namespace Draft4

/-- A value is of a type of some name. Integers are the numbers with no fractional part. -/
def OfType (name : String) (x : Value) : Prop :=
  x.kind.text = name ∨ name = "integer" ∧ ∃ n, x = .number n ∧ ∃ k : Int, n.exact = .rat k

def Excludes (members : Members) (name : String) : Prop :=
  members.lookup name = some (.bool true)

/-- A number is below another one, or equals it where a sibling does not exclude that. -/
def Below (members : Members) (modifier : String) (p q : Exact) : Prop :=
  p < q ∨ ¬ Excludes members modifier ∧ p = q

mutual

/-- An instance follows a schema document: `true` always and `false` never, and an object when the
instance does what every keyword in it asks. -/
def Satisfies (document x : Value) : Prop :=
  match document with
  | .bool accept => accept = true
  | .object members => ∀ m ∈ members, ∀ b : Builtin, b.name = m.1 → Asks b members m.2 x
  | _ => False
termination_by (sizeOf document, 0)
decreasing_by exact Prod.Lex.left _ _ (Value.smaller_in_object ‹_›)

/-- What a keyword asks of an instance, by its value and the members of the object it stands in.
Instances of kinds that a keyword is not about do as it asks. -/
def Asks (b : Builtin) (members : Members) (value x : Value) : Prop :=
  match b, value, x with
  | .type, .string name, x => OfType name x
  | .type, .array names, x => ∃ name, .string name ∈ names ∧ OfType name x
  | .enum, .array values, x => ∃ v ∈ values, v.same x = true
  | .properties, .object documents, .object fields =>
    ∀ m ∈ documents, ∀ y, fields.lookup m.1 = some y → Satisfies m.2 y
  | .required, .array names, .object fields =>
    ∀ name, .string name ∈ names → name ∈ fields.map Prod.fst
  | .multipleOf, .number d, .number n => n.isMultipleOf d = true
  | .minimum, .number limit, .number n =>
    Below members "exclusiveMinimum" limit.exact n.exact
  | .maximum, .number limit, .number n =>
    Below members "exclusiveMaximum" n.exact limit.exact
  | .minLength, .number bound, .string s => bound.exact ≤ .rat s.length
  | .maxLength, .number bound, .string s => .rat s.length ≤ bound.exact
  | .pattern, .string source, .string s =>
    ∃ p, Pattern.parse? source = some p ∧ p.isIn s = true
  | .items, .array documents, .array elements =>
    ∀ p ∈ documents.zip elements, Satisfies p.1 p.2
  | .items, document, .array elements => ∀ y ∈ elements, Satisfies document y
  | .minItems, .number bound, .array elements => bound.exact ≤ .rat elements.length
  | .maxItems, .number bound, .array elements => .rat elements.length ≤ bound.exact
  | _, _, _ => True
termination_by (sizeOf value, 1)
decreasing_by
  · exact Prod.Lex.left _ _ (Value.smaller_in_object ‹_›)
  · exact Prod.Lex.left _ _ (Value.smaller_in_array (List.of_mem_zip ‹_›).1)
  · exact Prod.Lex.right _ (by decide)

end

/-- Every string and every array inside has fewer items than the greatest machine word counts, as
have all that fit into memory. -/
def Addressable (x : Value) : Prop :=
  x.Throughout fun v =>
    match v with
    | .string s => s.length < UInt64.size - 1
    | .array elements => elements.length < UInt64.size - 1
    | _ => True

theorem typeTag_accepts_iff (tag : TypeTag) (x : Value) :
    tag.accepts x = true ↔ OfType tag.text x := by
  -- `integer` is the one tag that looks at more than the kind.
  by_cases ht : tag = .integer
  · subst ht
    cases x <;> simp [TypeTag.accepts, OfType, TypeTag.text, Value.kind, Kind.text,
      Number.isIntegral_iff]
  · have hkind : tag.accepts x = true ↔ tag.kind = x.kind := by
      cases tag <;> first | exact absurd rfl ht | simp [TypeTag.accepts]
    rw [hkind]
    cases tag <;> first
      | exact absurd rfl ht
      | cases x <;> simp [OfType, TypeTag.text, TypeTag.kind, Value.kind, Kind.text]

theorem flag_excludes {site : Site} {modifier : String} {exclusive : Bool}
    (h : site.flag modifier = .ok exclusive) :
    Excludes site.members modifier ↔ exclusive = true := by
  rw [Site.flag_ok] at h
  unfold Excludes
  cases hl : site.members.lookup modifier with
  | none => simp_all
  | some v => simp_all

def Keeps (members : Members) (modifier : String) (side : Side) (limit n : Exact) : Prop :=
  match side with
  | .minimum => Below members modifier limit n
  | .maximum => Below members modifier n limit

def Bounds (limit : Limit) (bound : Exact) (length : Nat) : Prop :=
  match limit with
  | .min => bound ≤ .rat length
  | .max => .rat length ≤ bound

theorem side_allows_iff {site : Site} {modifier : String} {exclusive : Bool}
    (h : site.flag modifier = .ok exclusive) (side : Side) (limit n : Number) :
    side.allows exclusive limit n = true ↔
      Keeps site.members modifier side limit.exact n.exact := by
  have hx := flag_excludes h
  have hcmp := Number.compare_exact n limit
  rcases lt_trichotomy n.exact limit.exact with hlt | heq | hgt
  · rw [(cmp_eq_lt_iff _ _).mpr hlt] at hcmp
    cases side <;> cases exclusive <;>
      simp [Side.allows, Keeps, Below, hx, hcmp, hlt, hlt.ne, hlt.ne', hlt.not_gt]
  · rw [(cmp_eq_eq_iff _ _).mpr heq] at hcmp
    cases side <;> cases exclusive <;> simp [Side.allows, Keeps, Below, hx, hcmp, heq]
  · rw [(cmp_eq_gt_iff _ _).mpr hgt] at hcmp
    cases side <;> cases exclusive <;>
      simp [Side.allows, Keeps, Below, hx, hcmp, hgt, hgt.ne, hgt.ne', hgt.not_gt]

theorem limit_allows_iff {n : Number} {count : UInt64} (h : n.toCount? = some count)
    {length : Nat} (hlen : length < UInt64.size - 1) (limit : Limit) :
    limit.allows length count.toNat = true ↔ Bounds limit n.exact length := by
  obtain ⟨k, hk, hcount⟩ := Number.toCount?_eq_some.mp h
  rw [hcount, hk]
  cases limit with
  | min =>
    simp only [Limit.allows, Bounds, decide_eq_true_eq, Exact.rat_le_rat, Nat.cast_le]
    omega
  | max =>
    simp only [Limit.allows, Bounds, decide_eq_true_eq, Exact.rat_le_rat, Nat.cast_le]
    omega

section Alone
variable {site : Site} {value x : Value} (nested : Nested) {rule : Rule}

theorem type_asks (h : Keyword.type site value nested = .ok rule) :
    rule.accepts x = true ↔ Asks .type site.members value x := by
  obtain ⟨tags, rfl, htags⟩ := Keyword.type_ok.mp h
  rcases htags with ⟨tag, rfl, rfl⟩ | ⟨-, -, rfl⟩
  · simp [Rule.accepts, Check.accepts, Asks, TypeTag.toValue, typeTag_accepts_iff]
  · simp only [Rule.accepts, Check.accepts, Asks, List.any_eq_true, typeTag_accepts_iff]
    constructor
    · intro h
      obtain ⟨tag, htag, hx⟩ := h
      exact ⟨tag.text, List.mem_map_of_mem htag, hx⟩
    · intro h
      obtain ⟨name, hname, hx⟩ := h
      obtain ⟨tag, htag, he⟩ := List.mem_map.mp hname
      rw [← Value.string.inj he] at hx
      exact ⟨tag, htag, hx⟩

theorem enum_asks (h : Keyword.enum site value nested = .ok rule) :
    rule.accepts x = true ↔ Asks .enum site.members value x := by
  obtain ⟨values, -, rfl, rfl⟩ := Keyword.enum_ok.mp h
  simp [Rule.accepts, Check.accepts, Asks]

theorem required_asks (h : Keyword.required site value nested = .ok rule) :
    rule.accepts x = true ↔ Asks .required site.members value x := by
  obtain ⟨names, -, rfl, rfl⟩ := Keyword.required_ok.mp h
  cases x with
  | object fields =>
    simp only [Rule.accepts, Check.accepts, Asks, List.all_eq_true, Members.lookup_isSome]
    refine forall_congr' fun name => ?_
    rw [List.mem_map_of_injective fun _ _ => Value.string.inj]
  | _ => simp [Rule.accepts, Check.accepts, Asks]

theorem multipleOf_asks (h : Keyword.multipleOf site value nested = .ok rule) :
    rule.accepts x = true ↔ Asks .multipleOf site.members value x := by
  obtain ⟨d, -, rfl, rfl⟩ := Keyword.multipleOf_ok.mp h
  cases x <;> simp [Rule.accepts, Check.accepts, Asks]

theorem pattern_asks (h : Keyword.pattern site value nested = .ok rule) :
    rule.accepts x = true ↔ Asks .pattern site.members value x := by
  obtain ⟨source, p, rfl, hp, rfl⟩ := Keyword.pattern_ok.mp h
  cases x <;> simp [Rule.accepts, Check.accepts, Asks, hp]

theorem bound_asks {side : Side} {keyword modifier : String}
    (h : Keyword.bound side keyword modifier site value nested = .ok rule) :
    ∃ limit, value = .number limit ∧ (rule.accepts x = true ↔ ∀ n, x = .number n →
      Keeps site.members modifier side limit.exact n.exact) := by
  obtain ⟨limit, exclusive, hv, rfl, hflag⟩ := Keyword.bound_ok.mp h
  refine ⟨limit, hv, ?_⟩
  cases x with
  | number n =>
    rw [Rule.accepts, Check.accepts, side_allows_iff hflag]
    simp
  | _ => simp [Rule.accepts, Check.accepts]

theorem length_asks {limit : Limit} {keyword : String}
    (h : Keyword.length limit keyword site value nested = .ok rule) (hx : Addressable x) :
    ∃ bound, value = .number bound ∧ (rule.accepts x = true ↔ ∀ s, x = .string s →
      Bounds limit bound.exact s.length) := by
  obtain ⟨bound, count, hv, hcount, rfl⟩ := Keyword.length_ok.mp h
  refine ⟨bound, hv, ?_⟩
  cases x with
  | string s =>
    rw [Rule.accepts, Check.accepts, limit_allows_iff hcount hx.self]
    simp
  | _ => simp [Rule.accepts, Check.accepts]

theorem itemCount_asks {limit : Limit} {keyword : String}
    (h : Keyword.itemCount limit keyword site value nested = .ok rule) (hx : Addressable x) :
    ∃ bound, value = .number bound ∧ (rule.accepts x = true ↔ ∀ elements, x = .array elements →
      Bounds limit bound.exact elements.length) := by
  obtain ⟨bound, count, hv, hcount, rfl⟩ := Keyword.itemCount_ok.mp h
  refine ⟨bound, hv, ?_⟩
  cases x with
  | array elements =>
    rw [Rule.accepts, Check.accepts, limit_allows_iff hcount hx.self]
    simp
  | _ => simp [Rule.accepts, Check.accepts]

end Alone

/-- The rule that a document is compiled to accepts the instances that follow the document. -/
def Faithful (r : Registry) (document : Value) : Prop :=
  ∀ location rule, r.compile location document = .ok rule →
    ∀ x, Addressable x → (rule.accepts x = true ↔ Satisfies document x)

theorem forall_iff_of_forall₂ {R : α → β → Prop} {as : List α} {bs : List β}
    (h : List.Forall₂ R as bs) {P : β → Prop} {Q : α → Prop}
    (hpq : ∀ a ∈ as, ∀ b, R a b → (P b ↔ Q a)) : (∀ b ∈ bs, P b) ↔ ∀ a ∈ as, Q a := by
  induction h with
  | nil => simp
  | cons hab _ ih =>
    rw [List.forall_mem_cons, List.forall_mem_cons, hpq _ (by simp) _ hab,
      ih fun a ha b h => hpq a (by simp [ha]) b h]

theorem positional_asks {r : Registry} {documents : List Value} {rules : List Rule}
    (h : List.Forall₂ (fun d rule => ∃ at_, r.compile at_ d = .ok rule) documents rules)
    (hin : ∀ d ∈ documents, Faithful r d) {elements : List Value}
    (hx : ∀ y ∈ elements, Addressable y) :
    Rule.acceptsPositional rules elements = true ↔
      ∀ p ∈ documents.zip elements, Satisfies p.1 p.2 := by
  induction h generalizing elements with
  | nil => simp [Rule.acceptsPositional]
  | @cons d rule _ _ hrule _ ih =>
    cases elements with
    | nil => simp [Rule.acceptsPositional]
    | cons y elements =>
      obtain ⟨at_, hrule⟩ := hrule
      have hy := hin d (by simp) at_ rule hrule y (hx y (by simp))
      have hx' : ∀ y ∈ elements, Addressable y := fun y hy => hx y (by simp [hy])
      have hrest := ih (fun d hd => hin d (by simp [hd])) hx'
      rw [Rule.acceptsPositional, Bool.and_eq_true, hy, hrest, List.zip_cons_cons,
        List.forall_mem_cons]

section Nested
variable {r : Registry} {site : Site} {value x : Value} {rule : Rule}
  (hin : ∀ d ∈ value.readings, Faithful r d) (hx : Addressable x)
include hin hx

theorem properties_asks (h : r.apply Keyword.properties site value = .ok rule) :
    rule.accepts x = true ↔ Asks .properties site.members value x := by
  obtain ⟨documents, rules, rfl, rfl, hrules⟩ := Keyword.properties_ok.mp h
  cases x with
  | object fields =>
    change r.compileMembers _ documents = .ok rules at hrules
    rw [Registry.compileMembers_eq, mapM_eq_ok] at hrules
    rw [Rule.accepts, Rule.acceptsNamed_eq, List.all_eq_true, Asks]
    refine forall_iff_of_forall₂ hrules fun m hm p hp => ?_
    obtain ⟨inner, hinner, rfl⟩ := map_eq_ok.mp hp
    have hm := hin m.2 (Value.member_mem_readings hm) _ _ hinner
    cases hl : fields.lookup m.1 with
    | none => simp
    | some y => simpa using hm y (hx.member (Members.mem_of_lookup hl))
  | _ => simp [Rule.accepts, Asks]

theorem items_asks (h : r.apply Keyword.items site value = .ok rule) :
    rule.accepts x = true ↔ Asks .items site.members value x := by
  rcases Keyword.items_ok.mp h with ⟨documents, rules, rfl, rfl, hrules⟩ | ⟨hno, inner, rfl, hinner⟩
  · cases x with
    | array elements =>
      rw [Rule.accepts, Asks]
      exact positional_asks (Registry.compileElements_forall₂ hrules)
        (fun d hd => hin d (Value.element_mem_readings hd)) fun y hy => hx.element hy
    | _ => simp [Rule.accepts, Asks]
  · have hself := hin value value.self_mem_readings _ _ hinner
    cases x with
    | array elements =>
      rw [Rule.accepts, List.all_eq_true, Asks]
      · exact forall₂_congr fun y hy => hself y (hx.element hy)
      · exact hno
    | _ => cases value <;> simp [Rule.accepts, Asks]

end Nested

/-- The rule that a built-in keyword makes accepts the instances that do what the keyword asks. -/
theorem keyword_asks {r : Registry} (b : Builtin) {site : Site} {value x : Value} {rule : Rule}
    (hin : ∀ d ∈ value.readings, Faithful r d) (hx : Addressable x)
    (h : r.apply b.keyword site value = .ok rule) :
    rule.accepts x = true ↔ Asks b site.members value x := by
  cases b with
  | type => exact type_asks (r.nested value) h
  | enum => exact enum_asks (r.nested value) h
  | properties => exact properties_asks hin hx h
  | required => exact required_asks (r.nested value) h
  | multipleOf => exact multipleOf_asks (r.nested value) h
  | minimum | maximum =>
    obtain ⟨limit, rfl, hrule⟩ := bound_asks (r.nested value) h (x := x)
    rw [hrule]
    cases x <;> simp [Asks, Keeps]
  | minLength | maxLength =>
    obtain ⟨bound, rfl, hrule⟩ := length_asks (r.nested value) h hx
    rw [hrule]
    cases x <;> simp [Asks, Bounds]
  | pattern => exact pattern_asks (r.nested value) h
  | items => exact items_asks hin hx h
  | minItems | maxItems =>
    obtain ⟨bound, rfl, hrule⟩ := itemCount_asks (r.nested value) h hx
    rw [hrule]
    cases x <;> simp [Asks, Bounds]

theorem compile_faithful (document : Value) : Faithful .draft4 document := by
  induction document using Value.document_induction with
  | other v hv =>
    intro location rule h x _
    cases v with
    | bool accept =>
      obtain rfl := Except.ok.inj h
      simp [Rule.accepts, Satisfies]
    | object members => exact absurd rfl (hv members)
    | _ => cases h
  | object members ih =>
    intro location rule h x hx
    rw [Registry.compile_object, map_eq_ok] at h
    obtain ⟨rules, hrules, rfl⟩ := h
    rw [mapM_eq_ok] at hrules
    have hasks : ∀ use ∈ Registry.draft4.uses members, ∀ rule,
        Registry.draft4.apply use.1 ⟨members, location⟩ use.2.2 = .ok rule →
          (rule.accepts x = true ↔
            ∀ b : Builtin, b.name = use.2.1 → Asks b members use.2.2 x) := by
      intro use huse rule hrule
      obtain ⟨hm, hk⟩ := Registry.mem_uses.mp huse
      obtain ⟨b, hname, hkeyword⟩ := Registry.get?_draft4.mp hk
      rw [← hkeyword] at hrule
      rw [keyword_asks b (ih _ hm) hx hrule, ← hname]
      -- A name belongs to one keyword, so all keywords of this name are this one.
      simp [Builtin.name_injective.eq_iff]
    rw [Rule.accepts, Rule.acceptsAll_eq, List.all_eq_true, Satisfies,
      forall_iff_of_forall₂ hrules hasks, Registry.forall_uses_draft4]
    refine forall₂_congr fun m _ => ?_
    constructor
    · intro h b hb
      exact h b hb b hb
    · intro h _ _ b hb
      exact h b hb

/-- Compiling keeps the meaning of a schema: the rule accepts the instances that follow the
document, at whatever depth the two nest. -/
theorem accepts_iff_satisfies {location : Location} {document : Value} {rule : Rule}
    (h : Registry.draft4.compile location document = .ok rule) {x : Value} (hx : Addressable x) :
    rule.accepts x = true ↔ Satisfies document x :=
  compile_faithful document location rule h x hx

/-- Strings of two characters in an array, of which every string has to have two. -/
theorem accepts_iff_satisfies_items :
    let document : Value := .object [("items", .object [("minLength", .number (.unsigned 2))])]
    let rule : Rule := .all [.each (.all [.check (.length .min 2)])]
    let x : Value := .array [.string "ab", .null]
    rule.accepts x = true ∧ Satisfies document x := by
  intro document rule x
  have hrule : Registry.draft4.compile .root document = .ok rule := rfl
  have hx : Addressable x := by
    have hs : Addressable (.string "ab") := (Value.throughout_atom rfl).mpr (by decide)
    have hn : Addressable .null := (Value.throughout_atom rfl).mpr trivial
    refine Value.throughout_array.mpr ⟨by decide, ?_⟩
    intro v hv
    rcases List.mem_pair.mp hv with rfl | rfl
    · exact hs
    · exact hn
  have haccepts : rule.accepts x = true := by decide
  exact ⟨haccepts, (accepts_iff_satisfies hrule hx).mp haccepts⟩

end Draft4
end JsonSchema
