import JsonSchema.Registry
import JsonSchema.Proofs.Keyword.Accepted
import JsonSchema.Proofs.Value.Nesting

namespace JsonSchema

namespace Builtin

theorem mem_all (b : Builtin) : b ∈ all := by
  cases b <;> decide

theorem name_injective : Function.Injective name := by
  intro b c h
  cases b <;> cases c <;> first | rfl | simp [name] at h

def named? (name : String) : Option Builtin :=
  all.find? fun b => b.name = name

theorem named?_eq_some {name : String} {b : Builtin} : named? name = some b ↔ b.name = name := by
  constructor
  · intro h
    simpa using List.find?_some h
  · intro he
    subst he
    cases b <;> decide

end Builtin

namespace Registry
variable {r : Registry}

theorem draft4_entries : draft4.entries = Builtin.all.map fun b => (b.name, b.keyword) := by
  rfl

/-- Draft 4 has the built-in keywords under their own names. -/
theorem get?_draft4 {name : String} {k : Keyword} :
    draft4.get? name = some k ↔ ∃ b : Builtin, b.name = name ∧ b.keyword = k := by
  have hu : (draft4.entries.map Prod.fst).Nodup := by decide
  rw [get?, Members.lookup_eq_some hu, draft4_entries, List.mem_map]
  constructor
  · intro h
    obtain ⟨b, -, he⟩ := h
    exact ⟨b, congrArg Prod.fst he, congrArg Prod.snd he⟩
  · intro h
    obtain ⟨b, rfl, rfl⟩ := h
    exact ⟨b, b.mem_all, rfl⟩

theorem get?_named (name : String) :
    draft4.get? name = (Builtin.named? name).map Builtin.keyword := by
  ext k
  rw [get?_draft4, Option.map_eq_some_iff]
  exact exists_congr fun b => and_congr_left fun _ => Builtin.named?_eq_some.symm

def uses (r : Registry) (members : Members) : List (Keyword × String × Value) :=
  members.filterMap fun m => (r.get? m.1).map fun k => (k, m)

theorem mem_uses {members : Members} {use : Keyword × String × Value} :
    use ∈ r.uses members ↔ use.2 ∈ members ∧ r.get? use.2.1 = some use.1 := by
  simp only [uses, List.mem_filterMap, Option.map_eq_some_iff]
  constructor
  · intro h
    obtain ⟨m, hm, k, hk, rfl⟩ := h
    exact ⟨hm, hk⟩
  · intro h
    obtain ⟨hm, hk⟩ := h
    exact ⟨use.2, hm, use.1, hk, rfl⟩

@[simp]
theorem nested_self (value : Value) (location : Location) :
    (r.nested value).self location = r.compile location value := rfl

@[simp]
theorem nested_elements (documents : List Value) (location : Location) :
    (r.nested (.array documents)).elements location = r.compileElements location 0 documents := rfl

@[simp]
theorem nested_members (documents : Members) (location : Location) :
    (r.nested (.object documents)).members location = r.compileMembers location documents := rfl

theorem compileWith_object (peers : Peers) (location : Location) (members : Members) :
    r.compileWith peers location (.object members) = (do
      pure (.all (← r.keywordsWith peers ⟨members, location⟩ members))) :=
  rfl

theorem keywordsWith_cons (peers : Peers) (site : Site) (name : String) (value : Value)
    (rest : Members) : r.keywordsWith peers site ((name, value) :: rest) =
      match r.get? name with
      | none => r.keywordsWith peers site rest
      | some k => (do
        let rule ← k site value (r.nestedWith peers value)
        pure (rule :: (← r.keywordsWith peers site rest))) := by
  rw [keywordsWith]
  rfl

theorem elementsWith_eq (peers : Peers) (location : Location) (i : Nat) (documents : List Value) :
    r.elementsWith peers location i documents = (documents.zipIdx i).mapM fun p =>
      r.compileWith peers (location.below [toString p.2]) p.1 := by
  induction documents generalizing i with
  | nil => rfl
  | cons d rest ih => rw [elementsWith, ih, List.zipIdx_cons, List.mapM_cons]

theorem membersWith_eq (peers : Peers) (location : Location) (documents : Members) :
    r.membersWith peers location documents = documents.mapM fun m =>
      (m.1, ·) <$> r.compileWith peers (location.below [m.1]) m.2 := by
  induction documents with
  | nil => rfl
  | cons m rest ih =>
    rw [membersWith, ih, List.mapM_cons]
    simp

theorem compileKeywords_cons (site : Site) (name : String) (value : Value) (rest : Members) :
    r.compileKeywords site ((name, value) :: rest) =
      match r.get? name with
      | none => r.compileKeywords site rest
      | some k => (do
        let rule ← r.apply k site value
        pure (rule :: (← r.compileKeywords site rest))) :=
  keywordsWith_cons r.peers site name value rest

theorem compileKeywords_eq (site : Site) (members : Members) :
    r.compileKeywords site members =
      (r.uses members).mapM fun use => r.apply use.1 site use.2.2 := by
  induction members with
  | nil => rfl
  | cons m rest ih =>
    obtain ⟨name, value⟩ := m
    rw [compileKeywords_cons, ih]
    cases h : r.get? name with
    | none => simp [uses, h]
    | some k => simp [uses, h]

theorem compileElements_eq (location : Location) (i : Nat) (documents : List Value) :
    r.compileElements location i documents =
      (documents.zipIdx i).mapM fun p => r.compile (location.below [toString p.2]) p.1 :=
  elementsWith_eq r.peers location i documents

theorem compileMembers_eq (location : Location) (documents : Members) :
    r.compileMembers location documents =
      documents.mapM fun m => (m.1, ·) <$> r.compile (location.below [m.1]) m.2 :=
  membersWith_eq r.peers location documents

theorem compileElements_forall₂ {location : Location} {i : Nat} {documents : List Value}
    {rules : List Rule} (h : r.compileElements location i documents = .ok rules) :
    List.Forall₂ (fun d rule => ∃ at_, r.compile at_ d = .ok rule) documents rules := by
  rw [compileElements_eq, mapM_eq_ok] at h
  rw [← List.zipIdx_map_fst i documents, List.forall₂_map_left_iff]
  exact h.imp fun p rule hrule => ⟨_, hrule⟩

/-- Where the schemas in a list fail, one of them does, at its position. -/
theorem compileElements_error {location : Location} {i : Nat} {documents : List Value}
    {e : SchemaError} (h : r.compileElements location i documents = .error e) :
    ∃ p ∈ documents.zipIdx i, r.compile (location.below [toString p.2]) p.1 = .error e := by
  rw [compileElements_eq] at h
  obtain ⟨before, p, after, hp, he, -⟩ := mapM_error h
  exact ⟨p, by simp [hp], he⟩

theorem compileMembers_error {location : Location} {documents : Members} {e : SchemaError}
    (h : r.compileMembers location documents = .error e) :
    ∃ m ∈ documents, r.compile (location.below [m.1]) m.2 = .error e := by
  rw [compileMembers_eq] at h
  obtain ⟨before, m, after, rfl, he, -⟩ := mapM_error h
  exact ⟨m, by simp, map_eq_error.mp he⟩

theorem properties_succeeds {site : Site} {value : Value} :
    (∃ rule, r.apply Keyword.properties site value = .ok rule) ↔
      ∃ documents, value = .object documents ∧ ∀ m ∈ documents, ∃ rule,
        r.compile ((site.location.below ["properties"]).below [m.1]) m.2 = .ok rule := by
  simp only [apply, Keyword.properties_ok]
  cases value with
  | object documents =>
    have hmembers : (∃ rules, r.compileMembers (site.location.below ["properties"]) documents =
        .ok rules) ↔ ∀ m ∈ documents, ∃ rule,
          r.compile ((site.location.below ["properties"]).below [m.1]) m.2 = .ok rule := by
      rw [compileMembers_eq, mapM_succeeds]
      simp [map_eq_ok]
    constructor
    · intro h
      obtain ⟨_, _, rules, _, -, hrules⟩ := h
      exact ⟨documents, rfl, hmembers.mp ⟨rules, hrules⟩⟩
    · intro h
      obtain ⟨_, ⟨rfl⟩, h⟩ := h
      obtain ⟨rules, hrules⟩ := hmembers.mpr h
      exact ⟨_, documents, rules, rfl, rfl, hrules⟩
  | _ => simp

theorem items_succeeds {site : Site} {value : Value} :
    (∃ rule, r.apply Keyword.items site value = .ok rule) ↔
      (∃ documents, value = .array documents ∧ ∀ p ∈ documents.zipIdx, ∃ rule,
        r.compile ((site.location.below ["items"]).below [toString p.2]) p.1 = .ok rule) ∨
      (∀ documents, value ≠ .array documents) ∧
        ∃ rule, r.compile (site.location.below ["items"]) value = .ok rule := by
  simp only [apply, Keyword.items_ok]
  cases value with
  | array documents =>
    have helements : (∃ rules, r.compileElements (site.location.below ["items"]) 0 documents =
        .ok rules) ↔ ∀ p ∈ documents.zipIdx, ∃ rule,
          r.compile ((site.location.below ["items"]).below [toString p.2]) p.1 = .ok rule := by
      rw [compileElements_eq, mapM_succeeds]
    constructor
    · intro h
      obtain ⟨_, ⟨_, rules, _, -, hrules⟩ | ⟨hno, -⟩⟩ := h
      · exact .inl ⟨documents, rfl, helements.mp ⟨rules, hrules⟩⟩
      · exact absurd rfl (hno documents)
    · intro h
      rcases h with ⟨_, ⟨rfl⟩, h⟩ | ⟨hno, -⟩
      · obtain ⟨rules, hrules⟩ := helements.mpr h
        exact ⟨_, .inl ⟨documents, rules, rfl, rfl, hrules⟩⟩
      · exact absurd rfl (hno documents)
  | _ => simp

theorem compile_members (location : Location) (members : Members) :
    r.compile location (.object members) = (do
      pure (.all (← r.compileKeywords ⟨members, location⟩ members))) :=
  compileWith_object r.peers location members

/-- An object is compiled keyword by keyword, in declaration order. -/
theorem compile_object (location : Location) (members : Members) :
    r.compile location (.object members) = Rule.all <$>
      (r.uses members).mapM fun use => r.apply use.1 ⟨members, location⟩ use.2.2 := by
  rw [compile_members, compileKeywords_eq]
  rfl

theorem compile_object_ok {location : Location} {members : Members} {rule : Rule} :
    r.compile location (.object members) = .ok rule ↔
      ∃ rules, r.compileKeywords ⟨members, location⟩ members = .ok rules ∧ rule = .all rules := by
  simp only [compile_members, bind_eq_ok, pure_eq_ok]
  exact exists_congr fun rules => and_congr_right fun _ => eq_comm

/-- A schema with a single keyword compiles to what this keyword makes of its value. -/
theorem compile_keyword {location : Location} (b : Builtin) {value : Value} {rule : Rule}
    (h : draft4.apply b.keyword ⟨[(b.name, value)], location⟩ value = .ok rule) :
    draft4.compile location (.object [(b.name, value)]) = .ok (.all [rule]) := by
  have hk : draft4.get? b.name = some b.keyword := get?_draft4.mpr ⟨b, rfl, rfl⟩
  refine compile_object_ok.mpr ⟨[rule], ?_, rfl⟩
  simp only [compileKeywords_cons, hk, h]
  rfl

/-- The members that draft 4 uses are those with the name of a built-in keyword. -/
theorem forall_uses_draft4 {members : Members} {P : Keyword × String × Value → Prop} :
    (∀ use ∈ draft4.uses members, P use) ↔
      ∀ m ∈ members, ∀ b : Builtin, b.name = m.1 → P (b.keyword, m) := by
  constructor
  · intro h m hm b hb
    have hk : draft4.get? m.1 = some b.keyword := get?_draft4.mpr ⟨b, hb, rfl⟩
    exact h (b.keyword, m) (mem_uses.mpr ⟨hm, hk⟩)
  · intro h use huse
    obtain ⟨hm, hk⟩ := mem_uses.mp huse
    obtain ⟨b, hname, hkeyword⟩ := get?_draft4.mp hk
    have hb := h use.2 hm b hname
    rwa [hkeyword] at hb

/-- An object is a schema of draft 4 when each of its keywords makes a rule. -/
theorem compile_object_succeeds {location : Location} {members : Members} :
    (∃ rule, draft4.compile location (.object members) = .ok rule) ↔
      ∀ m ∈ members, ∀ b : Builtin, b.name = m.1 →
        ∃ rule, draft4.apply b.keyword ⟨members, location⟩ m.2 = .ok rule := by
  rw [compile_object, ← forall_uses_draft4
    (P := fun use => ∃ rule, draft4.apply use.1 ⟨members, location⟩ use.2.2 = .ok rule),
    ← mapM_succeeds]
  simp [map_eq_ok]

theorem compileElements_failsAs {form : SchemaError → Prop} {documents : List Value}
    (h : ∀ d ∈ documents, ∀ location, FailsAs form (r.compile location d)) (location : Location)
    (i : Nat) : FailsAs form (r.compileElements location i documents) := by
  rw [compileElements_eq]
  apply FailsAs.mapM
  intro p hp
  exact h p.1 (List.fst_mem_of_mem_zipIdx hp) _

theorem compileMembers_failsAs {form : SchemaError → Prop} {documents : Members}
    (h : ∀ m ∈ documents, ∀ location, FailsAs form (r.compile location m.2))
    (location : Location) : FailsAs form (r.compileMembers location documents) := by
  rw [compileMembers_eq]
  apply FailsAs.mapM
  intro m hm
  exact (h m hm _).map _

/-- The schemas that are read out of a value fail as they do on their own. -/
theorem nested_failsAs {form : SchemaError → Prop} {value : Value}
    (h : ∀ d ∈ value.readings, ∀ location, FailsAs form (r.compile location d)) :
    (r.nested value).FailsAs form := by
  refine ⟨h value value.self_mem_readings, ?_, ?_⟩
  · intro location
    cases value with
    | array documents =>
      exact compileElements_failsAs (fun d hd => h d (Value.element_mem_readings hd)) location 0
    | _ => exact .ok []
  · intro location
    cases value with
    | object documents =>
      exact compileMembers_failsAs (fun m hm => h m.2 (Value.member_mem_readings hm)) location
    | _ => exact .ok []

/-- All keywords are built-in ones, under whatever names. -/
def Standard (r : Registry) : Prop :=
  ∀ name k, r.get? name = some k → ∃ b : Builtin, b.keyword = k

theorem draft4_standard : draft4.Standard := by
  intro name k h
  obtain ⟨b, -, hk⟩ := get?_draft4.mp h
  exact ⟨b, hk⟩

end Registry

def SchemaError.Malformed (e : SchemaError) : Prop :=
  ∃ location keyword problem, e = .invalid location keyword problem

namespace Registry
variable {r : Registry}

/-- With built-in keywords, compiling fails on malformed schemas only. -/
theorem compile_failsAs_malformed (hr : r.Standard) (document : Value) :
    ∀ location, FailsAs SchemaError.Malformed (r.compile location document) := by
  induction document using Value.document_induction with
  | other v hv =>
    intro location
    cases v with
    | bool accept => exact .ok _
    | object members => exact absurd rfl (hv members)
    | _ => exact .error ⟨_, _, _, rfl⟩
  | object members ih =>
    intro location
    rw [compile_object]
    apply FailsAs.map
    apply FailsAs.mapM
    intro use huse
    obtain ⟨hm, hk⟩ := mem_uses.mp huse
    obtain ⟨b, hb⟩ := hr _ _ hk
    rw [← hb]
    have hnested := nested_failsAs (ih _ hm)
    intro e he
    cases b.refusal _ _ _ e he with
    | own _ problem => exact ⟨_, _, _, rfl⟩
    | modifier _ _ _ _ problem => exact ⟨_, _, _, rfl⟩
    | members _ h => exact hnested.members _ e h
    | elements _ h => exact hnested.elements _ e h
    | self _ h => exact hnested.self _ e h

end Registry
end JsonSchema
