import JsonSchema.Proofs.Schema.Surroundings
import Mathlib.Logic.Relation

namespace JsonSchema.Draft4

/-- The values of a keyword that nest a schema at some place, as what they become of that schema. -/
inductive Nests : Builtin → (Value → Value) → Prop
  | property (front back : Members) (name : String) :
    Nests .properties fun d => .object (front ++ (name, d) :: back)
  | position (front back : List Value) : Nests .items fun d => .array (front ++ d :: back)
  | elements : Nests .items fun d => d

/-- Two documents that differ in the members of one schema only: of the document itself, or of one
that is nested in it. -/
inductive Rewritten (change : Members → Members → Prop) : Value → Value → Prop
  | here {as bs : Members} (h : change as bs) : Rewritten change (.object as) (.object bs)
  | inside {b : Builtin} {place : Value → Value} {d e : Value} (before after : Members)
    (hb : Nests b place) (h : Rewritten change d e) :
    Rewritten change (.object (before ++ (b.name, place d) :: after))
      (.object (before ++ (b.name, place e) :: after))

theorem Rewritten.objects {change : Members → Members → Prop} {d e : Value}
    (h : Rewritten change d e) : ∃ as bs, d = .object as ∧ e = .object bs := by
  cases h with
  | here _ => exact ⟨_, _, rfl, rfl⟩
  | inside before after _ _ => exact ⟨_, _, rfl, rfl⟩

/-- A name that means nothing beside some members: no keyword has it, and none that is there looks
at a sibling of this name. -/
def Inert (members : Members) (name : String) : Prop :=
  Registry.draft4.contains name = false ∧
    ∀ b : Builtin, b.modifier? = some name → b.name ∉ members.map Prod.fst

/-- A member of an inert name is put in or taken out. -/
inductive Annotated : Members → Members → Prop
  | added (before after : Members) {name : String} (h : Inert (before ++ after) name) (v : Value) :
    Annotated (before ++ after) (before ++ (name, v) :: after)
  | dropped (before after : Members) {name : String} (h : Inert (before ++ after) name)
    (v : Value) : Annotated (before ++ (name, v) :: after) (before ++ after)

section Compile
variable {before after : Members} {location : Location}

theorem compile_inert {name : String} (h : Inert (before ++ after) name) (v : Value) :
    Registry.draft4.compile location (.object (before ++ (name, v) :: after)) =
      Registry.draft4.compile location (.object (before ++ after)) := by
  obtain ⟨hname, hlooks⟩ := h
  have hk : Registry.draft4.get? name = none := by
    rwa [Registry.contains, Option.isSome_eq_false_iff, Option.isNone_iff_eq_none] at hname
  have hskip (site : Site) :
      Registry.draft4.compileKeywords site (before ++ (name, v) :: after) =
        Registry.draft4.compileKeywords site (before ++ after) := by
    simp only [Registry.compileKeywords_append, Registry.compileKeywords_cons, hk]
  rw [Registry.compile_members, Registry.compile_members, hskip,
    Registry.compileKeywords_siblings location]
  intro b modifier hb hm
  refine Members.lookup_insert ?_ v
  rintro rfl
  exact hlooks b hb hm

/-- The value of a keyword can be replaced by one of which the keyword makes the same. -/
theorem compile_replace (b : Builtin) {v w : Value}
    (h : ∀ site, Registry.draft4.apply b.keyword site v = Registry.draft4.apply b.keyword site w) :
    Registry.draft4.compile location (.object (before ++ (b.name, v) :: after)) =
      Registry.draft4.compile location (.object (before ++ (b.name, w) :: after)) := by
  have hk : Registry.draft4.get? b.name = some b.keyword := Registry.get?_draft4.mpr ⟨b, rfl, rfl⟩
  have hsame (site : Site) :
      Registry.draft4.compileKeywords site (before ++ (b.name, v) :: after) =
        Registry.draft4.compileKeywords site (before ++ (b.name, w) :: after) := by
    simp only [Registry.compileKeywords_append, Registry.compileKeywords_cons, hk, h]
  rw [Registry.compile_members, Registry.compile_members, hsame,
    Registry.compileKeywords_siblings location]
  intro c modifier hc _
  exact Members.lookup_replace (Builtin.modifier?_ne hc b) v w

/-- A keyword makes the same of its value when the schema at one place in it is replaced by one that
compiles alike. -/
theorem apply_nested {b : Builtin} {place : Value → Value} (hb : Nests b place) {as bs : Members}
    (h : ∀ location, Registry.draft4.compile location (.object as) =
      Registry.draft4.compile location (.object bs)) (site : Site) :
    Registry.draft4.apply b.keyword site (place (.object as)) =
      Registry.draft4.apply b.keyword site (place (.object bs)) := by
  cases hb with
  | property front back name =>
    simp only [Registry.apply, Builtin.keyword, Keyword.properties, Registry.nested_members,
      Registry.compileMembers_eq, List.mapM_append, List.mapM_cons, h]
  | position front back =>
    simp only [Registry.apply, Builtin.keyword, Keyword.items, Registry.nested_elements,
      Registry.compileElements_eq, List.zipIdx_append, List.zipIdx_cons, List.mapM_append,
      List.mapM_cons, h]
  | elements => simp only [Registry.apply, Builtin.keyword, Keyword.items, Registry.nested_self, h]

end Compile

theorem compile_rewritten {d e : Value} (h : Rewritten Annotated d e) :
    ∀ location, Registry.draft4.compile location d = Registry.draft4.compile location e := by
  induction h with
  | here h =>
    intro location
    cases h with
    | added before after h v => exact (compile_inert h v).symm
    | dropped before after h v => exact compile_inert h v
  | inside before after hb h ih =>
    intro location
    obtain ⟨as, bs, rfl, rfl⟩ := h.objects
    exact compile_replace _ (apply_nested hb ih)

/-- Annotations never matter. A document in which any number of them have been put in or taken out,
in whatever schemas, compiles to the same rule or is refused with the same error. -/
theorem compile_annotated {d e : Value} (h : Relation.ReflTransGen (Rewritten Annotated) d e)
    (location : Location) :
    Registry.draft4.compile location d = Registry.draft4.compile location e := by
  induction h with
  | refl => rfl
  | tail _ hstep ih => rw [ih, compile_rewritten hstep]

/-- A title beside a keyword and a limit of no number inside it: the schema is refused as before,
for the length in the property that is called `type`. -/
theorem compile_annotated_refused :
    let inner : Members := [("minLength", .string "x")]
    let plain : Value := .object [("properties", .object [("type", .object inner)])]
    let annotated : Value := .object [("title", .null),
      ("properties", .object [("type", .object (inner ++ [("exclusiveMaximum", .string "y")]))])]
    Registry.draft4.compile .root plain = Registry.draft4.compile .root annotated ∧
      Registry.draft4.compile .root annotated =
        .error (.invalid (Location.root.below ["properties", "type"]) "minLength"
          (.notCount (.string "x"))) := by
  intro inner plain annotated
  let between : Value := .object [("properties",
    .object [("type", .object (inner ++ [("exclusiveMaximum", .string "y")]))])]
  have hlimit : Inert inner "exclusiveMaximum" := ⟨by decide, fun b => by cases b <;> decide⟩
  have htitle : Inert [("properties",
      .object [("type", .object (inner ++ [("exclusiveMaximum", .string "y")]))])] "title" :=
    ⟨by decide, fun b => by cases b <;> decide⟩
  have hfirst : Rewritten Annotated plain between :=
    .inside [] [] (.property [] [] "type") (.here (.added inner [] hlimit _))
  have hsecond : Rewritten Annotated between annotated := .here (.added [] _ htitle _)
  exact ⟨compile_annotated (.tail (.single hfirst) hsecond) .root, by rfl⟩

end JsonSchema.Draft4
