import JsonSchema.Keyword.Extra
import JsonSchema.Proofs.Rule.Within
import JsonSchema.Proofs.Schema.OrderBlind

namespace JsonSchema.Registry
open List (Forall₂ SublistForall₂)
open Rule (Within)
variable {r s : Registry}

theorem lookup_entry (name other : String) (k : Keyword) (rest : List (String × Keyword)) :
    ((name, k) :: rest).lookup other = if other = name then some k else rest.lookup other := by
  by_cases h : other = name
  · simp [h]
  · have hne : (other == name) = false := beq_eq_false_iff_ne.mpr h
    rw [List.lookup_cons, hne, if_neg h]

theorem lookup_replaced (name other : String) (k : Keyword) (entries : List (String × Keyword)) :
    (replace name k entries).lookup other =
      if other = name then some k else entries.lookup other := by
  induction entries with
  | nil => rw [replace, lookup_entry]
  | cons e rest ih =>
    obtain ⟨first, old⟩ := e
    rw [replace, lookup_entry first]
    split
    · rename_i he
      subst he
      rw [lookup_entry]
      split <;> rfl
    · rename_i hne
      rw [lookup_entry, ih]
      split
      · rename_i he
        rw [he, if_neg hne]
      · rfl

/-- A name has the keyword that was registered last under it. -/
theorem get?_register (name other : String) (k : Keyword) :
    (r.register name k).1.get? other = if other = name then some k else r.get? other :=
  lookup_replaced name other k r.entries

/-- A built-in keyword may be registered under any name. -/
theorem register_standard (hr : r.Standard) (name : String) (b : Builtin) :
    (r.register name b.keyword).1.Standard := by
  intro other k hk
  rw [get?_register] at hk
  split at hk
  · exact ⟨b, Option.some.inj hk⟩
  · exact hr other k hk

/-- Every keyword of the first registry has its name in the second one too. -/
def Extends (r s : Registry) : Prop := ∀ name k, r.get? name = some k → s.get? name = some k

theorem extends_register {name : String} (h : r.get? name = none) (k : Keyword) :
    r.Extends (r.register name k).1 := by
  intro other old hold
  rw [get?_register, if_neg]
  · exact hold
  · rintro rfl
    rw [h] at hold
    cases hold

/-- A document that compiles in the second registry compiles in the first one, to a rule that finds
the same to fail as the other one finds, or less. Their keywords may see what they like. -/
def Weaker (r s : Registry) (document : Value) : Prop :=
  ∀ p q location, Transfers (fun q p => Within id p q) (s.compileWith q location document)
    (r.compileWith p location document)

section Extends
variable {p q : Peers} {site : Site} {value : Value}

theorem properties_weaker (h : ∀ d ∈ Builtin.properties.subschemas value, r.Weaker s d) :
    Transfers (fun q p => Within id p q) (Keyword.properties site value (s.nestedWith q value))
      (Keyword.properties site value (r.nestedWith p value)) := by
  intro rule hrule
  obtain ⟨documents, rules, rfl, rfl, hrules⟩ := Keyword.properties_ok.mp hrule
  have hsteps (location : Location) : Transfers
      (Forall₂ fun q p : String × Rule => p.1 = q.1 ∧ Within id p.2 q.2)
      (s.membersWith q location documents) (r.membersWith p location documents) := by
    rw [membersWith_eq, membersWith_eq]
    refine .mapM (List.forall₂_same.mpr fun m hm => ?_)
    exact (h m.2 (List.mem_map_of_mem hm) p q _).map fun q p hqp => ⟨rfl, hqp⟩
  obtain ⟨rules', hrules', hmatch⟩ := hsteps _ rules hrules
  exact ⟨_, Keyword.properties_ok.mpr ⟨documents, rules', rfl, rfl, hrules'⟩,
    .properties (Rule.sublistForall₂_of_forall₂ hmatch.flip)⟩

theorem items_weaker (h : ∀ d ∈ Builtin.items.subschemas value, r.Weaker s d) :
    Transfers (fun q p => Within id p q) (Keyword.items site value (s.nestedWith q value))
      (Keyword.items site value (r.nestedWith p value)) := by
  intro rule hrule
  rcases Keyword.items_ok.mp hrule with ⟨documents, rules, rfl, rfl, hrules⟩ | ⟨hno, old, rfl, hold⟩
  · have hsteps (location : Location) : Transfers (Forall₂ fun q p => Within id p q)
        (s.elementsWith q location 0 documents) (r.elementsWith p location 0 documents) := by
      rw [elementsWith_eq, elementsWith_eq]
      refine .mapM (List.forall₂_same.mpr fun d hd => ?_)
      exact h d.1 (List.fst_mem_of_mem_zipIdx hd) p q _
    obtain ⟨rules', hrules', hmatch⟩ := hsteps _ rules hrules
    refine ⟨_, Keyword.items_ok.mpr (.inl ⟨documents, rules', rfl, rfl, hrules'⟩), ?_⟩
    simpa using Within.positional hmatch.flip []
  · have hvalue : value ∈ Builtin.items.subschemas value := by
      cases value with
      | array documents => exact absurd rfl (hno documents)
      | _ => exact List.mem_singleton_self _
    obtain ⟨new, hnew, hwithin⟩ := h value hvalue p q _ old hold
    exact ⟨_, Keyword.items_ok.mpr (.inr ⟨hno, new, rfl, hnew⟩), .each hwithin⟩

/-- A built-in keyword asks for less when the schemas inside its value do. -/
theorem keyword_weaker (b : Builtin) (h : ∀ d ∈ b.subschemas value, r.Weaker s d) :
    Transfers (fun q p => Within id p q) (b.keyword site value (s.nestedWith q value))
      (b.keyword site value (r.nestedWith p value)) := by
  cases b with
  | properties => exact properties_weaker h
  | items => exact items_weaker h
  | _ =>
    intro rule hrule
    exact ⟨rule, hrule, .refl rule⟩

theorem keywordsWith_weaker (hr : r.Standard) (hrs : r.Extends s) {members : Members}
    (h : ∀ m ∈ members, ∀ d ∈ m.2.readings, r.Weaker s d) :
    Transfers (fun qs ps => SublistForall₂ (Within id) ps qs) (s.keywordsWith q site members)
      (r.keywordsWith p site members) := by
  induction members with
  | nil =>
    intro rules hrules
    exact ⟨[], rfl, .nil⟩
  | cons m rest ih =>
    obtain ⟨name, value⟩ := m
    have hrest := ih fun m hm => h m (List.mem_cons_of_mem _ hm)
    intro rules hrules
    rw [keywordsWith_cons] at hrules ⊢
    cases hk : r.get? name with
    | some k =>
      obtain ⟨b, rfl⟩ := hr name k hk
      rw [hrs name _ hk] at hrules
      simp only [bind_eq_ok, pure_eq_ok] at hrules ⊢
      obtain ⟨old, hold, olds, holds, rfl⟩ := hrules
      have hvalue : ∀ d ∈ b.subschemas value, r.Weaker s d := fun d hd =>
        h _ List.mem_cons_self d (Builtin.subschemas_readings hd)
      obtain ⟨new, hnew, hwithin⟩ := keyword_weaker b hvalue old hold
      obtain ⟨news, hnews, hmatch⟩ := hrest olds holds
      exact ⟨new :: news, ⟨new, hnew, news, hnews, rfl⟩, .cons hwithin hmatch⟩
    | none =>
      cases hk' : s.get? name with
      | none =>
        rw [hk'] at hrules
        exact hrest rules hrules
      | some k =>
        -- Only the second registry knows the name: its rule comes on top.
        rw [hk'] at hrules
        simp only [bind_eq_ok, pure_eq_ok] at hrules
        obtain ⟨old, -, olds, holds, rfl⟩ := hrules
        obtain ⟨news, hnews, hmatch⟩ := hrest olds holds
        exact ⟨news, hnews, .cons_right hmatch⟩

end Extends

theorem compile_weaker (hr : r.Standard) (hrs : r.Extends s) (document : Value) :
    r.Weaker s document := by
  induction document using Value.document_induction with
  | other v hv =>
    intro p q location old hold
    cases v with
    | bool accept => exact ⟨old, hold, .refl old⟩
    | object members => exact absurd rfl (hv members)
    | _ => cases hold
  | object members ih =>
    intro p q location old hold
    simp only [compileWith_object, bind_eq_ok, pure_eq_ok] at hold ⊢
    obtain ⟨olds, holds, rfl⟩ := hold
    obtain ⟨news, hnews, hmatch⟩ := keywordsWith_weaker hr hrs ih olds holds
    exact ⟨_, ⟨news, hnews, rfl⟩, .all hmatch⟩

/-- A schema is inside another one, or the same, as far as a registry knows keywords that nest
schemas. -/
inductive Reaches (r : Registry) : Value → Value → Prop
  | self (d : Value) : Reaches r d d
  | inside {members : Members} {m : String × Value} {b : Builtin} {d e : Value} (hm : m ∈ members)
    (hk : r.get? m.1 = some b.keyword) (hd : d ∈ b.subschemas m.2) (h : Reaches r d e) :
    Reaches r (.object members) e

/-- A document compiles alike in two registries that agree on all names used in it. -/
theorem compile_reached (hr : r.Standard) {document : Value}
    (h : ∀ members, r.Reaches document (.object members) →
      ∀ m ∈ members, r.get? m.1 = s.get? m.1) (p q : Peers) :
    ∀ location, r.compileWith p location document = s.compileWith q location document := by
  induction document using Value.document_induction with
  | other v hv =>
    intro location
    cases v with
    | object members => exact absurd rfl (hv members)
    | _ => rfl
  | object members ih =>
    intro location
    rw [compileWith_object, compileWith_object, keywordsWith_congr (h members (.self _))]
    intro m hm k hk
    obtain ⟨b, rfl⟩ := hr _ _ hk
    refine builtin_congr b _ fun d hd =>
      ih m hm d (Builtin.subschemas_readings hd) fun others hd' => ?_
    exact h others (.inside hm hk hd hd')

/-- A type stands for the schema with this type alone, which is no part of the document. -/
def typed : Keyword := fun site value nested =>
  nested.peers.compile (site.location.below ["typed"]) (.object [("type", value)])

theorem typed_orderBlind : typed.OrderBlind := by
  intro site value nested peers h
  simp only [typed, h.compile]

end JsonSchema.Registry
