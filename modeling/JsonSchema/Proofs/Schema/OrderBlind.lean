import JsonSchema.Proofs.Schema.Surroundings

namespace JsonSchema

/-- Two views of registries that have the same keywords, perhaps in another order. -/
structure Peers.Alike (p q : Peers) : Prop where
  names : p.names.Perm q.names
  keyword? : p.keyword? = q.keyword?
  compile : p.compile = q.compile

namespace Keyword

/-- A keyword makes the same of its value in two registries that it cannot tell apart. -/
def Respects (alike : Peers → Peers → Prop) (k : Keyword) : Prop :=
  ∀ site value (nested : Nested) peers, alike nested.peers peers →
    k site value nested = k site value { nested with peers := peers }

/-- The order in which the names of its registry are listed makes no difference to a keyword. -/
def OrderBlind (k : Keyword) : Prop := k.Respects Peers.Alike

end Keyword

/-- No built-in keyword looks at the registry at all. -/
theorem Builtin.respects (alike : Peers → Peers → Prop) (b : Builtin) :
    b.keyword.Respects alike := by
  intro site value nested peers _
  cases b <;> rfl

namespace Registry
variable {r s : Registry} {p q : Peers}

theorem nestedWith_congr {value : Value}
    (h : ∀ d ∈ value.readings, ∀ location,
      r.compileWith p location d = s.compileWith q location d) :
    s.nestedWith q value = { r.nestedWith p value with peers := q } := by
  have hself := funext fun location => (h value value.self_mem_readings location).symm
  cases value with
  | array documents =>
    have helements := fun location => (elementsWith_congr
      (fun d hd => h d (Value.element_mem_readings hd)) location 0).symm
    simp only [nestedWith, hself, helements]
  | object documents =>
    have hmembers := fun location => (membersWith_congr
      (fun m hm => h m.2 (Value.member_mem_readings hm)) location).symm
    simp only [nestedWith, hself, hmembers]
  | _ => simp only [nestedWith, hself]

section Respects
variable {alike : Peers → Peers → Prop} (hget : ∀ name, r.get? name = s.get? name)
  (hk : ∀ name k, r.get? name = some k → k.Respects alike)
include hget hk

/-- Two registries with the same keywords compile alike if no keyword can tell them apart. -/
theorem compileWith_congr (hpq : alike p q) (document : Value) :
    ∀ location, r.compileWith p location document = s.compileWith q location document := by
  induction document using Value.document_induction with
  | other v hv =>
    intro location
    cases v with
    | object members => exact absurd rfl (hv members)
    | _ => rfl
  | object members ih =>
    intro location
    rw [compileWith_object, compileWith_object]
    rw [keywordsWith_congr (fun m _ => hget m.1) fun m hm k hkey => ?_]
    rw [nestedWith_congr (ih m hm)]
    exact hk m.1 k hkey _ _ _ _ hpq

theorem keyword_congr (hpq : alike p q) {name : String} {k : Keyword} (h : r.get? name = some k)
    (site : Site) (value : Value) :
    k site value (r.nestedWith p value) = k site value (s.nestedWith q value) := by
  rw [nestedWith_congr fun d _ => compileWith_congr hget hk hpq d]
  exact hk name k h _ _ _ _ hpq

end Respects

/-- Compiling when documents that keywords make up may lead to chains of a length. -/
def compileWithin (r : Registry) (chain : Nat) : Location → Value → Except SchemaError Rule :=
  r.compileWith (r.peersAt chain)

theorem mem_names {name : String} : name ∈ r.names ↔ (r.get? name).isSome = true :=
  Members.lookup_isSome.symm

/-- Registries with the same keywords list the same names. -/
theorem names_perm (hget : ∀ name, r.get? name = s.get? name) : r.names.Perm s.names := by
  refine (List.perm_ext_iff_of_nodup r.unique s.unique).mpr fun name => ?_
  rw [← names, ← names, mem_names, mem_names, hget]

section OrderBlind
variable (hget : ∀ name, r.get? name = s.get? name)
  (hk : ∀ name k, r.get? name = some k → k.OrderBlind)
include hget hk

theorem peersAt_alike (n : Nat) : (r.peersAt n).Alike (s.peersAt n) := by
  induction n with
  | zero => exact ⟨names_perm hget, by simp only [peersAt, hget], rfl⟩
  | succ n ih =>
    refine ⟨names_perm hget, ?_, ?_⟩
    · funext name
      simp only [peersAt, ← hget]
      refine Option.map_congr fun k hkey => funext fun site => funext fun value => ?_
      exact keyword_congr hget hk ih hkey site value
    · funext location document
      exact compileWith_congr hget hk ih document location

/-- Which keyword belongs to which name is all of a registry that compiling looks at. -/
theorem compileWithin_ext (chain : Nat) (document : Value) (location : Location) :
    r.compileWithin chain location document = s.compileWithin chain location document :=
  compileWith_congr hget hk (peersAt_alike hget hk chain) document location

end OrderBlind

/-- Only built-in keywords compile a document alike whatever they could see of the registry. -/
theorem compileWith_standard (hr : r.Standard) (p q : Peers) (document : Value)
    (location : Location) :
    r.compileWith p location document = r.compileWith q location document := by
  have hk : ∀ name k, r.get? name = some k → k.Respects fun _ _ => True := by
    intro name k hkey
    obtain ⟨b, rfl⟩ := hr name k hkey
    exact b.respects _
  exact compileWith_congr (fun _ => rfl) hk trivial document location

/-- A keyword gets the same rule for its value as a schema by asking the registry for it. -/
theorem nested_self_peers (hr : r.Standard) (value : Value) (location : Location) :
    (r.nested value).self location = (r.nested value).peers.compile location value :=
  compileWith_standard hr _ _ value location

/-- Not every keyword is blind to the order: one that asks for the first name tells registries apart
that have the same keywords. -/
theorem first_name_seen :
    let first (name : String) : Keyword := fun _ _ nested =>
      .ok (.constant (nested.peers.names.head? = some name))
    let a := ofList [("a", first "a"), ("b", first "b")]
    let b := ofList [("b", first "b"), ("a", first "a")]
    (∀ name, a.get? name = b.get? name) ∧
      a.compile .root (.object [("a", .null)]) ≠ b.compile .root (.object [("a", .null)]) := by
  intro first a b
  constructor
  · intro name
    by_cases ha : name = "a"
    · subst ha
      rfl
    · have ha' : (name == "a") = false := beq_eq_false_iff_ne.mpr ha
      by_cases hb : name = "b"
      · subst hb
        rfl
      · have hb' : (name == "b") = false := beq_eq_false_iff_ne.mpr hb
        simp [a, b, ofList, register, replace, empty, get?, List.lookup_cons, ha', hb']
  · intro h
    have ha : a.compile .root (.object [("a", .null)]) = .ok (.all [.constant true]) := rfl
    have hb : b.compile .root (.object [("a", .null)]) = .ok (.all [.constant false]) := rfl
    simp [ha, hb] at h

end Registry
end JsonSchema
