import JsonSchema.Proofs.Rule.Equivalent
import JsonSchema.Proofs.Schema.WellFormed

namespace JsonSchema

namespace Number

theorem toCount?_congr {m n : Number} (h : m.exact = n.exact) : m.toCount? = n.toCount? := by
  refine Option.ext fun c => ?_
  rw [toCount?_eq_some, toCount?_eq_some, h]

theorem isPositive_congr {m n : Number} (hm : m.Canonical) (hn : n.Canonical)
    (h : m.exact = n.exact) : m.isPositive = n.isPositive := by
  rw [Bool.eq_iff_iff, isPositive_iff hm, isPositive_iff hn, h]

theorem compare_congr_right {m n : Number} (h : m.exact = n.exact) (x : Number) :
    x.compare m = x.compare n := by
  rw [compare_exact, compare_exact, h]

end Number

theorem rel_imp {r s : α → β → Prop} {x : Option α} {y : Option β} (h : Option.Rel r x y)
    (hrs : ∀ a, x = some a → ∀ b, y = some b → r a b → s a b) : Option.Rel s x y := by
  cases h with
  | none => exact .none
  | some hab => exact .some (hrs _ rfl _ rfl hab)

theorem any_congr {f : α → Bool} {g : β → Bool} {as : List α} {bs : List β}
    (h : List.Forall₂ (fun a b => f a = g b) as bs) : as.any f = bs.any g := by
  induction h with
  | nil => rfl
  | cons hab _ ih => rw [List.any_cons, List.any_cons, hab, ih]

namespace Value
open Draft4 (CanonicalNumbers)

/-- Equal documents, with numbers as the conversions give them and no name twice in an object. -/
structure Restated (d e : Value) : Prop where
  unique : d.UniqueNames ∧ e.UniqueNames
  canonical : CanonicalNumbers d ∧ CanonicalNumbers e
  same : d.same e = true

namespace Restated
variable {d e : Value}

theorem symm (h : Restated d e) : Restated e d :=
  ⟨h.unique.symm, h.canonical.symm, same_symm h.unique.1 h.unique.2 h.same⟩

theorem form (h : Restated d e) : Respelled d e :=
  respelled_of_same h.unique.1 h.unique.2 h.same

theorem string {s : String} (h : Restated (.string s) e) : e = .string s := by
  cases h.form
  rfl

theorem bool {b : Bool} (h : Restated (.bool b) e) : e = .bool b := by
  cases h.form
  rfl

/-- Equal numbers, both as the conversions give them. -/
theorem number {m : Number} (h : Restated (.number m) e) :
    ∃ n, e = .number n ∧ m.exact = n.exact ∧ m.Canonical ∧ n.Canonical := by
  obtain ⟨hm, hn⟩ := h.canonical
  cases h.form with
  | @number m n hexact => exact ⟨n, rfl, hexact, hm.self m rfl, hn.self n rfl⟩

theorem elements {as bs : List Value} (h : Restated (.array as) (.array bs)) :
    List.Forall₂ Restated as bs := by
  obtain ⟨⟨hua, hub⟩, ⟨hca, hcb⟩, hsame⟩ := h
  rw [uniqueNames_array] at hua hub
  refine (forall₂_mem ((same_array as bs).mp hsame)).imp fun a b hab => ?_
  obtain ⟨⟨ha, hb⟩, hs⟩ := hab
  exact ⟨⟨hua a ha, hub b hb⟩, ⟨hca.element ha, hcb.element hb⟩, hs⟩

/-- There is one way only to write a list of strings. -/
theorem strings {names : List String} (h : Restated (.array (names.map .string)) e) :
    e = .array (names.map .string) := by
  cases h.form with
  | @array _ bs _ =>
    have hmatch := h.elements
    have heq : List.Forall₂ Eq (names.map Value.string) bs := by
      rw [List.forall₂_map_left_iff] at hmatch ⊢
      exact hmatch.imp fun _ _ hb => hb.string.symm
    rw [List.forall₂_eq_eq_eq] at heq
    rw [heq]

theorem lookups {as bs : Members} (h : Restated (.object as) (.object bs)) (name : String) :
    Option.Rel Restated (as.lookup name) (bs.lookup name) := by
  obtain ⟨⟨hua, hub⟩, ⟨hca, hcb⟩, hsame⟩ := h
  rw [uniqueNames_object] at hua hub
  refine rel_imp ((same_object hua.1 hub.1).mp hsame name) fun v hv w hw hs => ?_
  have hmv := Members.mem_of_lookup hv
  have hmw := Members.mem_of_lookup hw
  exact ⟨⟨hua.2 _ hmv, hub.2 _ hmw⟩, ⟨hca.member hmv, hcb.member hmw⟩, hs⟩

/-- The members of equal objects are the same up to their order. -/
theorem members {as bs : Members} (h : Restated (.object as) (.object bs)) :
    Paired (fun a b => a.1 = b.1 ∧ Restated a.2 b.2) as bs := by
  have hua := (uniqueNames_object.mp h.unique.1).1
  have hub := (uniqueNames_object.mp h.unique.2).1
  have hnames : (as.map Prod.fst).Perm (bs.map Prod.fst) := by
    refine (List.perm_ext_iff_of_nodup hua hub).mpr fun name => ?_
    rw [← Members.lookup_isSome, ← Members.lookup_isSome, rel_isSome (h.lookups name)]
  have hfst : List.Forall₂ (fun (a : String × Value) name => a.1 = name) as (as.map Prod.fst) :=
    List.forall₂_map_right_iff.mpr (List.forall₂_same.mpr fun _ _ => rfl)
  have hpaired : Paired (fun (a b : String × Value) => a.1 = b.1) as bs := by
    obtain ⟨cs, hmatch, hperm⟩ := List.perm_comp_forall₂ hnames.symm hfst.flip
    exact ⟨cs, hperm.symm, List.forall₂_map_right_iff.mp hmatch.flip⟩
  refine hpaired.imp fun a ha b hb hab => ⟨hab, ?_⟩
  have hrel := h.lookups a.1
  rw [Members.lookup_of_mem hua ha, hab, Members.lookup_of_mem hub hb] at hrel
  cases hrel with
  | some h => exact h

/-- Equal values equal the same values. -/
theorem same_congr (h : Restated d e) {x : Value} (hx : x.UniqueNames) :
    d.same x = e.same x := by
  obtain ⟨hd, he⟩ := h.unique
  rw [Bool.eq_iff_iff]
  constructor
  · intro hdx
    exact same_trans he hd hx h.symm.same hdx
  · intro hex
    exact same_trans hd he hx h.same hex

end Restated
end Value

namespace Keyword
open Value (Restated)
open Rule (Equivalent)
variable {site other : Site} {v w : Value} (nested inner : Nested)

theorem type_transfers (h : Restated v w) :
    Transfers Equivalent (type site v nested) (type other w inner) := by
  intro rule hrule
  -- Strings are spelled in one way, so the value is the same and not only equal.
  have hw : w = v := by
    obtain ⟨tags, -, ⟨tag, -, rfl⟩ | ⟨-, -, rfl⟩⟩ := type_ok.mp hrule
    · exact h.string
    · have htags : tags.map TypeTag.toValue = (tags.map TypeTag.text).map Value.string := by
        rw [List.map_map]
        rfl
      rw [htags] at h ⊢
      exact h.strings
  rw [hw]
  exact ⟨rule, type_ok.mpr (type_ok.mp hrule), .refl rule⟩

theorem required_transfers (h : Restated v w) :
    Transfers Equivalent (required site v nested) (required other w inner) := by
  intro rule hrule
  have hw : w = v := by
    obtain ⟨names, -, rfl, -⟩ := required_ok.mp hrule
    exact h.strings
  rw [hw]
  exact ⟨rule, required_ok.mpr (required_ok.mp hrule), .refl rule⟩

theorem pattern_transfers (h : Restated v w) :
    Transfers Equivalent (pattern site v nested) (pattern other w inner) := by
  intro rule hrule
  have hw : w = v := by
    obtain ⟨source, p, rfl, -⟩ := pattern_ok.mp hrule
    exact h.string
  rw [hw]
  exact ⟨rule, pattern_ok.mpr (pattern_ok.mp hrule), .refl rule⟩

theorem enum_transfers (h : Restated v w) :
    Transfers Equivalent (enum site v nested) (enum other w inner) := by
  intro rule hrule
  obtain ⟨values, hne, rfl, rfl⟩ := enum_ok.mp hrule
  cases h.form with
  | @array _ others _ =>
    have hmatch := h.elements
    have hothers : others ≠ [] := by
      rintro rfl
      exact hne (List.forall₂_nil_right_iff.mp hmatch)
    refine ⟨_, enum_ok.mpr ⟨others, hothers, rfl, rfl⟩, .check (by simp) (by simp) rfl ?_⟩
    intro x hx
    exact any_congr (hmatch.imp fun _ _ hvw => hvw.same_congr hx)

theorem multipleOf_transfers (h : Restated v w) :
    Transfers Equivalent (multipleOf site v nested) (multipleOf other w inner) := by
  intro rule hrule
  obtain ⟨m, hm, rfl, rfl⟩ := multipleOf_ok.mp hrule
  obtain ⟨n, rfl, hexact, hcm, hcn⟩ := h.number
  rw [Number.isPositive_congr hcm hcn hexact] at hm
  refine ⟨_, multipleOf_ok.mpr ⟨n, hm, rfl, rfl⟩, .check (by simp) (by simp) rfl ?_⟩
  intro x _
  cases x with
  | number k => exact Number.isMultipleOf_congr rfl hexact
  | _ => rfl

theorem counted_transfers {keyword : String} {make : UInt64 → Rule} (h : Restated v w) :
    Transfers Equivalent (do pure (make (← site.count keyword v)))
      (do pure (make (← other.count keyword w))) := by
  intro rule hrule
  obtain ⟨m, count, rfl, hm, rfl⟩ := counted_ok.mp hrule
  obtain ⟨n, rfl, hexact, -⟩ := h.number
  rw [Number.toCount?_congr hexact] at hm
  exact ⟨_, counted_ok.mpr ⟨n, count, rfl, hm, rfl⟩, .refl _⟩

theorem flag_transfers {name : String} {b : Bool}
    (h : Restated (.object site.members) (.object other.members))
    (hb : site.flag name = .ok b) : other.flag name = .ok b := by
  rw [Site.flag_ok] at hb ⊢
  have hrel := h.lookups name
  cases hv : site.members.lookup name with
  | none =>
    rw [hv] at hrel hb
    generalize other.members.lookup name = y at hrel
    cases hrel
    exact hb
  | some v =>
    rw [hv] at hrel hb
    obtain rfl : v = .bool b := hb
    generalize other.members.lookup name = y at hrel
    cases hrel with
    | some hvw => exact hvw.bool

theorem bound_transfers {side : Side} {keyword modifier : String} (h : Restated v w)
    (hsite : Restated (.object site.members) (.object other.members)) :
    Transfers Equivalent (bound side keyword modifier site v nested)
      (bound side keyword modifier other w inner) := by
  intro rule hrule
  obtain ⟨m, exclusive, rfl, rfl, hflag⟩ := bound_ok.mp hrule
  obtain ⟨n, rfl, hexact, -⟩ := h.number
  refine ⟨_, bound_ok.mpr ⟨n, exclusive, rfl, rfl, flag_transfers hsite hflag⟩,
    .check (by simp) (by simp) (by cases side <;> rfl) ?_⟩
  intro x _
  cases x with
  | number k => simp only [Check.accepts, Side.allows, Number.compare_congr_right hexact]
  | _ => rfl

end Keyword

namespace Registry
open Value (Restated)
open Rule (Equivalent)
variable {r : Registry} {site other : Site} {v w : Value}

/-- Wherever a document compiles, so does every restatement of it, to an equivalent rule. -/
def Steady (r : Registry) (d : Value) : Prop :=
  ∀ e, Restated d e → ∀ at_ elsewhere,
    Transfers Equivalent (r.compile at_ d) (r.compile elsewhere e)

theorem properties_transfers (h : Restated v w) (hr : ∀ d ∈ v.readings, r.Steady d) :
    Transfers Equivalent (r.apply Keyword.properties site v)
      (r.apply Keyword.properties other w) := by
  intro rule hrule
  obtain ⟨documents, rules, rfl, rfl, hrules⟩ := Keyword.properties_ok.mp hrule
  cases h.form with
  | @object _ others _ =>
    have hsteps (a b : Location) : Transfers
        (Paired fun p q : String × Rule => p.1 = q.1 ∧ Equivalent p.2 q.2)
        (r.compileMembers a documents) (r.compileMembers b others) := by
      rw [compileMembers_eq, compileMembers_eq]
      refine Paired.mapM (h.members.imp fun m hm n _ hmn => ?_)
      obtain ⟨hname, hvalue⟩ := hmn
      refine (hr m.2 (Value.member_mem_readings hm) n.2 hvalue _ _).map fun p q hpq => ?_
      exact ⟨hname, hpq⟩
    obtain ⟨rules', hrules', hpaired⟩ := hsteps _ _ rules hrules
    exact ⟨_, Keyword.properties_ok.mpr ⟨others, rules', rfl, rfl, hrules'⟩, .properties hpaired⟩

theorem items_transfers (h : Restated v w) (hr : ∀ d ∈ v.readings, r.Steady d) :
    Transfers Equivalent (r.apply Keyword.items site v) (r.apply Keyword.items other w) := by
  intro rule hrule
  rcases Keyword.items_ok.mp hrule with ⟨documents, rules, rfl, rfl, hrules⟩ |
    ⟨hno, p, rfl, hp⟩
  · cases h.form with
    | @array _ others _ =>
      have hsteps (a b : Location) : Transfers (List.Forall₂ Equivalent)
          (r.compileElements a 0 documents) (r.compileElements b 0 others) := by
        rw [compileElements_eq, compileElements_eq]
        refine Transfers.mapM ?_
        refine (Rule.forall₂_zipIdx (forall₂_mem h.elements) 0).imp fun m n hmn => ?_
        obtain ⟨⟨⟨hm, -⟩, hvalue⟩, -⟩ := hmn
        exact hr m.1 (Value.element_mem_readings hm) n.1 hvalue _ _
      obtain ⟨rules', hrules', hmatch⟩ := hsteps _ _ rules hrules
      exact ⟨_, Keyword.items_ok.mpr (.inl ⟨others, rules', rfl, rfl, hrules'⟩),
        .positional hmatch⟩
  · have hother : ∀ documents, w ≠ .array documents := by
      rintro documents rfl
      cases h.form with
      | array _ => exact hno _ rfl
    obtain ⟨q, hq, hpq⟩ := hr v v.self_mem_readings w h _ _ p hp
    exact ⟨_, Keyword.items_ok.mpr (.inr ⟨hother, q, rfl, hq⟩), .each hpq⟩

theorem keyword_transfers (b : Builtin) (h : Restated v w)
    (hsite : Restated (.object site.members) (.object other.members))
    (hr : ∀ d ∈ v.readings, r.Steady d) :
    Transfers Equivalent (r.apply b.keyword site v) (r.apply b.keyword other w) := by
  cases b with
  | type => exact Keyword.type_transfers (r.nested v) (r.nested w) h
  | enum => exact Keyword.enum_transfers (r.nested v) (r.nested w) h
  | properties => exact properties_transfers h hr
  | required => exact Keyword.required_transfers (r.nested v) (r.nested w) h
  | multipleOf => exact Keyword.multipleOf_transfers (r.nested v) (r.nested w) h
  | minimum | maximum => exact Keyword.bound_transfers (r.nested v) (r.nested w) h hsite
  | minLength | maxLength | minItems | maxItems => exact Keyword.counted_transfers h
  | pattern => exact Keyword.pattern_transfers (r.nested v) (r.nested w) h
  | items => exact items_transfers h hr

/-- The same keywords are used in equal objects, in whatever order. -/
theorem uses_paired {as bs : Members} (h : Restated (.object as) (.object bs)) :
    Paired (fun u u' => u.1 = u'.1 ∧ Restated u.2.2 u'.2.2) (r.uses as) (r.uses bs) := by
  refine h.members.filterMap fun a b hab => ?_
  obtain ⟨hname, hvalue⟩ := hab
  rw [hname]
  cases r.get? b.1 with
  | none => exact .none
  | some k => exact .some ⟨rfl, hvalue⟩

theorem steady (hr : r.Standard) (d : Value) : r.Steady d := by
  -- The induction is on one document; the keywords of the other one are paired with its own, so the
  -- order in which they are compiled does not matter, nor which of them would fail first.
  induction d using Value.document_induction with
  | other v hv =>
    intro e h at_ elsewhere p hp
    cases v with
    | bool accept =>
      obtain rfl := h.bool
      exact ⟨p, hp, .refl p⟩
    | object members => exact absurd rfl (hv members)
    | _ => cases hp
  | object members ih =>
    intro e h at_ elsewhere
    cases h.form with
    | @object _ others _ =>
      rw [compile_object, compile_object]
      refine (Paired.mapM ?_).map fun _ _ => Equivalent.all
      refine (uses_paired h).imp fun u hu u' _ huu => ?_
      obtain ⟨hkeyword, hvalue⟩ := huu
      obtain ⟨hm, hk⟩ := mem_uses.mp hu
      obtain ⟨b, hb⟩ := hr _ _ hk
      rw [← hkeyword, ← hb]
      exact keyword_transfers b hvalue h (ih u.2 hm)

/-- Equal schema documents mean the same: with built-in keywords both are refused, or both compile,
to rules of as many keywords that give every instance the same verdict and report the same keywords
at the same places. -/
theorem compiled_alike (hr : r.Standard) {d e : Value} (hd : d.UniqueNames) (he : e.UniqueNames)
    (hcd : Draft4.CanonicalNumbers d) (hce : Draft4.CanonicalNumbers e) (h : d.same e = true)
    (location : Location) :
    (∃ p q, r.compile location d = .ok p ∧ r.compile location e = .ok q ∧ p.size = q.size ∧
      ∀ x : Value, x.UniqueNames → p.accepts x = q.accepts x ∧
        ((p.report x).failures.map Failure.site).Perm
          ((q.report x).failures.map Failure.site)) ∨
    ∃ a b, r.compile location d = .error a ∧ r.compile location e = .error b := by
  have hde : Restated d e := ⟨⟨hd, he⟩, ⟨hcd, hce⟩, h⟩
  cases hp : r.compile location d with
  | ok p =>
    obtain ⟨q, hq, hpq⟩ := steady hr d e hde location location p hp
    refine .inl ⟨p, q, rfl, hq, hpq.size, fun x hx => ⟨hpq.accepts hx, ?_⟩⟩
    simpa only [Rule.report_eq] using hpq.sites [] x hx
  | error a =>
    cases hq : r.compile location e with
    | ok q =>
      obtain ⟨p, hp', -⟩ := steady hr e d hde.symm location location q hq
      rw [hp] at hp'
      cases hp'
    | error b => exact .inr ⟨a, b, rfl, rfl⟩

/-- A limit with its modifier behind it or before it, and lengths and limits as floats. -/
theorem compiled_alike_reordered :
    let d : Value := .object [("maximum", .number (.unsigned 3)), ("exclusiveMaximum", .bool true),
      ("properties", .object [("a", .object [("minLength", .number (.unsigned 2))]),
        ("b", .bool false)])]
    let e : Value := .object [("properties", .object [("b", .bool false),
        ("a", .object [("minLength", .number (.float (.ofBits 0x4000000000000000)))])]),
      ("exclusiveMaximum", .bool true),
      ("maximum", .number (.float (.ofBits 0x4008000000000000)))]
    ∃ p q, draft4.compile .root d = .ok p ∧ draft4.compile .root e = .ok q ∧ p.size = q.size ∧
      ∀ x : Value, x.UniqueNames → p.accepts x = q.accepts x ∧
        ((p.report x).failures.map Failure.site).Perm
          ((q.report x).failures.map Failure.site) := by
  intro d e
  have hc : Draft4.CanonicalNumbers d ∧ Draft4.CanonicalNumbers e := by
    have hb (b : Bool) : (Value.bool b).readings = [.bool b] := rfl
    have hn (n : Number) : (Value.number n).readings = [.number n] := rfl
    simp [d, e, Draft4.CanonicalNumbers, Value.throughout_object, Value.throughout_atom (hb _),
      Value.throughout_atom (hn _), Number.Canonical]
  refine (compiled_alike draft4_standard ?_ ?_ hc.1 hc.2 ?_ .root).resolve_right ?_
  · simp [d, Value.UniqueNames, Value.UniqueNamesIn]
  · simp [e, Value.UniqueNames, Value.UniqueNamesIn]
  · decide +kernel
  · rintro ⟨a, -, ha, -⟩
    cases ha

end Registry
end JsonSchema
