import JsonSchema.Proofs.Paired
import JsonSchema.Proofs.Rule.Spelling

namespace JsonSchema.Rule

/-- Rules of as many keywords that find the same keywords to fail at the same places. -/
structure Equivalent (p q : Rule) : Prop where
  size : p.size = q.size
  sites (path : InstancePath) (x : Value) (hx : x.UniqueNames) :
    ((p.failures path x).map Failure.site).Perm ((q.failures path x).map Failure.site)

/-- Parts of two rules at one place of an instance that cannot be told apart. -/
def Part.Corresponds (p q : Part) : Prop :=
  p.segments = q.segments ∧ p.value = q.value ∧ p.rule.Equivalent q.rule

theorem sizeNamed_eq (rules : List (String × Rule)) :
    sizeNamed rules = sizeAll (rules.map Prod.snd) := by
  induction rules with
  | nil => rfl
  | cons p rest ih => rw [sizeNamed, ih, List.map_cons, sizeAll]

theorem sizeAll_perm {rules others : List Rule} (h : rules.Perm others) :
    sizeAll rules = sizeAll others := by
  induction h with
  | nil => rfl
  | cons r _ ih => rw [sizeAll, sizeAll, ih]
  | swap p q rest =>
    simp only [sizeAll]
    omega
  | trans _ _ ih ih' => rw [ih, ih']

theorem sizeAll_paired {rules others : List Rule}
    (h : Paired (fun p q => p.size = q.size) rules others) : sizeAll rules = sizeAll others := by
  obtain ⟨cs, hperm, hmatch⟩ := h
  rw [sizeAll_perm hperm]
  clear hperm
  induction hmatch with
  | nil => rfl
  | cons hpq _ ih => rw [sizeAll, sizeAll, hpq, ih]

namespace Equivalent
variable {p q : Rule}

theorem refl (rule : Rule) : Equivalent rule rule := ⟨rfl, fun _ _ _ => .refl _⟩

theorem accepts (h : Equivalent p q) {x : Value} (hx : x.UniqueNames) :
    p.accepts x = q.accepts x := by
  have hsites := h.sites [] x hx
  rw [Bool.eq_iff_iff, accepts_iff_failures p x [], accepts_iff_failures q x [],
    ← List.map_eq_nil_iff (f := Failure.site), ← List.map_eq_nil_iff (f := Failure.site)]
  exact ⟨fun h => (h ▸ hsites).nil_eq.symm, fun h => (h ▸ hsites).eq_nil⟩

theorem sites_of_parts {path : InstancePath} {x : Value} (hx : x.UniqueNames)
    (hp : p.failuresAlone path x = []) (hq : q.failuresAlone path x = [])
    (h : Paired Part.Corresponds (p.parts x) (q.parts x)) :
    ((p.failures path x).map Failure.site).Perm ((q.failures path x).map Failure.site) := by
  rw [failures_eq, failures_eq, hp, hq, List.nil_append, List.nil_append, List.map_flatMap,
    List.map_flatMap]
  refine h.flatMap fun a ha b _ hab => ?_
  obtain ⟨hsegments, hvalue, hrule⟩ := hab
  rw [← hsegments, ← hvalue]
  exact hrule.sites _ _ (parts_uniqueNames hx ha)

theorem all {rules others : List Rule} (h : Paired Equivalent rules others) :
    Equivalent (.all rules) (.all others) := by
  constructor
  · rw [Rule.size, Rule.size]
    exact sizeAll_paired (h.imp fun _ _ _ _ hab => hab.size)
  · intro path x hx
    exact sites_of_parts hx rfl rfl (h.map fun _ _ hab => ⟨rfl, rfl, hab⟩)

theorem properties {rules others : List (String × Rule)}
    (h : Paired (fun a b => a.1 = b.1 ∧ Equivalent a.2 b.2) rules others) :
    Equivalent (.properties rules) (.properties others) := by
  constructor
  · have hrules := sizeAll_paired (h.map fun _ _ hab => hab.2.size)
    rw [Rule.size, Rule.size, sizeNamed_eq, sizeNamed_eq, hrules]
  · intro path x hx
    refine sites_of_parts hx rfl rfl ?_
    cases x with
    | object members =>
      refine h.filterMap fun a b hab => ?_
      obtain ⟨hname, hrule⟩ := hab
      rw [← hname]
      cases members.lookup a.1 with
      | none => exact .none
      | some y => exact .some ⟨rfl, rfl, hrule⟩
    | _ => exact .of_forall₂ .nil

theorem each (h : Equivalent p q) : Equivalent (.each p) (.each q) := by
  constructor
  · simp only [Rule.size, h.size]
  · intro path x hx
    refine sites_of_parts hx rfl rfl (.of_forall₂ ?_)
    cases x with
    | array elements =>
      simp only [parts, List.forall₂_map_left_iff, List.forall₂_map_right_iff, List.forall₂_same]
      exact fun _ _ => ⟨rfl, rfl, h⟩
    | _ => exact .nil

theorem positional {rules others : List Rule} (h : List.Forall₂ Equivalent rules others) :
    Equivalent (.positional rules) (.positional others) := by
  constructor
  · have hrules := sizeAll_paired (.of_forall₂ (h.imp fun _ _ hab => hab.size))
    rw [Rule.size, Rule.size, hrules]
  · intro path x hx
    refine sites_of_parts hx rfl rfl (.of_forall₂ ?_)
    cases x with
    | array elements =>
      simp only [parts, List.forall₂_map_left_iff, List.forall₂_map_right_iff]
      have helements : List.Forall₂ Eq elements elements := List.forall₂_same.mpr fun _ _ => rfl
      refine (forall₂_zipIdx (forall₂_zip h helements) 0).imp fun a b hab => ?_
      obtain ⟨⟨hrule, hvalue⟩, hi⟩ := hab
      exact ⟨by rw [hi], hvalue, hrule⟩
    | _ => exact .nil

/-- Checks of one keyword that pass the same instances, with only one thing to say about others. -/
theorem check {c d : Check} (hc : ∀ names, c ≠ .required names) (hd : ∀ names, d ≠ .required names)
    (hkeyword : c.keyword = d.keyword)
    (h : ∀ x : Value, x.UniqueNames → c.accepts x = d.accepts x) :
    Equivalent (.check c) (.check d) := by
  refine ⟨rfl, fun path x hx => ?_⟩
  have hlen : (c.complaints x).length = (d.complaints x).length := by
    rw [Check.complaints_length hc, Check.complaints_length hd, h x hx]
  have hsite (keyword message : String) :
      Failure.site ⟨keyword, path, message⟩ = (keyword, path) := rfl
  rw [failures_eq, failures_eq]
  simp [failuresAlone, parts, Function.comp_def, hsite, hkeyword, hlen]

end Equivalent
end JsonSchema.Rule
