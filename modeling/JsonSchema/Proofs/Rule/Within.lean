import JsonSchema.Proofs.Rule.Spelling

namespace JsonSchema.Rule
variable {β : Type} {view : Failure → β} {p q : Rule}

/-- What the first rule finds to fail the second one finds too, in the same order. -/
def Within (view : Failure → β) (p q : Rule) : Prop :=
  ∀ path x, ((p.failures path x).map view).Sublist ((q.failures path x).map view)

namespace Within

theorem refl (p : Rule) : Within view p p := fun _ _ => .refl _

theorem trans {o : Rule} (h : Within view p q) (h' : Within view q o) : Within view p o :=
  fun path x => (h path x).trans (h' path x)

theorem accepts (h : Within view p q) {x : Value} (hq : q.accepts x = true) :
    p.accepts x = true := by
  rw [accepts_iff_failures q x []] at hq
  have hsub := h [] x
  rw [hq, List.map_nil, List.sublist_nil, List.map_eq_nil_iff] at hsub
  rwa [accepts_iff_failures p x []]

theorem report (h : Within view p q) (x : Value) :
    ((p.report x).failures.map view).Sublist ((q.report x).failures.map view) := by
  rw [report_eq, report_eq]
  exact h [] x

end Within

theorem sublist_flatMap {r : α → γ → Prop} {as : List α} {cs : List γ}
    (h : List.SublistForall₂ r as cs) {f : α → List β} {g : γ → List β}
    (hfg : ∀ a c, r a c → (f a).Sublist (g c)) : (as.flatMap f).Sublist (cs.flatMap g) := by
  induction h with
  | nil => exact List.nil_sublist _
  | cons hac _ ih =>
    rw [List.flatMap_cons, List.flatMap_cons]
    exact (hfg _ _ hac).append ih
  | cons_right _ ih =>
    rw [List.flatMap_cons]
    exact ih.trans (List.sublist_append_right _ _)

theorem sublistForall₂_of_forall₂ {r : α → γ → Prop} {as : List α} {cs : List γ}
    (h : List.Forall₂ r as cs) : List.SublistForall₂ r as cs :=
  List.sublistForall₂_iff.mpr ⟨cs, h, .refl _⟩

def Part.Within (view : Failure → β) (a b : Part) : Prop :=
  a.segments = b.segments ∧ a.value = b.value ∧ Rule.Within view a.rule b.rule

namespace Within

/-- A rule is within another one when it asks no more by itself, and its parts are within parts of
the other. -/
theorem of_parts
    (halone : ∀ path x,
      ((p.failuresAlone path x).map view).Sublist ((q.failuresAlone path x).map view))
    (hparts : ∀ x, List.SublistForall₂ (Part.Within view) (p.parts x) (q.parts x)) :
    Within view p q := by
  intro path x
  rw [failures_eq, failures_eq, List.map_append, List.map_append, List.map_flatMap,
    List.map_flatMap]
  refine (halone path x).append (sublist_flatMap (hparts x) ?_)
  intro a b hab
  obtain ⟨hsegments, hvalue, hwithin⟩ := hab
  rw [← hsegments, ← hvalue]
  exact hwithin _ _

theorem all {ps qs : List Rule} (h : List.SublistForall₂ (Within view) ps qs) :
    Within view (.all ps) (.all qs) := by
  refine of_parts (fun _ _ => .refl _) fun x => ?_
  obtain ⟨some, hmatch, hsub⟩ := List.sublistForall₂_iff.mp h
  simp only [parts, List.sublistForall₂_map_left_iff, List.sublistForall₂_map_right_iff]
  exact List.sublistForall₂_iff.mpr ⟨some, hmatch.imp fun _ _ hw => ⟨rfl, rfl, hw⟩, hsub⟩

theorem properties {ps qs : List (String × Rule)}
    (h : List.SublistForall₂ (fun a b => a.1 = b.1 ∧ Within view a.2 b.2) ps qs) :
    Within view (.properties ps) (.properties qs) := by
  refine of_parts (fun _ _ => .refl _) fun x => ?_
  cases x with
  | object members =>
    simp only [parts]
    induction h with
    | nil => exact .nil
    | @cons a b _ _ hab _ ih =>
      obtain ⟨hname, hwithin⟩ := hab
      rw [List.filterMap_cons, List.filterMap_cons, hname]
      cases members.lookup b.1 with
      | none => exact ih
      | some y => exact .cons ⟨rfl, rfl, hwithin⟩ ih
    | @cons_right b _ _ _ ih =>
      rw [List.filterMap_cons]
      cases members.lookup b.1 with
      | none => exact ih
      | some y => exact .cons_right ih
  | _ => exact .nil

theorem each (h : Within view p q) : Within view (.each p) (.each q) := by
  refine of_parts (fun _ _ => .refl _) fun x => ?_
  cases x with
  | array elements =>
    simp only [parts, List.sublistForall₂_map_left_iff, List.sublistForall₂_map_right_iff]
    exact sublistForall₂_of_forall₂ (List.forall₂_same.mpr fun _ _ => ⟨rfl, rfl, h⟩)
  | _ => exact .nil

theorem positional {ps qs : List Rule} (h : List.Forall₂ (Within view) ps qs) (more : List Rule) :
    Within view (.positional ps) (.positional (qs ++ more)) := by
  refine of_parts (fun _ _ => .refl _) fun x => ?_
  cases x with
  | array elements =>
    simp only [parts, List.sublistForall₂_map_left_iff, List.sublistForall₂_map_right_iff]
    generalize 0 = i
    induction h generalizing elements i with
    | nil => exact .nil
    | cons hpq _ ih =>
      cases elements with
      | nil => exact .nil
      | cons y rest => exact .cons ⟨rfl, rfl, hpq⟩ (ih rest (i + 1))
  | _ => exact .nil

/-- Two checks of one keyword, of which the first one never finds more to complain about. -/
theorem check {c d : Check} (hk : c.keyword = d.keyword)
    (hlength : ∀ x, (c.complaints x).length ≤ (d.complaints x).length) :
    Within Failure.site (.check c) (.check d) := by
  refine of_parts (fun path x => ?_) fun _ => .nil
  have hsite (keyword message : String) :
      Failure.site ⟨keyword, path, message⟩ = (keyword, path) := rfl
  simp only [failuresAlone, List.map_map, Function.comp_def, hsite, List.map_const', hk]
  exact (List.replicate_sublist_replicate _).mpr (hlength x)

/-- Of two checks that say one thing only, the first one is for no fewer instances. -/
theorem check_of_accepts {c d : Check} (hk : c.keyword = d.keyword)
    (hc : ∀ names, c ≠ .required names) (hd : ∀ names, d ≠ .required names)
    (h : ∀ x, d.accepts x = true → c.accepts x = true) :
    Within Failure.site (.check c) (.check d) := by
  refine check hk fun x => ?_
  rw [Check.complaints_length hc, Check.complaints_length hd]
  by_cases hx : d.accepts x = true
  · simp [hx, h x hx]
  · simp only [hx]
    split <;> decide

/-- Fewer members are required. -/
theorem required {names more : List String} (h : names.Sublist more) :
    Within Failure.site (.check (.required names)) (.check (.required more)) := by
  refine check rfl fun x => ?_
  cases x with
  | object members =>
    simp only [Check.complaints, List.length_map]
    exact (h.filter _).length_le
  | _ => exact Nat.le_refl _

end Within

end JsonSchema.Rule
