import JsonSchema.Proofs.Number.Multiple
import JsonSchema.Proofs.Rule.Failures
import JsonSchema.Proofs.Value.Equality

namespace JsonSchema

namespace Number

theorem isIntegral_congr {m n : Number} (h : m.exact = n.exact) : m.isIntegral = n.isIntegral :=
  Bool.eq_iff_iff.mpr (by rw [isIntegral_iff, isIntegral_iff, h])

theorem compare_congr {m n : Number} (h : m.exact = n.exact) (limit : Number) :
    m.compare limit = n.compare limit := by
  rw [compare_exact, compare_exact, h]

end Number

namespace Check
open Value

theorem typeTag_congr (tag : TypeTag) {a b : Value} (h : Respelled a b) :
    tag.accepts a = tag.accepts b := by
  cases h with
  | number h => cases tag <;> first | rfl | exact Number.isIntegral_congr h
  | _ => cases tag <;> rfl

/-- A check as a question about values: no extension, and no value in it names a member twice. -/
def Plain : Check → Prop
  | .extension _ => False
  | .enum members => ∀ v ∈ members, v.UniqueNames
  | _ => True

theorem accepts_congr {c : Check} (hc : c.Plain) {a b : Value} (ha : a.UniqueNames)
    (hb : b.UniqueNames) (h : a.same b = true) : c.accepts a = c.accepts b := by
  have hform := respelled_of_same ha hb h
  cases c with
  | type tags =>
    simp only [accepts, typeTag_congr _ hform]
  | enum members =>
    simp only [accepts]
    rw [Bool.eq_iff_iff, List.any_eq_true, List.any_eq_true]
    refine exists_congr fun v => and_congr_right fun hv => ?_
    rw [same_congr_right (hc v hv) ha hb h]
  | required names =>
    cases hform with
    | object hrel =>
      simp only [accepts, rel_isSome (hrel _)]
    | _ => rfl
  | multipleOf d =>
    cases hform with
    | number hn => exact Number.isMultipleOf_congr hn rfl
    | _ => rfl
  | bound side limit exclusive =>
    cases hform with
    | number hn => simp only [accepts, Side.allows, Number.compare_congr hn]
    | _ => rfl
  | length limit count => cases hform <;> rfl
  | pattern p => cases hform <;> rfl
  | itemCount limit count =>
    cases hform with
    | array hall => simp only [accepts, hall.length_eq]
    | _ => rfl
  | extension e => exact hc.elim

/-- Only missing members are counted one by one. -/
theorem complaints_length {c : Check} (hc : ∀ names, c ≠ .required names) (x : Value) :
    (c.complaints x).length = if c.accepts x then 0 else 1 := by
  fun_cases complaints c x with
  | case1 names members => exact absurd rfl (hc names)
  | case2 limit count s h => simp [accepts, h]
  | case3 limit count s h => simp [accepts, h]
  | case4 limit count elements h => simp [accepts, h]
  | case5 limit count elements h => simp [accepts, h]
  | case6 c x _ _ _ h => simp [h]
  | case7 c x _ _ _ h => simp [h]

theorem complaints_length_congr {c : Check} (hc : c.Plain) {a b : Value} (ha : a.UniqueNames)
    (hb : b.UniqueNames) (h : a.same b = true) :
    (c.complaints a).length = (c.complaints b).length := by
  by_cases hr : ∃ names, c = .required names
  · obtain ⟨names, rfl⟩ := hr
    cases respelled_of_same ha hb h with
    | object hrel =>
      have hnone (name : String) := congrArg (!·) (rel_isSome (hrel name))
      simp only [Option.not_isSome] at hnone
      simp only [complaints, List.length_map, hnone]
    | _ => rfl
  · have hr : ∀ names, c ≠ .required names := fun names he => hr ⟨names, he⟩
    rw [complaints_length hr, complaints_length hr, accepts_congr hc ha hb h]

end Check

namespace Rule
open Value

def Part.Matches (p q : Part) : Prop :=
  p.segments = q.segments ∧ p.rule = q.rule ∧ p.value.same q.value = true

theorem forall₂_zipIdx {r : α → β → Prop} {as : List α} {bs : List β} (h : List.Forall₂ r as bs)
    (i : Nat) : List.Forall₂ (fun p q => r p.1 q.1 ∧ p.2 = q.2) (as.zipIdx i) (bs.zipIdx i) := by
  induction h generalizing i with
  | nil => exact .nil
  | cons hab _ ih => exact .cons ⟨hab, rfl⟩ (ih (i + 1))

theorem forall₂_zip {r : α → β → Prop} {s : γ → δ → Prop} {as : List α} {bs : List β}
    {cs : List γ} {ds : List δ} (h : List.Forall₂ r as bs) (hs : List.Forall₂ s cs ds) :
    List.Forall₂ (fun p q => r p.1 q.1 ∧ s p.2 q.2) (as.zip cs) (bs.zip ds) := by
  induction h generalizing cs ds with
  | nil => simp
  | cons hab _ ih =>
    cases hs with
    | nil => simp
    | cons hcd hrest => exact .cons ⟨hab, hcd⟩ (ih hrest)

theorem members_match (rules : List (String × Rule)) {as bs : Members}
    (h : ∀ name, Option.Rel (fun v w => same v w = true) (as.lookup name) (bs.lookup name)) :
    List.Forall₂ Part.Matches ((properties rules).parts (.object as))
      ((properties rules).parts (.object bs)) := by
  induction rules with
  | nil => exact .nil
  | cons p rest ih =>
    have hp := h p.1
    cases hv : as.lookup p.1 with
    | none =>
      cases hw : bs.lookup p.1 with
      | none => simpa [parts, hv, hw] using ih
      | some w =>
        rw [hv, hw] at hp
        cases hp
    | some v =>
      cases hw : bs.lookup p.1 with
      | none =>
        rw [hv, hw] at hp
        cases hp
      | some w =>
        rw [hv, hw] at hp
        cases hp with
        | some hs =>
          simp only [parts, List.filterMap_cons, hv, hw, Option.map_some]
          exact .cons ⟨rfl, rfl, hs⟩ ih

theorem parts_match (rule : Rule) {a b : Value} (ha : a.UniqueNames) (hb : b.UniqueNames)
    (h : a.same b = true) : List.Forall₂ Part.Matches (rule.parts a) (rule.parts b) := by
  have hform := respelled_of_same ha hb h
  cases rule with
  | constant accept => exact .nil
  | check c => exact .nil
  | all rules =>
    simp only [parts, List.forall₂_map_left_iff, List.forall₂_map_right_iff, List.forall₂_same]
    exact fun r _ => ⟨rfl, rfl, h⟩
  | properties rules =>
    cases hform with
    | object hrel => exact members_match rules hrel
    | _ => exact .nil
  | each rule =>
    cases hform with
    | array hall =>
      simp only [parts, List.forall₂_map_left_iff, List.forall₂_map_right_iff]
      refine (forall₂_zipIdx hall 0).imp fun p q hpq => ?_
      exact ⟨by rw [hpq.2], rfl, hpq.1⟩
    | _ => exact .nil
  | positional rules =>
    cases hform with
    | array hall =>
      simp only [parts, List.forall₂_map_left_iff, List.forall₂_map_right_iff]
      have hrules : List.Forall₂ Eq rules rules := List.forall₂_same.mpr fun _ _ => rfl
      refine (forall₂_zipIdx (forall₂_zip hrules hall) 0).imp fun p q hpq => ?_
      exact ⟨by rw [hpq.2], hpq.1.1, hpq.1.2⟩
    | _ => exact .nil

theorem parts_uniqueNames {rule : Rule} {x : Value} (hx : x.UniqueNames) {p : Part}
    (h : p ∈ rule.parts x) : p.value.UniqueNames := by
  fun_cases parts rule x with
  | case1 rules x =>
    obtain ⟨r, -, rfl⟩ := List.mem_map.mp h
    exact hx
  | case2 rules members =>
    obtain ⟨q, hq, he⟩ := List.mem_filterMap.mp h
    obtain ⟨y, hy, rfl⟩ := Option.map_eq_some_iff.mp he
    exact (uniqueNames_object.mp hx).2 _ (Members.mem_of_lookup hy)
  | case3 rule elements =>
    obtain ⟨q, hq, rfl⟩ := List.mem_map.mp h
    exact uniqueNames_array.mp hx _ (List.fst_mem_of_mem_zipIdx hq)
  | case4 rules elements =>
    obtain ⟨⟨⟨r, y⟩, i⟩, hq, rfl⟩ := List.mem_map.mp h
    have hy : y ∈ elements := (List.of_mem_zip (List.fst_mem_of_mem_zipIdx hq)).2
    exact uniqueNames_array.mp hx y hy
  | case5 => simp [parts] at h

end Rule

/-- A failure without its message: what failed, and where. -/
def Failure.site (f : Failure) : String × InstancePath := (f.keyword, f.path)

namespace Rule
open Value

theorem failuresAlone_sites {rule : Rule} (hr : ∀ c ∈ rule.checks, c.Plain) {a b : Value}
    (ha : a.UniqueNames) (hb : b.UniqueNames) (h : a.same b = true) (path : InstancePath) :
    (rule.failuresAlone path a).map Failure.site =
      (rule.failuresAlone path b).map Failure.site := by
  cases rule with
  | check c =>
    have hlen := Check.complaints_length_congr (hr c (by simp [checks])) ha hb h
    have hsite (message : String) :
        Failure.site ⟨c.keyword, path, message⟩ = (c.keyword, path) := rfl
    simp only [failuresAlone, List.map_map, Function.comp_def, hsite, List.map_const', hlen]
  | constant accept => cases accept <;> rfl
  | _ => rfl

theorem flatMap_eq_of_forall₂ {r : α → β → Prop} {as : List α} {bs : List β}
    (h : List.Forall₂ r as bs) {f : α → List γ} {g : β → List γ}
    (hfg : ∀ a ∈ as, ∀ b ∈ bs, r a b → f a = g b) : as.flatMap f = bs.flatMap g := by
  induction h with
  | nil => rfl
  | cons hab _ ih =>
    rw [List.flatMap_cons, List.flatMap_cons, hfg _ (by simp) _ (by simp) hab]
    congr 1
    apply ih
    intro a ha b hb
    exact hfg a (by simp [ha]) b (by simp [hb])

theorem failures_sites {rule : Rule} (hr : ∀ c ∈ rule.checks, c.Plain) {a b : Value}
    (ha : a.UniqueNames) (hb : b.UniqueNames) (h : a.same b = true) (path : InstancePath) :
    (rule.failures path a).map Failure.site = (rule.failures path b).map Failure.site := by
  induction rule, a using parts_induction generalizing b path with
  | step rule a ih =>
    -- The induction is on the rule; equal instances give it the same parts one by one.
    rw [failures_eq, failures_eq, List.map_append, List.map_append,
      failuresAlone_sites hr ha hb h, List.map_flatMap, List.map_flatMap]
    congr 1
    refine flatMap_eq_of_forall₂ (parts_match rule ha hb h) fun p hp q hq hpq => ?_
    obtain ⟨hsegments, hrule, hsame⟩ := hpq
    rw [← hsegments, ← hrule]
    exact ih p hp (fun c hc => hr c (checks_of_parts hp hc)) (parts_uniqueNames ha hp)
      (parts_uniqueNames hb hq) hsame (path ++ p.segments)

/-- A rule judges equal instances alike: it accepts both or neither, and its reports name the same
keywords at the same places in the same order. -/
theorem judged_alike {rule : Rule} (hr : ∀ c ∈ rule.checks, c.Plain) {a b : Value}
    (ha : a.UniqueNames) (hb : b.UniqueNames) (h : a.same b = true) :
    rule.accepts a = rule.accepts b ∧
      (rule.report a).failures.map Failure.site = (rule.report b).failures.map Failure.site := by
  have hsites := failures_sites hr ha hb h []
  constructor
  · rw [Bool.eq_iff_iff, accepts_iff_failures rule a [], accepts_iff_failures rule b [],
      ← List.map_eq_nil_iff (f := Failure.site), hsites, List.map_eq_nil_iff]
  · simpa only [report_eq] using hsites

/-- Members in another order, 3 as a float and a negative zero make no difference to a rule that
fails its instance at two places. -/
theorem judged_alike_reordered :
    let rule : Rule := .all [.check (.enum [.object [("n", .number (.unsigned 4))]]),
      .properties [("n", .check (.multipleOf (.unsigned 2))), ("z", .check (.type [.integer]))]]
    let a : Value := .object [("n", .number (.unsigned 3)), ("z", .number (.unsigned 0))]
    let b : Value := .object [("z", .number (.float (.ofBits 0x8000000000000000))),
      ("n", .number (.float (.ofBits 0x4008000000000000)))]
    rule.accepts a = rule.accepts b ∧
      (rule.report a).failures.map Failure.site = (rule.report b).failures.map Failure.site := by
  intro rule a b
  apply judged_alike
  · simp [rule, checks, checksAll, checksNamed, Check.Plain, UniqueNames, UniqueNamesIn]
  · simp [a, UniqueNames, UniqueNamesIn]
  · simp [b, UniqueNames, UniqueNamesIn]
  · decide +kernel

end Rule
end JsonSchema
