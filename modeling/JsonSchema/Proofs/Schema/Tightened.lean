import JsonSchema.Proofs.Rule.Within
import JsonSchema.Proofs.Schema.Reading
import JsonSchema.Proofs.Schema.Rewritten

namespace JsonSchema.Draft4
open List (Forall₂)
open Rule (Within)

theorem bound_within (side : Side) (n : Number) {on on' : Bool} (h : on = true → on' = true) :
    Within Failure.site (.check (.bound side n on)) (.check (.bound side n on')) := by
  refine .check_of_accepts (by cases side <;> rfl) (by simp) (by simp) fun x hx => ?_
  cases x with
  | number m =>
    simp only [Check.accepts, Side.allows] at hx ⊢
    cases on with
    | true => rwa [h rfl] at hx
    | false =>
      cases on' with
      | false => exact hx
      | true => cases side <;> cases ho : m.compare n <;> simp_all
  | _ => rfl

def Modified (as bs : Members) : Prop :=
  ∀ (b : Builtin) (name : String), b.modifier? = some name →
    isSet as name = true → isSet bs name = true

theorem readingAt_modified {as bs : Members} (h : Modified as bs) (b : Builtin) (v : Value) :
    Within Failure.site (readingAt b as v) (readingAt b bs v) := by
  cases b with
  | minimum =>
    cases v with
    | number n =>
      rw [readingAt, readingAt]
      exact bound_within .minimum n (h .minimum _ rfl)
    | _ =>
      simp only [readingAt]
      exact .refl _
  | maximum =>
    cases v with
    | number n =>
      rw [readingAt, readingAt]
      exact bound_within .maximum n (h .maximum _ rfl)
    | _ =>
      simp only [readingAt]
      exact .refl _
  | _ => cases v <;> simp only [readingAt] <;> exact .refl _

theorem rulesOf_modified {as bs : Members} (h : Modified as bs) (members : Members) :
    Forall₂ (Within Failure.site) (rulesOf as members) (rulesOf bs members) := by
  induction members with
  | nil => exact .nil
  | cons m rest ih =>
    simp only [rulesOf, List.filterMap_cons] at ih ⊢
    cases Builtin.named? m.1 with
    | none => exact ih
    | some b => exact .cons (readingAt_modified h b m.2) ih

/-- Members can be put in that turn no modifier off. -/
theorem reading_modified {as bs : Members} (h : Modified as bs) (hm : as.Sublist bs) :
    Within Failure.site (reading (.object as)) (reading (.object bs)) := by
  rw [reading_object, reading_object]
  refine .all (List.sublistForall₂_iff.mpr ⟨_, rulesOf_modified h as, ?_⟩)
  exact hm.filterMap _

/-- A modifier that was not there can only be turned on. -/
theorem isSet_insert {before after : Members} {name other : String} (v : Value)
    (h : name ∉ (before ++ after).map Prod.fst) (hset : isSet (before ++ after) other = true) :
    isSet (before ++ (name, v) :: after) other = true := by
  have hother : other ≠ name := by
    rintro rfl
    have hnone : (before ++ after).lookup other = none := by
      rwa [← Option.not_isSome_iff_eq_none, Members.lookup_isSome]
    rw [isSet, hnone] at hset
    cases hset
  simpa only [isSet, Members.lookup_insert hother] using hset

/-- A value of a keyword that asks for more than another one does. -/
inductive Stricter : Builtin → Value → Value → Prop
  | properties {documents more : Members} (h : documents.Sublist more) :
    Stricter .properties (.object documents) (.object more)
  | required {names more : List Value} (h : names.Sublist more) :
    Stricter .required (.array names) (.array more)
  | items (documents more : List Value) :
    Stricter .items (.array documents) (.array (documents ++ more))
  | type {entries fewer : List Value} (h : fewer.Sublist entries) :
    Stricter .type (.array entries) (.array fewer)
  | enum {values fewer : List Value} (h : fewer.Sublist values) :
    Stricter .enum (.array values) (.array fewer)

/-- A member of a new name is put in, or the value of a keyword becomes a stricter one. -/
inductive Tightened : Members → Members → Prop
  | added (before after : Members) {name : String} (h : name ∉ (before ++ after).map Prod.fst)
    (v : Value) : Tightened (before ++ after) (before ++ (name, v) :: after)
  | changed (before after : Members) {b : Builtin} {v w : Value} (h : Stricter b v w) :
    Tightened (before ++ (b.name, v) :: after) (before ++ (b.name, w) :: after)

theorem forall₂_middle {r : α → α → Prop} (hr : ∀ a, r a a) (front back : List α) {a b : α}
    (h : r a b) : Forall₂ r (front ++ a :: back) (front ++ b :: back) := by
  have hsame (as : List α) : Forall₂ r as as := List.forall₂_same.mpr fun a _ => hr a
  exact List.rel_append (hsame front) (.cons h (hsame back))

theorem any_of_sublist {as bs : List α} {p : α → Bool} (h : as.Sublist bs)
    (ha : as.any p = true) : bs.any p = true := by
  rw [List.any_eq_true] at ha ⊢
  obtain ⟨a, hm, hp⟩ := ha
  exact ⟨a, h.subset hm, hp⟩

theorem stricter_within {b : Builtin} {v w : Value} (h : Stricter b v w) (siblings : Members) :
    Within Failure.site (readingAt b siblings v) (readingAt b siblings w) := by
  cases h with
  | properties h =>
    rw [readingAt, readingAt]
    refine .properties (List.sublistForall₂_iff.mpr ⟨_, ?_, h.map _⟩)
    exact List.forall₂_same.mpr fun p _ => ⟨rfl, .refl p.2⟩
  | required h =>
    rw [readingAt, readingAt]
    exact .required (h.filterMap _)
  | items documents more =>
    rw [readingAt, readingAt, List.map_append]
    exact .positional (List.forall₂_same.mpr fun p _ => .refl p) _
  | type h =>
    rw [readingAt, readingAt]
    refine .check_of_accepts rfl (by simp) (by simp) fun x hx => ?_
    rw [Check.accepts] at hx ⊢
    exact any_of_sublist (h.filterMap _) hx
  | enum h =>
    rw [readingAt, readingAt]
    refine .check_of_accepts rfl (by simp) (by simp) fun x hx => ?_
    rw [Check.accepts] at hx ⊢
    exact any_of_sublist h hx

theorem nested_within {b : Builtin} {place : Value → Value} (hb : Nests b place) {as bs : Members}
    (h : Within Failure.site (reading (.object as)) (reading (.object bs))) (siblings : Members) :
    Within Failure.site (readingAt b siblings (place (.object as)))
      (readingAt b siblings (place (.object bs))) := by
  cases hb with
  | property front back name =>
    rw [readingAt, readingAt]
    simp only [List.map_append, List.map_cons]
    exact .properties (Rule.sublistForall₂_of_forall₂
      (forall₂_middle (fun p => ⟨rfl, .refl p.2⟩) _ _ ⟨rfl, h⟩))
  | position front back =>
    rw [readingAt, readingAt]
    simp only [List.map_append, List.map_cons]
    have hrules := forall₂_middle Within.refl (front.map reading) (back.map reading) h
    simpa only [List.append_nil] using Within.positional hrules []
  | elements =>
    rw [readingAt, readingAt]
    · exact .each h
    all_goals simp

theorem reading_replace {before after : Members} {b : Builtin} {v w : Value}
    (h : ∀ siblings, Within Failure.site (readingAt b siblings v) (readingAt b siblings w)) :
    Within Failure.site (reading (.object (before ++ (b.name, v) :: after)))
      (reading (.object (before ++ (b.name, w) :: after))) := by
  have hmodified : Modified (before ++ (b.name, v) :: after) (before ++ (b.name, w) :: after) := by
    intro c name hc hset
    have hsame : (before ++ (b.name, v) :: after).lookup name =
        (before ++ (b.name, w) :: after).lookup name :=
      Members.lookup_replace (Builtin.modifier?_ne hc b) v w
    rwa [isSet, ← hsame]
  rw [reading_object, reading_object]
  -- All keywords first get their new siblings, and then the one its new value.
  refine .trans (.all (Rule.sublistForall₂_of_forall₂ (rulesOf_modified hmodified _))) ?_
  rw [rulesOf_named, rulesOf_named]
  exact .all (Rule.sublistForall₂_of_forall₂ (forall₂_middle Within.refl _ _ (h _)))

theorem reading_tightened {d e : Value} (h : Rewritten Tightened d e) :
    Within Failure.site (reading d) (reading e) := by
  induction h with
  | here h =>
    cases h with
    | added before after hnew v =>
      refine reading_modified (fun _ _ _ => isSet_insert v hnew) ?_
      exact (List.sublist_cons_self _ _).append_left before
    | changed before after h => exact reading_replace (stricter_within h)
  | inside before after hb h ih =>
    obtain ⟨as, bs, rfl, rfl⟩ := h.objects
    exact reading_replace (nested_within hb ih)

theorem reading_edited {d e : Value} (h : Relation.ReflTransGen (Rewritten Tightened) d e) :
    Within Failure.site (reading d) (reading e) := by
  induction h with
  | refl => exact .refl _
  | tail _ hstep ih => exact ih.trans (reading_tightened hstep)

/-- Tightening rejects more. What a schema accepts after any number of edits that add members or
make a keyword stricter it accepted before, and what it found to fail is found after them too. -/
theorem compile_tightened {d e : Value} (h : Relation.ReflTransGen (Rewritten Tightened) d e)
    {location : Location} {p q : Rule} (hp : Registry.draft4.compile location d = .ok p)
    (hq : Registry.draft4.compile location e = .ok q) (x : Value) :
    (q.accepts x = true → p.accepts x = true) ∧
      ((p.report x).failures.map Failure.site).Sublist
        ((q.report x).failures.map Failure.site) := by
  have hwithin := reading_edited h
  rw [reading_of_compile d location p hp, reading_of_compile e location q hq] at hwithin
  exact ⟨hwithin.accepts, hwithin.report x⟩

/-- Beside a limit inside a property a type is put in, listed twice, which is malformed until one of
the two is removed; then the limit becomes exclusive. -/
theorem compile_tightened_exclusive :
    let property (members : Members) : Value :=
      .object [("properties", .object [("n", .object members)])]
    let minimum : String × Value := ("minimum", .number (.unsigned 3))
    let strict : Members :=
      [minimum, ("type", .array [.string "integer"]), ("exclusiveMinimum", .bool true)]
    let p : Rule := .all [.properties [("n", .all [.check (.bound .minimum (.unsigned 3) false)])]]
    let q : Rule := .all [.properties [("n", .all [.check (.bound .minimum (.unsigned 3) true),
      .check (.type [.integer])])]]
    let x : Value := .object [("n", .number (.unsigned 2))]
    Registry.draft4.compile .root (property [minimum]) = .ok p ∧
      Registry.draft4.compile .root (property strict) = .ok q ∧
      (p.report x).failures.map Failure.site = [("minimum", ["n"])] ∧
      ((p.report x).failures.map Failure.site).Sublist
        ((q.report x).failures.map Failure.site) := by
  intro property minimum strict p q x
  have hinside {as bs : Members} (h : Tightened as bs) :
      Rewritten Tightened (property as) (property bs) :=
    .inside [] [] (.property [] [] "n") (.here h)
  let twice : Value := .array [.string "integer", .string "integer"]
  have htype : Tightened [minimum] [minimum, ("type", twice)] :=
    .added [minimum] [] (by decide) twice
  have honce : Tightened [minimum, ("type", twice)]
      [minimum, ("type", .array [.string "integer"])] :=
    .changed (b := .type) [minimum] [] (.type (List.sublist_cons_self _ _))
  have hexclusive : Tightened [minimum, ("type", .array [.string "integer"])] strict :=
    .added [minimum, ("type", .array [.string "integer"])] [] (by decide) (.bool true)
  have hp : Registry.draft4.compile .root (property [minimum]) = .ok p := rfl
  have hq : Registry.draft4.compile .root (property strict) = .ok q := rfl
  have hall := compile_tightened (.tail (.tail (.single (hinside htype)) (hinside honce))
    (hinside hexclusive)) hp hq x
  exact ⟨hp, hq, by decide, hall.2⟩

end JsonSchema.Draft4
