import JsonSchema.Proofs.Number.Exact
import JsonSchema.Proofs.Value.Nesting
import JsonSchema.Value.Equality
import Mathlib.Data.List.Forall2
import Mathlib.Data.List.Perm.Subperm

namespace JsonSchema.Value

theorem sameElements_iff (a b : List Value) :
    sameElements a b = true ↔ List.Forall₂ (fun v w => same v w = true) a b := by
  induction a generalizing b with
  | nil => cases b <;> simp [sameElements]
  | cons v rest ih => cases b <;> simp [sameElements, ih]

theorem sameMembers_iff (a b : Members) :
    sameMembers a b = true ↔ ∀ m ∈ a, ∃ w, b.lookup m.1 = some w ∧ same m.2 w = true := by
  induction a with
  | nil => simp [sameMembers]
  | cons m rest ih =>
    obtain ⟨name, v⟩ := m
    rw [sameMembers, Bool.and_eq_true, ih, List.forall_mem_cons]
    cases b.lookup name <;> simp

theorem rel_isSome {r : α → β → Prop} {x : Option α} {y : Option β} (h : Option.Rel r x y) :
    x.isSome = y.isSome := by
  cases h <;> rfl

theorem same_array (a b : List Value) :
    same (.array a) (.array b) = true ↔ List.Forall₂ (fun v w => same v w = true) a b := by
  rw [same, sameElements_iff]

/-- Objects of as many members, all of whose names occur in the other, have the same names. -/
theorem names_perm {a b : Members} (ha : (a.map Prod.fst).Nodup)
    (hlen : a.length = b.length) (hsub : ∀ m ∈ a, m.1 ∈ b.map Prod.fst) :
    (a.map Prod.fst).Perm (b.map Prod.fst) := by
  have hsubset : a.map Prod.fst ⊆ b.map Prod.fst := by
    intro name hn
    obtain ⟨m, hm, rfl⟩ := List.mem_map.mp hn
    exact hsub m hm
  exact (ha.subperm hsubset).perm_of_length_le (by simp [hlen])

/-- With unique names, equal objects are those that answer every look-up alike. -/
theorem same_object {a b : Members} (ha : (a.map Prod.fst).Nodup) (hb : (b.map Prod.fst).Nodup) :
    same (.object a) (.object b) = true ↔
      ∀ name, Option.Rel (fun v w => same v w = true) (a.lookup name) (b.lookup name) := by
  rw [same, Bool.and_eq_true, beq_iff_eq, sameMembers_iff]
  constructor
  · intro h name
    obtain ⟨hlen, hmem⟩ := h
    have hperm := names_perm ha hlen (by
      intro m hm
      obtain ⟨w, hw, -⟩ := hmem m hm
      exact List.mem_map.mpr ⟨_, Members.mem_of_lookup hw, rfl⟩)
    cases hv : a.lookup name with
    | some v =>
      obtain ⟨w, hw, hs⟩ := hmem _ (Members.mem_of_lookup hv)
      rw [hw]
      exact .some hs
    | none =>
      have hn : b.lookup name = none := by
        rw [← Option.not_isSome_iff_eq_none, Members.lookup_isSome] at hv ⊢
        exact fun hm => hv (hperm.mem_iff.mpr hm)
      rw [hn]
      exact .none
  · intro hrel
    constructor
    · have hperm : (a.map Prod.fst).Perm (b.map Prod.fst) := by
        refine (List.perm_ext_iff_of_nodup ha hb).mpr fun name => ?_
        rw [← Members.lookup_isSome, ← Members.lookup_isSome, rel_isSome (hrel name)]
      simpa using hperm.length_eq
    · intro m hm
      have hr := hrel m.1
      rw [Members.lookup_of_mem ha hm] at hr
      cases hw : b.lookup m.1 with
      | none => rw [hw] at hr; cases hr
      | some w =>
        rw [hw] at hr
        cases hr with
        | some hs => exact ⟨w, rfl, hs⟩

theorem same_refl {v : Value} (hv : v.UniqueNames) : same v v = true := by
  induction v using nested_induction with
  | null => rfl
  | bool b => simp [same]
  | number n => simp [same, Number.same_iff]
  | string s => simp [same]
  | array elements ih =>
    rw [same_array, List.forall₂_same]
    intro v hm
    exact ih v hm (uniqueNames_array.mp hv v hm)
  | object members ih =>
    obtain ⟨hu, hin⟩ := uniqueNames_object.mp hv
    rw [same_object hu hu]
    intro name
    cases hl : members.lookup name with
    | none => exact .none
    | some v =>
      have hm := Members.mem_of_lookup hl
      exact .some (ih _ hm (hin _ hm))

theorem forall₂_of_common {r : α → α → Prop} {as bs cs : List α} (ha : List.Forall₂ r as cs)
    (hb : List.Forall₂ r bs cs)
    (h : ∀ a ∈ as, ∀ b ∈ bs, ∀ c ∈ cs, r a c → r b c → r a b) : List.Forall₂ r as bs := by
  induction ha generalizing bs with
  | nil =>
    cases hb
    exact .nil
  | cons hac _ ih =>
    cases hb with
    | cons hbc hrest =>
      refine .cons (h _ (by simp) _ (by simp) _ (by simp) hac hbc) (ih hrest ?_)
      intro a ha b hb c hc
      exact h a (by simp [ha]) b (by simp [hb]) c (by simp [hc])

theorem rel_of_common {r : α → α → Prop} {x y z : Option α} (hx : Option.Rel r x z)
    (hy : Option.Rel r y z)
    (h : ∀ a, x = some a → ∀ b, y = some b → ∀ c, z = some c → r a c → r b c → r a b) :
    Option.Rel r x y := by
  cases hx with
  | none =>
    cases hy
    exact .none
  | some hac =>
    cases hy with
    | some hbc => exact .some (h _ rfl _ rfl _ rfl hac hbc)

/-- Values that equal a third one are equal. Together with `same_refl` this is all of symmetry and
transitivity, in one induction. -/
theorem same_of_common {a b c : Value} (ha : a.UniqueNames) (hb : b.UniqueNames)
    (hc : c.UniqueNames) (hac : same a c = true) (hbc : same b c = true) : same a b = true := by
  induction a using nested_induction generalizing b c with
  | null => cases c <;> cases b <;> simp_all [same]
  | bool x => cases c <;> cases b <;> simp_all [same]
  | number n => cases c <;> cases b <;> simp_all [same, Number.same_iff]
  | string s => cases c <;> cases b <;> simp_all [same]
  | array as ih =>
    cases c with
    | array cs =>
      cases b with
      | array bs =>
        rw [same_array] at hac hbc ⊢
        rw [uniqueNames_array] at ha hb hc
        refine forall₂_of_common hac hbc ?_
        intro a hma b hmb c hmc
        exact ih a hma (ha a hma) (hb b hmb) (hc c hmc)
      | _ => simp [same] at hbc
    | _ => simp [same] at hac
  | object as ih =>
    cases c with
    | object cs =>
      cases b with
      | object bs =>
        obtain ⟨hua, hina⟩ := uniqueNames_object.mp ha
        obtain ⟨hub, hinb⟩ := uniqueNames_object.mp hb
        obtain ⟨huc, hinc⟩ := uniqueNames_object.mp hc
        rw [same_object hua huc] at hac
        rw [same_object hub huc] at hbc
        rw [same_object hua hub]
        intro name
        refine rel_of_common (hac name) (hbc name) ?_
        intro v hv w hw u hu
        have hmv := Members.mem_of_lookup hv
        exact ih _ hmv (hina _ hmv) (hinb _ (Members.mem_of_lookup hw))
          (hinc _ (Members.mem_of_lookup hu))
      | _ => simp [same] at hbc
    | _ => simp [same] at hac

theorem same_symm {a b : Value} (ha : a.UniqueNames) (hb : b.UniqueNames)
    (h : same a b = true) : same b a = true :=
  same_of_common hb ha hb (same_refl hb) h

theorem same_trans {a b c : Value} (ha : a.UniqueNames) (hb : b.UniqueNames)
    (hc : c.UniqueNames) (hab : same a b = true) (hbc : same b c = true) : same a c = true :=
  same_of_common ha hc hb hab (same_symm hb hc hbc)

/-- Equal values equal the same values. -/
theorem same_congr_right {v a b : Value} (hv : v.UniqueNames) (ha : a.UniqueNames)
    (hb : b.UniqueNames) (h : same a b = true) : same v a = same v b := by
  rw [Bool.eq_iff_iff]
  constructor
  · intro hva
    exact same_trans hv ha hb hva h
  · intro hvb
    exact same_of_common hv ha hb hvb h

/-- How far two equal values can differ from each other. -/
inductive Respelled : Value → Value → Prop
  | null : Respelled .null .null
  | bool (b : Bool) : Respelled (.bool b) (.bool b)
  | string (s : String) : Respelled (.string s) (.string s)
  | number {m n : Number} (h : m.exact = n.exact) : Respelled (.number m) (.number n)
  | array {as bs : List Value} (h : List.Forall₂ (fun v w => same v w = true) as bs) :
    Respelled (.array as) (.array bs)
  | object {as bs : Members}
    (h : ∀ name, Option.Rel (fun v w => same v w = true) (as.lookup name) (bs.lookup name)) :
    Respelled (.object as) (.object bs)

theorem respelled_of_same {a b : Value} (ha : a.UniqueNames) (hb : b.UniqueNames)
    (h : same a b = true) : Respelled a b := by
  cases a with
  | null =>
    cases b <;> simp [same] at h
    exact .null
  | bool x =>
    cases b <;> simp [same] at h
    subst h
    exact .bool x
  | number m =>
    cases b <;> simp [same] at h
    exact .number ((Number.same_iff _ _).mp h)
  | string s =>
    cases b <;> simp [same] at h
    subst h
    exact .string s
  | array as =>
    cases b with
    | array bs => exact .array ((same_array as bs).mp h)
    | _ => simp [same] at h
  | object as =>
    cases b with
    | object bs =>
      exact .object ((same_object (uniqueNames_object.mp ha).1 (uniqueNames_object.mp hb).1).mp h)
    | _ => simp [same] at h

end JsonSchema.Value
