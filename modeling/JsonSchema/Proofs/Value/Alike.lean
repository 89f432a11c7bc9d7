import JsonSchema.Proofs.Value.Equality

namespace JsonSchema.Value

/-- Values that say the same. Numbers may be spelled differently but have one value, elements agree
position by position, and objects have the same member names and agree name by name. -/
inductive Alike : Value → Value → Prop
  | null : Alike .null .null
  | bool (b : Bool) : Alike (.bool b) (.bool b)
  | number {m n : Number} (h : m.exact = n.exact) : Alike (.number m) (.number n)
  | string (s : String) : Alike (.string s) (.string s)
  | array {as bs : List Value} (hlength : as.length = bs.length)
    (h : ∀ (i : Nat) v w, as[i]? = some v → bs[i]? = some w → Alike v w) :
    Alike (.array as) (.array bs)
  | object {as bs : Members} (hnames : ∀ name, name ∈ as.map Prod.fst ↔ name ∈ bs.map Prod.fst)
    (h : ∀ name v w, (name, v) ∈ as → (name, w) ∈ bs → Alike v w) :
    Alike (.object as) (.object bs)

theorem forall₂_iff_getElem? {r : Value → Value → Prop} {as bs : List Value} :
    List.Forall₂ r as bs ↔ as.length = bs.length ∧
      ∀ (i : Nat) v w, as[i]? = some v → bs[i]? = some w → r v w := by
  rw [List.forall₂_iff_get]
  refine and_congr_right fun _ => ?_
  constructor
  · intro h i v w hv hw
    obtain ⟨hi, rfl⟩ := List.getElem?_eq_some_iff.mp hv
    obtain ⟨hj, rfl⟩ := List.getElem?_eq_some_iff.mp hw
    exact h i hi hj
  · intro h i hi hj
    exact h i _ _ (List.getElem?_eq_getElem hi) (List.getElem?_eq_getElem hj)

/-- With unique names, two objects answer every look-up alike when they have the same names and
agree name by name. -/
theorem rel_lookup_iff {r : Value → Value → Prop} {as bs : Members} (ha : (as.map Prod.fst).Nodup)
    (hb : (bs.map Prod.fst).Nodup) :
    (∀ name, Option.Rel r (as.lookup name) (bs.lookup name)) ↔
      (∀ name, name ∈ as.map Prod.fst ↔ name ∈ bs.map Prod.fst) ∧
        ∀ name v w, (name, v) ∈ as → (name, w) ∈ bs → r v w := by
  simp only [← Members.lookup_isSome, ← Members.lookup_eq_some ha, ← Members.lookup_eq_some hb]
  rw [← forall_and]
  refine forall_congr' fun name => ?_
  cases as.lookup name <;> cases bs.lookup name <;> simp

theorem alike_of_same {a b : Value} (ha : a.UniqueNames) (hb : b.UniqueNames)
    (h : a.same b = true) : Alike a b := by
  induction a using nested_induction generalizing b with
  | null =>
    cases respelled_of_same ha hb h
    exact .null
  | bool x =>
    cases respelled_of_same ha hb h
    exact .bool x
  | number m =>
    cases respelled_of_same ha hb h with
    | number hexact => exact .number hexact
  | string s =>
    cases respelled_of_same ha hb h
    exact .string s
  | array as ih =>
    cases respelled_of_same ha hb h with
    | array hall =>
      rw [uniqueNames_array] at ha hb
      obtain ⟨hlength, helements⟩ := forall₂_iff_getElem?.mp hall
      refine .array hlength fun i v w hv hw => ?_
      have hmv := List.mem_of_getElem? hv
      exact ih v hmv (ha v hmv) (hb w (List.mem_of_getElem? hw)) (helements i v w hv hw)
  | object as ih =>
    cases respelled_of_same ha hb h with
    | object hrel =>
      rw [uniqueNames_object] at ha hb
      obtain ⟨hnames, hmembers⟩ := (rel_lookup_iff ha.1 hb.1).mp hrel
      refine .object hnames fun name v w hv hw => ?_
      exact ih _ hv (ha.2 _ hv) (hb.2 _ hw) (hmembers name v w hv hw)

theorem same_of_alike {a b : Value} (ha : a.UniqueNames) (hb : b.UniqueNames) (h : Alike a b) :
    a.same b = true := by
  induction h with
  | null => rfl
  | bool x => simp [same]
  | number hexact => exact (Number.same_iff _ _).mpr hexact
  | string s => simp [same]
  | array hlength _ ih =>
    rw [uniqueNames_array] at ha hb
    rw [same_array, forall₂_iff_getElem?]
    refine ⟨hlength, fun i v w hv hw => ?_⟩
    exact ih i v w hv hw (ha v (List.mem_of_getElem? hv)) (hb w (List.mem_of_getElem? hw))
  | object hnames _ ih =>
    rw [uniqueNames_object] at ha hb
    rw [same_object ha.1 hb.1, rel_lookup_iff ha.1 hb.1]
    refine ⟨hnames, fun name v w hv hw => ?_⟩
    exact ih name v w hv hw (ha.2 _ hv) (hb.2 _ hw)

/-- Equality of values is an equivalence, and equal are just the values that are alike. A value
equals itself also where it holds a NaN. -/
theorem same_equivalence {a b c : Value} (ha : a.UniqueNames) (hb : b.UniqueNames)
    (hc : c.UniqueNames) :
    a.same a = true ∧ (a.same b = true → b.same a = true) ∧
      (a.same b = true → b.same c = true → a.same c = true) ∧
      (a.same b = true ↔ Alike a b) :=
  ⟨same_refl ha, same_symm ha hb, same_trans ha hb hc, alike_of_same ha hb, same_of_alike ha hb⟩

/-- Three spellings of one object: the members change places, a number becomes a float and a zero
its negative, and a NaN stays a NaN. -/
theorem same_equivalence_respelled :
    let nan : Value := .number (.float .nan)
    let a : Value := .object [("n", .number (.unsigned 3)),
      ("xs", .array [nan, .number (.unsigned 0)])]
    let b : Value := .object [("xs", .array [nan, .number (.float (.ofBits 0x8000000000000000))]),
      ("n", .number (.float (.ofBits 0x4008000000000000)))]
    let c : Value := .object [("n", .number (.float (.ofBits 0x4008000000000000))),
      ("xs", .array [nan, .number (.float (.ofBits 0))])]
    a.same a = true ∧ b.same a = true ∧ a.same c = true ∧ Alike a b := by
  intro nan a b c
  have ha : a.UniqueNames := by simp [a, nan, UniqueNames, UniqueNamesIn, UniqueNamesAll]
  have hb : b.UniqueNames := by simp [b, nan, UniqueNames, UniqueNamesIn, UniqueNamesAll]
  have hc : c.UniqueNames := by simp [c, nan, UniqueNames, UniqueNamesIn, UniqueNamesAll]
  have hab : a.same b = true := by decide +kernel
  have hbc : b.same c = true := by decide +kernel
  obtain ⟨hrefl, hsymm, htrans, halike⟩ := same_equivalence ha hb hc
  exact ⟨hrefl, hsymm hab, htrans hab hbc, halike.mp hab⟩

end JsonSchema.Value
