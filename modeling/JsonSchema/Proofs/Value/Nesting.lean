import JsonSchema.Value.Basic

namespace JsonSchema

namespace Value

theorem smaller_in_array {v : Value} {elements : List Value} (h : v ∈ elements) :
    sizeOf v < sizeOf (array elements) := by
  have := List.sizeOf_lt_of_mem h
  simp only [array.sizeOf_spec]
  omega

theorem smaller_in_object {m : String × Value} {members : Members} (h : m ∈ members) :
    sizeOf m.2 < sizeOf (object members) := by
  have := List.sizeOf_lt_of_mem h
  obtain ⟨name, v⟩ := m
  simp only [Prod.mk.sizeOf_spec] at this
  simp only [object.sizeOf_spec]
  omega

/-- What holds of a value when it holds of all values directly inside it holds of every value. -/
@[elab_as_elim]
theorem nested_induction {P : Value → Prop} (null : P .null) (bool : ∀ b, P (.bool b))
    (number : ∀ n, P (.number n)) (string : ∀ s, P (.string s))
    (array : ∀ elements, (∀ v ∈ elements, P v) → P (.array elements))
    (object : ∀ members : Members, (∀ m ∈ members, P m.2) → P (.object members)) (v : Value) :
    P v := by
  match v with
  | .null => exact null
  | .bool b => exact bool b
  | .number n => exact number n
  | .string s => exact string s
  | .array elements =>
    apply array
    intro v hv
    exact nested_induction null bool number string array object v
  | .object members =>
    apply object
    intro m hm
    exact nested_induction null bool number string array object m.2
termination_by sizeOf v
decreasing_by
  · exact smaller_in_array hv
  · exact smaller_in_object hm

/-- The values that may be schemas when a value belongs to a keyword: itself, and those directly
inside it. -/
def readings (v : Value) : List Value :=
  match v with
  | .array elements => v :: elements
  | .object members => v :: members.map Prod.snd
  | _ => [v]

theorem self_mem_readings (v : Value) : v ∈ v.readings := by
  cases v <;> simp [readings]

theorem element_mem_readings {v : Value} {elements : List Value} (h : v ∈ elements) :
    v ∈ (array elements).readings :=
  List.mem_cons_of_mem _ h

theorem member_mem_readings {m : String × Value} {members : Members} (h : m ∈ members) :
    m.2 ∈ (object members).readings :=
  List.mem_cons_of_mem _ (List.mem_map_of_mem h)

theorem readings_le {v d : Value} (h : d ∈ v.readings) : sizeOf d ≤ sizeOf v := by
  cases v with
  | array elements =>
    rcases List.mem_cons.mp h with rfl | h
    · exact Nat.le_refl _
    · exact Nat.le_of_lt (smaller_in_array h)
  | object members =>
    rcases List.mem_cons.mp h with rfl | h
    · exact Nat.le_refl _
    · obtain ⟨m, hm, rfl⟩ := List.mem_map.mp h
      exact Nat.le_of_lt (smaller_in_object hm)
  | _ => exact Nat.le_of_eq (by rw [List.mem_singleton.mp h])

/-- What holds of an object when it holds of all values that its members may nest as schemas, and
holds of everything that is not an object, holds of every document. -/
@[elab_as_elim]
theorem document_induction {P : Value → Prop}
    (other : ∀ v, (∀ members, v ≠ .object members) → P v)
    (object : ∀ members : Members, (∀ m ∈ members, ∀ d ∈ m.2.readings, P d) → P (.object members))
    (v : Value) : P v := by
  match v with
  | .object members =>
    apply object
    intro m hm d hd
    exact document_induction other object d
  | .null | .bool _ | .number _ | .string _ | .array _ => exact other _ (by simp)
termination_by sizeOf v
decreasing_by exact Nat.lt_of_le_of_lt (readings_le hd) (smaller_in_object hm)

/-- A value occurs inside another one, at whatever depth; each is inside itself. -/
inductive Inside : Value → Value → Prop
  | self (v : Value) : Inside v v
  | element {v w : Value} {elements : List Value} (hw : w ∈ elements) (h : Inside v w) :
    Inside v (.array elements)
  | member {v : Value} {m : String × Value} {members : Members} (hm : m ∈ members)
    (h : Inside v m.2) : Inside v (.object members)

/-- Something holds of all values inside a value. -/
def Throughout (P : Value → Prop) (x : Value) : Prop := ∀ v, Inside v x → P v

namespace Throughout
variable {P : Value → Prop}

theorem self {x : Value} (h : x.Throughout P) : P x := h x (.self x)

theorem element {elements : List Value} (h : (array elements).Throughout P) {v : Value}
    (hv : v ∈ elements) : v.Throughout P := by
  intro w hw
  exact h w (.element hv hw)

theorem member {members : Members} (h : (object members).Throughout P) {m : String × Value}
    (hm : m ∈ members) : m.2.Throughout P := by
  intro w hw
  exact h w (.member hm hw)

theorem reading {v d : Value} (h : v.Throughout P) (hd : d ∈ v.readings) : d.Throughout P := by
  cases v with
  | array elements =>
    rcases List.mem_cons.mp hd with rfl | hd
    · exact h
    · exact h.element hd
  | object members =>
    rcases List.mem_cons.mp hd with rfl | hd
    · exact h
    · obtain ⟨m, hm, rfl⟩ := List.mem_map.mp hd
      exact h.member hm
  | _ => rwa [List.mem_singleton.mp hd]

end Throughout

section Throughout
variable {P : Value → Prop}

theorem throughout_array {elements : List Value} :
    (array elements).Throughout P ↔ P (array elements) ∧ ∀ v ∈ elements, v.Throughout P := by
  constructor
  · intro h
    exact ⟨h.self, fun v hv => h.element hv⟩
  · intro h v hv
    obtain ⟨hself, h⟩ := h
    cases hv with
    | self => exact hself
    | element hw hin => exact h _ hw v hin

theorem throughout_object {members : Members} :
    (object members).Throughout P ↔ P (object members) ∧ ∀ m ∈ members, m.2.Throughout P := by
  constructor
  · intro h
    exact ⟨h.self, fun m hm => h.member hm⟩
  · intro h v hv
    obtain ⟨hself, h⟩ := h
    cases hv with
    | self => exact hself
    | member hm hin => exact h _ hm v hin

theorem throughout_atom {v : Value} (h : v.readings = [v]) : v.Throughout P ↔ P v := by
  constructor
  · intro hv
    exact hv.self
  · intro hv w hw
    cases hw with
    | self => exact hv
    | element hw _ =>
      simp only [readings, List.cons.injEq, true_and] at h
      simp [h] at hw
    | member hm _ =>
      simp only [readings, List.cons.injEq, true_and, List.map_eq_nil_iff] at h
      simp [h] at hm

end Throughout
end Value

namespace Members
variable {members : List (String × α)}

theorem mem_of_lookup {name : String} {v : α} (h : members.lookup name = some v) :
    (name, v) ∈ members := by
  obtain ⟨before, after, he, -⟩ := List.lookup_eq_some_iff.mp h
  rw [he]
  simp

/-- With unique names, every member is the one found under its name. -/
theorem lookup_of_mem (hu : (members.map Prod.fst).Nodup) {name : String} {v : α}
    (h : (name, v) ∈ members) : members.lookup name = some v := by
  obtain ⟨before, after, he⟩ := List.mem_iff_append.mp h
  refine List.lookup_eq_some_iff.mpr ⟨before, after, he, ?_⟩
  intro p hp
  rw [he] at hu
  simp only [List.map_append, List.map_cons, List.nodup_append] at hu
  have hne := hu.2.2 p.1 (List.mem_map.mpr ⟨p, hp, rfl⟩) name (by simp)
  simpa using fun he => hne he.symm

theorem lookup_eq_some (hu : (members.map Prod.fst).Nodup) {name : String} {v : α} :
    members.lookup name = some v ↔ (name, v) ∈ members :=
  ⟨mem_of_lookup, lookup_of_mem hu⟩

theorem lookup_isSome {name : String} :
    (members.lookup name).isSome = true ↔ name ∈ members.map Prod.fst := by
  rw [List.lookup_isSome_iff, List.mem_map]
  constructor
  · intro h
    obtain ⟨p, hp, he⟩ := h
    exact ⟨p, hp, (by simpa using he : name = p.1).symm⟩
  · intro h
    obtain ⟨p, hp, rfl⟩ := h
    exact ⟨p, hp, by simp⟩

end Members

namespace Value

theorem uniqueNamesAll_iff (elements : List Value) :
    UniqueNamesAll elements ↔ ∀ v ∈ elements, v.UniqueNames := by
  induction elements with
  | nil => simp [UniqueNamesAll]
  | cons v rest ih => simp [UniqueNamesAll, ih]

theorem uniqueNamesIn_iff (members : Members) :
    UniqueNamesIn members ↔ ∀ m ∈ members, m.2.UniqueNames := by
  induction members with
  | nil => simp [UniqueNamesIn]
  | cons m rest ih => simp [UniqueNamesIn, ih]

theorem uniqueNames_array {elements : List Value} :
    (array elements).UniqueNames ↔ ∀ v ∈ elements, v.UniqueNames := by
  rw [UniqueNames, uniqueNamesAll_iff]

theorem uniqueNames_object {members : Members} :
    (object members).UniqueNames ↔
      (members.map Prod.fst).Nodup ∧ ∀ m ∈ members, m.2.UniqueNames := by
  rw [UniqueNames, uniqueNamesIn_iff]

end Value
end JsonSchema
