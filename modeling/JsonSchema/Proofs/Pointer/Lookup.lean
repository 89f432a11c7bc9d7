import JsonSchema.Pointer
import JsonSchema.Proofs.Value.Nesting

namespace JsonSchema

namespace Text
variable {separator : Char}

theorem parts_plain {plain : List Char} (h : separator ∉ plain) :
    parts separator plain = [plain] := by
  induction plain with
  | nil => rfl
  | cons c rest ih =>
    rw [List.mem_cons, not_or] at h
    obtain ⟨hc, hrest⟩ := h
    rw [parts, if_neg (Ne.symm hc), ih hrest]

theorem parts_append {plain : List Char} (h : separator ∉ plain) (rest : List Char) :
    parts separator (plain ++ separator :: rest) = plain :: parts separator rest := by
  induction plain with
  | nil => rw [List.nil_append, parts, if_pos rfl]
  | cons c more ih =>
    rw [List.mem_cons, not_or] at h
    obtain ⟨hc, hmore⟩ := h
    rw [List.cons_append, parts, if_neg (Ne.symm hc), ih hmore]

/-- What separators join they also cut apart. -/
theorem parts_joined {first : List Char} {more : List (List Char)} (hfirst : separator ∉ first)
    (hmore : ∀ part ∈ more, separator ∉ part) :
    parts separator (first ++ more.flatMap (separator :: ·)) = first :: more := by
  induction more generalizing first with
  | nil => rw [List.flatMap_nil, List.append_nil, parts_plain hfirst]
  | cons part more ih =>
    have hpart : separator ∉ part := hmore part (by simp)
    have hrest : ∀ q ∈ more, separator ∉ q := fun q hq => hmore q (by simp [hq])
    rw [List.flatMap_cons, List.cons_append, parts_append hfirst, ih hpart hrest]

end Text

namespace Pointer

theorem unescapeChars_cons {c : Char} (h : c ≠ '~') (rest : List Char) :
    unescapeChars (c :: rest) = c :: unescapeChars rest := by
  rw [unescapeChars]
  all_goals simp [h]

theorem unescapeChars_escapeChars (segment : List Char) :
    unescapeChars (escapeChars segment) = segment := by
  fun_induction escapeChars segment with
  | case1 => rfl
  | case2 rest ih => rw [unescapeChars, ih]
  | case3 rest ih => rw [unescapeChars, ih]
  | case4 c rest hc _ ih => rw [unescapeChars_cons hc, ih]

theorem slash_not_mem_escapeChars (segment : List Char) : '/' ∉ escapeChars segment := by
  fun_induction escapeChars segment with
  | case1 => simp
  | case2 rest ih => simpa using ih
  | case3 rest ih => simpa using ih
  | case4 c rest _ hc ih => simpa using ⟨Ne.symm hc, ih⟩

theorem toList_text (segments : List String) :
    (text segments).toList =
      (segments.map fun segment => escapeChars segment.toList).flatMap ('/' :: ·) := by
  induction segments with
  | nil => rfl
  | cons segment rest ih =>
    rw [text, List.map_cons, String.join_cons, String.toList_append, List.map_cons,
      List.flatMap_cons, ← ih, text]
    simp [escape]

theorem text_cons (segment : String) (rest : List String) :
    text (segment :: rest) = "/" ++ escape segment ++ text rest := by
  rw [text, List.map_cons, String.join_cons, ← text]

theorem escapeChars_plain {segment : List Char} (h : ∀ c ∈ segment, c ≠ '~' ∧ c ≠ '/') :
    escapeChars segment = segment := by
  fun_induction escapeChars segment with
  | case1 => rfl
  | case2 rest _ => simp at h
  | case3 rest _ => simp at h
  | case4 c rest _ _ ih => rw [ih fun d hd => h d (by simp [hd])]

/-- A position has nothing to escape. -/
theorem escape_toString (i : Nat) : escape (toString i) = toString i := by
  have hplain : ∀ c ∈ (toString i).toList, c ≠ '~' ∧ c ≠ '/' := by
    intro c hc
    rw [Nat.toString_eq_repr, Nat.toList_repr] at hc
    have hdigit := Nat.isDigit_of_mem_toDigits (by decide) (by decide) hc
    constructor <;> rintro rfl <;> simp at hdigit
  rw [escape, escapeChars_plain hplain, String.ofList_toList]

theorem text_append (front back : List String) :
    text (front ++ back) = text front ++ text back := by
  rw [← String.toList_inj, String.toList_append, toList_text, toList_text, toList_text,
    List.map_append, List.flatMap_append]

/-- A pointer reads back from its text, whatever characters its segments have. -/
theorem parse?_text (segments : List String) : parse? (text segments) = some segments := by
  unfold parse?
  rw [toList_text]
  cases segments with
  | nil => rfl
  | cons segment rest =>
    have hrest : ∀ part ∈ rest.map fun s => escapeChars s.toList, '/' ∉ part := by
      simp [slash_not_mem_escapeChars]
    have hparts := Text.parts_joined (slash_not_mem_escapeChars segment.toList) hrest
    simp only [List.map_cons, List.flatMap_cons, List.cons_append, hparts]
    simp [Function.comp_def, unescapeChars_escapeChars]

theorem text_injective : Function.Injective text := by
  intro a b h
  have hparse := congrArg parse? h
  rw [parse?_text, parse?_text] at hparse
  exact Option.some.inj hparse

theorem head_toDigits {n : Nat} {rest : List Char} (h : Nat.toDigits 10 n = '0' :: rest) :
    n = 0 := by
  induction n using Nat.strongRecOn generalizing rest with
  | ind n ih =>
    rw [Nat.toDigits_eq_if (by decide)] at h
    split at h
    · simpa using (List.cons.inj h).1
    · rename_i hn
      obtain ⟨c, digits, hd⟩ := List.exists_cons_of_ne_nil (Nat.toDigits_ne_nil (n := n / 10))
      rw [hd, List.cons_append, List.cons.injEq] at h
      rw [h.1] at hd
      have := ih (n / 10) (by omega) hd
      omega

/-- A position in decimal digits is read as this position. -/
theorem index?_toString {i : Nat} (h : i < UInt64.size) : index? (toString i) = some i := by
  have hdigits : (Nat.toDigits 10 i).all Char.isDigit = true :=
    List.all_eq_true.mpr fun c hc => Nat.isDigit_of_mem_toDigits (by decide) (by decide) hc
  have hvalue := Nat.ofDigitChars_toDigits (b := 10) (n := i) (by decide) (by decide)
  rw [Nat.ofDigitChars_eq_foldl] at hvalue
  unfold index?
  rw [Nat.toString_eq_repr, Nat.toList_repr]
  split
  · rename_i hnil
    exact absurd hnil Nat.toDigits_ne_nil
  · rename_i hzero
    rw [head_toDigits hzero] at hzero
    simp at hzero
  · rw [if_pos hdigits, hvalue, if_pos h]

/-- A step into a value: to the member of a name or to the element at a position. -/
inductive Step
  | member (name : String)
  | element (i : Nat)
  deriving DecidableEq

/-- The segment that a step is written as. Different steps may share a segment. -/
def Step.segment : Step → String
  | .member name => name
  | .element i => toString i

/-- The value that a step leads to. Members are in objects only, and elements in arrays. -/
def Step.enter? (step : Step) (v : Value) : Option Value :=
  match step, v with
  | .member name, v => v.get? name
  | .element i, .array elements => elements[i]?
  | _, _ => none

def follow? (v : Value) : List Step → Option Value
  | [] => some v
  | step :: rest => (step.enter? v).bind (follow? · rest)

theorem follow?_append (v : Value) (steps more : List Step) :
    follow? v (steps ++ more) = (follow? v steps).bind (follow? · more) := by
  induction steps generalizing v with
  | nil => rfl
  | cons step rest ih =>
    rw [List.cons_append, follow?, follow?]
    cases step.enter? v with
    | none => rfl
    | some w => exact ih w

end Pointer

/-- No array inside has more elements than the machine's words can number, and none that fits into
memory does. -/
def Value.Indexable (x : Value) : Prop :=
  x.Throughout fun v => ∀ elements, v = .array elements → elements.length ≤ UInt64.size

namespace Pointer

theorem enter?_indexable {v y : Value} {step : Step} (hv : v.Indexable)
    (h : step.enter? v = some y) : y.Indexable := by
  cases step with
  | member name =>
    cases v with
    | object members => exact hv.member (Members.mem_of_lookup h)
    | _ => cases h
  | element i =>
    cases v with
    | array elements => exact hv.element (List.mem_of_getElem? h)
    | _ => cases h

/-- A step leads where its segment does. -/
theorem step?_of_enter? {v y : Value} {step : Step} (hv : v.Indexable)
    (h : step.enter? v = some y) : step? v step.segment = some y := by
  cases step with
  | member name =>
    cases v with
    | object members => exact h
    | _ => cases h
  | element i =>
    cases v with
    | array elements =>
      obtain ⟨hi, -⟩ := List.getElem?_eq_some_iff.mp h
      have hindex := index?_toString (Nat.lt_of_lt_of_le hi (hv.self elements rfl))
      rw [Step.segment, step?, hindex]
      exact h
    | _ => cases h

theorem find?_of_follow? {v y : Value} {steps : List Step} (hv : v.Indexable)
    (h : follow? v steps = some y) : find? v (steps.map Step.segment) = some y := by
  induction steps generalizing v with
  | nil => exact h
  | cons step rest ih =>
    obtain ⟨w, hw, hrest⟩ := Option.bind_eq_some_iff.mp h
    rw [List.map_cons, find?, step?_of_enter? hv hw]
    exact ih (enter?_indexable hv hw) hrest

/-- The text of steps selects what they lead to. -/
theorem find?_text {v y : Value} {steps : List Step} (hv : v.Indexable)
    (h : follow? v steps = some y) :
    (parse? (text (steps.map Step.segment))).bind (find? v) = some y := by
  rw [parse?_text, Option.bind_some, find?_of_follow? hv h]

end Pointer
end JsonSchema
