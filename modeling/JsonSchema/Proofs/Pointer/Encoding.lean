import JsonSchema.Proofs.Pointer.Lookup

namespace JsonSchema

namespace Text

def replace (old : Char) (new : List Char) (text : List Char) : List Char :=
  text.flatMap fun c => if c = old then new else [c]

/-- A text with two characters in a row replaced by one, from the front on. -/
def contract (first second new : Char) : List Char → List Char
  | c :: d :: rest =>
    if c = first ∧ d = second then new :: contract first second new rest
    else c :: contract first second new (d :: rest)
  | short => short

theorem replace_cons (old : Char) (new : List Char) (c : Char) (rest : List Char) :
    replace old new (c :: rest) = (if c = old then new else [c]) ++ replace old new rest := by
  rw [replace, List.flatMap_cons, ← replace]

section Contract
variable {first second new : Char}

theorem contract_pair (rest : List Char) :
    contract first second new (first :: second :: rest) =
      new :: contract first second new rest := by
  rw [contract, if_pos ⟨rfl, rfl⟩]

theorem contract_cons {c : Char} {rest : List Char}
    (h : c = first → rest.head? ≠ some second) :
    contract first second new (c :: rest) = c :: contract first second new rest := by
  cases rest with
  | nil => rfl
  | cons d more =>
    rw [contract, if_neg]
    rintro ⟨hc, rfl⟩
    exact h hc rfl

/-- A text starts as it did before or with what is new in it. -/
theorem head?_contract {c : Char} {text : List Char}
    (h : (contract first second new text).head? = some c) : text.head? = some c ∨ c = new := by
  fun_cases contract first second new text with
  | case1 d e rest hpair =>
    rw [contract, if_pos hpair] at h
    exact .inr (Option.some.inj h).symm
  | case2 d e rest hpair =>
    rw [contract, if_neg hpair] at h
    exact .inl h
  | case3 =>
    rename_i hshort
    rw [contract] at h
    · exact .inl h
    · exact hshort

end Contract

end Text

namespace Pointer
open Text (replace contract)

def encoded (segment : String) : String :=
  String.ofList (replace '/' ['~', '1'] (replace '~' ['~', '0'] segment.toList))

def decoded (part : List Char) : String :=
  String.ofList (contract '~' '0' '~' (contract '~' '1' '/' part))

def extend (path : String) (segments : List String) : String :=
  segments.foldl (fun path segment => path ++ "/" ++ encoded segment) path

theorem escapeChars_eq (segment : List Char) :
    escapeChars segment = replace '/' ['~', '1'] (replace '~' ['~', '0'] segment) := by
  fun_induction escapeChars segment with
  | case1 => rfl
  | case2 rest ih => simp [Text.replace_cons, ih]
  | case3 rest ih => simp [Text.replace_cons, ih]
  | case4 c rest htilde hslash ih =>
    rw [Text.replace_cons, if_neg htilde, List.singleton_append, Text.replace_cons, if_neg hslash,
      List.singleton_append, ih]

theorem escape_eq (segment : String) : escape segment = encoded segment := by
  rw [escape, escapeChars_eq, encoded]

/-- Reading an escaped segment in one go is the same as two replacements, also in parts that no
segment is written as. A slash that the first replacement puts behind a tilde makes no pair for the
second. -/
theorem unescapeChars_eq (part : List Char) :
    unescapeChars part = contract '~' '0' '~' (contract '~' '1' '/' part) := by
  fun_induction unescapeChars part with
  | case1 rest ih =>
    rw [Text.contract_pair, Text.contract_cons (by simp), ih]
  | case2 rest ih =>
    have hzero : contract '~' '1' '/' ('0' :: rest) = '0' :: contract '~' '1' '/' rest :=
      Text.contract_cons (by simp)
    rw [Text.contract_cons (by simp), hzero, Text.contract_pair, ih]
  | case3 c rest hslash htilde ih =>
    have hone : c = '~' → rest.head? ≠ some '1' := by
      intro hc h
      obtain ⟨more, rfl⟩ := List.head?_eq_some_iff.mp h
      exact hslash more hc rfl
    have hzero : c = '~' → (contract '~' '1' '/' rest).head? ≠ some '0' := by
      intro hc h
      rcases Text.head?_contract h with h | h
      · obtain ⟨more, rfl⟩ := List.head?_eq_some_iff.mp h
        exact htilde more hc rfl
      · simp at h
    rw [Text.contract_cons hone, Text.contract_cons hzero, ih]
  | case4 => rfl

theorem decoded_escapeChars (segment : String) :
    decoded (escapeChars segment.toList) = segment := by
  rw [decoded, ← unescapeChars_eq, unescapeChars_escapeChars, String.ofList_toList]

/-- The parts of a pointer between its slashes. The first one is empty, since a pointer starts with
a slash if it has any. -/
theorem parts_text (segments : List String) :
    Text.parts '/' (text segments).toList =
      [] :: segments.map fun segment => escapeChars segment.toList := by
  have hparts : ∀ part ∈ segments.map fun segment => escapeChars segment.toList, '/' ∉ part := by
    simp [slash_not_mem_escapeChars]
  rw [toList_text]
  exact Text.parts_joined List.not_mem_nil hparts

theorem map_decoded (segments : List String) :
    (segments.map fun segment => escapeChars segment.toList).map decoded = segments := by
  simp [Function.comp_def, decoded_escapeChars]

theorem extend_eq (path : String) (segments : List String) :
    extend path segments = path ++ text segments := by
  induction segments generalizing path with
  | nil => simp [extend, text]
  | cons segment rest ih =>
    rw [extend, List.foldl_cons, ← extend, ih, text_cons, escape_eq, String.append_assoc,
      String.append_assoc, String.append_assoc]

end Pointer
end JsonSchema
