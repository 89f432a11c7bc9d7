import JsonSchema.Json.Reader
import JsonSchema.Unicode.Derived
import JsonSchema.Proofs.Json.Numeral

namespace JsonSchema
namespace Json

def IsSpace (c : Char) : Prop := c = ' ' ∨ c = '\t' ∨ c = '\n' ∨ c = '\r'

instance (c : Char) : Decidable (IsSpace c) :=
  inferInstanceAs (Decidable (c = ' ' ∨ c = '\t' ∨ c = '\n' ∨ c = '\r'))

theorem start_space_iff {c : Char} : start c = .space ↔ IsSpace c := by
  constructor
  · fun_cases start c with
    | case1 hc => simpa [IsSpace, or_assoc] using hc
    | _ => intro hc; cases hc
  · rintro (rfl | rfl | rfl | rfl) <;> rfl

theorem beginWith_space {c : Char} (h : IsSpace c) (next : Reading → List Token) :
    beginWith c next = next .between := by
  rw [beginWith, start_space_iff.mpr h]

theorem tokensFrom_between_cons (c : Char) (rest : List Char) :
    tokensFrom .between (c :: rest) = beginWith c (tokensFrom · rest) := rfl

def Reading.Unspaced : Reading → Prop
  | .word letters _ => ∀ c ∈ letters, ¬ IsSpace c
  | _ => True

theorem word_of_start {c : Char} {letters : List Char} {token : Token} :
    start c = .reading (.word letters token) →
      letters ∈ [['u', 'l', 'l'], ['r', 'u', 'e'], ['a', 'l', 's', 'e']] := by
  fun_cases start c with
  | case12 => rintro ⟨⟩; decide
  | case13 => rintro ⟨⟩; decide
  | case14 => rintro ⟨⟩; decide
  | _ => intro hc; cases hc

theorem unspaced_of_start {c : Char} {r : Reading} (h : start c = .reading r) : r.Unspaced := by
  have hwords : ∀ letters ∈ [['u', 'l', 'l'], ['r', 'u', 'e'], ['a', 'l', 's', 'e']],
      ∀ c ∈ letters, ¬ IsSpace c := by simp [IsSpace]
  cases r with
  | word letters token => exact hwords letters (word_of_start h)
  | _ => trivial

theorem beginWith_congr {c : Char} {next other : Reading → List Token}
    (h : ∀ r : Reading, r.Unspaced → next r = other r) : beginWith c next = beginWith c other := by
  unfold beginWith
  cases hc : start c with
  | space => exact h .between trivial
  | token t => exact congrArg (t :: ·) (h .between trivial)
  | reading r => exact h r (unspaced_of_start hc)
  | malformed => rfl

theorem NumberPart.of_space {c : Char} (h : IsSpace c) (part : NumberPart) :
    part.next? c = none ∧ part.endsBefore (some c) = part.endsBefore none := by
  rcases h with rfl | rfl | rfl | rfl
  all_goals cases part <;> exact ⟨rfl, rfl⟩

theorem Quoted.step_space {c : Char} (h : IsSpace c) (q : Quoted) :
    q.step c = .malformed ∨ ∃ next, q.step c = .more next := by
  unfold step
  rcases h with rfl | rfl | rfl | rfl
  all_goals cases q.part <;> simp [escaped?, hexValue?]

/-- A space behind everything else is not seen. -/
theorem tokensFrom_space {c : Char} (hc : IsSpace c) {r : Reading} (hr : r.Unspaced)
    (cs : List Char) : tokensFrom r (cs ++ [c]) = tokensFrom r cs := by
  induction cs generalizing r with
  | nil =>
    rw [List.nil_append]
    cases r with
    | between => rw [tokensFrom_between_cons, beginWith_space hc]
    | word letters token =>
      cases letters with
      | nil => rfl
      | cons letter more =>
        have hne : c ≠ letter := fun he => hr letter List.mem_cons_self (he ▸ hc)
        cases more <;> simp [tokensFrom, hne]
    | number part reversed =>
      obtain ⟨hnext, hend⟩ := NumberPart.of_space hc part
      simp only [tokensFrom, hnext, hend, beginWith_space hc]
    | string q =>
      rcases q.step_space hc with hq | ⟨next, hq⟩
      all_goals simp only [tokensFrom, hq]
  | cons d rest ih =>
    have hbegin := beginWith_congr (c := d) fun r hr => ih (r := r) hr
    rw [List.cons_append]
    cases r with
    | between => exact hbegin
    | word letters token =>
      have hmore : ∀ letter more, letters = letter :: more →
          tokensFrom (.word more token) (rest ++ [c]) = tokensFrom (.word more token) rest := by
        rintro letter more rfl
        exact ih fun l hl => hr l (List.mem_cons_of_mem _ hl)
      have hbetween := ih (r := .between) trivial
      cases letters with
      | nil => rfl
      | cons letter more =>
        cases more with
        | nil => simp only [tokensFrom, hbetween]
        | cons next more => simp only [tokensFrom, hmore letter (next :: more) rfl]
    | number part reversed =>
      have hnext : ∀ next, tokensFrom (.number next (d :: reversed)) (rest ++ [c]) =
          tokensFrom (.number next (d :: reversed)) rest := fun next => ih trivial
      simp only [tokensFrom, hnext, hbegin]
    | string q =>
      have hnext : ∀ next, tokensFrom (.string next) (rest ++ [c]) =
          tokensFrom (.string next) rest := fun next => ih trivial
      have hbetween := ih (r := .between) trivial
      simp only [tokensFrom, hnext, hbetween]

theorem start_ne_between (c : Char) : start c ≠ .reading .between := by
  fun_cases start c <;> simp

/-- What has been started becomes a token or is malformed. -/
theorem tokensFrom_ne_nil {r : Reading} (hr : r ≠ .between) (cs : List Char) :
    tokensFrom r cs ≠ [] := by
  induction cs generalizing r with
  | nil =>
    cases r with
    | between => exact absurd rfl hr
    | number part reversed => simp only [tokensFrom]; split <;> simp
    | _ => simp [tokensFrom]
  | cons c rest ih =>
    cases r with
    | between => exact absurd rfl hr
    | word letters token =>
      cases letters with
      | nil => simp [tokensFrom]
      | cons letter more =>
        cases more with
        | nil =>
          simp only [tokensFrom]
          split <;> simp
        | cons next more =>
          simp only [tokensFrom]
          split
          · exact ih (by simp)
          · simp
    | number part reversed =>
      simp only [tokensFrom]
      split
      · exact ih (by simp)
      · split <;> simp
    | string q =>
      simp only [tokensFrom]
      split
      · exact ih (by simp)
      · simp
      · simp

theorem tokensFrom_between_ne_nil {c : Char} (h : ¬ IsSpace c) (rest : List Char) :
    tokensFrom .between (c :: rest) ≠ [] := by
  rw [tokensFrom_between_cons, beginWith]
  cases hc : start c with
  | space => exact absurd (start_space_iff.mp hc) h
  | token t => simp
  | reading r => exact tokensFrom_ne_nil (fun he => start_ne_between c (he ▸ hc)) rest
  | malformed => simp

/-- A text has no tokens just when it holds nothing but space. -/
theorem tokensFrom_eq_nil_iff {cs : List Char} :
    tokensFrom .between cs = [] ↔ ∀ c ∈ cs, IsSpace c := by
  induction cs with
  | nil => simp [tokensFrom]
  | cons c rest ih =>
    rw [List.forall_mem_cons]
    by_cases hc : IsSpace c
    · rw [tokensFrom_between_cons, beginWith_space hc, ih]
      simp [hc]
    · simp [hc, tokensFrom_between_ne_nil hc]

theorem separator_ranges : Unicode.separator.ranges = [(0x20, 0x20), (0xa0, 0xa0), (0x1680, 0x1680),
    (0x2000, 0x200a), (0x2028, 0x2029), (0x202f, 0x202f), (0x205f, 0x205f), (0x3000, 0x3000)] := by
  have hparts : [Unicode.spaceSeparator, Unicode.lineSeparator, Unicode.paragraphSeparator].flatMap
      CharSet.ranges = [(0x20, 0x20), (0xa0, 0xa0), (0x1680, 0x1680), (0x2000, 0x200a),
        (0x202f, 0x202f), (0x205f, 0x205f), (0x3000, 0x3000), (0x2028, 0x2028),
        (0x2029, 0x2029)] := by decide +kernel
  simp [Unicode.separator, CharSet.unionAll, hparts, CharSet.ofRanges, List.mergeSort,
    List.MergeSort.Internal.splitInTwo, CharSet.joinFrom]

theorem whiteSpace_ranges : Unicode.whiteSpace.ranges = [(0x9, 0xd), (0x20, 0x20), (0x85, 0x85),
    (0xa0, 0xa0), (0x1680, 0x1680), (0x2000, 0x200a), (0x2028, 0x2029), (0x202f, 0x202f),
    (0x205f, 0x205f), (0x3000, 0x3000)] := by
  simp [Unicode.whiteSpace, CharSet.unionAll, separator_ranges, CharSet.range, CharSet.ofRanges,
    List.mergeSort, List.MergeSort.Internal.splitInTwo, CharSet.joinFrom]

theorem IsSpace.whiteSpace {c : Char} (h : IsSpace c) : Unicode.whiteSpace.contains c = true := by
  rw [CharSet.contains, CharSet.containsPoint, whiteSpace_ranges]
  rcases h with rfl | rfl | rfl | rfl <;> rfl

/-- No token starts with white space of any kind. -/
theorem start_whiteSpace {c : Char} (h : Unicode.whiteSpace.contains c = true) :
    start c = .space ∨ start c = .malformed := by
  have hbounds : c.toNat ≤ 0x20 ∨ 0x85 ≤ c.toNat := by
    rw [CharSet.contains, CharSet.containsPoint, whiteSpace_ranges] at h
    simp only [CharSet.within, Bool.and_eq_true, Bool.or_eq_true, decide_eq_true_eq] at h
    omega
  have hdigit : c.isDigit = false := by
    rw [← Bool.not_eq_true]
    intro hd
    exact of_isDigit (P := fun c => ¬ (c.toNat ≤ 0x20 ∨ 0x85 ≤ c.toNat)) (by decide) hd hbounds
  fun_cases start c with
  | case1 => exact .inl rfl
  | case11 => simp_all
  | case15 => exact .inr rfl
  | _ => subst_vars; exact absurd hbounds (by decide)

theorem tokensFrom_blank {cs : List Char} (h : ∀ c ∈ cs, Unicode.whiteSpace.contains c = true) :
    tokensFrom .between cs = [] ∨ tokensFrom .between cs = [.bad] := by
  induction cs with
  | nil => exact .inl rfl
  | cons c rest ih =>
    rw [List.forall_mem_cons] at h
    rw [tokensFrom_between_cons, beginWith]
    rcases start_whiteSpace h.1 with hc | hc
    · rw [hc]
      exact ih h.2
    · rw [hc]
      exact .inr rfl

end Json

open Json (IsSpace)

/-- White space of any kind is no JSON text. -/
theorem Value.parse?_blank {text : String}
    (h : ∀ c ∈ text.toList, Unicode.whiteSpace.contains c = true) : Value.parse? text = none := by
  unfold parse? Json.tokens
  rcases Json.tokensFrom_blank h with hnone | hbad
  · rw [hnone]
    rfl
  · rw [hbad]
    rfl

/-- A space at the end does not matter. -/
theorem Value.parse?_space {c : Char} (hc : IsSpace c) (cs : List Char) :
    Value.parse? (String.ofList (cs ++ [c])) = Value.parse? (String.ofList cs) := by
  unfold parse? Json.tokens
  rw [String.toList_ofList, String.toList_ofList, Json.tokensFrom_space hc (r := .between) trivial]

end JsonSchema
