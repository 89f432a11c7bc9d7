import JsonSchema.Proofs.Json.Space

namespace JsonSchema.Json

def Reading.Inside : Reading → Prop
  | .word _ token => token ≠ .closeArray
  | _ => True

theorem inside_of_start {c : Char} {r : Reading} : start c = .reading r → r.Inside := by
  fun_cases start c with
  | case12 | case13 | case14 => rintro ⟨⟩; simp [Reading.Inside]
  | case8 | case9 | case10 | case11 => rintro ⟨⟩; trivial
  | _ => intro hc; cases hc

theorem start_closeArray {c : Char} : start c = .token .closeArray → c = ']' := by
  fun_cases start c with
  | case3 => exact fun _ => ‹c = ']'›
  | _ => intro hc; cases hc

variable {read next : List Char → List Token} {used rest : List Token} {c : Char} {cs : List Char}

/-- A text is cut behind the bracket that follows some tokens: what is read up to there does not
hang on what is left. -/
def CutsAt (read : List Char → List Token) (used rest : List Token) (cs : List Char) : Prop :=
  ∃ front back, cs = front ++ ']' :: back ∧ tokensFrom .between back = rest ∧
    ∀ other, read (front ++ ']' :: other) = used ++ .closeArray :: tokensFrom .between other

namespace CutsAt

/-- The first character leads from one reading to another. -/
theorem cons (h : CutsAt next used rest cs) (hread : ∀ tail, read (c :: tail) = next tail) :
    CutsAt read used rest (c :: cs) := by
  obtain ⟨front, back, rfl, hback, hall⟩ := h
  exact ⟨c :: front, back, rfl, hback, fun other => (hread _).trans (hall other)⟩

/-- One token more comes in front. -/
theorem push (h : CutsAt next used rest cs) (t : Token) :
    CutsAt (fun cs => t :: next cs) (t :: used) rest cs := by
  obtain ⟨front, back, hcs, hback, hall⟩ := h
  exact ⟨front, back, hcs, hback, fun other => congrArg (t :: ·) (hall other)⟩

/-- Only texts that start with the same character count. -/
theorem congr (h : CutsAt next used rest (c :: cs))
    (hread : ∀ tail, read (c :: tail) = next (c :: tail)) : CutsAt read used rest (c :: cs) := by
  obtain ⟨front, back, hcs, hback, hall⟩ := h
  refine ⟨front, back, hcs, hback, fun other => ?_⟩
  have hstarts : ∃ tail, front ++ ']' :: other = c :: tail := by
    cases front with
    | nil => exact ⟨other, by rw [(List.cons.inj hcs).1]; rfl⟩
    | cons d more => exact ⟨more ++ ']' :: other, by rw [(List.cons.inj hcs).1]; rfl⟩
  obtain ⟨tail, htail⟩ := hstarts
  rw [← hall, htail, hread]

end CutsAt

theorem exists_of_cons {t : Token} {tail : List Token} (ht : t ≠ .closeArray)
    (h : t :: tail = used ++ .closeArray :: rest) :
    ∃ more, used = t :: more ∧ tail = more ++ .closeArray :: rest := by
  rcases List.cons_eq_append_iff.mp h with ⟨-, hend⟩ | hmore
  · exact absurd (List.cons.inj hend).1.symm ht
  · exact hmore

theorem mem_of_eq {all : List Token} (h : all = used ++ .closeArray :: rest) :
    Token.closeArray ∈ all := by
  simp [h]

/-- Between tokens a text is cut if what is behind its first character is, whatever is being read
there. -/
theorem between_cut
    (hbehind : ∀ {r : Reading} {used}, r.Inside → tokensFrom r cs = used ++ .closeArray :: rest →
      CutsAt (tokensFrom r) used rest cs)
    (h : tokensFrom .between (c :: cs) = used ++ .closeArray :: rest) :
    CutsAt (tokensFrom .between) used rest (c :: cs) := by
  rw [tokensFrom_between_cons, beginWith] at h
  have hread : ∀ tail, tokensFrom .between (c :: tail) = beginWith c (tokensFrom · tail) :=
    tokensFrom_between_cons c
  unfold beginWith at hread
  cases hc : start c with
  | space =>
    simp only [hc] at h hread
    exact (hbehind (r := .between) trivial h).cons hread
  | reading r =>
    simp only [hc] at h hread
    exact (hbehind (inside_of_start hc) h).cons hread
  | malformed =>
    simp only [hc] at h
    simpa using mem_of_eq h
  | token t =>
    simp only [hc] at h hread
    cases used with
    | nil =>
      obtain ⟨rfl, hrest⟩ := List.cons.inj h
      exact ⟨[], cs, by rw [start_closeArray hc]; rfl, hrest, fun other => rfl⟩
    | cons u more =>
      obtain ⟨rfl, hmore⟩ := List.cons.inj h
      exact ((hbehind (r := .between) trivial hmore).push t).cons hread

/-- Tokens end with a bracket only where the text has one. -/
theorem tokensFrom_cut {r : Reading} (hr : r.Inside)
    (h : tokensFrom r cs = used ++ .closeArray :: rest) : CutsAt (tokensFrom r) used rest cs := by
  induction cs generalizing r used with
  | nil =>
    have hmem := mem_of_eq h
    cases r with
    | number part reversed =>
      simp only [tokensFrom] at hmem
      split at hmem <;> simp [numberToken] at hmem
    | _ => simp [tokensFrom] at hmem
  | cons c tail ih =>
    have hbetween : ∀ {used}, tokensFrom .between tail = used ++ .closeArray :: rest →
        CutsAt (tokensFrom .between) used rest tail := fun h => ih (r := .between) trivial h
    cases r with
    | between => exact between_cut ih h
    | word letters token =>
      cases letters with
      | nil => simpa [tokensFrom] using mem_of_eq h
      | cons letter more =>
        cases more with
        | nil =>
          simp only [tokensFrom] at h
          split at h
          case isTrue hc =>
            obtain ⟨more, rfl, hmore⟩ := exists_of_cons hr h
            exact ((hbetween hmore).push token).cons fun tail => by rw [tokensFrom, if_pos hc]
          case isFalse => simpa using mem_of_eq h
        | cons next more =>
          simp only [tokensFrom] at h
          split at h
          case isTrue hc =>
            exact (ih (r := .word (next :: more) token) hr h).cons fun tail => by
              simp only [tokensFrom, if_pos hc]
          case isFalse => simpa using mem_of_eq h
    | number part reversed =>
      simp only [tokensFrom] at h
      split at h
      case h_1 part hnext =>
        exact (ih (r := .number part (c :: reversed)) trivial h).cons fun tail => by
          simp only [tokensFrom, hnext]
      case h_2 hnext =>
        split at h
        case isTrue hends =>
          obtain ⟨more, rfl, hmore⟩ := exists_of_cons (by simp [numberToken]) h
          exact ((between_cut ih hmore).push (numberToken reversed)).congr fun tail => by
            simp only [tokensFrom, hnext, if_pos hends]
        case isFalse => simpa using mem_of_eq h
    | string q =>
      simp only [tokensFrom] at h
      split at h
      case h_1 q' hstep =>
        exact (ih (r := .string q') trivial h).cons fun tail => by simp only [tokensFrom, hstep]
      case h_2 hstep =>
        obtain ⟨more, rfl, hmore⟩ := exists_of_cons (by simp) h
        exact ((hbetween hmore).push (.string q.content?)).cons fun tail => by
          simp only [tokensFrom, hstep]
      case h_3 => simpa using mem_of_eq h

/-- Behind a text that ends with the bracket of an array, other text is read on its own. -/
theorem tokensFrom_behind {front : List Char}
    (h : tokensFrom .between (front ++ [']']) = used ++ [.closeArray]) (other : List Char) :
    tokensFrom .between (front ++ ']' :: other) =
      used ++ .closeArray :: tokensFrom .between other := by
  obtain ⟨front', back, htext, hback, hall⟩ := tokensFrom_cut (r := .between) trivial h
  have hspace := tokensFrom_eq_nil_iff.mp hback
  obtain rfl : back = [] := by
    rcases List.eq_nil_or_concat' back with rfl | ⟨more, d, rfl⟩
    · rfl
    · -- The last character of both texts is the bracket, which is no space.
      have hends : front ++ [']'] = (front' ++ ']' :: more) ++ [d] := by simpa using htext
      obtain rfl := List.singleton_inj.mp (List.append_inj_right' hends rfl)
      exact absurd (hspace ']' (by simp)) (by decide)
  obtain rfl : front = front' := List.append_cancel_right htext
  exact hall other

end JsonSchema.Json
