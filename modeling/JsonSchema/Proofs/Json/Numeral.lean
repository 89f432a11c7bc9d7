import JsonSchema.Json.Token
import JsonSchema.Proofs.Pointer.Lookup
import Mathlib.Data.Fintype.Basic
import Mathlib.Tactic.FinCases

namespace JsonSchema.Json

structure Exponent where
  mark : Char
  sign : List Char
  digits : List Char
  isMark : mark = 'e' ∨ mark = 'E'
  isSign : sign = [] ∨ sign = ['+'] ∨ sign = ['-']
  digits_ne_nil : digits ≠ []
  isDigit : ∀ c ∈ digits, c.isDigit = true

def Exponent.chars (e : Exponent) : List Char := e.mark :: (e.sign ++ e.digits)

structure Numeral where
  negative : Bool
  whole : List Char
  /-- The digits behind the point. There is no point without any. -/
  fraction : List Char
  exponent : Option Exponent
  whole_ne_nil : whole ≠ []
  whole_isDigit : ∀ c ∈ whole, c.isDigit = true
  leading_zero : ∀ rest, whole = '0' :: rest → rest = []
  fraction_isDigit : ∀ c ∈ fraction, c.isDigit = true

namespace Numeral

def fractionChars (n : Numeral) : List Char :=
  if n.fraction = [] then [] else '.' :: n.fraction

def exponentChars (n : Numeral) : List Char :=
  n.exponent.elim [] Exponent.chars

def magnitude (n : Numeral) : List Char :=
  n.whole ++ (n.fractionChars ++ n.exponentChars)

def chars (n : Numeral) : List Char :=
  if n.negative then '-' :: n.magnitude else n.magnitude

end Numeral

/-- What holds of the ten digits holds of every character that is a digit. -/
theorem of_isDigit {P : Char → Prop} (h : ∀ d : Fin 10, P (Nat.digitChar d)) {c : Char}
    (hc : c.isDigit = true) : P c := by
  obtain ⟨hlow, hhigh⟩ : 48 ≤ c.toNat ∧ c.toNat ≤ 57 := by
    simp only [Char.isDigit, Bool.and_eq_true, decide_eq_true_eq, UInt32.le_iff_toNat_le] at hc
    exact hc
  have hd : Nat.digitChar (c.toNat - 48) = c := by
    apply Char.toNat_inj.mp
    rw [Nat.toNat_digitChar_of_lt_ten (by omega)]
    omega
  rw [← hd]
  exact h ⟨c.toNat - 48, by omega⟩

/-- Whether a literal cannot go on with what follows it. -/
def Delimited (rest : List Char) : Prop :=
  ∀ c ∈ rest.head?, c.isDigit = false ∧ c ≠ '.' ∧ c ≠ 'e' ∧ c ≠ 'E'

theorem Delimited.nil : Delimited [] := by simp [Delimited]

namespace NumberPart

def after? (part : NumberPart) (cs : List Char) : Option NumberPart :=
  cs.foldlM next? part

theorem after?_append (part : NumberPart) (cs more : List Char) :
    part.after? (cs ++ more) = (part.after? cs).bind (·.after? more) :=
  List.foldlM_append

/-- Digits lead to a part that the first of them leads to and that each goes on with. -/
theorem after?_digits {part next : NumberPart} {cs : List Char} (hne : cs ≠ [])
    (hcs : ∀ c ∈ cs, c.isDigit = true)
    (hfirst : ∀ c, c.isDigit = true → part.next? c = some next)
    (hmore : ∀ c, c.isDigit = true → next.next? c = some next) :
    part.after? cs = some next := by
  induction cs generalizing part with
  | nil => exact absurd rfl hne
  | cons c rest ih =>
    have hc := hfirst c (hcs c List.mem_cons_self)
    change (part.next? c).bind (·.after? rest) = _
    rw [hc, Option.bind_some]
    by_cases hrest : rest = []
    · rw [hrest]
      rfl
    · exact ih hrest (fun d hd => hcs d (List.mem_cons_of_mem _ hd)) hmore

def leading (c : Char) : NumberPart := if c = '0' then .zero else .whole

theorem minus_next? {c : Char} (h : c.isDigit = true) : minus.next? c = some (leading c) := by
  by_cases hc : c = '0' <;> simp [next?, leading, hc, h]

theorem start_digit {c : Char} (h : c.isDigit = true) :
    start c = .reading (.number (leading c) [c]) := by
  refine of_isDigit (P := fun c => start c = .reading (.number (leading c) [c])) ?_ h
  intro d
  fin_cases d <;> rfl

theorem next?_of_delimited {part : NumberPart} (hend : part.endsBefore none = true) {c : Char}
    {rest : List Char} (h : Delimited (c :: rest)) :
    part.next? c = none ∧ part.endsBefore (some c) = true := by
  obtain ⟨hdigit, hpoint, hsmall, hcapital⟩ := h c (by simp)
  cases part <;> simp_all [next?, next?.afterWhole, next?.afterFraction, endsBefore]

end NumberPart

section Tokens
open NumberPart

theorem tokensFrom_after {part next : NumberPart} {cs : List Char} (h : part.after? cs = some next)
    (reversed rest : List Char) :
    tokensFrom (.number part reversed) (cs ++ rest) =
      tokensFrom (.number next (cs.reverse ++ reversed)) rest := by
  induction cs generalizing part reversed with
  | nil =>
    cases h
    rfl
  | cons c more ih =>
    obtain ⟨between, hc, hmore⟩ := Option.bind_eq_some_iff.mp h
    rw [List.cons_append, tokensFrom, hc]
    simp only
    rw [ih hmore, List.reverse_cons, List.append_assoc, List.singleton_append]

theorem tokensFrom_end {part : NumberPart} (hend : part.endsBefore none = true)
    {rest : List Char} (hrest : Delimited rest) (reversed : List Char) :
    tokensFrom (.number part reversed) rest =
      numberToken reversed :: tokensFrom .between rest := by
  cases rest with
  | nil => simp [tokensFrom, hend]
  | cons c rest =>
    obtain ⟨hnext, hend⟩ := next?_of_delimited hend hrest
    simp [tokensFrom, hnext, hend]

end Tokens

namespace Numeral
open NumberPart

theorem after?_whole (n : Numeral) :
    ∃ c, n.whole.head? = some c ∧ minus.after? n.whole = some (leading c) := by
  obtain ⟨c, rest, hw⟩ := List.exists_cons_of_ne_nil n.whole_ne_nil
  have hdigit := n.whole_isDigit
  rw [hw] at hdigit ⊢
  refine ⟨c, rfl, ?_⟩
  change (minus.next? c).bind (·.after? rest) = _
  rw [minus_next? (hdigit c List.mem_cons_self), Option.bind_some]
  by_cases hc : c = '0'
  · have hrest := n.leading_zero rest (by rw [hw, hc])
    rw [hrest]
    rfl
  · by_cases hrest : rest = []
    · rw [hrest]
      rfl
    · have hl : leading c = .whole := if_neg hc
      rw [hl]
      exact after?_digits hrest (fun d hd => hdigit d (List.mem_cons_of_mem _ hd))
        (fun c hc => by simp [next?, hc]) (fun c hc => by simp [next?, hc])

theorem after?_fraction (n : Numeral) {part : NumberPart} (h : part.next? '.' = some .point) :
    part.after? n.fractionChars = some (if n.fraction = [] then part else .fraction) := by
  by_cases hf : n.fraction = []
  · simp [fractionChars, hf, after?]
  · rw [fractionChars, if_neg hf, if_neg hf]
    change (part.next? '.').bind (·.after? n.fraction) = _
    rw [h, Option.bind_some]
    exact after?_digits hf n.fraction_isDigit
      (fun c hc => by simp [next?, hc]) (fun c hc => by simp [next?, hc])

theorem after?_exponent (e : Exponent) {part : NumberPart}
    (h : ∀ c, c = 'e' ∨ c = 'E' → part.next? c = some .mark) :
    part.after? e.chars = some .exponent := by
  change (part.next? e.mark).bind (·.after? (e.sign ++ e.digits)) = _
  have hdigits : ∀ part : NumberPart, (∀ c, c.isDigit = true → part.next? c = some .exponent) →
      part.after? e.digits = some .exponent := fun part hpart =>
    after?_digits e.digits_ne_nil e.isDigit hpart fun c hc => by simp [next?, hc]
  rw [h e.mark e.isMark, Option.bind_some, after?_append]
  have hsign : NumberPart.mark.after? e.sign = some .mark ∨
      NumberPart.mark.after? e.sign = some .sign := by
    rcases e.isSign with hs | hs | hs <;> rw [hs]
    · exact .inl rfl
    · exact .inr rfl
    · exact .inr rfl
  rcases hsign with hs | hs <;> rw [hs, Option.bind_some]
  · refine hdigits _ fun c hc => ?_
    have hne : c ≠ '+' ∧ c ≠ '-' := of_isDigit (P := fun c => c ≠ '+' ∧ c ≠ '-') (by decide) hc
    simp [next?, hc, hne]
  · exact hdigits _ fun c hc => by simp [next?, hc]

/-- A literal without its sign leads to a part where literals may end. -/
theorem after?_magnitude (n : Numeral) :
    ∃ part, minus.after? n.magnitude = some part ∧ part.endsBefore none = true := by
  obtain ⟨c, -, hw⟩ := n.after?_whole
  have hpoint : (leading c).next? '.' = some .point := by
    unfold leading
    split <;> rfl
  have hmark : ∀ part ∈ [leading c, .fraction], ∀ c, c = 'e' ∨ c = 'E' →
      part.next? c = some .mark := by
    unfold leading
    intro part hpart c hc
    split at hpart <;> fin_cases hpart <;> rcases hc with rfl | rfl <;> rfl
  rw [magnitude, after?_append, hw, Option.bind_some, after?_append, n.after?_fraction hpoint,
    Option.bind_some]
  unfold exponentChars
  cases n.exponent with
  | none =>
    refine ⟨_, rfl, ?_⟩
    unfold leading
    split_ifs <;> rfl
  | some e =>
    refine ⟨_, after?_exponent e (hmark _ ?_), rfl⟩
    split <;> simp

/-- A literal is one token, if what follows it cannot go on with it. -/
theorem tokensFrom_chars (n : Numeral) {rest : List Char} (hrest : Delimited rest) :
    tokensFrom .between (n.chars ++ rest) =
      .number (numberOfLiteral? n.chars) :: tokensFrom .between rest := by
  obtain ⟨part, hpart, hend⟩ := n.after?_magnitude
  unfold chars
  split
  · rw [List.cons_append]
    change tokensFrom (.number .minus ['-']) _ = _
    rw [tokensFrom_after hpart, tokensFrom_end hend hrest, numberToken]
    simp
  · obtain ⟨c, more, hw⟩ := List.exists_cons_of_ne_nil n.whole_ne_nil
    have hc := n.whole_isDigit c (by rw [hw]; exact List.mem_cons_self)
    have hm : n.magnitude = c :: (more ++ (n.fractionChars ++ n.exponentChars)) := by
      rw [magnitude, hw, List.cons_append]
    rw [hm] at hpart ⊢
    obtain ⟨first, hfirst, hmore⟩ := Option.bind_eq_some_iff.mp hpart
    rw [minus_next? hc] at hfirst
    cases hfirst
    rw [List.cons_append, tokensFrom, beginWith, start_digit hc]
    simp only
    rw [tokensFrom_after hmore, tokensFrom_end hend hrest, numberToken]
    simp

theorem magnitude_ne_minus (n : Numeral) (rest : List Char) : n.magnitude ≠ '-' :: rest := by
  obtain ⟨c, more, hw⟩ := List.exists_cons_of_ne_nil n.whole_ne_nil
  have hc := n.whole_isDigit c (by rw [hw]; exact List.mem_cons_self)
  rw [magnitude, hw]
  rintro h
  rw [(List.cons.inj h).1] at hc
  cases hc

/-- The number of a literal is told from its sign and from what stands behind it. -/
theorem numberOfLiteral?_chars (n : Numeral) :
    numberOfLiteral? n.chars =
      if n.magnitude.all Char.isDigit && !n.negative && digitsValue n.magnitude < UInt64.size then
        some (.unsigned (digitsValue n.magnitude).toUInt64)
      else if n.magnitude.all Char.isDigit && n.negative && 0 < digitsValue n.magnitude
          && digitsValue n.magnitude ≤ 0x8000000000000000 then
        some (.signed (-(digitsValue n.magnitude : Int)).toInt64)
      else (magnitude? n.magnitude).map fun x => .float (if n.negative then -x else x) := by
  unfold chars numberOfLiteral?
  cases n.negative with
  | true => rfl
  | false =>
    simp only [Bool.false_eq_true, if_false]
    split
    · rename_i rest h
      exact absurd h (n.magnitude_ne_minus rest)
    · simp

def ofNat (negative : Bool) (m : Nat) : Numeral where
  negative := negative
  whole := Nat.toDigits 10 m
  fraction := []
  exponent := none
  whole_ne_nil := Nat.toDigits_ne_nil
  whole_isDigit _ hc := Nat.isDigit_of_mem_toDigits (by decide) (by decide) hc
  leading_zero rest h := by
    rw [Pointer.head_toDigits h] at h
    simpa using h.symm
  fraction_isDigit := by simp

theorem magnitude_ofNat (negative : Bool) (m : Nat) :
    (ofNat negative m).magnitude = Nat.toDigits 10 m := by
  simp [magnitude, fractionChars, exponentChars, ofNat]

theorem digitsValue_toDigits (m : Nat) : digitsValue (Nat.toDigits 10 m) = m := by
  have hvalue := Nat.ofDigitChars_toDigits (b := 10) (n := m) (by decide) (by decide)
  rwa [Nat.ofDigitChars_eq_foldl] at hvalue

theorem all_isDigit_toDigits (m : Nat) : (Nat.toDigits 10 m).all Char.isDigit = true :=
  List.all_eq_true.mpr fun _ hc => Nat.isDigit_of_mem_toDigits (by decide) (by decide) hc

theorem chars_ofNat (m : Nat) : (ofNat false m).chars = (toString m).toList := by
  change (ofNat false m).magnitude = _
  rw [magnitude_ofNat, Nat.toString_eq_repr, Nat.toList_repr]

theorem chars_ofNat_negative {i : Int} (h : i < 0) :
    (ofNat true i.natAbs).chars = (toString i).toList := by
  obtain ⟨m, rfl⟩ := Int.eq_negSucc_of_lt_zero h
  change '-' :: (ofNat true (m + 1)).magnitude = ("-" ++ toString (m + 1)).toList
  rw [magnitude_ofNat, String.toList_append, Nat.toString_eq_repr, Nat.toList_repr]
  rfl

theorem numberOfLiteral?_unsigned (n : UInt64) :
    numberOfLiteral? (ofNat false n.toNat).chars = some (.unsigned n) := by
  rw [numberOfLiteral?_chars, magnitude_ofNat, digitsValue_toDigits, all_isDigit_toDigits]
  simp [ofNat, n.toNat_lt]

theorem numberOfLiteral?_signed {i : Int64} (h : i.toInt < 0) :
    numberOfLiteral? (ofNat true i.toInt.natAbs).chars = some (.signed i) := by
  have hlow := i.le_toInt
  rw [numberOfLiteral?_chars, magnitude_ofNat, digitsValue_toDigits, all_isDigit_toDigits]
  have hback : (-((i.toInt.natAbs : Nat) : Int)).toInt64 = i := by
    rw [show -((i.toInt.natAbs : Nat) : Int) = i.toInt by omega]
    exact i.ofInt_toInt
  have hfits : 0 < i.toInt.natAbs ∧ i.toInt.natAbs ≤ 0x8000000000000000 := by omega
  rw [hback, if_neg (by simp [ofNat]), if_pos]
  simpa only [ofNat, Bool.and_eq_true, Bool.true_and, decide_eq_true_eq] using hfits

end Numeral
end JsonSchema.Json
