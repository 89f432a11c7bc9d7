import JsonSchema.Json.Token
import JsonSchema.Value.Text
import Mathlib.Data.Fintype.Basic

namespace JsonSchema.Json

open Value (escapeChar hexDigit quoted)

theorem hexValue?_hexDigit {n : Nat} (h : n < 16) : Quoted.hexValue? (hexDigit n) = some n := by
  have hall : ∀ d : Fin 16, Quoted.hexValue? (hexDigit d) = some d.val := by decide
  exact hall ⟨n, h⟩

/-- A string that can be closed: nothing is missing of what has been read. -/
structure Quoted.Whole (q : Quoted) : Prop where
  pending : q.pending = none
  broken : q.broken = false
  part : q.part = .outside

namespace Quoted

theorem whole_start : start.Whole := ⟨rfl, rfl, rfl⟩

theorem Whole.push {q : Quoted} (h : q.Whole) (c : Char) : (q.push c).Whole :=
  ⟨rfl, by simp [Quoted.push, h.pending, h.broken], rfl⟩

theorem Whole.content {q : Quoted} (h : q.Whole) :
    q.content? = some (String.ofList q.reversed.reverse) := by
  simp [content?, h.pending, h.broken]

end Quoted

section Tokens
variable {q : Quoted}

theorem tokensFrom_more {next : Quoted} {c : Char} (h : q.step c = .more next) (rest : List Char) :
    tokensFrom (.string q) (c :: rest) = tokensFrom (.string next) rest := by
  rw [tokensFrom, h]

/-- A backslash and a letter are the character that they stand for. -/
theorem tokensFrom_letter (hq : q.part = .outside) {letter c : Char}
    (h : Quoted.escaped? letter = some c) (hu : letter ≠ 'u') (rest : List Char) :
    tokensFrom (.string q) ('\\' :: letter :: rest) = tokensFrom (.string (q.push c)) rest := by
  have hfirst : q.step '\\' = .more { q with part := .backslash } := by simp [Quoted.step, hq]
  rw [tokensFrom_more hfirst, tokensFrom_more]
  simp [Quoted.step, hu, h, Quoted.push]

/-- A control character is read from its number. -/
theorem tokensFrom_control (hq : q.part = .outside) {c : Char} (hc : c.toNat < 0x20)
    (rest : List Char) :
    tokensFrom (.string q)
        ('\\' :: 'u' :: '0' :: '0' :: hexDigit (c.toNat / 16) :: hexDigit (c.toNat % 16) :: rest) =
      tokensFrom (.string (q.push c)) rest := by
  have hhigh := hexValue?_hexDigit (n := c.toNat / 16) (by omega)
  have hlow := hexValue?_hexDigit (n := c.toNat % 16) (by omega)
  have hzero : Quoted.hexValue? '0' = some 0 := rfl
  have hfirst : q.step '\\' = .more { q with part := .backslash } := by simp [Quoted.step, hq]
  rw [tokensFrom_more hfirst, tokensFrom_more (by simp [Quoted.step]; rfl),
    tokensFrom_more (by simp [Quoted.step, hzero]; rfl),
    tokensFrom_more (by simp [Quoted.step, hzero]; rfl),
    tokensFrom_more (by simp [Quoted.step, hhigh]; rfl), tokensFrom_more]
  have hvalue : 16 * (c.toNat / 16) + c.toNat % 16 = c.toNat := by omega
  have hsmall : ¬ 0xd800 ≤ c.toNat ∧ ¬ 0xdc00 ≤ c.toNat := by omega
  simp [Quoted.step, hlow, hvalue, Quoted.pushUnit, hsmall, Quoted.push]

theorem tokensFrom_escapeChar (hq : q.part = .outside) (c : Char) (rest : List Char) :
    tokensFrom (.string q) (escapeChar c ++ rest) = tokensFrom (.string (q.push c)) rest := by
  unfold escapeChar
  split_ifs with hquote hback hb hf hn hr ht hc
  any_goals
    subst c
    exact tokensFrom_letter hq (by rfl) (by decide) rest
  · exact tokensFrom_control hq hc rest
  · refine tokensFrom_more ?_ rest
    simp [Quoted.step, hq, hquote, hback, hc]

theorem tokensFrom_content (hq : q.Whole) (cs rest : List Char) :
    tokensFrom (.string q) (cs.flatMap escapeChar ++ '"' :: rest) =
      .string (some (String.ofList (q.reversed.reverse ++ cs))) :: tokensFrom .between rest := by
  induction cs generalizing q with
  | nil =>
    have hclosed : q.step '"' = .closed := by simp [Quoted.step, hq.part]
    simp [tokensFrom, hclosed, hq.content]
  | cons c more ih =>
    rw [List.flatMap_cons, List.append_assoc, tokensFrom_escapeChar hq.part, ih (hq.push c)]
    simp [Quoted.push]

/-- A string between quotes is one token, and the token has the characters of the string. -/
theorem tokensFrom_quoted (s : String) (rest : List Char) :
    tokensFrom .between (quoted s ++ rest) = .string (some s) :: tokensFrom .between rest := by
  have hcontent := tokensFrom_content Quoted.whole_start s.toList rest
  simpa [quoted, tokensFrom, beginWith, start, Quoted.start] using hcontent

end Tokens
end JsonSchema.Json
