import JsonSchema.Proofs.Schema.Meaning

namespace JsonSchema

def Value.lengthAs? : Kind → Value → Option Nat
  | .string, .string s => some s.toList.length
  | .array, .array elements => some elements.length
  | _, _ => none

namespace Builtin
open Draft4 (Bounds IsCount)

/-- The side on which a keyword limits a count, and the kind of value that it counts. -/
def countLimit? : Builtin → Option (Limit × Kind)
  | .minLength => some (.min, .string)
  | .maxLength => some (.max, .string)
  | .minItems => some (.min, .array)
  | .maxItems => some (.max, .array)
  | _ => none

def countCheck : Limit → Kind → UInt64 → Check
  | limit, .string, count => .length limit count
  | limit, _, count => .itemCount limit count

variable {b : Builtin} {limit : Limit} {kind : Kind} {site : Site} {value : Value} {nested : Nested}

theorem keyword_countLimit (hb : b.countLimit? = some (limit, kind)) :
    b.keyword site value nested =
      (do pure (.check (countCheck limit kind (← site.count b.name value)))) := by
  cases b <;> cases hb <;> rfl

theorem countCheck_accepts (hb : b.countLimit? = some (limit, kind)) (count : UInt64) (x : Value) :
    (countCheck limit kind count).accepts x =
      match x.lengthAs? kind with
      | some length => limit.allows length count.toNat
      | none => true := by
  cases b <;> cases hb <;> cases x <;> rfl

/-- The four keywords that limit a count take the numbers with a natural value, however great and
however spelled, and no other value. A string or an array is accepted when its length is on the
right side of the exact value of the limit, and values of other kinds are accepted always. -/
theorem countLimit_exact (hb : b.countLimit? = some (limit, kind)) (site : Site) (value : Value)
    (nested : Nested) :
    ((∃ rule, b.keyword site value nested = .ok rule) ↔
      ∃ n, value = .number n ∧ ∃ k : Nat, n.exact = .rat k) ∧
      ∀ rule n, b.keyword site value nested = .ok rule → value = .number n → ∀ x : Value,
        (∀ length, x.lengthAs? kind = some length → length < UInt64.size - 1 →
          (rule.accepts x = true ↔ Bounds limit n.exact length)) ∧
        (x.lengthAs? kind = none → rule.accepts x = true) := by
  rw [keyword_countLimit hb]
  refine ⟨Draft4.counted_succeeds, ?_⟩
  intro rule n hrule hn x
  obtain ⟨m, count, hm, hcount, rfl⟩ := Keyword.counted_ok.mp hrule
  obtain rfl : n = m := Value.number.inj (hn.symm.trans hm)
  rw [Rule.accepts, countCheck_accepts hb]
  constructor
  · intro length hx hlength
    rw [hx]
    exact Draft4.limit_allows_iff hcount hlength limit
  · intro hx
    rw [hx]

/-- The limit 2^64 is cut off by one in the rules, and still no array is long enough for it and
every string short enough. -/
theorem countLimit_exact_beyond_words :
    let site : Site := ⟨[], .root⟩
    let n : Number := .float (.ofBits 0x43f0000000000000)
    let nested : Nested := Registry.draft4.nested (.number n)
    let least : Rule := .check (.itemCount .min 18446744073709551615)
    let most : Rule := .check (.length .max 18446744073709551615)
    n.exact = .rat (18446744073709551616 : Int) ∧
      Builtin.minItems.keyword site (.number n) nested = .ok least ∧
      Builtin.maxLength.keyword site (.number n) nested = .ok most ∧
      least.accepts (.array [.null]) = false ∧ least.accepts (.string "ab") = true ∧
      most.accepts (.string "ab") = true := by
  intro site n nested least most
  have hn : n.exact = .rat (18446744073709551616 : Int) :=
    (Number.toWideInt?_eq_some.mp (by decide +kernel)).1
  have hcount : n.toCount? = some 18446744073709551615 := by decide +kernel
  have hleast : Keyword.itemCount .min "minItems" site (.number n) nested = .ok least :=
    Keyword.itemCount_ok.mpr ⟨n, _, rfl, hcount, rfl⟩
  have hmost : Keyword.length .max "maxLength" site (.number n) nested = .ok most :=
    Keyword.length_ok.mpr ⟨n, _, rfl, hcount, rfl⟩
  have hitems :=
    (countLimit_exact (b := .minItems) rfl site (.number n) nested).2 least n hleast rfl
  have hlength :=
    (countLimit_exact (b := .maxLength) rfl site (.number n) nested).2 most n hmost rfl
  refine ⟨hn, hleast, hmost, ?_, (hitems (.string "ab")).2 rfl, ?_⟩
  · rw [← Bool.not_eq_true, (hitems (.array [.null])).1 1 rfl (by decide), Bounds, hn,
      Exact.rat_le_rat]
    norm_num
  · rw [(hlength (.string "ab")).1 2 rfl (by decide), Bounds, hn, Exact.rat_le_rat]
    norm_num

end Builtin
end JsonSchema
