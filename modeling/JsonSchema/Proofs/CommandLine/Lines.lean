import JsonSchema.Proofs.CommandLine.Judged
import JsonSchema.Proofs.Rule.Places

namespace JsonSchema

namespace Pointer

def inLine (path : InstancePath) : String :=
  if text path = "" then "/" else text path

theorem text_eq_empty_iff {path : InstancePath} : text path = "" ↔ path = [] :=
  text_injective.eq_iff' rfl

theorem text_eq_slash_iff {path : InstancePath} : text path = "/" ↔ path = [""] :=
  text_injective.eq_iff' rfl

/-- One of two places is a whole instance and the other its member with the empty name. -/
def Confused (p q : InstancePath) : Prop :=
  p = [] ∧ q = [""] ∨ p = [""] ∧ q = []

theorem inLine_root : inLine [] = "/" := rfl

theorem inLine_inside {path : InstancePath} (h : path ≠ []) : inLine path = text path :=
  if_neg (mt text_eq_empty_iff.mp h)

theorem inLine_eq_iff {p q : InstancePath} (h : p ≠ q) : inLine p = inLine q ↔ Confused p q := by
  unfold Confused
  by_cases hp : p = []
  · subst hp
    rw [inLine_root, inLine_inside h.symm, eq_comm, text_eq_slash_iff]
    simp
  · by_cases hq : q = []
    · subst hq
      rw [inLine_root, inLine_inside h, text_eq_slash_iff]
      simp
    · rw [inLine_inside hp, inLine_inside hq, text_injective.eq_iff]
      simp [h, hp, hq]

end Pointer

open Pointer (Confused Step follow?)

theorem Failure.text_eq (f : Failure) :
    f.text = Pointer.inLine f.path ++ (": " ++ f.message ++ " (" ++ f.keyword ++ ")") := by
  simp only [text, Pointer.inLine, String.append_assoc]

/-- Failures that only their places tell apart share a line just when the places are confused. -/
theorem Failure.text_eq_iff {f g : Failure} (hkeyword : f.keyword = g.keyword)
    (hmessage : f.message = g.message) (hpath : f.path ≠ g.path) :
    f.text = g.text ↔ Confused f.path g.path := by
  rw [f.text_eq, g.text_eq, hkeyword, hmessage, String.append_left_inj,
    Pointer.inLine_eq_iff hpath]

/-- Only an object that has a member with the empty name is rejected at that member. -/
theorem Rule.get?_of_unnamed {rule : Rule} {x : Value} {f : Failure}
    (hf : f ∈ (rule.report x).failures) (hpath : f.path = [""]) : ∃ y, x.get? "" = some y := by
  rw [report_eq] at hf
  obtain ⟨steps, q, y, -, hy, halone⟩ := leads_of_failures hf
  rw [(mem_failuresAlone halone).2.1, List.nil_append, List.map_eq_singleton_iff] at hpath
  obtain ⟨step, rfl, hsegment⟩ := hpath
  cases step with
  | member name =>
    obtain rfl : name = "" := hsegment
    obtain ⟨w, hw, -⟩ := Option.bind_eq_some_iff.mp hy
    exact ⟨w, hw⟩
  | element i =>
    have hdigits := congrArg String.toList hsegment
    rw [Step.segment, Nat.toString_eq_repr, Nat.toList_repr] at hdigits
    exact absurd hdigits Nat.toDigits_ne_nil

namespace CommandLine

theorem Judged.lines_failure {d : Judged} {i : Nat} {f : Failure}
    (hf : d.report.failures[i]? = some f) : d.lines[i + 1]? = some ("    " ++ f.text) := by
  simp [lines, hf]

/-- The text on a document keeps the places of its failures apart. Two failures of one keyword and
one message at different places have different lines, unless one is at the whole instance and the
other at its member with the empty name. -/
theorem lines_apart (rule : Rule) (x : Value) (source : String) :
    let d : Judged := ⟨source, rule.report x⟩
    RunReport.documentText d = String.join (d.lines.map (· ++ "\n")) ∧
      ∀ i j f g, d.report.failures[i]? = some f → d.report.failures[j]? = some g →
        f.keyword = g.keyword → f.message = g.message → Pointer.text f.path ≠ Pointer.text g.path →
          (f.text = g.text ↔ Confused f.path g.path) ∧
          (d.lines[i + 1]? = d.lines[j + 1]? ↔ Confused f.path g.path) ∧
          (Confused f.path g.path → ∃ y, x.get? "" = some y) := by
  intro d
  refine ⟨documentText_eq d (rule.report_valid x), ?_⟩
  intro i j f g hf hg hkeyword hmessage htext
  have hpath : f.path ≠ g.path := fun he => htext (congrArg Pointer.text he)
  have hsame := Failure.text_eq_iff hkeyword hmessage hpath
  refine ⟨hsame, ?_, ?_⟩
  · rw [Judged.lines_failure hf, Judged.lines_failure hg, Option.some_inj, String.append_right_inj,
      hsame]
  · rintro (⟨-, hempty⟩ | ⟨hempty, -⟩)
    · exact Rule.get?_of_unnamed (List.mem_of_getElem? hg) hempty
    · exact Rule.get?_of_unnamed (List.mem_of_getElem? hf) hempty

/-- The names of two members differ only when they are written as segments of a pointer. -/
theorem lines_apart_escaped :
    let document : Value := .object [("properties", .object
      [("/", .object [("type", .string "null")]), ("~1", .object [("type", .string "null")])])]
    let rule : Rule := .all [.properties
      [("/", .all [.check (.type [.null])]), ("~1", .all [.check (.type [.null])])]]
    let x : Value := .object [("~1", .bool true), ("/", .bool true)]
    let f : Failure := ⟨"type", ["/"], "expected null, found boolean"⟩
    let g : Failure := ⟨"type", ["~1"], "expected null, found boolean"⟩
    Registry.draft4.compile .root document = .ok rule ∧ (rule.report x).failures = [f, g] ∧
      Pointer.text f.path ≠ Pointer.text g.path ∧ f.text ≠ g.text ∧
      Judged.lines ⟨"x", rule.report x⟩ = ["invalid x",
        "    /~1: expected null, found boolean (type)",
        "    /~01: expected null, found boolean (type)"] := by
  intro document rule x f g
  have hreport : (rule.report x).failures = [f, g] := by decide +kernel
  have hpath : Pointer.text f.path ≠ Pointer.text g.path := by decide +kernel
  have hapart := (lines_apart rule x "x").2 0 1 f g (by rw [hreport]; rfl) (by rw [hreport]; rfl)
    rfl rfl hpath
  have hplaces : ¬ Confused f.path g.path := by simp [Confused, f, g]
  exact ⟨rfl, hreport, hpath, mt hapart.1.mp hplaces, by decide +kernel⟩

/-- An object and its member with the empty name both lack a member, and the lines on the two are
the same. -/
theorem lines_confused :
    let lacking : Value := .object [("required", .array [.string "a"])]
    let document : Value := .object [("required", .array [.string "a"]),
      ("properties", .object [("", lacking)])]
    let rule : Rule := .all [.check (.required ["a"]),
      .properties [("", .all [.check (.required ["a"])])]]
    let x : Value := .object [("", .object [])]
    let f : Failure := ⟨"required", [], "missing required property `a`"⟩
    let g : Failure := ⟨"required", [""], "missing required property `a`"⟩
    Registry.draft4.compile .root document = .ok rule ∧ (rule.report x).failures = [f, g] ∧
      Pointer.text f.path ≠ Pointer.text g.path ∧ f.text = g.text ∧
      Judged.lines ⟨"x", rule.report x⟩ = ["invalid x",
        "    /: missing required property `a` (required)",
        "    /: missing required property `a` (required)"] := by
  intro lacking document rule x f g
  exact ⟨rfl, by decide +kernel, by decide +kernel, by decide +kernel, by decide +kernel⟩

end CommandLine
end JsonSchema
