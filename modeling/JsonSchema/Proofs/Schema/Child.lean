import JsonSchema.Proofs.Pointer.Encoding
import JsonSchema.Proofs.Schema.Extended
import JsonSchema.Proofs.Schema.Relocated

namespace JsonSchema
open Pointer (extend)

theorem Location.below_text (location : Location) (segments : List String) :
    (location.below segments).text = extend location.text segments := by
  simp [below, text, Pointer.extend_eq, Pointer.text_append, String.append_assoc]

theorem Location.within_text (inner outer : Location) :
    (inner.within outer).text = outer.text ++ Pointer.text inner.segments := by
  rw [within, below_text, Pointer.extend_eq]

namespace Registry
variable {r : Registry}

/-- A schema on its own is only ever refused at places inside it. -/
theorem compile_root_error (hr : r.Standard) {document : Value} {e : SchemaError}
    (h : r.compile .root document = .error e) :
    ∃ place keyword problem, e = .invalid ⟨"#", place⟩ keyword problem := by
  have hself := compile_moved hr .root document
  rw [h] at hself
  obtain ⟨location, keyword, problem, rfl⟩ := compile_failsAs_malformed hr document .root e h
  have hlocation : location = location.within .root :=
    (SchemaError.invalid.inj (Except.error.inj hself)).1
  exact ⟨location.segments, keyword, problem, by rw [hlocation]; rfl⟩

/-- A schema below another one gives the rule that it gives on its own, and fails when it does so on
its own. It then fails over the same keyword with the same problem. The place of the error is that
of the outer schema, the segments, each with a slash in front of it, and the place that the error
has in the schema on its own. -/
theorem compileChild_uniform (hr : r.Standard) (site : Site) (segments : List String)
    (document : Value) :
    (∀ rule, r.compileChild site segments document = .ok rule ↔
      r.compile .root document = .ok rule) ∧
    ∀ e, r.compileChild site segments document = .error e →
      ∃ alone inside keyword problem rest,
        r.compile .root document = .error (.invalid alone keyword problem) ∧
        e = .invalid inside keyword problem ∧
        alone.text = "#" ++ rest ∧
        inside.text = extend site.location.text segments ++ rest := by
  refine ⟨fun rule => compile_anywhere hr _, ?_⟩
  intro e he
  rw [compileChild, compile_moved hr] at he
  obtain ⟨d, hd, rfl⟩ := mapError_eq_error.mp he
  obtain ⟨place, keyword, problem, rfl⟩ := compile_root_error hr hd
  refine ⟨⟨"#", place⟩, _, keyword, problem, Pointer.text place, hd, rfl, rfl, ?_⟩
  rw [Location.within_text, Location.below_text]

/-- A built-in keyword under another name, inside an outer schema that is not the root. Two of the
segments are hard to write: one is all escapes and one is empty. -/
theorem compileChild_uniform_renamed :
    let r : Registry := (draft4.register "divisor" Builtin.multipleOf.keyword).1
    let site : Site := ⟨[], ⟨"#/a~1b", []⟩⟩
    let segments := ["properties", "~/", ""]
    let document (divisor : UInt64) : Value := .object [("items", .array [.bool true,
      .object [("divisor", .number (.unsigned divisor))]])]
    let problem : Problem := .notPositive (.unsigned 0)
    r.Standard ∧
    (∃ rule, r.compile .root (document 2) = .ok rule ∧
      r.compileChild site segments (document 2) = .ok rule) ∧
    ∃ alone inside,
      r.compile .root (document 0) = .error (.invalid alone "multipleOf" problem) ∧
      r.compileChild site segments (document 0) = .error (.invalid inside "multipleOf" problem) ∧
      alone.text = "#" ++ "/items/1" ∧
      inside.text = "#/a~1b" ++ "/properties/~0~1/" ++ "/items/1" := by
  intro r site segments document problem
  have hr : r.Standard := register_standard draft4_standard "divisor" .multipleOf
  have hgood : r.compile .root (document 2) =
      .ok (.all [.positional [.constant true, .all [.check (.multipleOf (.unsigned 2))]]]) := rfl
  have hbad : r.compileChild site segments (document 0) = .error (.invalid
      ⟨"#/a~1b", segments ++ ["items", "1"]⟩ "multipleOf" problem) := rfl
  obtain ⟨alone, inside, keyword, _, rest, halone, he, hrest, hinside⟩ :=
    (compileChild_uniform hr site segments (document 0)).2 _ hbad
  obtain ⟨rfl, rfl, rfl⟩ := SchemaError.invalid.inj he
  have hplace : alone = ⟨"#", ["items", "1"]⟩ :=
    (SchemaError.invalid.inj (Except.error.inj (halone.symm.trans rfl))).1
  have halonetext : alone.text = "#" ++ "/items/1" := by rw [hplace]; decide +kernel
  obtain rfl : rest = "/items/1" := by rwa [halonetext, String.append_right_inj, eq_comm] at hrest
  have hfront : extend site.location.text segments = "#/a~1b" ++ "/properties/~0~1/" := by
    decide +kernel
  rw [hfront] at hinside
  exact ⟨hr, ⟨_, hgood, ((compileChild_uniform hr site segments (document 2)).1 _).mpr hgood⟩,
    alone, _, halone, hbad, halonetext, hinside⟩

/-- The keywords of a schema below another one stand where the segments lead. -/
theorem compileChild_object (site : Site) (segments : List String) (members : Members) :
    r.compileChild site segments (.object members) = Rule.all <$> (r.uses members).mapM fun use =>
      r.apply use.1 ⟨members, site.location.below segments⟩ use.2.2 :=
  compile_object _ members

/-- What is no schema is refused where the segments lead. -/
theorem compileChild_other (site : Site) (segments : List String) {document : Value}
    (hobject : document.kind ≠ .object) (hboolean : document.kind ≠ .boolean) :
    r.compileChild site segments document = .error (.invalid (site.location.below segments)
      "schema" (.wrongKind [.object, .boolean] document.kind)) := by
  cases document with
  | object members => exact absurd rfl hobject
  | bool accept => exact absurd rfl hboolean
  | _ => rfl

end Registry

namespace Pointer

/-- The text of a pointer is its segments, each escaped and with a slash in front of it. Cut at its
slashes it gives the segments back, so no two pointers share a text. A schema that segments lead to
from the root of a document is at the place with the same text behind the mark of the root: there
its keywords stand, and there it is refused if it is no schema. -/
theorem segments_read_back (segments : List String) :
    text segments = extend "" segments ∧
    (∃ parts, Text.parts '/' (text segments).toList = [] :: parts ∧
      parts.map decoded = segments) ∧
    (∀ others, text others = text segments → others = segments) ∧
    ∀ (r : Registry) (site : Site), site.location.text = "#" → ∃ location : Location,
      location.text = "#" ++ text segments ∧
      (∀ members, r.compileChild site segments (.object members) = Rule.all <$>
        (r.uses members).mapM fun use => r.apply use.1 ⟨members, location⟩ use.2.2) ∧
      ∀ document, document.kind ≠ .object → document.kind ≠ .boolean →
        r.compileChild site segments document =
          .error (.invalid location "schema" (.wrongKind [.object, .boolean] document.kind)) := by
  refine ⟨?_, ⟨_, parts_text segments, map_decoded segments⟩, fun _ h => text_injective h, ?_⟩
  · rw [extend_eq, String.empty_append]
  · intro r site hsite
    refine ⟨site.location.below segments, ?_, Registry.compileChild_object site segments, ?_⟩
    · rw [Location.below_text, hsite, extend_eq]
    · intro document hobject hboolean
      exact Registry.compileChild_other site segments hobject hboolean

/-- Segments that look as if they were escaped already, and an empty one. -/
theorem segments_read_back_escaped :
    let segments := ["", "~01", "a/b", "~1", "~", "0"]
    let others := ["", "~01", "a/b", "/", "~", "0"]
    let site : Site := ⟨[], .root⟩
    let written := "//~001/a~1b/~01/~0/0"
    text segments = written ∧ text others ≠ written ∧
    (∃ parts, Text.parts '/' written.toList = [] :: parts ∧ parts.map decoded = segments) ∧
    site.location.text = "#" ∧ ∃ location : Location, location.text = "#" ++ written ∧
      Registry.draft4.compileChild site segments .null =
        .error (.invalid location "schema" (.wrongKind [.object, .boolean] .null)) := by
  intro segments others site written
  have hwritten : text segments = written := by decide +kernel
  have hsite : site.location.text = "#" := by decide +kernel
  obtain ⟨-, hparts, hothers, hchild⟩ := segments_read_back segments
  obtain ⟨location, hlocation, -, hother⟩ := hchild .draft4 site hsite
  rw [hwritten] at hparts hothers hlocation
  have hapart : text others ≠ written := mt (hothers others) (by decide)
  exact ⟨hwritten, hapart, hparts, hsite, location, hlocation,
    hother .null (by decide) (by decide)⟩

end Pointer
end JsonSchema
