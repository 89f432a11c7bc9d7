import JsonSchema.Proofs.CommandLine.Judged
import JsonSchema.Proofs.FileTree.Written
namespace JsonSchema.CommandLine

/-- What keeps a run from judging its documents. -/
inductive Fault (v : Validation) (s : Surroundings) : Prop
  | schemaMissing (h : s.files.read? v.schema = none)
  | schemaUnparsable {text : String} (htext : s.files.read? v.schema = some text)
    (h : Value.parse? text = none)
  | schemaRejected {text : String} {document : Value} {e : SchemaError}
    (htext : s.files.read? v.schema = some text) (hdocument : Value.parse? text = some document)
    (h : Registry.draft4.compile .root document = .error e)
  | unresolved (h : ∀ paths, ¬ Resolves s.files v.inputs paths)
  | missing {paths : List String} {item : Item} (hpaths : Resolves s.files v.inputs paths)
    (hitem : item ∈ v.selection.items s.files s.stdin paths) (h : item.text = none)
  | unparsable {paths : List String} {item : Item} {text : String}
    (hpaths : Resolves s.files v.inputs paths)
    (hitem : item ∈ v.selection.items s.files s.stdin paths) (htext : item.text = some text)
    (h : Value.parse? text = none)
  | nothingSelected {paths : List String} {item : Item} {text : String} {x : Value}
    (hpaths : Resolves s.files v.inputs paths)
    (hitem : item ∈ v.selection.items s.files s.stdin paths) (htext : item.text = some text)
    (hx : Value.parse? text = some x) (h : v.selection.part? x = none)

variable {v : Validation} {s : Surroundings} {r : RunReport}

theorem loads_or_fault : (∃ rule, Loads s.files v.schema rule) ∨ Fault v s := by
  cases htext : s.files.read? v.schema with
  | none => exact .inr (.schemaMissing htext)
  | some text =>
    cases hdocument : Value.parse? text with
    | none => exact .inr (.schemaUnparsable htext hdocument)
    | some document =>
      cases hrule : Registry.draft4.compile .root document with
      | error e => exact .inr (.schemaRejected htext hdocument hrule)
      | ok rule => exact .inl ⟨rule, text, document, htext, hdocument, hrule⟩

theorem value_or_fault {paths : List String} {item : Item}
    (hpaths : Resolves s.files v.inputs paths)
    (hitem : item ∈ v.selection.items s.files s.stdin paths) :
    (∃ x, v.selection.value? item = some x) ∨ Fault v s := by
  cases htext : item.text with
  | none => exact .inr (.missing hpaths hitem htext)
  | some text =>
    cases hx : Value.parse? text with
    | none => exact .inr (.unparsable hpaths hitem htext hx)
    | some x =>
      cases hpart : v.selection.part? x with
      | none => exact .inr (.nothingSelected hpaths hitem htext hx hpart)
      | some part => exact .inl ⟨part, by simp [Selection.value?, htext, hx, hpart]⟩

/-- A schema that is accepted rules out the faults of the schema. -/
theorem Fault.inputs {rule : Rule} (h : Fault v s) (hrule : Loads s.files v.schema rule) :
    (∀ paths, ¬ Resolves s.files v.inputs paths) ∨
      ∃ paths item, Resolves s.files v.inputs paths ∧
        item ∈ v.selection.items s.files s.stdin paths ∧ v.selection.value? item = none := by
  obtain ⟨text, document, htext, hdocument, hcompile⟩ := hrule
  cases h with
  | schemaMissing h => simp [h] at htext
  | schemaUnparsable htext' h => simp_all
  | schemaRejected htext' hdocument' h => simp_all
  | unresolved h => exact .inl h
  | missing hpaths hitem h => exact .inr ⟨_, _, hpaths, hitem, by simp [Selection.value?, h]⟩
  | unparsable hpaths hitem htext h =>
    exact .inr ⟨_, _, hpaths, hitem, by simp [Selection.value?, htext, h]⟩
  | nothingSelected hpaths hitem htext hx h =>
    exact .inr ⟨_, _, hpaths, hitem, by simp [Selection.value?, htext, hx, h]⟩

/-- A run with a fault has no report. -/
theorem Fault.no_report (h : Fault v s) : v.report s ≠ .ok r := by
  intro hr
  obtain ⟨rule, paths, judged, hrule, hpaths, -, hjudged⟩ := Validation.report_ok.mp hr
  rcases h.inputs hrule with hnone | ⟨others, item, hothers, hitem, hvalue⟩
  · exact hnone paths hpaths
  · rw [hothers.unique hpaths] at hitem
    obtain ⟨d, -, x, hx, -⟩ := exists_forall₂.mp ⟨judged, hjudged⟩ item hitem
    simp [hvalue] at hx

/-- A run without a fault has a report on all its items. -/
theorem report_of_no_fault (h : ¬ Fault v s) : ∃ rule paths r, Loads s.files v.schema rule ∧
    Resolves s.files v.inputs paths ∧ v.report s = .ok r ∧
    r.Accounts v.selection rule (v.selection.items s.files s.stdin paths) := by
  obtain ⟨rule, hrule⟩ := loads_or_fault.resolve_right h
  have hpaths : ∃ paths, Resolves s.files v.inputs paths := by
    by_contra hnone
    exact h (.unresolved (not_exists.mp hnone))
  obtain ⟨paths, hpaths⟩ := hpaths
  have hitems : ∀ item ∈ v.selection.items s.files s.stdin paths,
      ∃ d, v.selection.Judges rule item d := by
    intro item hitem
    obtain ⟨x, hx⟩ := (value_or_fault hpaths hitem).resolve_right h
    exact ⟨⟨item.label, rule.report x⟩, rfl, x, hx, rfl⟩
  obtain ⟨judged, hjudged⟩ := exists_forall₂.mpr hitems
  exact ⟨rule, paths, ⟨v.schema, s.now, judged⟩, hrule, hpaths,
    Validation.report_ok.mpr ⟨rule, paths, judged, hrule, hpaths, rfl, hjudged⟩,
    RunReport.accounts hjudged⟩

structure Result.Fails (result : Result) (s : Surroundings) : Prop where
  outcome : ∃ e, result.outcome = .error e
  exitCode : result.exitCode = 2
  stdout : result.stdout = ""
  files : result.files = s.files

/-- A text can be written to the file for the report, if there is to be one. -/
def Validation.CanWrite (v : Validation) (t : FileTree) (text : String) : Prop :=
  ∀ path, v.out = some path →
    (t.makeAround path).2 = true ∧ ((t.makeAround path).1.write? path text).isSome = true

/-- A report is given out, printed or in its file, and the exit code tells whether any document has
a failure. -/
structure Result.GivesOut (result : Result) (v : Validation) (s : Surroundings) (r : RunReport) :
    Prop where
  printed : v.out = none → result.stdout = r.render v.format ++ "\n" ∧ result.files = s.files
  written : ∀ path, v.out = some path →
    result.stdout = "" ∧ result.files.read? path = some (r.render v.format)
  invalid : result.outcome = .ok .invalid ∧ result.exitCode = 1 ↔ 0 < r.invalid
  valid : result.outcome = .ok .valid ∧ result.exitCode = 0 ↔ r.invalid = 0

/-- A run fails because its report cannot be written. It prints nothing, and every text that was
there before can still be read, but new directories may stay behind. -/
structure Result.Withholds (result : Result) (s : Surroundings) : Prop where
  outcome : ∃ e, result.outcome = .error e
  exitCode : result.exitCode = 2
  stdout : result.stdout = ""
  texts : ∀ path text, s.files.read? path = some text → result.files.read? path = some text

theorem deliver_of_canWrite {w : World} {text : String} (h : v.CanWrite w.files text) :
    ∃ after, (v.deliver text).on w = (.ok (), after) ∧
      (v.out = none → after.stdout = w.stdout ++ (text ++ "\n") ∧ after.files = w.files) ∧
      ∀ path, v.out = some path → after.stdout = w.stdout ∧ after.files.read? path = some text := by
  unfold Validation.deliver
  cases hout : v.out with
  | none => exact ⟨_, rfl, fun _ => ⟨rfl, rfl⟩, by simp⟩
  | some path =>
    obtain ⟨hmade, hwritten⟩ := h path hout
    obtain ⟨files, hfiles⟩ := Option.isSome_iff_exists.mp hwritten
    refine ⟨{ w with files := files }, ?_, by simp, ?_⟩
    · simp only [Action.on_bind, Action.on_makeAround, Action.on_write, if_pos hmade, hfiles]
    · rintro _ ⟨⟩
      exact ⟨rfl, FileTree.read_write hfiles⟩

theorem deliver_of_not_canWrite {w : World} {text : String} (h : ¬ v.CanWrite w.files text) :
    ∃ e after, (v.deliver text).on w = (.error e, after) ∧ after.stdout = w.stdout ∧
      ∀ other old, w.files.read? other = some old → after.files.read? other = some old := by
  have hout : ∃ path, v.out = some path := by
    by_contra hnone
    exact h fun path hpath => absurd ⟨path, hpath⟩ hnone
  obtain ⟨path, hpath⟩ := hout
  let after : World := { w with files := (w.files.makeAround path).1 }
  have hkept (other old : String) (hold : w.files.read? other = some old) :
      after.files.read? other = some old := FileTree.read_makeAround hold
  unfold Validation.deliver
  simp only [hpath, Action.on_bind, Action.on_makeAround]
  by_cases hmade : (w.files.makeAround path).2 = true
  · cases hwritten : (w.files.makeAround path).1.write? path text with
    | none =>
      refine ⟨.notWritten path, after, ?_, rfl, hkept⟩
      simp only [if_pos hmade, Action.on_write, hwritten, after]
    | some files =>
      refine absurd (fun other hother => ?_) h
      obtain rfl : path = other := Option.some.inj (hpath.symm.trans hother)
      exact ⟨hmade, by rw [hwritten]; rfl⟩
  · exact ⟨.directoryNotMade, after, by simp only [if_neg hmade, after], rfl, hkept⟩

/-- A run judges first, in a world that stays as it was at the start, and then gives out its report
if there is one. -/
theorem action_on (hrun : v.noOp = false) : ∃ after, Action.Undisturbed (.start s) after ∧
    v.action.on (.start s) = match v.report s with
      | .error e => (.error e, after)
      | .ok r =>
        (v.deliver (r.render v.format) >>= fun _ => pure r.outcome : Action Outcome).on after := by
  refine ⟨_, v.judge_quiet (.start s), ?_⟩
  rw [Validation.action, if_neg (by simp [hrun]), Action.on_bind, Validation.report]
  rcases v.judge.on (.start s) with ⟨_ | r, after⟩ <;> rfl

/-- Without a report a run ends as it has been judged. -/
theorem action_of_error {e : RunError} (hrun : v.noOp = false) (hr : v.report s = .error e) :
    ∃ after, v.action.on (.start s) = (.error e, after) ∧
      Action.Undisturbed (.start s) after := by
  obtain ⟨after, hquiet, haction⟩ := action_on (s := s) hrun
  rw [hr] at haction
  exact ⟨after, haction, hquiet⟩

/-- A run that can write its report ends in a world in which this has been given out. -/
theorem action_of_canWrite (hrun : v.noOp = false) (hr : v.report s = .ok r)
    (h : v.CanWrite s.files (r.render v.format)) :
    ∃ after, v.action.on (.start s) = (.ok r.outcome, after) ∧
      (v.out = none → after.stdout = r.render v.format ++ "\n" ∧ after.files = s.files) ∧
      ∀ path, v.out = some path →
        after.stdout = "" ∧ after.files.read? path = some (r.render v.format) := by
  obtain ⟨judged, hquiet, haction⟩ := action_on (s := s) hrun
  simp only [hr] at haction
  have hfiles : judged.files = s.files := hquiet.files
  have hstdout : judged.stdout = "" := hquiet.stdout
  rw [← hfiles] at h
  obtain ⟨after, hdeliver, hprinted, hwritten⟩ := deliver_of_canWrite h
  rw [hstdout, hfiles] at hprinted
  rw [hstdout] at hwritten
  refine ⟨after, ?_, fun hout => ?_, hwritten⟩
  · rw [haction, Action.on_bind, hdeliver]
    rfl
  · obtain ⟨htext, hkept⟩ := hprinted hout
    exact ⟨htext.trans (String.empty_append ..), hkept⟩

theorem action_of_not_canWrite (hrun : v.noOp = false) (hr : v.report s = .ok r)
    (h : ¬ v.CanWrite s.files (r.render v.format)) :
    ∃ e after, v.action.on (.start s) = (.error e, after) ∧ after.stdout = "" ∧
      ∀ path text, s.files.read? path = some text → after.files.read? path = some text := by
  obtain ⟨judged, hquiet, haction⟩ := action_on (s := s) hrun
  simp only [hr] at haction
  have hfiles : judged.files = s.files := hquiet.files
  have hstdout : judged.stdout = "" := hquiet.stdout
  rw [← hfiles] at h
  obtain ⟨e, after, hdeliver, hprinted, hkept⟩ := deliver_of_not_canWrite h
  refine ⟨e, after, ?_, hprinted.trans hstdout, hfiles ▸ hkept⟩
  rw [haction, Action.on_bind, hdeliver]

theorem run_of_action {ending : Except RunError Outcome} {after : World}
    (h : v.action.on (.start s) = (ending, after)) :
    (Request.validate v).run s = ⟨after, ending⟩ := by
  rw [Request.run, Request.action, h]

/-- How a validating run ends well: without having looked at anything, or with a report that can be
written. -/
theorem run_ends_well {o : Outcome} : ((Request.validate v).run s).outcome = .ok o ↔
    v.noOp = true ∧ o = .noOp ∨ v.noOp = false ∧
      ∃ r, v.report s = .ok r ∧ v.CanWrite s.files (r.render v.format) ∧ o = r.outcome := by
  cases hnoOp : v.noOp with
  | true =>
    have haction : v.action.on (.start s) = (.ok .noOp, .start s) := by
      rw [Validation.action, if_pos hnoOp, Action.on_pure]
    simp [run_of_action haction, eq_comm]
  | false =>
    cases hr : v.report s with
    | error e =>
      obtain ⟨after, haction, -⟩ := action_of_error hnoOp hr
      simp [run_of_action haction]
    | ok r =>
      by_cases h : v.CanWrite s.files (r.render v.format)
      · obtain ⟨after, haction, -⟩ := action_of_canWrite hnoOp hr h
        simp [run_of_action haction, h, eq_comm]
      · obtain ⟨e, after, haction, -⟩ := action_of_not_canWrite hnoOp hr h
        simp [run_of_action haction, h]

/-- Whatever is asked for, a run that fails has printed nothing. -/
theorem prints_nothing_of_error {q : Request} {e : RunError} (h : (q.run s).outcome = .error e) :
    (q.run s).stdout = "" := by
  cases q with
  | check path =>
    have hquiet := congrArg World.stdout (loadSchema_after (.start s) path)
    have hrun : (Request.check path).run s =
        ⟨((checkSchema path).on (.start s)).2, ((checkSchema path).on (.start s)).1⟩ := rfl
    rw [hrun, checkSchema, Action.on_bind] at h ⊢
    rcases hload : (loadSchema path).on (.start s) with ⟨_ | schema, after⟩
    · rwa [hload] at hquiet
    · simp only [hload, Action.on_bind, Action.on_print, Action.on_pure] at h
      cases h
  | validate v =>
    cases hnoOp : v.noOp with
    | true =>
      have hends := (run_ends_well (s := s)).mpr (.inl ⟨hnoOp, rfl⟩)
      rw [hends] at h
      cases h
    | false =>
      cases hr : v.report s with
      | error e =>
        obtain ⟨after, haction, hquiet⟩ := action_of_error hnoOp hr
        rw [run_of_action haction]
        exact hquiet.stdout
      | ok r =>
        by_cases hwrite : v.CanWrite s.files (r.render v.format)
        · have hends := run_ends_well.mpr (.inr ⟨hnoOp, r, hr, hwrite, rfl⟩)
          rw [hends] at h
          cases h
        · obtain ⟨e, after, haction, hprinted, -⟩ := action_of_not_canWrite hnoOp hr hwrite
          rw [run_of_action haction]
          exact hprinted

theorem outcome_invalid : r.outcome = .invalid ∧ r.outcome.exitCode = 1 ↔ 0 < r.invalid := by
  unfold RunReport.outcome
  split
  · simp_all
  · simp [Outcome.exitCode]
    omega

theorem outcome_valid : r.outcome = .valid ∧ r.outcome.exitCode = 0 ↔ r.invalid = 0 := by
  unfold RunReport.outcome
  split
  · simp_all [Outcome.exitCode]
  · simp_all

/-- A schema for texts, a file with one and the standard input with something else. -/
def mixedSurroundings : Surroundings where
  files := .ofFiles [("s.json", "\x7b\"type\": \"string\"\x7d"),
    ("d/a.json", "\x7b\"v\": \"x\"\x7d")]
  stdin := .text "\x7b\"v\": []\x7d"
  now := "today"

def mixedValidation : Validation where
  schema := "s.json"
  inputs := ["d/a.json", "-"]
  ndjson := false
  pointer := some "/v"
  format := .text
  out := some "o/r.txt"
  noOp := false

def mixedText : String :=
  "valid   d/a.json\ninvalid <stdin>\n    /: expected string, found array (type)\n" ++
    "1 valid, 1 invalid"

end JsonSchema.CommandLine
