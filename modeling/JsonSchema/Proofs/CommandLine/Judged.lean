import JsonSchema.Proofs.CommandLine.Items
import JsonSchema.Proofs.CommandLine.Printed
import JsonSchema.Proofs.Rule.Failures
import JsonSchema.Proofs.Session.LastBinding

namespace JsonSchema.CommandLine

/-- A schema file is there and can be read, and its document is accepted with some rule. -/
def Loads (t : FileTree) (path : String) (rule : Rule) : Prop :=
  ∃ text document, t.read? path = some text ∧ Value.parse? text = some document ∧
    Registry.draft4.compile .root document = .ok rule

theorem loadSchema_ok {w : World} {path : String} {rule : Rule} :
    (∃ schema, ((loadSchema path).on w).1 = .ok schema ∧ schema.rule = rule) ↔
      Loads w.files path rule := by
  unfold loadSchema Loads
  rw [Action.on_bind, Action.on_read, World.text?]
  cases htext : w.files.read? path with
  | none => simp
  | some text =>
    cases hdocument : Value.parse? text with
    | none => simp [hdocument]
    | some document => simp [hdocument, mapError_eq_ok, Schema.ofDocument_ok]

/-- Whatever comes of a schema, its file has been read, and nothing else has been done. -/
theorem loadSchema_after (w : World) (path : String) :
    ((loadSchema path).on w).2 = w.afterRead (.file path) := by
  unfold loadSchema
  rw [Action.on_bind, Action.on_read]
  cases w.text? (.file path) with
  | none => rfl
  | some text => cases hdocument : Value.parse? text <;> simp [hdocument]

/-- A document of a report stands for an item and has the report on the value that it gives. -/
def Selection.Judges (s : Selection) (rule : Rule) (item : Item) (d : Judged) : Prop :=
  d.source = item.label ∧ ∃ x, s.value? item = some x ∧ d.report = rule.report x

/-- Items are judged by judging the documents that they become. -/
theorem Selection.judges_iff {s : Selection} {rule : Rule} {items : List Item}
    {judged : List Judged} : List.Forall₂ (s.Judges rule) items judged ↔
      ∃ found, List.Forall₂ s.Gives items found ∧
        found.map (fun d => ⟨d.label, rule.report d.value⟩) = judged := by
  constructor
  · intro h
    induction h with
    | nil => exact ⟨[], .nil, rfl⟩
    | @cons item d _ _ hd _ ih =>
      obtain ⟨found, hfound, rfl⟩ := ih
      obtain ⟨hsource, x, hx, hreport⟩ := hd
      refine ⟨⟨item.label, x⟩ :: found, .cons ⟨rfl, hx⟩ hfound, ?_⟩
      simp [← hsource, ← hreport]
  · rintro ⟨found, hfound, rfl⟩
    rw [List.forall₂_map_right_iff]
    exact hfound.imp fun item d h => ⟨h.1, d.value, h.2, rfl⟩

theorem Selection.load_quiet (s : Selection) (all : List Source) : Action.Quiet (s.load all) := by
  induction all with
  | nil => exact .pure []
  | cons source rest ih =>
    exact .bind (.read _ _) fun text => .bind (.lift _) fun found => .bind ih fun others => .pure _

namespace Validation
variable {v : Validation} {w : World}

theorem documents_ok {found : List Document} :
    (v.documents.on w).1 = .ok found ↔ ∃ paths, Resolves w.files v.inputs paths ∧
      List.Forall₂ v.selection.Gives (v.selection.items w.files w.stdin paths) found := by
  simp only [documents, Action.on_get_bind, Action.on_bind_ok, Action.on_lift, mapError_eq_ok,
    sources_ok]
  constructor
  · rintro ⟨_, ⟨paths, hpaths, rfl⟩, h⟩
    exact ⟨paths, hpaths, Selection.load_ok.mp h⟩
  · rintro ⟨paths, hpaths, h⟩
    exact ⟨_, ⟨paths, hpaths, rfl⟩, Selection.load_ok.mpr h⟩

theorem documents_quiet (v : Validation) : Action.Quiet v.documents :=
  .bind .get fun _ => .bind (.lift _) fun all => v.selection.load_quiet all

/-- Nothing is printed and no file is changed before all documents have been judged. -/
theorem judge_quiet (v : Validation) : Action.Quiet v.judge := by
  have hschema : Action.Quiet (loadSchema v.schema) := by
    intro w
    rw [loadSchema_after]
    exact ⟨rfl, rfl, rfl⟩
  exact .bind hschema fun schema => .bind v.documents_quiet fun found => .bind .get fun _ => .pure _

def report (v : Validation) (s : Surroundings) : Except RunError RunReport :=
  (v.judge.on (.start s)).1

variable {s : Surroundings} {r : RunReport}

/-- When there is a report, and which one. -/
theorem report_ok :
    v.report s = .ok r ↔ ∃ rule paths judged, Loads s.files v.schema rule ∧
      Resolves s.files v.inputs paths ∧ r = ⟨v.schema, s.now, judged⟩ ∧
      List.Forall₂ (v.selection.Judges rule) (v.selection.items s.files s.stdin paths) judged := by
  have hnow : (v.documents.on ((World.start s).afterRead (.file v.schema))).2.now = s.now :=
    (v.documents_quiet _).now
  simp only [report, judge, Action.on_bind_ok, loadSchema_after, documents_ok, Action.on_get_bind,
    Action.on_pure, Except.ok.injEq, hnow]
  constructor
  · rintro ⟨schema, hschema, found, ⟨paths, hpaths, hfound⟩, rfl⟩
    exact ⟨schema.rule, paths, _, loadSchema_ok.mp ⟨schema, hschema, rfl⟩, hpaths, rfl,
      Selection.judges_iff.mpr ⟨found, hfound, rfl⟩⟩
  · rintro ⟨rule, paths, _, hrule, hpaths, rfl, hjudged⟩
    obtain ⟨schema, hschema, rfl⟩ :=
      (loadSchema_ok (w := .start s)).mpr hrule
    obtain ⟨found, hfound, rfl⟩ := Selection.judges_iff.mp hjudged
    exact ⟨schema, hschema, found, ⟨paths, hpaths, hfound⟩, rfl⟩

end Validation

def Judged.lines (d : Judged) : List String :=
  ((if d.report.failures = [] then "valid   " else "invalid ") ++ d.source) ::
    d.report.failures.map fun f => "    " ++ f.text

/-- A report has the items of a run in their order, and its totals count the documents with and
without failures. In text it has the lines on every document, and in JSON it is a value that tells
all of it. -/
structure RunReport.Accounts (r : RunReport) (s : Selection) (rule : Rule) (items : List Item) :
    Prop where
  documents : List.Forall₂ (s.Judges rule) items r.documents
  total : r.valid + r.invalid = r.documents.length
  invalid : r.invalid = (r.documents.filter fun d => d.report.failures ≠ []).length
  json : ∃ x, Value.parse? (r.render .json) = some x ∧ TellsRun x r
  text : r.render .text = String.join ((r.documents.flatMap Judged.lines).map (· ++ "\n")) ++
    (toString r.valid ++ " valid, " ++ toString r.invalid ++ " invalid")

theorem documentText_eq (d : Judged) (h : d.report.valid = decide (d.report.failures = [])) :
    RunReport.documentText d = String.join (d.lines.map (· ++ "\n")) := by
  unfold RunReport.documentText Judged.lines
  by_cases hnone : d.report.failures = []
  · simp [h, hnone]
  · simp [h, hnone, Function.comp_def]

theorem join_documentText {documents : List Judged}
    (h : ∀ d ∈ documents, d.report.valid = decide (d.report.failures = [])) :
    String.join (documents.map RunReport.documentText) =
      String.join ((documents.flatMap Judged.lines).map (· ++ "\n")) := by
  induction documents with
  | nil => rfl
  | cons d rest ih =>
    rw [List.forall_mem_cons] at h
    simp only [List.map_cons, String.join_cons, List.flatMap_cons, List.map_append,
      String.join_append, documentText_eq d h.1, ih h.2]

/-- A report whose documents stand for items accounts for these. -/
theorem RunReport.accounts {r : RunReport} {sel : Selection} {rule : Rule} {items : List Item}
    (h : List.Forall₂ (sel.Judges rule) items r.documents) : r.Accounts sel rule items := by
  have hvalid : ∀ d ∈ r.documents, d.report.valid = decide (d.report.failures = []) := by
    intro d hd
    obtain ⟨item, -, -, x, -, hx⟩ := exists_of_forall₂ h hd
    rw [hx, Rule.report_valid]
  constructor
  case documents => exact h
  case total => exact Nat.sub_add_cancel List.countP_le_length
  case invalid =>
    rw [RunReport.invalid, List.countP_eq_length_filter]
    congr 1
    refine List.filter_congr fun d hd => ?_
    simp [hvalid d hd]
  case json => exact RunReport.json_tells hvalid
  case text =>
    simp only [RunReport.render, RunReport.text, join_documentText hvalid, String.append_assoc]

end JsonSchema.CommandLine
