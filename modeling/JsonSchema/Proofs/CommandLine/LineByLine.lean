import JsonSchema.Proofs.CommandLine.Ending
import JsonSchema.Proofs.Json.Space
namespace JsonSchema

namespace Text
variable {separator : Char}

theorem parts_ne_nil (text : List Char) : parts separator text ≠ [] := by
  fun_cases parts separator text <;> simp

theorem closedParts_plain {plain : List Char} (h : separator ∉ plain) :
    closedParts separator plain = if plain = [] then [] else [plain] := by
  rw [closedParts, parts_plain h]
  by_cases hp : plain = [] <;> simp [hp]

theorem closedParts_append {plain : List Char} (h : separator ∉ plain) (rest : List Char) :
    closedParts separator (plain ++ separator :: rest) = plain :: closedParts separator rest := by
  obtain ⟨part, more, hparts⟩ : ∃ part more, parts separator rest = part :: more :=
    List.exists_cons_of_ne_nil (parts_ne_nil rest)
  simp only [closedParts, parts_append h, hparts, List.getLast?_cons_cons]
  split <;> simp

end Text

namespace CommandLine

def Ends (brk rest : List Char) : Prop :=
  brk = ['\n'] ∨ brk = ['\r', '\n'] ∨ brk = [] ∧ rest = []

/-- A text holds documents, each on a line of its own among lines that have nothing on them but
white space. The lines are numbered from some number on, and each document is told with its line. -/
inductive OnLines : Nat → List Char → List (Nat × String) → Prop
  | done (n : Nat) : OnLines n [] []
  | blank {n : Nat} {line brk rest : List Char} {documents : List (Nat × String)}
    (hline : '\n' ∉ line) (hblank : ∀ c ∈ line, Unicode.whiteSpace.contains c = true)
    (hends : Ends brk rest) (hrest : OnLines (n + 1) rest documents) :
    OnLines n (line ++ brk ++ rest) documents
  | document {n : Nat} {text : String} {brk rest : List Char} {documents : List (Nat × String)}
    (hline : '\n' ∉ text.toList) (hvalue : Value.parse? text ≠ none) (hends : Ends brk rest)
    (hrest : OnLines (n + 1) rest documents) :
    OnLines n (text.toList ++ brk ++ rest) ((n, text) :: documents)

def numberedFrom (n : Nat) (text : List Char) : List (Nat × String) :=
  ((Text.closedParts '\n' text).zipIdx n).filterMap fun (line, n) =>
    if isBlank line then none else some (n, String.ofList line)

theorem numberedLines_eq (text : String) : numberedLines text = numberedFrom 1 text.toList := rfl

theorem numberedFrom_nil (n : Nat) : numberedFrom n [] = [] := rfl

def lineFrom (n : Nat) (line : List Char) : List (Nat × String) :=
  if isBlank line then [] else [(n, String.ofList line)]

theorem numberedFrom_append {line : List Char} (h : '\n' ∉ line) (n : Nat) (rest : List Char) :
    numberedFrom n (line ++ '\n' :: rest) = lineFrom n line ++ numberedFrom (n + 1) rest := by
  by_cases hblank : isBlank line = true
  · simp [numberedFrom, Text.closedParts_append h, lineFrom, hblank]
  · simp [numberedFrom, Text.closedParts_append h, lineFrom, hblank]

theorem numberedFrom_plain {line : List Char} (h : '\n' ∉ line) (n : Nat) :
    numberedFrom n line = lineFrom n line := by
  by_cases hline : line = []
  · subst hline
    rfl
  · by_cases hblank : isBlank line = true
    · simp [numberedFrom, Text.closedParts_plain h, lineFrom, hline, hblank]
    · simp [numberedFrom, Text.closedParts_plain h, lineFrom, hline, hblank]

/-- A line is read as it is written, or with a carriage return behind it. -/
theorem numberedFrom_line {line brk rest : List Char} (hline : '\n' ∉ line) (hends : Ends brk rest)
    (n : Nat) : ∃ read, (read = line ∨ read = line ++ ['\r']) ∧
      numberedFrom n (line ++ brk ++ rest) = lineFrom n read ++ numberedFrom (n + 1) rest := by
  rcases hends with rfl | rfl | ⟨rfl, rfl⟩
  · refine ⟨line, .inl rfl, ?_⟩
    rw [List.append_assoc, List.singleton_append, numberedFrom_append hline]
  · have hreturn : '\n' ∉ line ++ ['\r'] := by simp [hline]
    refine ⟨line ++ ['\r'], .inr rfl, ?_⟩
    rw [← numberedFrom_append hreturn]
    simp
  · refine ⟨line, .inl rfl, ?_⟩
    rw [List.append_nil, List.append_nil, numberedFrom_plain hline, numberedFrom_nil,
      List.append_nil]

theorem isBlank_iff {line : List Char} :
    isBlank line = true ↔ ∀ c ∈ line, Unicode.whiteSpace.contains c = true :=
  List.all_eq_true

/-- A line that holds a document gives the document, and the value on it is that of the document. -/
theorem lineFrom_document {text : String} {read : List Char} (hvalue : Value.parse? text ≠ none)
    (hread : read = text.toList ∨ read = text.toList ++ ['\r']) (n : Nat) :
    ∃ line, lineFrom n read = [(n, line)] ∧ Value.parse? line = Value.parse? text := by
  have hparse : Value.parse? (String.ofList read) = Value.parse? text := by
    rcases hread with rfl | rfl
    · rw [String.ofList_toList]
    · rw [Value.parse?_space (by decide), String.ofList_toList]
  have hblank : ¬ isBlank read = true := by
    rw [isBlank_iff, ← String.toList_ofList (l := read)]
    exact fun hall => hvalue (hparse ▸ Value.parse?_blank hall)
  exact ⟨String.ofList read, if_neg hblank, hparse⟩

theorem lineFrom_blank {line read : List Char}
    (hblank : ∀ c ∈ line, Unicode.whiteSpace.contains c = true)
    (hread : read = line ∨ read = line ++ ['\r']) (n : Nat) : lineFrom n read = [] := by
  refine if_pos (isBlank_iff.mpr ?_)
  have hreturn : Unicode.whiteSpace.contains '\r' = true := Json.IsSpace.whiteSpace (by decide)
  rcases hread with rfl | rfl
  · exact hblank
  · intro c hc
    rcases List.mem_append.mp hc with hc | hc
    · exact hblank c hc
    · rwa [List.mem_singleton.mp hc]

/-- Cutting a text into lines finds its documents, with the numbers of their lines. -/
theorem numberedFrom_documents {n : Nat} {text : List Char} {documents : List (Nat × String)}
    (h : OnLines n text documents) :
    List.Forall₂ (fun line d => line.1 = d.1 ∧ Value.parse? line.2 = Value.parse? d.2)
      (numberedFrom n text) documents := by
  induction h with
  | done n => exact .nil
  | @blank n line _ _ _ hline hblank hends _ ih =>
    obtain ⟨read, hread, hlines⟩ := numberedFrom_line hline hends n
    rwa [hlines, lineFrom_blank hblank hread, List.nil_append]
  | @document n text _ _ _ hline hvalue hends _ ih =>
    obtain ⟨read, hread, hlines⟩ := numberedFrom_line hline hends n
    obtain ⟨line, hfrom, hparse⟩ := lineFrom_document hvalue hread n
    rw [hlines, hfrom, List.singleton_append]
    exact .cons ⟨rfl, hparse⟩ ih

variable {v : Validation} {s : Surroundings} {r q : RunReport} {rule : Rule}

namespace Selection
variable {sel : Selection} {items : List Item} {judged : List Judged}

def values (sel : Selection) (items : List Item) : List (Option Value) :=
  items.map sel.value?

theorem exists_judged (rule : Rule) :
    (∃ judged, List.Forall₂ (sel.Judges rule) items judged) ↔ none ∉ sel.values items := by
  rw [exists_forall₂]
  have hitem : ∀ item, (∃ d, sel.Judges rule item d) ↔ sel.value? item ≠ none := by
    intro item
    rw [Option.ne_none_iff_exists']
    constructor
    · rintro ⟨d, -, x, hx, -⟩
      exact ⟨x, hx⟩
    · rintro ⟨x, hx⟩
      exact ⟨⟨item.label, rule.report x⟩, rfl, x, hx, rfl⟩
  simp [values, hitem]

theorem judged_sources (h : List.Forall₂ (sel.Judges rule) items judged) :
    judged.map Judged.source = items.map Item.label :=
  (map_eq_map_of_forall₂ h fun _ _ hd => hd.1.symm).symm

theorem judged_reports (h : List.Forall₂ (sel.Judges rule) items judged) :
    judged.map (some ∘ Judged.report) = (sel.values items).map (Option.map rule.report) := by
  rw [values, List.map_map]
  refine (map_eq_map_of_forall₂ h fun item d hd => ?_).symm
  obtain ⟨-, x, hx, hreport⟩ := hd
  simp [hx, hreport]

end Selection

theorem Loads.unique {t : FileTree} {path : String} {rule other : Rule} (hrule : Loads t path rule)
    (hother : Loads t path other) : rule = other := by
  obtain ⟨text, document, htext, hdocument, hcompile⟩ := hrule
  obtain ⟨text', document', htext', hdocument', hcompile'⟩ := hother
  rw [htext, Option.some.injEq] at htext'
  subst htext'
  rw [hdocument, Option.some.injEq] at hdocument'
  subst hdocument'
  exact Except.ok.inj (hcompile.symm.trans hcompile')

def Validation.items (v : Validation) (s : Surroundings) (paths : List String) : List Item :=
  v.selection.items s.files s.stdin paths

theorem report_succeeds {paths : List String} (hpaths : Resolves s.files v.inputs paths) :
    (∃ r, v.report s = .ok r) ↔ (∃ rule, Loads s.files v.schema rule) ∧
      none ∉ v.selection.values (v.items s paths) := by
  simp only [Validation.report_ok]
  constructor
  · rintro ⟨r, rule, others, judged, hrule, hothers, -, hjudged⟩
    rw [hothers.unique hpaths] at hjudged
    exact ⟨⟨rule, hrule⟩, (Selection.exists_judged rule).mp ⟨judged, hjudged⟩⟩
  · rintro ⟨⟨rule, hrule⟩, hvalues⟩
    obtain ⟨judged, hjudged⟩ := (Selection.exists_judged rule).mpr hvalues
    exact ⟨_, rule, paths, judged, hrule, hpaths, rfl, hjudged⟩

theorem report_documents {paths : List String} (hpaths : Resolves s.files v.inputs paths)
    (hr : v.report s = .ok r) : ∃ rule, Loads s.files v.schema rule ∧
      r.documents.map Judged.source = (v.items s paths).map Item.label ∧
      r.documents.map (some ∘ Judged.report) =
        (v.selection.values (v.items s paths)).map (Option.map rule.report) := by
  obtain ⟨rule, others, judged, hrule, hothers, rfl, hjudged⟩ := Validation.report_ok.mp hr
  rw [hothers.unique hpaths] at hjudged
  exact ⟨rule, hrule, Selection.judged_sources hjudged, Selection.judged_reports hjudged⟩

/-- The totals of a report and how it ends are told by the reports on the documents alone. -/
theorem totals_of_reports
    (h : r.documents.map Judged.report = q.documents.map Judged.report) :
    r.valid = q.valid ∧ r.invalid = q.invalid ∧ r.outcome = q.outcome := by
  have hlength : r.documents.length = q.documents.length := by
    simpa using congrArg List.length h
  have hinvalid : r.invalid = q.invalid := by
    have hcount := congrArg (List.countP fun report => !report.valid) h
    rwa [List.countP_map, List.countP_map] at hcount
  refine ⟨?_, hinvalid, ?_⟩
  · rw [RunReport.valid, RunReport.valid, hlength, hinvalid]
  · rw [RunReport.outcome, RunReport.outcome, hinvalid]

/-- Whether a file can be written does not hang on the text. -/
theorem write?_isSome (t : FileTree) (path text other : String) :
    (t.write? path text).isSome = (t.write? path other).isSome := by
  unfold FileTree.write?
  split
  case h_5 =>
    cases t.resolve path with
    | none => rfl
    | some p =>
      simp only [Option.bind_eq_bind, Option.bind_some]
      split <;> rfl
  all_goals rfl

/-- Whether a report can be written does not hang on what is in it. -/
theorem canWrite_congr {w : Validation} (hout : v.out = w.out) (t : FileTree)
    (text other : String) : v.CanWrite t text ↔ w.CanWrite t other := by
  unfold Validation.CanWrite
  rw [hout]
  refine forall_congr' fun path => imp_congr_right fun _ => and_congr_right fun _ => ?_
  rw [write?_isSome (t.makeAround path).1 path text other]

/-- Two runs end alike if their reports do and are given out to the same place. -/
theorem run_outcome_congr {w : Validation} (hnoOp : v.noOp = w.noOp) (hout : v.out = w.out)
    (h : (v.report s).toOption.map RunReport.outcome =
      (w.report s).toOption.map RunReport.outcome) :
    ((Request.validate v).run s).outcome.toOption =
      ((Request.validate w).run s).outcome.toOption := by
  have hreport (o : Outcome) :
      (∃ r, v.report s = .ok r ∧ v.CanWrite s.files (r.render v.format) ∧ o = r.outcome) ↔
        ∃ q, w.report s = .ok q ∧ w.CanWrite s.files (q.render w.format) ∧ o = q.outcome := by
    cases hv : v.report s with
    | error e => cases hw : w.report s <;> simp [hv, hw, Except.toOption] at h ⊢
    | ok r =>
      cases hw : w.report s with
      | error e => simp [hv, hw, Except.toOption] at h
      | ok q =>
        have houtcome : r.outcome = q.outcome := by simpa [hv, hw, Except.toOption] using h
        simp [houtcome, canWrite_congr hout s.files (r.render v.format) (q.render w.format)]
  have hends (o : Outcome) : ((Request.validate v).run s).outcome = .ok o ↔
      ((Request.validate w).run s).outcome = .ok o := by
    rw [run_ends_well, run_ends_well, hnoOp, hreport]
  exact toOption_congr hends

/-- A file that is read line by line gives what is on its lines. -/
theorem values_lines (p : Option String) {t : FileTree} (stdin : Content) {file text : String}
    {documents : List (Nat × String)} (hfile : file ≠ "-") (htext : t.read? file = some text)
    (hlines : OnLines 1 text.toList documents) :
    (Selection.items ⟨true, p⟩ t stdin [file]).map Item.label =
        documents.map (fun d => file ++ ":" ++ toString d.1) ∧
      Selection.values ⟨true, p⟩ (Selection.items ⟨true, p⟩ t stdin [file]) =
        documents.map fun d => (Value.parse? d.2).bind (Selection.part? ⟨false, p⟩) := by
  have hitems : Selection.items ⟨true, p⟩ t stdin [file] = (numberedLines text).map fun line =>
      ⟨file ++ ":" ++ toString line.1, some line.2⟩ := by
    simp [Selection.items, hfile, htext, Selection.itemsAt, Selection.itemsIn]
  have hfound := numberedFrom_documents hlines
  rw [hitems, numberedLines_eq, Selection.values, List.map_map, List.map_map]
  constructor
  · refine map_eq_map_of_forall₂ hfound fun line d h => ?_
    rw [Function.comp_apply, h.1]
  · refine map_eq_map_of_forall₂ hfound fun line d h => ?_
    rw [Function.comp_apply, Selection.value?, Option.bind_some, h.2]
    rfl

/-- Files that are read whole give what is in them. -/
theorem values_files (p : Option String) {t : FileTree} (stdin : Content) {files : List String}
    {documents : List (Nat × String)}
    (h : List.Forall₂ (fun file d => file ≠ "-" ∧ t.read? file = some d.2) files documents) :
    Selection.values ⟨false, p⟩ (Selection.items ⟨false, p⟩ t stdin files) =
      documents.map fun d => (Value.parse? d.2).bind (Selection.part? ⟨false, p⟩) := by
  induction h with
  | nil => rfl
  | cons hfile _ ih =>
    simp only [Selection.items, if_neg hfile.1, hfile.2, Selection.itemsAt, Selection.itemsIn]
    rw [List.map_cons, ← ih]
    rfl

/-- A run that reads documents from the lines of one file, and a run over files that hold one of
them each, both succeed or both fail, and end alike. When they have reports, these are the same in
the same order, so are their totals, and each document on a line goes by the file and the number of
its line. -/
theorem lines_as_files (v : Validation) (s : Surroundings) {file text : String}
    {words files : List String} {documents : List (Nat × String)}
    (hinput : Resolves s.files v.inputs [file]) (hfile : file ≠ "-")
    (htext : s.files.read? file = some text) (hlines : OnLines 1 text.toList documents)
    (hinputs : Resolves s.files words files)
    (hfiles : List.Forall₂ (fun file d => file ≠ "-" ∧ s.files.read? file = some d.2) files
      documents) :
    let one : Validation := { v with ndjson := true }
    let many : Validation := { v with ndjson := false, inputs := words }
    ((∃ r, one.report s = .ok r) ↔ ∃ q, many.report s = .ok q) ∧
      (∀ r q, one.report s = .ok r → many.report s = .ok q →
        r.documents.map Judged.report = q.documents.map Judged.report ∧
        r.documents.map Judged.source = documents.map (fun d => file ++ ":" ++ toString d.1) ∧
        r.valid = q.valid ∧ r.invalid = q.invalid ∧ r.outcome = q.outcome) ∧
      ((Request.validate one).run s).outcome.toOption =
        ((Request.validate many).run s).outcome.toOption := by
  intro one many
  obtain ⟨hlabels, hone⟩ := values_lines v.pointer s.stdin hfile htext hlines
  have hmany := values_files v.pointer s.stdin hfiles
  have hvalues : one.selection.values (one.items s [file]) =
      many.selection.values (many.items s files) := hone.trans hmany.symm
  have hboth : (∃ r, one.report s = .ok r) ↔ ∃ q, many.report s = .ok q := by
    rw [report_succeeds (v := one) hinput, report_succeeds (v := many) hinputs, hvalues]
  have hsame : ∀ r q, one.report s = .ok r → many.report s = .ok q →
      r.documents.map Judged.report = q.documents.map Judged.report ∧
      r.documents.map Judged.source = documents.map (fun d => file ++ ":" ++ toString d.1) := by
    intro r q hr hq
    obtain ⟨rule, hrule, hsources, hreports⟩ := report_documents (v := one) hinput hr
    obtain ⟨other, hother, -, hothers⟩ := report_documents (v := many) hinputs hq
    obtain rfl : rule = other := hrule.unique hother
    refine ⟨?_, hsources.trans hlabels⟩
    rw [hvalues, ← hothers, ← List.map_map, ← List.map_map] at hreports
    exact List.map_injective_iff.mpr (Option.some_injective _) hreports
  refine ⟨hboth, fun r q hr hq => ?_, ?_⟩
  · obtain ⟨hreports, hsources⟩ := hsame r q hr hq
    exact ⟨hreports, hsources, totals_of_reports hreports⟩
  · refine run_outcome_congr rfl rfl ?_
    cases hr : one.report s with
    | error e =>
      cases hq : many.report s with
      | error d => rfl
      | ok q => simp [hr, hq] at hboth
    | ok r =>
      cases hq : many.report s with
      | error d => simp [hr, hq] at hboth
      | ok q => exact congrArg some (totals_of_reports (hsame r q hr hq).1).2.2

def spacedSurroundings : Surroundings where
  files := .ofFiles [("s.json", "\x7b\"type\": \"string\"\x7d"),
    ("l.json", "\x7b\"v\":1\x7d\r\n\u2003\t\n\r\n\x7b\"v\":\"x\"\x7d"),
    ("d/1.json", "\x7b\"v\":1\x7d"), ("d/2.json", "\x7b\"v\":\"x\"\x7d")]
  stdin := .text ""
  now := "today"

def spacedValidation : Validation where
  schema := "s.json"
  inputs := ["l.json"]
  ndjson := true
  pointer := some "/v"
  format := .text
  out := some "o/r.txt"
  noOp := false

theorem lines_as_files_spaced :
    let v := spacedValidation
    let s := spacedSurroundings
    let w : Validation := { v with ndjson := false, inputs := ["d/1.json", "d/2.json"] }
    ∃ r q, v.report s = .ok r ∧ w.report s = .ok q ∧
      r.documents.map Judged.report = q.documents.map Judged.report ∧
      r.documents.map Judged.source = ["l.json:1", "l.json:4"] ∧ r.invalid = q.invalid ∧
      q.invalid = 1 ∧ ((Request.validate v).run s).outcome.toOption = some .invalid := by
  intro v s w
  have hlines : OnLines 1 ("\x7b\"v\":1\x7d\r\n\u2003\t\n\r\n\x7b\"v\":\"x\"\x7d").toList
      [(1, "\x7b\"v\":1\x7d"), (4, "\x7b\"v\":\"x\"\x7d")] := by
    have hblank : ∀ c ∈ ['\u2003', '\t'], Unicode.whiteSpace.contains c = true := by
      simp [CharSet.contains, CharSet.containsPoint, CharSet.within, Json.whiteSpace_ranges]
    have hnone : ∀ c ∈ [], Unicode.whiteSpace.contains c = true := by simp
    have hparse : ∀ text ∈ ["\x7b\"v\":1\x7d", "\x7b\"v\":\"x\"\x7d"],
        (Value.parse? text).isSome = true := by decide +kernel
    have hfirst : Value.parse? "\x7b\"v\":1\x7d" ≠ none :=
      Option.isSome_iff_ne_none.mp (hparse _ (by simp))
    have hsecond : Value.parse? "\x7b\"v\":\"x\"\x7d" ≠ none :=
      Option.isSome_iff_ne_none.mp (hparse _ (by simp))
    exact .document (by decide) hfirst (.inr (.inl rfl))
      (.blank (by decide) hblank (.inl rfl)
        (.blank (by decide) hnone (.inr (.inl rfl))
          (.document (by decide) hsecond (.inr (.inr ⟨rfl, rfl⟩)) (.done 5))))
  have hinput : Resolves s.files v.inputs ["l.json"] :=
    inputPaths_resolves.mp (by decide +kernel)
  have hinputs : Resolves s.files w.inputs ["d/1.json", "d/2.json"] :=
    inputPaths_resolves.mp (by decide +kernel)
  have hfiles : List.Forall₂ (fun file d => file ≠ "-" ∧ s.files.read? file = some d.2)
      ["d/1.json", "d/2.json"] [(1, "\x7b\"v\":1\x7d"), (4, "\x7b\"v\":\"x\"\x7d")] :=
    .cons (by decide +kernel) (.cons (by decide +kernel) .nil)
  obtain ⟨hboth, hsame, hend⟩ := lines_as_files v s hinput (by decide) (by decide +kernel) hlines
    hinputs hfiles
  have houtcome : ((Request.validate w).run s).outcome.toOption = some .invalid := by decide +kernel
  obtain ⟨q, hq, hone⟩ : ∃ q, w.report s = .ok q ∧ q.invalid = 1 := by
    have hinvalid : (w.report s).toOption.map RunReport.invalid = some 1 := by decide +kernel
    cases hq : w.report s with
    | error e => simp [hq, Except.toOption] at hinvalid
    | ok q => exact ⟨q, rfl, by simpa [hq, Except.toOption] using hinvalid⟩
  obtain ⟨r, hr⟩ := hboth.mpr ⟨q, hq⟩
  obtain ⟨hreports, hsources, -, hcount, -⟩ := hsame r q hr hq
  exact ⟨r, q, hr, hq, hreports, hsources, hcount, hone, hend.trans houtcome⟩

end CommandLine
end JsonSchema
