import JsonSchema.Fixture.Run
import JsonSchema.Proofs.Session.LastBinding

namespace JsonSchema.Fixture

/-- A case in its group and file. -/
structure Entry where
  file : String
  group : Group
  test : Case

namespace Entry

def name (e : Entry) : String := e.group.caseName e.file e.test

def holds (e : Entry) : Bool :=
  match Registry.draft4.compile .root e.group.schema with
  | .error _ => false
  | .ok rule => rule.accepts e.test.data = e.test.valid

def complaint (e : Entry) : String :=
  match Registry.draft4.compile .root e.group.schema with
  | .error err => e.name ++ " (schema rejected: " ++ err.message ++ ")"
  | .ok _ => e.name ++ " (expected valid = " ++ toString e.test.valid ++ ")"

end Entry

namespace Summary

def judge (s : Summary) (e : Entry) : Summary := if e.holds then s.pass else s.fail e.complaint

/-- A summary is about some cases: it counts those that hold and has a line for each of the others,
in their order. -/
structure Accounts (s : Summary) (cases : List Entry) : Prop where
  total : s.passed + s.failed.length = cases.length
  passed : s.passed = (cases.filter Entry.holds).length
  failed : s.failed = (cases.filter fun e => !e.holds).map Entry.complaint

theorem empty_accounts : empty.Accounts [] := ⟨rfl, rfl, rfl⟩

variable {s whole narrow : Summary} {cases : List Entry}

/-- Judging one more case counts it or adds its line, and leaves what was there before. -/
theorem Accounts.judge (h : s.Accounts cases) (e : Entry) :
    (s.judge e).Accounts (cases ++ [e]) := by
  obtain ⟨htotal, hpassed, hfailed⟩ := h
  unfold Summary.judge
  cases hholds : e.holds with
  | true =>
    refine ⟨?_, ?_, ?_⟩
    · simp [pass, ← htotal]
      omega
    · simp [pass, hpassed, hholds]
    · simp [pass, hfailed, hholds]
  | false =>
    refine ⟨?_, ?_, ?_⟩
    · simp [fail, ← htotal]
      omega
    · simp [fail, hpassed, hholds]
    · simp [fail, hfailed, hholds]

/-- Judging one case after the other accounts for all of them. -/
theorem Accounts.judged (h : s.Accounts cases) (more : List Entry) :
    (more.foldl Summary.judge s).Accounts (cases ++ more) := by
  induction more generalizing s cases with
  | nil => simpa using h
  | cons e rest ih => simpa using ih (h.judge e)

/-- The exit code is zero just when there is nothing to say about any case. -/
theorem Accounts.exitCode (h : s.Accounts cases) :
    (Output.ofSummary s).exitCode = 0 ↔ ∀ e ∈ cases, e.holds = true := by
  simp [Output.ofSummary, h.failed]

/-- The lines on selected cases are those of all lines that are on selected cases. -/
theorem Accounts.narrowed {p : Entry → Bool} (hwhole : whole.Accounts cases)
    (hnarrow : narrow.Accounts (cases.filter p)) :
    narrow.failed = ((cases.filter fun e => !e.holds).filter p).map Entry.complaint ∧
      narrow.failed.Sublist whole.failed := by
  have hfailed : narrow.failed =
      ((cases.filter fun e => !e.holds).filter p).map Entry.complaint := by
    rw [hnarrow.failed, List.filter_comm]
  refine ⟨hfailed, ?_⟩
  rw [hfailed, hwhole.failed]
  exact List.filter_sublist.map _

end Summary

variable {selected : String → Bool} {t : FileTree} {file : String}

/-- One turn of the loop over the cases: a case whose name is not selected is passed over, and any
other is judged, be its schema accepted or not. -/
theorem Group.runCase_eq (g : Group) (c : Case) (s : Summary) :
    g.runCase selected file (Schema.ofDocument g.schema) s c =
      if selected (Entry.mk file g c).name then s.judge ⟨file, g, c⟩ else s := by
  have hschema : Schema.ofDocument g.schema =
      (fun rule => ⟨.draft4, some ⟨g.schema, rule⟩⟩) <$>
        Registry.draft4.compile .root g.schema := Schema.wrap_eq .new _
  unfold Group.runCase Summary.judge Entry.holds Entry.complaint
  rw [hschema]
  change (if (!selected (g.caseName file c)) = true then s else _) =
    if selected (g.caseName file c) = true then _ else s
  cases selected (g.caseName file c) with
  | false => rfl
  | true =>
    cases Registry.draft4.compile .root g.schema with
    | error err => rfl
    | ok rule =>
      by_cases hverdict : rule.accepts c.data = c.valid
      · simp [Schema.rule, hverdict]
      · simp [Entry.name, Schema.rule, hverdict]

def entriesIn (file : String) (all : List Group) : List Entry :=
  all.flatMap fun g => g.cases.map fun c => ⟨file, g, c⟩

def groupsAt? (t : FileTree) (file : String) : Option (List Group) :=
  (t.read? file).bind fun text => (groups text).toOption

def entries (t : FileTree) (files : List String) : List Entry :=
  files.flatMap fun file => entriesIn file ((groupsAt? t file).getD [])

theorem Group.run_eq (g : Group) (s : Summary) : g.run selected file s =
    ((g.cases.map fun c => (⟨file, g, c⟩ : Entry)).filter fun e => selected e.name).foldl
      Summary.judge s := by
  rw [List.foldl_filter, List.foldl_map]
  exact congrArg (List.foldl · s g.cases) (funext₂ fun s c => g.runCase_eq c s)

/-- The loops over groups and cases are one loop over the selected cases. -/
theorem run_groups (all : List Group) (s : Summary) :
    all.foldl (fun s g => g.run selected file s) s =
      ((entriesIn file all).filter fun e => selected e.name).foldl Summary.judge s := by
  induction all generalizing s with
  | nil => rfl
  | cons g rest ih =>
    rw [List.foldl_cons, ih, Group.run_eq, ← List.foldl_append, ← List.filter_append]
    rfl

theorem runFile_eq {all : List Group} (h : groupsAt? t file = some all) (s : Summary) :
    runFile selected t file s =
      .ok (((entriesIn file all).filter fun e => selected e.name).foldl Summary.judge s) := by
  obtain ⟨text, htext, hall⟩ := Option.bind_eq_some_iff.mp h
  unfold runFile
  cases hgroups : groups text with
  | error place => simp [hgroups, Except.toOption] at hall
  | ok found =>
    obtain rfl : found = all := by simpa [hgroups, Except.toOption] using hall
    simp only [htext, hgroups, run_groups]

theorem groupsAt_of_runFile {s s' : Summary} (h : runFile selected t file s = .ok s') :
    groupsAt? t file ≠ none := by
  unfold runFile at h
  cases htext : t.read? file with
  | none => simp [htext] at h
  | some text =>
    cases hgroups : groups text with
    | error place => simp [htext, hgroups] at h
    | ok found => simp [groupsAt?, htext, hgroups, Except.toOption]

/-- A run over files that can all be read judges every selected case, file by file. -/
theorem runFiles_eq {files : List String} (h : ∀ file ∈ files, groupsAt? t file ≠ none)
    (s : Summary) : runFiles selected t files s =
      .ok (((entries t files).filter fun e => selected e.name).foldl Summary.judge s) := by
  induction files generalizing s with
  | nil => rfl
  | cons file rest ih =>
    rw [List.forall_mem_cons] at h
    obtain ⟨all, hall⟩ := Option.ne_none_iff_exists'.mp h.1
    rw [runFiles, runFile_eq hall]
    simp [entries, hall, bind, Except.bind, ih h.2]

/-- Every file of a run that ends with a summary can be read as fixtures. -/
theorem groupsAt_of_runFiles {files : List String} {s s' : Summary}
    (h : runFiles selected t files s = .ok s') : ∀ file ∈ files, groupsAt? t file ≠ none := by
  induction files generalizing s with
  | nil => simp
  | cons first rest ih =>
    simp only [runFiles, bind_eq_ok] at h
    obtain ⟨between, hfirst, hrest⟩ := h
    exact List.forall_mem_cons.mpr ⟨groupsAt_of_runFile hfirst, ih hrest⟩

/-- What the words of a command line select: the files of a pattern, and the cases in whose names a
filter is found, if there is one. -/
def Asks (directory : String) (args : List String) (pattern : String) (filter : Option Pattern) :
    Prop :=
  pattern = args.head?.getD (defaultPattern directory) ∧
    match args[1]? with
    | none => filter = none
    | some source => ∃ p, Pattern.parse? source = some p ∧ filter = some p

def selects (filter : Option Pattern) (e : Entry) : Bool :=
  filter.all fun p => p.isIn e.name

variable {directory pattern : String} {args files : List String} {filter : Option Pattern}

theorem run_eq (h : Asks directory args pattern filter) :
    run directory t args = runPattern t pattern filter := by
  obtain ⟨rfl, hfilter⟩ := h
  unfold run
  cases hsource : args[1]? with
  | none =>
    simp only [hsource] at hfilter
    rw [hfilter]
  | some source =>
    simp only [hsource] at hfilter
    obtain ⟨p, hp, rfl⟩ := hfilter
    simp only [hp]

theorem runPattern_of_files (hglob : (Glob.parse? pattern).map (·.paths t) = some files)
    (hfiles : files ≠ []) : runPattern t pattern filter =
      runFiles (fun name => filter.all fun p => p.isIn name) t files .empty := by
  obtain ⟨glob, hparse, rfl⟩ := Option.map_eq_some_iff.mp hglob
  unfold runPattern
  simp only [hparse]

/-- A run over files that can all be read accounts for the cases that its filter selects. -/
theorem runPattern_accounts (filter : Option Pattern)
    (hglob : (Glob.parse? pattern).map (·.paths t) = some files) (hfiles : files ≠ [])
    (hread : ∀ file ∈ files, groupsAt? t file ≠ none) :
    ∃ s, runPattern t pattern filter = .ok s ∧
      s.Accounts ((entries t files).filter (selects filter)) := by
  refine ⟨_, ?_, Summary.empty_accounts.judged _⟩
  rw [runPattern_of_files hglob hfiles, runFiles_eq hread]
  rfl

/-- A pattern without files ends a run, and so does a file that cannot be read as fixtures. -/
theorem runPattern_fails (filter : Option Pattern)
    (hglob : (Glob.parse? pattern).map (·.paths t) = some files)
    (h : files = [] ∨ ∃ file ∈ files, groupsAt? t file = none) :
    ∃ e, runPattern t pattern filter = .error e := by
  by_cases hfiles : files = []
  · obtain ⟨glob, hparse, rfl⟩ := Option.map_eq_some_iff.mp hglob
    exact ⟨.noFiles pattern, by simp only [runPattern, hparse, hfiles]⟩
  · obtain ⟨file, hfile, hnone⟩ := h.resolve_left hfiles
    rw [runPattern_of_files hglob hfiles]
    cases hrun : runFiles (fun name => filter.all fun p => p.isIn name) t files .empty with
    | error e => exact ⟨e, rfl⟩
    | ok s => exact absurd hnone (groupsAt_of_runFiles hrun file hfile)

/-- A run over files that can all be read as fixtures accounts for every case that its filter
selects, with the same lines as a run without a filter has on these. A run over no files or over one
that cannot be read prints nothing but an error. -/
theorem run_accounts (patternFault : String) (hargs : Asks directory args pattern filter)
    (hglob : (Glob.parse? pattern).map (·.paths t) = some files) :
    (files = [] ∨ (∃ file ∈ files, groupsAt? t file = none) →
      (Output.ofRun patternFault (run directory t args)).exitCode = 2 ∧
        (Output.ofRun patternFault (run directory t args)).stdout = "") ∧
    (files ≠ [] → (∀ file ∈ files, groupsAt? t file ≠ none) →
      ∃ whole narrow, runPattern t pattern none = .ok whole ∧ run directory t args = .ok narrow ∧
        whole.Accounts (entries t files) ∧
        narrow.Accounts ((entries t files).filter (selects filter)) ∧
        narrow.failed = (((entries t files).filter fun e => !e.holds).filter
          (selects filter)).map Entry.complaint ∧
        narrow.failed.Sublist whole.failed ∧
        Output.ofRun patternFault (run directory t args) = .ofSummary narrow ∧
        ((Output.ofRun patternFault (run directory t args)).exitCode = 0 ↔
          ∀ e ∈ (entries t files).filter (selects filter), e.holds = true)) := by
  rw [run_eq hargs]
  constructor
  · intro h
    obtain ⟨e, he⟩ := runPattern_fails filter hglob h
    rw [he]
    exact ⟨rfl, rfl⟩
  · intro hfiles hread
    obtain ⟨whole, hwhole, hall⟩ := runPattern_accounts none hglob hfiles hread
    rw [List.filter_eq_self.mpr fun _ _ => (rfl : selects none _ = true)] at hall
    obtain ⟨narrow, hnarrow, hsome⟩ := runPattern_accounts filter hglob hfiles hread
    obtain ⟨hfailed, hsublist⟩ := hall.narrowed hsome
    rw [hnarrow]
    exact ⟨whole, narrow, hwhole, rfl, hall, hsome, hfailed, hsublist, rfl, hsome.exitCode⟩

def mixedFixtures : FileTree := .ofFiles [("f.json",
  "[\x7b\"description\":\"g\",\"schema\":\x7b\"type\":\"null\"\x7d,\"tests\":[" ++
    "\x7b\"description\":\"one\",\"data\":1,\"valid\":true\x7d," ++
    "\x7b\"description\":\"two\",\"data\":1,\"valid\":false\x7d]\x7d," ++
  "\x7b\"description\":\"h\",\"schema\":1,\"tests\":[" ++
    "\x7b\"description\":\"two\",\"data\":1,\"valid\":true\x7d]\x7d]")]

theorem parse?_two : Pattern.parse? "two" = some ⟨"two", .ofText ['t', 'w', 'o']⟩ := by
  have hsurrogate : Unicode.surrogate.ranges = [(0xd800, 0xdfff)] := by decide +kernel
  -- Taking the surrogates out of a set sorts ranges, which the kernel alone does not get through.
  have hchar : ∀ c ∈ ['t', 'w', 'o'], Pattern.Expr.ofSet (.single c) = .text [c] := by
    simp [Pattern.Expr.ofSet, CharSet.single, CharSet.range, CharSet.diff, CharSet.inter,
      CharSet.union, CharSet.complement, CharSet.gapsFrom, CharSet.top, CharSet.ofRanges,
      CharSet.joinFrom, List.mergeSort, List.MergeSort.Internal.splitInTwo, hsurrogate]
  have hparse : Pattern.parse? "two" =
      (some (((Pattern.Progress.start.add (.ofSet (.single 't')) 0).add
        (.ofSet (.single 'w')) 0).add (.ofSet (.single 'o')) 0).current.close.expr).bind fun e =>
          if Pattern.fits e then some ⟨"two", e.toRegex⟩ else none := rfl
  rw [hparse, hchar _ (by decide), hchar _ (by decide), hchar _ (by decide)]
  rfl

theorem run_accounts_mixed : ∃ narrow, run "/srv" mixedFixtures ["f.json", "two"] = .ok narrow ∧
    narrow = ⟨1, ["f.json :: h :: two (schema rejected: invalid schema " ++
      "at #: `schema` must be an object or a boolean, found number)"]⟩ := by
  have hentries : (entries mixedFixtures ["f.json"]).map
      (fun e => (e.name, e.holds, e.complaint)) =
      [("f.json :: g :: one", false, "f.json :: g :: one (expected valid = true)"),
       ("f.json :: g :: two", true, "f.json :: g :: two (expected valid = false)"),
       ("f.json :: h :: two", false, "f.json :: h :: two (schema rejected: invalid schema " ++
         "at #: `schema` must be an object or a boolean, found number)")] := by decide +kernel
  have hin : ["f.json :: g :: one", "f.json :: g :: two", "f.json :: h :: two"].map
      (Pattern.mk "two" (.ofText ['t', 'w', 'o'])).isIn = [false, true, true] := by
    decide +kernel
  have hread : ∀ file ∈ ["f.json"], groupsAt? mixedFixtures file ≠ none := by
    intro file hfile hnone
    rw [List.mem_singleton] at hfile
    subst hfile
    simp [entries, entriesIn, hnone] at hentries
  have hargs : Asks "/srv" ["f.json", "two"] "f.json" (some ⟨"two", .ofText ['t', 'w', 'o']⟩) :=
    ⟨rfl, _, parse?_two, rfl⟩
  have hglob : (Glob.parse? "f.json").map (·.paths mixedFixtures) = some ["f.json"] := by
    decide +kernel
  obtain ⟨-, narrow, -, hnarrow, -, haccounts, -⟩ :=
    (run_accounts "" hargs hglob).2 (by simp) hread
  refine ⟨narrow, hnarrow, ?_⟩
  simp only [List.map_eq_cons_iff, List.map_eq_nil_iff, Prod.mk.injEq] at hentries
  simp only [List.map_cons, List.map_nil, List.cons.injEq] at hin
  obtain ⟨one, _, hall, ⟨hone, hone', -⟩, two, _, rfl, ⟨htwo, htwo', -⟩, three, _, rfl,
    ⟨hthree, hthree', hline⟩, rfl⟩ := hentries
  have hpassed : narrow.passed = 1 := by
    rw [haccounts.passed]
    simp [hall, selects, hone, htwo, hthree, hin, htwo', hthree']
  have hfailed : narrow.failed = [three.complaint] := by
    rw [haccounts.failed]
    simp [hall, selects, hone, htwo, hthree, hin, htwo', hthree']
  obtain ⟨passed, failed⟩ := narrow
  rw [Summary.mk.injEq]
  exact ⟨hpassed, hfailed.trans (congrArg ([·]) hline)⟩

end JsonSchema.Fixture
