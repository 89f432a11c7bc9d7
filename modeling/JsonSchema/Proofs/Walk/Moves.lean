import JsonSchema.Proofs.Pointer.Lookup
import JsonSchema.Proofs.Rule.Failures

namespace JsonSchema.Walk

inductive Move
  | push (segment : String)
  | pop
  | fail (keyword message : String)
  /-- Judges an instance as one that is found where the walk stands. -/
  | visit (rule : Rule) (x : Value)

def step (w : Walk) : Move → Walk
  | .push segment => w.push segment
  | .pop => w.pop
  | .fail keyword message => w.fail keyword message
  | .visit rule x => rule.visit x w

def run (w : Walk) (moves : List Move) : Walk :=
  moves.foldl step w

namespace Move

def leads (path : InstancePath) : Move → InstancePath
  | .push segment => path ++ [segment]
  | .pop => path.dropLast
  | .fail .. | .visit .. => path

def found (path : InstancePath) : Move → List Failure
  | .fail keyword message => [⟨keyword, path, message⟩]
  | .visit rule x => (rule.report x).failures.map fun f => f.below path
  | .push _ | .pop => []

def foundAlong (path : InstancePath) : List Move → List Failure
  | [] => []
  | m :: rest => m.found path ++ foundAlong (m.leads path) rest

end Move

theorem step_path (w : Walk) (m : Move) : (w.step m).path = m.leads w.path := by
  cases m with
  | visit rule x =>
    rw [step, Rule.visit_eq]
    rfl
  | _ => rfl

theorem step_report (w : Walk) (m : Move) :
    (w.step m).report = (w.record (m.found w.path)).report := by
  cases m with
  | push segment | pop =>
    rw [Move.found, record_nil]
    rfl
  | fail keyword message => rw [step, fail_eq, Move.found]
  | visit rule x =>
    rw [step, Rule.visit_eq, Move.found, Rule.report_eq, ← Rule.failures_below, List.append_nil]

theorem run_path (w : Walk) (moves : List Move) :
    (w.run moves).path = moves.foldl Move.leads w.path := by
  induction moves generalizing w with
  | nil => rfl
  | cons m rest ih => rw [run, List.foldl_cons, List.foldl_cons, ← step_path, ← ih, run]

/-- A run records what its moves find, behind what has been recorded before. -/
theorem run_report (w : Walk) (moves : List Move) :
    (w.run moves).report = (w.record (Move.foundAlong w.path moves)).report := by
  induction moves generalizing w with
  | nil => rw [Move.foundAlong, record_nil, run, List.foldl_nil]
  | cons m rest ih =>
    have hrest := ih (w.step m)
    rw [step_path] at hrest
    rw [run, List.foldl_cons, ← run, hrest, Move.foundAlong, ← record_append, record, record,
      step_report]

theorem run_append (w : Walk) (before after : List Move) :
    w.run (before ++ after) = (w.run before).run after :=
  List.foldl_append

/-- After any moves a walk is consistent. Its path is where the pushes and pops have led; its report
is valid just when nothing failed; whatever comes later, failures stay as and where they are. To
judge an instance leaves the path alone and adds the failures of its report, each at its path behind
the path of the walk, and to record a failure adds it at the path of the walk. At the whole instance
there is nothing to pop. -/
theorem run_consistent (history : List Move) :
    let w := start.run history
    w.path = history.foldl Move.leads [] ∧
      (w.report.valid = true ↔ w.report.failures = []) ∧
      (∀ more, w.report.failures <+: (start.run (history ++ more)).report.failures) ∧
      (∀ rule x, (w.step (.visit rule x)).path = w.path ∧
        (w.step (.visit rule x)).report.failures =
          w.report.failures ++ (rule.report x).failures.map fun f => f.below w.path) ∧
      (∀ f : Failure, Pointer.text (f.below w.path).path =
        Pointer.text w.path ++ Pointer.text f.path) ∧
      (∀ keyword message, (w.step (.fail keyword message)).path = w.path ∧
        (w.step (.fail keyword message)).report.failures =
          w.report.failures ++ [⟨keyword, w.path, message⟩]) ∧
      (w.isRoot = true → w.step .pop = w) := by
  intro w
  refine ⟨run_path start history, ?_, ?_, ?_, ?_, ?_, ?_⟩
  · have hreport : w.report = _ := run_report start history
    rw [hreport, ← List.isEmpty_iff]
    rfl
  · intro more
    have hmore := run_report w more
    rw [← run_append] at hmore
    rw [hmore]
    exact List.prefix_append _ _
  · intro rule x
    refine ⟨step_path w _, ?_⟩
    rw [step_report]
    rfl
  · intro f
    exact Pointer.text_append w.path f.path
  · intro keyword message
    refine ⟨step_path w _, ?_⟩
    rw [step_report]
    rfl
  · intro hroot
    have hpath : w.path = [] := List.isEmpty_iff.mp hroot
    rw [step, pop, hpath, List.dropLast_nil, ← hpath]

/-- A rule is asked at a member and again behind it, where a failure has been recorded before. -/
example :
    let rule : Rule := .all [.each (.constant false)]
    let moves : List Move := [.pop, .push "a/b", .visit rule (.array [.null]), .pop,
      .fail "own" "by hand", .visit rule (.array [])]
    let w := start.run moves
    w.isRoot = true ∧ w.report.failures.map (fun f => (f.keyword, Pointer.text f.path)) =
      [("false", "/a~1b/0"), ("own", "")] := by
  decide +kernel

end JsonSchema.Walk
