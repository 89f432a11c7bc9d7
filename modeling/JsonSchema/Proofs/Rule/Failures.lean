import JsonSchema.Proofs.Rule.Parts
import Mathlib.Data.List.Basic

namespace JsonSchema

namespace Walk

def record (w : Walk) (fs : List Failure) : Walk :=
  { w with report := ⟨w.report.valid && fs.isEmpty, w.report.failures ++ fs⟩ }

@[simp] theorem record_nil (w : Walk) : w.record [] = w := by simp [record]

@[simp] theorem record_path (w : Walk) (fs : List Failure) : (w.record fs).path = w.path := rfl

@[simp] theorem record_append (w : Walk) (fs gs : List Failure) :
    (w.record fs).record gs = w.record (fs ++ gs) := by
  cases fs <;> simp [record]

theorem fail_eq (w : Walk) (keyword message : String) :
    w.fail keyword message = w.record [⟨keyword, w.path, message⟩] := by
  simp [fail, record, Report.fail]

/-- What is recorded further inside stays when the walk comes back. -/
theorem pop_record_push (w : Walk) (segment : String) (fs : List Failure) :
    ((w.push segment).record fs).pop = w.record fs := by
  simp [record, push, pop]

theorem record_each {α : Type} (items : List α) (step : Walk → α → Walk)
    (found : InstancePath → α → List Failure)
    (h : ∀ w, ∀ a ∈ items, step w a = w.record (found w.path a)) (w : Walk) :
    items.foldl step w = w.record (items.flatMap (found w.path)) := by
  induction items generalizing w with
  | nil => simp
  | cons a rest ih =>
    rw [List.foldl_cons, h w a (by simp), ih (fun w b hb => h w b (by simp [hb]))]
    simp

end Walk

def Failure.below (front : InstancePath) (f : Failure) : Failure :=
  { f with path := front ++ f.path }

namespace Rule

def failuresAlone : Rule → InstancePath → Value → List Failure
  | .constant false, path, _ => [⟨"false", path, "no value satisfies the `false` schema"⟩]
  | .check c, path, x => (c.complaints x).map fun message => ⟨c.keyword, path, message⟩
  | _, _, _ => []

def failures (rule : Rule) (path : InstancePath) (x : Value) : List Failure :=
  rule.failuresAlone path x ++
    (rule.parts x).attach.flatMap fun p => p.val.rule.failures (path ++ p.val.segments) p.val.value
termination_by sizeOf rule
decreasing_by exact parts_smaller p.property

theorem failures_eq (rule : Rule) (path : InstancePath) (x : Value) :
    rule.failures path x = rule.failuresAlone path x ++
      (rule.parts x).flatMap fun p => p.rule.failures (path ++ p.segments) p.value := by
  rw [failures, List.flatMap_subtype
    (g := fun p => p.rule.failures (path ++ p.segments) p.value) (fun _ _ => rfl),
    List.unattach_attach]

theorem visitAll_eq (rules : List Rule) (x : Value)
    (h : ∀ r ∈ rules, ∀ w, r.visit x w = w.record (r.failures w.path x)) (w : Walk) :
    visitAll rules x w = w.record (rules.flatMap fun r => r.failures w.path x) := by
  induction rules generalizing w with
  | nil => simp [visitAll]
  | cons r rest ih =>
    rw [visitAll, h r (by simp), ih (fun q hq => h q (by simp [hq]))]
    simp

theorem visitNamed_eq (rules : List (String × Rule)) (members : Members)
    (h : ∀ p ∈ rules, ∀ y w, p.2.visit y w = w.record (p.2.failures w.path y)) (w : Walk) :
    visitNamed rules members w = w.record (((properties rules).parts (.object members)).flatMap
      fun p => p.rule.failures (w.path ++ p.segments) p.value) := by
  induction rules generalizing w with
  | nil => simp [visitNamed, parts]
  | cons p rest ih =>
    obtain ⟨name, r⟩ := p
    have hrest := ih (fun q hq => h q (by simp [hq]))
    cases hl : members.lookup name with
    | none => simpa [visitNamed, parts, hl] using hrest w
    | some y =>
      simp only [visitNamed, hl, h (name, r) (by simp), Walk.pop_record_push, hrest]
      simp [parts, hl, Walk.push]

theorem visitPositional_eq (rules : List Rule) (i : Nat) (elements : List Value)
    (h : ∀ r ∈ rules, ∀ y w, r.visit y w = w.record (r.failures w.path y)) (w : Walk) :
    visitPositional rules i elements w = w.record (((rules.zip elements).zipIdx i).flatMap
      fun p => p.1.1.failures (w.path ++ [toString p.2]) p.1.2) := by
  induction rules generalizing i elements w with
  | nil => simp [visitPositional]
  | cons r rest ih =>
    cases elements with
    | nil => simp [visitPositional]
    | cons y elements =>
      rw [visitPositional, h r (by simp), Walk.pop_record_push,
        ih _ _ (fun q hq => h q (by simp [hq]))]
      simp [Walk.push]

/-- A walk records the failures found at the place where it stands and ends there. -/
theorem visit_eq (rule : Rule) (x : Value) (w : Walk) :
    rule.visit x w = w.record (rule.failures w.path x) := by
  rw [failures_eq]
  match rule with
  | .constant true => simp [visit, failuresAlone, parts]
  | .constant false => simp [visit, failuresAlone, parts, Walk.fail_eq]
  | .all rules =>
    rw [visit, visitAll_eq rules x (fun r hr => visit_eq r x)]
    simp [failuresAlone, parts, List.flatMap_map]
  | .check c =>
    rw [visit, Walk.record_each _ _ (fun path message => [⟨c.keyword, path, message⟩])
      (fun w message _ => Walk.fail_eq w c.keyword message)]
    simp [failuresAlone, parts, List.map_eq_flatMap]
  | .properties rules =>
    cases x with
    | object members =>
      rw [visit, visitNamed_eq rules members (fun p hp y => visit_eq p.2 y)]
      simp [failuresAlone]
    | _ => simp [visit, failuresAlone, parts]
  | .each rule =>
    cases x with
    | array elements =>
      simp only [visit]
      rw [Walk.record_each _ _ (fun path (p : Value × Nat) =>
        rule.failures (path ++ [toString p.2]) p.1)]
      · simp [failuresAlone, parts, List.flatMap_map]
      · intro w p _
        rw [visit_eq rule, Walk.pop_record_push, Walk.push]
    | _ => simp [visit, failuresAlone, parts]
  | .positional rules =>
    cases x with
    | array elements =>
      rw [visit, visitPositional_eq rules 0 elements (fun r hr y => visit_eq r y)]
      simp [failuresAlone, parts, List.flatMap_map]
    | _ => simp [visit, failuresAlone, parts]
termination_by sizeOf rule
decreasing_by
  · exact smaller_in_all hr
  · exact smaller_in_properties hp
  · simp only [each.sizeOf_spec]
    omega
  · exact smaller_in_positional hr

theorem report_eq (rule : Rule) (x : Value) :
    rule.report x = ⟨(rule.failures [] x).isEmpty, rule.failures [] x⟩ := by
  rw [report, visit_eq]
  simp [Walk.record, Walk.start, Report.empty]

/-- The flag of a report says whether it has failures. -/
theorem report_valid (rule : Rule) (x : Value) :
    (rule.report x).valid = decide ((rule.report x).failures = []) := by
  rw [report_eq, Bool.eq_iff_iff]
  simp

/-- What fails by the rule itself fails so wherever the instance stands. -/
theorem failuresAlone_below (rule : Rule) (front path : InstancePath) (x : Value) :
    rule.failuresAlone (front ++ path) x =
      (rule.failuresAlone path x).map fun f => f.below front := by
  fun_cases failuresAlone rule path x with
  | case1 => rfl
  | case2 c => simp [failuresAlone, Failure.below]
  | case3 h => simp [failuresAlone]

/-- Failures are found in an instance wherever it stands, and only their paths tell where. -/
theorem failures_below (rule : Rule) (front path : InstancePath) (x : Value) :
    rule.failures (front ++ path) x = (rule.failures path x).map fun f => f.below front := by
  induction rule, x using parts_induction generalizing path with
  | step rule x ih =>
    rw [failures_eq, failures_eq, failuresAlone_below, List.map_append, List.map_flatMap]
    congr 1
    refine List.flatMap_congr fun p hp => ?_
    rw [List.append_assoc, ih p hp]

/-- The checks that test anew before they complain find the same as when they accept. -/
theorem complaints_nil_iff (c : Check) (x : Value) :
    c.complaints x = [] ↔ c.accepts x = true := by
  fun_cases Check.complaints c x with
  | case1 names members =>
    rw [List.map_eq_nil_iff, List.filter_eq_nil_iff, Check.accepts, List.all_eq_true]
    refine forall₂_congr fun name _ => ?_
    cases members.lookup name <;> simp
  | case2 limit count s h => simp [Check.accepts, h]
  | case3 limit count s h => simp [Check.accepts, h]
  | case4 limit count elements h => simp [Check.accepts, h]
  | case5 limit count elements h => simp [Check.accepts, h]
  | case6 c x _ _ _ h => simp [h]
  | case7 c x _ _ _ h => simp [h]

/-- A rule accepts an instance alone when nothing fails by the rule itself. -/
theorem acceptsAlone_iff (rule : Rule) (path : InstancePath) (x : Value) :
    rule.acceptsAlone x = true ↔ rule.failuresAlone path x = [] := by
  match rule with
  | .constant true => simp [acceptsAlone, failuresAlone]
  | .constant false => simp [acceptsAlone, failuresAlone]
  | .check c => simp [acceptsAlone, failuresAlone, complaints_nil_iff]
  | .all _ => simp [acceptsAlone, failuresAlone]
  | .properties _ => simp [acceptsAlone, failuresAlone]
  | .each _ => simp [acceptsAlone, failuresAlone]
  | .positional _ => simp [acceptsAlone, failuresAlone]

theorem accepts_iff_failures (rule : Rule) (x : Value) :
    ∀ path, rule.accepts x = true ↔ rule.failures path x = [] := by
  induction rule, x using parts_induction with
  | step rule x ih =>
    intro path
    rw [accepts_eq, failures_eq, Bool.and_eq_true, List.append_eq_nil_iff, List.all_eq_true,
      List.flatMap_eq_nil_iff, acceptsAlone_iff rule path x]
    refine and_congr_right fun _ => forall₂_congr fun p hp => ?_
    exact ih p hp (path ++ p.segments)

/-- The short answer and the report agree, for rules of any form. -/
theorem accepts_iff_report (rule : Rule) (x : Value) :
    (rule.accepts x = true ↔ (rule.report x).valid = true) ∧
      ((rule.report x).valid = true ↔ (rule.report x).failures = []) := by
  rw [report_eq, accepts_iff_failures rule x [], List.isEmpty_iff]
  exact ⟨Iff.rfl, Iff.rfl⟩

end Rule
end JsonSchema
