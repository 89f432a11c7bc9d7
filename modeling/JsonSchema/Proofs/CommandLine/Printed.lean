import JsonSchema.CommandLine.Run
import JsonSchema.Proofs.Paired
import JsonSchema.Proofs.Value.PrettyReadback

namespace JsonSchema.CommandLine

/-- A value tells a failure: its keyword, its place as a pointer, and its message. -/
structure TellsFailure (x : Value) (f : Failure) : Prop where
  keyword : x.get? "keyword" = some (.string f.keyword)
  path : x.get? "path" = some (.string (Pointer.text f.path))
  message : x.get? "message" = some (.string f.message)

/-- A value tells a document and all its failures, in their order. -/
structure TellsDocument (x : Value) (d : Judged) : Prop where
  source : x.get? "source" = some (.string d.source)
  valid : x.get? "valid" = some (.bool (d.report.failures = []))
  failures : ∃ all, x.get? "failures" = some (.array all) ∧
    List.Forall₂ TellsFailure all d.report.failures

/-- A value is a count, which is exact as long as it fits into a machine word. -/
def TellsCount (x : Value) (n : Nat) : Prop :=
  ∃ u : UInt64, x = .number (.unsigned u) ∧ (n < UInt64.size → u.toNat = n)

/-- A value tells a report: what it is about, its totals, and all its documents in their order. -/
structure TellsRun (x : Value) (r : RunReport) : Prop where
  schema : x.get? "schema" = some (.string r.schema)
  checkedAt : x.get? "checked_at" = some (.string r.checkedAt)
  valid : ∃ n, x.get? "valid" = some n ∧ TellsCount n r.valid
  invalid : ∃ n, x.get? "invalid" = some n ∧ TellsCount n r.invalid
  documents : ∃ all, x.get? "documents" = some (.array all) ∧
    List.Forall₂ TellsDocument all r.documents

namespace RunReport

theorem tells_failureValue (f : Failure) : TellsFailure (failureValue f) f := ⟨rfl, rfl, rfl⟩

theorem tells_documentValue {d : Judged}
    (h : d.report.valid = decide (d.report.failures = [])) : TellsDocument (documentValue d) d where
  source := rfl
  valid := by
    rw [← h]
    rfl
  failures := by
    refine ⟨_, rfl, ?_⟩
    rw [List.forall₂_map_left_iff]
    exact List.forall₂_same.mpr fun f _ => tells_failureValue f

theorem tells_count (n : Nat) : TellsCount (count n) n := by
  refine ⟨n.toUInt64, rfl, fun h => ?_⟩
  rw [Nat.toUInt64, UInt64.toNat_ofNat']
  exact Nat.mod_eq_of_lt h

theorem tells_value {r : RunReport}
    (h : ∀ d ∈ r.documents, d.report.valid = decide (d.report.failures = [])) :
    TellsRun r.value r where
  schema := rfl
  checkedAt := rfl
  valid := ⟨_, rfl, tells_count r.valid⟩
  invalid := ⟨_, rfl, tells_count r.invalid⟩
  documents := by
    refine ⟨_, rfl, ?_⟩
    rw [List.forall₂_map_left_iff]
    exact List.forall₂_same.mpr fun d hd => tells_documentValue (h d hd)

theorem failureValue_rereads (f : Failure) : (failureValue f).Rereads 1 := by
  refine .object (by simp) ?_
  simp only [List.forall_mem_cons]
  exact ⟨.string _, .string _, .string _, by simp⟩

theorem documentValue_rereads (d : Judged) : (documentValue d).Rereads 3 := by
  have hfailures : (Value.array (d.report.failures.map failureValue)).Rereads 2 :=
    .array (List.forall_mem_map.mpr fun f _ => failureValue_rereads f)
  refine .object (by simp) ?_
  simp only [List.forall_mem_cons]
  exact ⟨.string _, .bool _, hfailures, by simp⟩

theorem value_rereads (r : RunReport) : r.value.Rereads 5 := by
  have hdocuments : (Value.array (r.documents.map documentValue)).Rereads 4 :=
    .array (List.forall_mem_map.mpr fun d _ => documentValue_rereads d)
  refine .object (by simp) ?_
  simp only [List.forall_mem_cons]
  exact ⟨.string _, .string _, .unsigned _, .unsigned _, hdocuments, by simp⟩

/-- What is printed of a report in JSON is a value that tells all of it. -/
theorem json_tells {r : RunReport}
    (h : ∀ d ∈ r.documents, d.report.valid = decide (d.report.failures = [])) :
    ∃ x, Value.parse? (r.render .json) = some x ∧ TellsRun x r := by
  obtain ⟨hnames, hnumbers, hdepth⟩ := r.value_rereads
  exact ⟨r.value, Value.Rereads.prettyText ⟨hnames, hnumbers, by omega⟩, tells_value h⟩

end RunReport
end JsonSchema.CommandLine
