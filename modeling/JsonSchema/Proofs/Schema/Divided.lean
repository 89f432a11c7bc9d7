import JsonSchema.Proofs.Rule.Failures
import JsonSchema.Proofs.Schema.Surroundings
import Mathlib.Data.List.Perm.Basic

namespace JsonSchema

theorem Rule.failures_all (rules : List Rule) (path : InstancePath) (x : Value) :
    (Rule.all rules).failures path x = rules.flatMap fun r => r.failures path x := by
  rw [failures_eq]
  simp [failuresAlone, parts, List.flatMap_map]

/-- With unique names, a member is found among all members as in the part where it is. -/
theorem Members.lookup_part {as bs members : Members} (hu : (members.map Prod.fst).Nodup)
    (h : (as ++ bs).Perm members) {name : String} (hname : name ∉ bs.map Prod.fst) :
    members.lookup name = as.lookup name := by
  have hnames : (as.map Prod.fst ++ bs.map Prod.fst).Nodup := by
    rw [← List.map_append]
    exact (h.map Prod.fst).nodup_iff.mpr hu
  have has : (as.map Prod.fst).Nodup := (List.nodup_append.mp hnames).1
  ext v
  rw [lookup_eq_some hu, lookup_eq_some has, ← h.mem_iff, List.mem_append, or_iff_left]
  intro hv
  exact hname (List.mem_map_of_mem hv)

namespace Registry
variable {r : Registry}

/-- In another order keywords give the same rules in that order. -/
theorem compileKeywords_perm {site : Site} {members others : Members} (h : members.Perm others)
    {rules : List Rule} (hrules : r.compileKeywords site members = .ok rules) :
    ∃ rules', r.compileKeywords site others = .ok rules' ∧ rules.Perm rules' := by
  rw [compileKeywords_eq, mapM_eq_ok] at hrules
  have huses : (r.uses others).Perm (r.uses members) := (h.filterMap _).symm
  obtain ⟨rules', hmatch, hperm⟩ := List.perm_comp_forall₂ huses hrules
  refine ⟨rules', ?_, hperm.symm⟩
  rw [compileKeywords_eq, mapM_eq_ok]
  exact hmatch

theorem compileKeywords_append_ok {site : Site} {as bs : Members} {rules : List Rule} :
    r.compileKeywords site (as ++ bs) = .ok rules ↔ ∃ ps qs, rules = ps ++ qs ∧
      r.compileKeywords site as = .ok ps ∧ r.compileKeywords site bs = .ok qs := by
  simp only [compileKeywords_append, bind_eq_ok, pure_eq_ok]
  constructor
  · rintro ⟨ps, hps, qs, hqs, rfl⟩
    exact ⟨ps, qs, rfl, hps, hqs⟩
  · rintro ⟨ps, qs, rfl, hps, hqs⟩
    exact ⟨ps, hps, qs, hqs, rfl⟩

end Registry

namespace Draft4

/-- Wherever a keyword is, the sibling that it looks at is not in the other part. -/
def Together (as bs : Members) : Prop :=
  ∀ (b : Builtin) (name : String), b.modifier? = some name →
    (b.name ∈ as.map Prod.fst → name ∉ bs.map Prod.fst) ∧
      (b.name ∈ bs.map Prod.fst → name ∉ as.map Prod.fst)

/-- A schema says as much as two schemas between which its members are divided, limits together with
their modifiers: both are accepted as it is, and it accepts what both of them accept. What it finds
to fail is what they find, and in this order if the members of the first come first. -/
theorem compile_divided {members as bs : Members} (hu : (members.map Prod.fst).Nodup)
    (hsplit : (as ++ bs).Perm members) (hkeep : Together as bs) {location : Location} {rule : Rule}
    (h : Registry.draft4.compile location (.object members) = .ok rule) :
    ∃ p q, Registry.draft4.compile location (.object as) = .ok p ∧
      Registry.draft4.compile location (.object bs) = .ok q ∧
      ∀ x, (rule.accepts x = true ↔ p.accepts x = true ∧ q.accepts x = true) ∧
        (rule.report x).failures.Perm ((p.report x).failures ++ (q.report x).failures) ∧
        (members = as ++ bs →
          (rule.report x).failures = (p.report x).failures ++ (q.report x).failures) := by
  obtain ⟨rules, hrules, rfl⟩ := Registry.compile_object_ok.mp h
  obtain ⟨parts, hparts, hperm⟩ := Registry.compileKeywords_perm hsplit.symm hrules
  obtain ⟨ps, qs, rfl, hps, hqs⟩ := Registry.compileKeywords_append_ok.mp hparts
  -- Each part on its own finds the siblings that its keywords look at, as the whole does.
  have hleft : ∀ (b : Builtin) (name : String), b.modifier? = some name →
      b.name ∈ as.map Prod.fst → members.lookup name = as.lookup name := fun b name hb hm =>
    Members.lookup_part hu hsplit ((hkeep b name hb).1 hm)
  have hright : ∀ (b : Builtin) (name : String), b.modifier? = some name →
      b.name ∈ bs.map Prod.fst → members.lookup name = bs.lookup name := fun b name hb hm =>
    Members.lookup_part hu (List.perm_append_comm.trans hsplit) ((hkeep b name hb).2 hm)
  rw [Registry.compileKeywords_siblings location hleft] at hps
  rw [Registry.compileKeywords_siblings location hright] at hqs
  refine ⟨.all ps, .all qs, Registry.compile_object_ok.mpr ⟨ps, hps, rfl⟩,
    Registry.compile_object_ok.mpr ⟨qs, hqs, rfl⟩, fun x => ?_⟩
  have hfailures : ((Rule.all rules).report x).failures.Perm
      (((Rule.all ps).report x).failures ++ ((Rule.all qs).report x).failures) := by
    simp only [Rule.report_eq, Rule.failures_all, ← List.flatMap_append]
    exact hperm.flatMap_right _
  refine ⟨?_, hfailures, ?_⟩
  · rw [Rule.accepts, Rule.accepts, Rule.accepts, Rule.acceptsAll_eq, Rule.acceptsAll_eq,
      Rule.acceptsAll_eq, hperm.all_eq, List.all_append, Bool.and_eq_true]
  · intro he
    subst he
    rw [hrules] at hparts
    obtain rfl := Except.ok.inj hparts
    simp only [Rule.report_eq, Rule.failures_all, List.flatMap_append]

/-- An exclusive limit and a type, divided although the type stands between the limit and its
modifier: a half fails both of them. -/
theorem compile_divided_exclusive :
    let limit : Members := [("minimum", .number (.unsigned 3)), ("exclusiveMinimum", .bool true)]
    let kind : Members := [("type", .string "integer")]
    let members : Members := [("minimum", .number (.unsigned 3)), ("type", .string "integer"),
      ("exclusiveMinimum", .bool true)]
    let rule : Rule :=
      .all [.check (.bound .minimum (.unsigned 3) true), .check (.type [.integer])]
    let half : Value := .number (.float (.ofBits 0x3fe0000000000000))
    Registry.draft4.compile .root (.object members) = .ok rule ∧
      (rule.report half).failures.map Failure.keyword = ["minimum", "type"] ∧
      ∃ p q, Registry.draft4.compile .root (.object limit) = .ok p ∧
        Registry.draft4.compile .root (.object kind) = .ok q ∧
        (rule.report half).failures.Perm
          ((p.report half).failures ++ (q.report half).failures) := by
  intro limit kind members rule half
  have hrule : Registry.draft4.compile .root (.object members) = .ok rule := rfl
  have hsplit : (limit ++ kind).Perm members := .cons _ (.swap _ _ _)
  have hkeep : Together limit kind := fun b name hb => by
    cases b with
    | minimum | maximum =>
      obtain rfl := Option.some.inj hb
      decide
    | _ => cases hb
  obtain ⟨p, q, hp, hq, hall⟩ := compile_divided (by decide) hsplit hkeep hrule
  exact ⟨hrule, by decide +kernel, p, q, hp, hq, (hall half).2.1⟩

end Draft4
end JsonSchema
