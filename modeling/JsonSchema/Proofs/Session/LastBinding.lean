import JsonSchema.Session
import JsonSchema.Proofs.Outcome
import JsonSchema.Proofs.Rule.Failures
import Mathlib.Data.List.Induction

namespace JsonSchema

namespace Schema

/-- The three ways to ask for a verdict agree. -/
theorem verdicts_agree (s : Schema) (x : Value) :
    s.rule.accepts x = s.accepts x ∧ (s.rule.report x).valid = s.accepts x := by
  have hrule : s.rule.accepts x = s.accepts x := by
    unfold rule accepts
    cases s.root <;> rfl
  refine ⟨hrule, ?_⟩
  rw [← hrule, Rule.report_eq, Bool.eq_iff_iff, List.isEmpty_iff,
    Rule.accepts_iff_failures s.rule x []]

/-- Wrapping compiles the document and leaves nothing of the root before. -/
theorem wrap_eq (s : Schema) (document : Value) : s.wrap document =
    (fun rule => ⟨s.registry, some ⟨document, rule⟩⟩) <$> s.registry.compile .root document := by
  unfold wrap SchemaNode.wrap
  cases s.registry.compile .root document <;> rfl

theorem wrap_ok {s t : Schema} {document : Value} :
    s.wrap document = .ok t ↔ ∃ rule, s.registry.compile .root document = .ok rule ∧
      t = ⟨s.registry, some ⟨document, rule⟩⟩ := by
  rw [wrap_eq, map_eq_ok]
  exact exists_congr fun rule => and_congr_right fun _ => eq_comm

/-- A document becomes a schema when it compiles, with the rule that it compiles to. -/
theorem ofDocument_ok {document : Value} {rule : Rule} :
    (∃ schema, ofDocument document = .ok schema ∧ schema.rule = rule) ↔
      Registry.draft4.compile .root document = .ok rule := by
  simp only [ofDocument, wrap_ok]
  constructor
  · rintro ⟨_, ⟨rule, hrule, rfl⟩, rfl⟩
    exact hrule
  · intro hrule
    exact ⟨_, ⟨rule, hrule, rfl⟩, rfl⟩

/-- A schema over some registry that is as if nothing but one document had ever been wrapped, or
nothing at all. -/
def Holds (s : Schema) (r : Registry) : Option Value → Prop
  | none => s = withRegistry r
  | some document => (withRegistry r).wrap document = .ok s

theorem Holds.registry {s : Schema} {r : Registry} {bound : Option Value}
    (h : s.Holds r bound) : s.registry = r := by
  cases bound with
  | none =>
    obtain rfl : s = withRegistry r := h
    rfl
  | some document =>
    obtain ⟨rule, -, rfl⟩ := wrap_ok.mp h
    rfl

end Schema

namespace Session
open Schema (Holds)

def Command.drops : Command → Bool
  | .unwrap => true
  | .reset => true
  | _ => false

def Command.isReset : Command → Bool
  | .reset => true
  | _ => false

def Command.binds? (r : Registry) : Command → Option Value
  | .wrap document => if (r.compile .root document).isOk then some document else none
  | _ => none

def registryAfter (r : Registry) (history : List Command) : Registry :=
  if history.any Command.isReset then .draft4 else r

def lastBound (r : Registry) (history : List Command) : Option Value :=
  (history.reverse.takeWhile (!·.drops)).findSome? (Command.binds? (registryAfter r history))

theorem run_append (s : Session) (before after : List Command) :
    s.run (before ++ after) = (s.run before).run after :=
  List.foldl_append

theorem registryAfter_append {c : Command} (hc : c.isReset = false) (r : Registry)
    (history : List Command) : registryAfter r (history ++ [c]) = registryAfter r history := by
  simp [registryAfter, hc]

theorem lastBound_append {c : Command} (hc : c.drops = false) (r : Registry)
    (history : List Command) : lastBound r (history ++ [c]) =
      (c.binds? (registryAfter r history)).or (lastBound r history) := by
  have hreset : c.isReset = false := by
    cases c <;> first | rfl | cases hc
  simp only [lastBound, registryAfter_append hreset, List.reverse_append, List.reverse_singleton,
    List.singleton_append, List.takeWhile_cons, hc, Bool.not_false, if_true, List.findSome?_cons]
  cases c.binds? (registryAfter r history) <;> rfl

theorem lastBound_drop {c : Command} (hc : c.drops = true) (r : Registry)
    (history : List Command) : lastBound r (history ++ [c]) = none := by
  simp [lastBound, hc]

/-- After one more command, a schema still is what its last binding made it. -/
theorem step_holds {s : Session} {r : Registry} {history : List Command}
    (h : s.schema.Holds (registryAfter r history) (lastBound r history)) (c : Command) :
    (s.step c).schema.Holds (registryAfter r (history ++ [c])) (lastBound r (history ++ [c])) := by
  have hregistry := h.registry
  cases c with
  | wrap document =>
    rw [registryAfter_append rfl, lastBound_append rfl]
    -- Wrapping does not look at the old root, so the outcome is that of a fresh schema.
    simp only [step, Command.binds?, ← hregistry] at h ⊢
    cases hc : s.schema.registry.compile .root document with
    | ok rule =>
      have hwrap := Schema.wrap_ok.mpr ⟨rule, hc, rfl⟩
      rw [hwrap]
      exact hwrap
    | error e =>
      have hwrap : s.schema.wrap document = .error e := by
        simp only [Schema.wrap, SchemaNode.wrap, hc]
        rfl
      rw [hwrap]
      exact h
  | unwrap =>
    rw [registryAfter_append rfl, lastBound_drop rfl, ← hregistry]
    rfl
  | save | clone =>
    rw [registryAfter_append rfl, lastBound_append rfl]
    exact h
  | reset =>
    rw [lastBound_drop rfl]
    simp [registryAfter, Command.isReset, step, Holds, Schema.new]

theorem run_holds (r : Registry) (history : List Command) :
    ((start r).run history).schema.Holds (registryAfter r history) (lastBound r history) := by
  induction history using List.reverseRecOn with
  | nil => rfl
  | append_singleton history c ih =>
    rw [run_append]
    exact step_holds ih c

/-- Rules that have been handed out stay as they are. -/
theorem saved_step (s : Session) (c : Command) : s.saved <+: (s.step c).saved := by
  cases c with
  | wrap document =>
    simp only [step]
    split <;> exact List.prefix_rfl
  | save => exact List.prefix_append _ _
  | _ => exact List.prefix_rfl

theorem saved_run (s : Session) (commands : List Command) : s.saved <+: (s.run commands).saved := by
  induction commands generalizing s with
  | nil => exact List.prefix_rfl
  | cons c rest ih => exact (saved_step s c).trans (ih (s.step c))

theorem saved_at (s : Session) (before after : List Command) :
    (s.run (before ++ .save :: after)).saved[(s.run before).saved.length]? =
      some (s.run before).schema.rule := by
  obtain ⟨more, hmore⟩ := saved_run ((s.run before).step .save) after
  have hrun : s.run (before ++ .save :: after) = ((s.run before).step .save).run after := by
    rw [run_append]
    rfl
  rw [hrun, ← hmore]
  simp [step]

/-- A schema is decided by its last binding that took effect. If there is one, since the root was
last dropped, the root has its document with the rule compiled from it, and the schema is the one
that a fresh schema over the same registry becomes by wrapping that document; if not, every instance
is accepted. The three ways to ask for a verdict agree, a wrap that is refused might as well not
have happened, and every rule that was handed out is there as it was. -/
theorem run_last_binding (r : Registry) (history : List Command) :
    let s := (start r).run history
    s.schema.registry = registryAfter r history ∧
    (match lastBound r history with
      | some document => ∃ node, s.schema.root = some node ∧ node.document = document ∧
          s.schema.registry.compile .root document = .ok node.rule ∧
          (Schema.withRegistry s.schema.registry).wrap document = .ok s.schema
      | none => s.schema.root = none ∧ ∀ x, s.schema.accepts x = true) ∧
    (∀ x, s.schema.rule.accepts x = s.schema.accepts x ∧
      (s.schema.rule.report x).valid = s.schema.accepts x) ∧
    (∀ document e, s.schema.wrap document = .error e → ∀ after,
      (start r).run (history ++ .wrap document :: after) = (start r).run (history ++ after)) ∧
    ∀ before after, history = before ++ .save :: after →
      s.saved[((start r).run before).saved.length]? = some ((start r).run before).schema.rule := by
  intro s
  have hholds : s.schema.Holds (registryAfter r history) (lastBound r history) :=
    run_holds r history
  refine ⟨hholds.registry, ?_, s.schema.verdicts_agree, ?_, ?_⟩
  · rw [← hholds.registry] at hholds
    cases hl : lastBound r history with
    | none =>
      rw [hl] at hholds
      have hroot : s.schema.root = none := by rw [hholds]; rfl
      exact ⟨hroot, fun x => by rw [Schema.accepts, hroot]⟩
    | some document =>
      rw [hl] at hholds
      obtain ⟨rule, hrule, hs⟩ := Schema.wrap_ok.mp hholds
      exact ⟨⟨document, rule⟩, congrArg Schema.root hs, rfl, hrule, hholds⟩
  · intro document e he after
    have hstep : s.step (.wrap document) = s := by simp only [step, he]
    rw [run_append, run_append]
    exact congrArg (run · after) hstep
  · intro before after h
    subst h
    exact saved_at (start r) before after

/-- `false` is bound last: `true` was dropped before it, and `null` is no schema. -/
example :
    let history := [Command.wrap (.bool true), .unwrap, .wrap (.bool false), .save, .wrap .null]
    lastBound .draft4 history = some (.bool false) ∧
      ((start .draft4).run history).schema.accepts .null = false :=
  ⟨rfl, rfl⟩

end Session
end JsonSchema
