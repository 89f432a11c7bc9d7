import JsonSchema.Proofs.Rule.Places
import Std.Data.String.ToNat

namespace JsonSchema

def Check.missing (name : String) : String := "missing required property `" ++ name ++ "`"

theorem Check.missing_injective : Function.Injective Check.missing := by
  intro a b h
  exact (String.append_right_inj _).mp ((String.append_left_inj _).mp h)

namespace Rule
open Pointer (Step follow?)

/-- A rule that asks nothing twice: a schema has each keyword once and declares each property once,
and a list of required members names each of them once. -/
inductive Irredundant : Rule → Prop
  | constant (accept : Bool) : Irredundant (.constant accept)
  | all {rules : List Rule} {names : List String} (hnames : names.Nodup)
    (hrules : rules.map keyword? = names.map some) (h : ∀ r ∈ rules, Irredundant r) :
    Irredundant (.all rules)
  | check {c : Check} (h : ∀ names, c = .required names → names.Nodup) : Irredundant (.check c)
  | properties {rules : List (String × Rule)} (hnames : (rules.map Prod.fst).Nodup)
    (h : ∀ p ∈ rules, Irredundant p.2) : Irredundant (.properties rules)
  | each {rule : Rule} (h : Irredundant rule) : Irredundant (.each rule)
  | positional {rules : List Rule} (h : ∀ r ∈ rules, Irredundant r) :
    Irredundant (.positional rules)

/-- Two failures in an instance that stands at some path name two members that one object lacks. -/
def LackTwo (path : InstancePath) (x : Value) (f g : Failure) : Prop :=
  f.keyword = "required" ∧ ∃ steps members name other,
    f.path = path ++ steps.map Step.segment ∧ follow? x steps = some (.object members) ∧
      members.lookup name = none ∧ members.lookup other = none ∧ name ≠ other ∧
        f.message = Check.missing name ∧ g.message = Check.missing other

/-- Two failures can be told apart: by their keywords, by their paths, or by the members that they
say are missing. -/
def Apart (path : InstancePath) (x : Value) (f g : Failure) : Prop :=
  f.keyword = g.keyword → f.path = g.path → LackTwo path x f g

theorem failures_path {rule : Rule} {path : InstancePath} {x : Value} {f : Failure}
    (h : f ∈ rule.failures path x) : path <+: f.path := by
  obtain ⟨steps, q, y, -, -, hf⟩ := leads_of_failures h
  rw [(mem_failuresAlone hf).2.1]
  exact List.prefix_append path _

/-- Paths that go on from one place by different segments are different. -/
theorem apart_of_segments {path : InstancePath} {a b : String} (hab : a ≠ b) {x : Value}
    {f g : Failure} (hf : path ++ [a] <+: f.path) (hg : path ++ [b] <+: g.path) :
    Apart path x f g := by
  intro _ he
  rw [← he] at hg
  have := List.prefix_of_prefix_length_le hf hg (by simp)
  simp [hab] at this

/-- Elements at different indices are at different segments. -/
theorem apart_of_indices {path : InstancePath} {i j : Nat} (hij : i ≠ j) {x : Value}
    {f g : Failure} (hf : path ++ [i.repr] <+: f.path) (hg : path ++ [j.repr] <+: g.path) :
    Apart path x f g :=
  apart_of_segments (fun he => hij (Nat.repr_inj.mp he)) hf hg

def partsKeyword? : Value → Option String
  | .object _ => some "properties"
  | .array _ => some "items"
  | _ => none

/-- A keyword fails at the place where it stands under its own name, or hands the parts of the
instance on and fails further inside. -/
theorem failures_place {rule : Rule} {keyword : String} (hk : rule.keyword? = some keyword)
    {path : InstancePath} {x : Value} {f : Failure} (h : f ∈ rule.failures path x) :
    f.keyword = keyword ∧ f.path = path ∨
      partsKeyword? x = some keyword ∧ ∃ segment, path ++ [segment] <+: f.path := by
  rcases mem_failures.mp h with halone | ⟨p, hp, hf⟩
  · obtain ⟨hreported, hpath, -⟩ := mem_failuresAlone halone
    cases rule with
    | check c =>
      cases hk
      exact .inl ⟨(Option.some.inj hreported).symm, hpath⟩
    | constant accept => cases hk
    | _ => cases hreported
  · have hinside := failures_path hf
    fun_cases parts rule x with
    | case1 rules x => cases hk
    | case2 rules members =>
      obtain ⟨⟨name, r⟩, -, he⟩ := List.mem_filterMap.mp hp
      obtain ⟨y, -, rfl⟩ := Option.map_eq_some_iff.mp he
      exact .inr ⟨hk, name, hinside⟩
    | case3 r elements | case4 rules elements =>
      obtain ⟨q, -, rfl⟩ := List.mem_map.mp hp
      exact .inr ⟨hk, _, hinside⟩
    | case5 => simp [parts] at hp

/-- Different keywords of one schema fail under different names or at different places. -/
theorem apart_of_keywords {r s : Rule} {k l : String} (hr : r.keyword? = some k)
    (hs : s.keyword? = some l) (hkl : k ≠ l) {path : InstancePath} {x : Value} {f g : Failure}
    (hf : f ∈ r.failures path x) (hg : g ∈ s.failures path x) : Apart path x f g := by
  intro hkeyword hpath
  rcases failures_place hr hf with ⟨rfl, hf⟩ | ⟨hrx, a, hf⟩
  · rcases failures_place hs hg with ⟨rfl, -⟩ | ⟨-, b, hg⟩
    · exact absurd hkeyword hkl
    · rw [← hpath, hf] at hg
      exact absurd hg.length_le (by simp)
  · rcases failures_place hs hg with ⟨-, hg⟩ | ⟨hsx, -⟩
    · rw [hpath, hg] at hf
      exact absurd hf.length_le (by simp)
    · exact absurd (Option.some.inj (hrx.symm.trans hsx)) hkl

/-- What can be told apart in a part of an instance can be told apart in the whole. -/
theorem Apart.outer {rule : Rule} {path : InstancePath} {x : Value} {p : Part}
    (hp : p ∈ rule.parts x) {f g : Failure} (h : Apart (path ++ p.segments) p.value f g) :
    Apart path x f g := by
  intro hkeyword hpath
  obtain ⟨hrequired, steps, members, name, other, hf, hobject, hrest⟩ := h hkeyword hpath
  obtain ⟨front, hsegments, hvalue, -⟩ := parts_lead hp
  refine ⟨hrequired, front ++ steps, members, name, other, ?_, ?_, hrest⟩
  · rw [hf, hsegments, List.map_append, List.append_assoc]
  · rw [Pointer.follow?_append, hvalue, Option.bind_some, hobject]

/-- A check complains once, or once about each member that is missing. -/
theorem failuresAlone_apart {rule : Rule} (hr : rule.Irredundant) (path : InstancePath)
    (x : Value) : (rule.failuresAlone path x).Pairwise (Apart path x) := by
  fun_cases failuresAlone rule path x with
  | case1 => exact List.pairwise_singleton _ _
  | case2 c =>
    cases hr with
    | check hnames =>
      rw [List.pairwise_map]
      fun_cases Check.complaints c x with
      | case1 names members =>
        rw [List.pairwise_map]
        refine ((hnames names rfl).filter _).imp_of_mem fun {name other} hname hother hne => ?_
        intro _ _
        have hlacks : ∀ {n}, n ∈ names.filter (fun n => (members.lookup n).isNone) →
            members.lookup n = none := fun h => by simpa using (List.mem_filter.mp h).2
        exact ⟨rfl, [], members, name, other, by simp, rfl, hlacks hname, hlacks hother, hne, rfl,
          rfl⟩
      | case2 | case4 | case6 => exact .nil
      | case3 | case5 | case7 => exact List.pairwise_singleton _ _
  | case3 => exact .nil

/-- Parts of a rule for different members or elements stand at different segments. -/
theorem parts_apart {rule : Rule} (hr : rule.Irredundant) (path : InstancePath) (x : Value) :
    (rule.parts x).Pairwise fun p q => ∀ f ∈ p.rule.failures (path ++ p.segments) p.value,
      ∀ g ∈ q.rule.failures (path ++ q.segments) q.value, Apart path x f g := by
  have hindices {α : Type} (items : List α) : items.zipIdx.Pairwise fun p q => p.2 ≠ q.2 := by
    rw [← List.pairwise_map (f := Prod.snd) (R := (· ≠ ·)), List.zipIdx_map_snd]
    exact List.nodup_range'
  fun_cases parts rule x with
  | case1 rules x =>
    cases hr with
    | @all _ names hnames hrules _ =>
      -- Every two rules have different names, for the names are in the order of the rules.
      have hpairs : (rules.map keyword?).Pairwise (· ≠ ·) := by
        rw [hrules, List.pairwise_map]
        exact hnames.imp fun hne he => hne (Option.some.inj he)
      rw [List.pairwise_map] at hpairs ⊢
      refine hpairs.imp_of_mem fun {r s} hr hs hne f hf g hg => ?_
      have hname : ∀ q ∈ rules, ∃ name, q.keyword? = some name := fun q hq => by
        have hq := List.mem_map_of_mem (f := keyword?) hq
        rw [hrules] at hq
        obtain ⟨name, -, hname⟩ := List.mem_map.mp hq
        exact ⟨name, hname.symm⟩
      obtain ⟨k, hk⟩ := hname r hr
      obtain ⟨l, hl⟩ := hname s hs
      rw [hk, hl] at hne
      rw [List.append_nil] at hf hg
      exact apart_of_keywords hk hl (fun he => hne (congrArg some he)) hf hg
  | case2 rules members =>
    cases hr with
    | properties hnames _ =>
      rw [List.pairwise_filterMap]
      refine (List.pairwise_map.mp hnames).imp fun {p q} hne a ha b hb f hf g hg => ?_
      obtain ⟨y, -, rfl⟩ := Option.map_eq_some_iff.mp ha
      obtain ⟨z, -, rfl⟩ := Option.map_eq_some_iff.mp hb
      exact apart_of_segments hne (failures_path hf) (failures_path hg)
  | case3 rule elements =>
    rw [List.pairwise_map]
    refine (hindices elements).imp fun {p q} hne f hf g hg => ?_
    exact apart_of_indices hne (failures_path hf) (failures_path hg)
  | case4 rules elements =>
    rw [List.pairwise_map]
    refine (hindices (rules.zip elements)).imp fun {p q} hne f hf g hg => ?_
    exact apart_of_indices hne (failures_path hf) (failures_path hg)
  | case5 => exact .nil

theorem Irredundant.part {rule : Rule} (hr : rule.Irredundant) {x : Value} {p : Part}
    (hp : p ∈ rule.parts x) : p.rule.Irredundant := by
  fun_cases parts rule x with
  | case1 rules x =>
    obtain ⟨r, hr', rfl⟩ := List.mem_map.mp hp
    cases hr with
    | all _ _ h => exact h r hr'
  | case2 rules members =>
    obtain ⟨q, hq, he⟩ := List.mem_filterMap.mp hp
    obtain ⟨y, -, rfl⟩ := Option.map_eq_some_iff.mp he
    cases hr with
    | properties _ h => exact h q hq
  | case3 rule elements =>
    obtain ⟨q, -, rfl⟩ := List.mem_map.mp hp
    cases hr with
    | each h => exact h
  | case4 rules elements =>
    obtain ⟨⟨⟨r, y⟩, i⟩, hq, rfl⟩ := List.mem_map.mp hp
    cases hr with
    | positional h => exact h r (List.of_mem_zip (List.fst_mem_of_mem_zipIdx hq)).1
  | case5 => simp [parts] at hp

/-- A rule that asks nothing twice finds failures that can be told apart. -/
theorem failures_apart {rule : Rule} (hr : rule.Irredundant) (path : InstancePath) (x : Value) :
    (rule.failures path x).Pairwise (Apart path x) := by
  induction rule, x using parts_induction generalizing path with
  | step rule x ih =>
    rw [failures_eq, List.pairwise_append, List.pairwise_flatMap]
    refine ⟨failuresAlone_apart hr path x, ⟨fun p hp => ?_, parts_apart hr path x⟩, ?_⟩
    · exact (ih p hp (hr.part hp) _).imp fun h => h.outer hp
    · -- A rule that fails by itself has no parts.
      intro f hf g hg
      cases rule with
      | constant accept => simp [parts] at hg
      | check c => simp [parts] at hg
      | _ => cases hf

end Rule
end JsonSchema
