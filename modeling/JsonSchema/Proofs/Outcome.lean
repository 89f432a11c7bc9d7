import Mathlib.Data.List.Forall2

namespace JsonSchema
variable {α β γ δ ε : Type}

theorem bind_eq_ok {step : Except ε α} {next : α → Except ε β} {b : β} :
    (step >>= next) = .ok b ↔ ∃ a, step = .ok a ∧ next a = .ok b := by
  cases step with
  | error e => simp [bind, Except.bind]
  | ok a => simp [bind, Except.bind]

theorem map_eq_ok {step : Except ε α} {f : α → β} {b : β} :
    f <$> step = .ok b ↔ ∃ a, step = .ok a ∧ f a = b := by
  cases step with
  | error e => simp [Functor.map, Except.map]
  | ok a => simp [Functor.map, Except.map]

theorem mapError_eq_ok {step : Except ε α} {f : ε → δ} {a : α} :
    step.mapError f = .ok a ↔ step = .ok a := by
  cases step <;> simp [Except.mapError]

theorem mapError_eq_error {step : Except ε α} {f : ε → δ} {e : δ} :
    step.mapError f = .error e ↔ ∃ d, step = .error d ∧ f d = e := by
  cases step <;> simp [Except.mapError]

theorem mapError_bind {step : Except ε α} {next : α → Except ε β} (f : ε → δ) :
    (step >>= next).mapError f = step.mapError f >>= fun a => (next a).mapError f := by
  cases step <;> rfl

theorem mapError_map {step : Except ε α} {g : α → β} (f : ε → δ) :
    (g <$> step).mapError f = g <$> step.mapError f := by
  cases step <;> rfl

theorem pure_eq_ok {a b : α} : (pure a : Except ε α) = .ok b ↔ a = b := by
  simp [pure, Except.pure]

/-- Steps with the same results, whatever their errors are. -/
theorem toOption_congr {step : Except ε α} {other : Except δ α}
    (h : ∀ a, step = .ok a ↔ other = .ok a) : step.toOption = other.toOption := by
  cases step with
  | ok a => rw [(h a).mp rfl]; rfl
  | error e =>
    cases other with
    | error d => rfl
    | ok b => cases (h b).mpr rfl

/-- A list of steps gives the list of their results. -/
theorem mapM_eq_ok {f : α → Except ε β} {as : List α} {bs : List β} :
    as.mapM f = .ok bs ↔ List.Forall₂ (fun a b => f a = .ok b) as bs := by
  induction as generalizing bs with
  | nil => cases bs <;> simp [pure_eq_ok]
  | cons a as ih =>
    simp only [List.mapM_cons, bind_eq_ok, pure_eq_ok, ih]
    constructor
    · intro h
      obtain ⟨b, hb, rest, hrest, rfl⟩ := h
      exact .cons hb hrest
    · intro h
      cases h with
      | cons hb hrest => exact ⟨_, hb, _, hrest, rfl⟩

theorem mapM_congr {f g : α → Except ε β} {as : List α} (h : ∀ a ∈ as, f a = g a) :
    as.mapM f = as.mapM g := by
  induction as with
  | nil => rfl
  | cons a rest ih =>
    rw [List.mapM_cons, List.mapM_cons, h a (by simp), ih fun b hb => h b (by simp [hb])]

theorem mapError_mapM {step : α → Except ε β} {as : List α} (f : ε → δ) :
    (as.mapM step).mapError f = as.mapM fun a => (step a).mapError f := by
  induction as with
  | nil => rfl
  | cons a rest ih =>
    rw [List.mapM_cons, List.mapM_cons, mapError_bind]
    congr 1
    funext b
    rw [mapError_bind, ih]
    rfl

/-- A list has a match when each of its items has one. -/
theorem exists_forall₂ {r : α → β → Prop} {as : List α} :
    (∃ bs, List.Forall₂ r as bs) ↔ ∀ a ∈ as, ∃ b, r a b := by
  constructor
  · intro h a ha
    obtain ⟨bs, h⟩ := h
    induction h with
    | nil => simp at ha
    | cons hab _ ih =>
      rcases List.mem_cons.mp ha with rfl | hrest
      · exact ⟨_, hab⟩
      · exact ih hrest
  · intro h
    induction as with
    | nil => exact ⟨[], .nil⟩
    | cons a as ih =>
      obtain ⟨b, hb⟩ := h a (by simp)
      obtain ⟨bs, hbs⟩ := ih fun a ha => h a (by simp [ha])
      exact ⟨b :: bs, .cons hb hbs⟩

/-- A list of steps succeeds when each of them does. -/
theorem mapM_succeeds {f : α → Except ε β} {as : List α} :
    (∃ bs, as.mapM f = .ok bs) ↔ ∀ a ∈ as, ∃ b, f a = .ok b := by
  simp only [mapM_eq_ok, exists_forall₂]

/-- Whenever a step succeeds, so does another one, with a result that corresponds to the first. -/
def Transfers (r : α → β → Prop) (step : Except ε α) (other : Except ε β) : Prop :=
  ∀ a, step = .ok a → ∃ b, other = .ok b ∧ r a b

namespace Transfers
variable {r : α → β → Prop}

theorem map {s : γ → δ → Prop} {f : α → γ} {g : β → δ} {step : Except ε α} {other : Except ε β}
    (h : Transfers r step other) (hfg : ∀ a b, r a b → s (f a) (g b)) :
    Transfers s (f <$> step) (g <$> other) := by
  intro c hc
  obtain ⟨a, ha, rfl⟩ := map_eq_ok.mp hc
  obtain ⟨b, hb, hab⟩ := h a ha
  exact ⟨g b, map_eq_ok.mpr ⟨b, hb, rfl⟩, hfg a b hab⟩

/-- Lists of steps of which each transfers to the one at its place. -/
theorem mapM {f : γ → Except ε α} {g : δ → Except ε β} {cs : List γ} {ds : List δ}
    (h : List.Forall₂ (fun c d => Transfers r (f c) (g d)) cs ds) :
    Transfers (List.Forall₂ r) (cs.mapM f) (ds.mapM g) := by
  intro as has
  simp only [mapM_eq_ok] at has ⊢
  induction h generalizing as with
  | nil =>
    cases has
    exact ⟨[], .nil, .nil⟩
  | cons hcd _ ih =>
    cases has with
    | cons ha hrest =>
      obtain ⟨b, hb, hab⟩ := hcd _ ha
      obtain ⟨bs, hbs, hmatch⟩ := ih _ hrest
      exact ⟨b :: bs, .cons hb hbs, .cons hab hmatch⟩

end Transfers

/-- A list of steps fails with the error of the first of them that does. -/
theorem mapM_error {f : α → Except ε β} {as : List α} {e : ε} (h : as.mapM f = .error e) :
    ∃ before a after, as = before ++ a :: after ∧ f a = .error e ∧
      ∀ b ∈ before, ∃ c, f b = .ok c := by
  induction as with
  | nil => cases h
  | cons a rest ih =>
    rw [List.mapM_cons] at h
    cases ha : f a with
    | error d =>
      rw [ha] at h
      cases h
      exact ⟨[], a, rest, rfl, ha, by simp⟩
    | ok b =>
      cases hrest : rest.mapM f with
      | error d =>
        rw [ha, hrest] at h
        cases h
        obtain ⟨before, c, after, rfl, hc, hbefore⟩ := ih hrest
        exact ⟨a :: before, c, after, rfl, hc, List.forall_mem_cons.mpr ⟨⟨b, ha⟩, hbefore⟩⟩
      | ok bs =>
        rw [ha, hrest] at h
        cases h

theorem map_eq_error {step : Except ε α} {f : α → β} {e : ε} :
    f <$> step = .error e ↔ step = .error e := by
  cases step with
  | error d => simp [Functor.map, Except.map]
  | ok a => simp [Functor.map, Except.map]

/-- Whenever a step fails, its error is of some form. -/
def FailsAs (form : ε → Prop) (step : Except ε α) : Prop :=
  ∀ e, step = .error e → form e

namespace FailsAs
variable {form : ε → Prop}

theorem ok (a : α) : FailsAs form (.ok a : Except ε α) := by
  intro e h
  cases h

theorem error {e : ε} (h : form e) : FailsAs form (.error e : Except ε α) := by
  intro d he
  cases he
  exact h

theorem bind {step : Except ε α} {next : α → Except ε β} (h : FailsAs form step)
    (hn : ∀ a, FailsAs form (next a)) : FailsAs form (step >>= next) := by
  cases step with
  | error e => exact error (h e rfl)
  | ok a => exact hn a

theorem map {step : Except ε α} (f : α → β) (h : FailsAs form step) :
    FailsAs form (f <$> step) := by
  cases step with
  | error e => exact error (h e rfl)
  | ok a => exact ok (f a)

theorem mapM {f : α → Except ε β} {as : List α} (h : ∀ a ∈ as, FailsAs form (f a)) :
    FailsAs form (as.mapM f) := by
  intro e he
  obtain ⟨before, a, after, rfl, ha, -⟩ := mapM_error he
  exact h a (by simp) e ha

/-- A step that does not succeed fails with an error of the form. -/
theorem of_not_ok {step : Except ε α} (h : FailsAs form step) (hn : ¬ ∃ a, step = .ok a) :
    ∃ e, step = .error e ∧ form e := by
  cases step with
  | error e => exact ⟨e, rfl, h e rfl⟩
  | ok a => exact absurd ⟨a, rfl⟩ hn

end FailsAs
end JsonSchema
