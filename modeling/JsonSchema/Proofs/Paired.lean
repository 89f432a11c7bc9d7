import JsonSchema.Proofs.Outcome
import Mathlib.Data.List.Perm.Basic

namespace JsonSchema
variable {α β γ δ ε : Type}

/-- Every item of one list has its own partner in the other, wherever that stands. -/
def Paired (r : α → β → Prop) (as : List α) (bs : List β) : Prop :=
  ∃ cs, as.Perm cs ∧ List.Forall₂ r cs bs

/-- Matching lists match item by item in the items that they hold. -/
theorem forall₂_mem {r : α → β → Prop} {as : List α} {bs : List β} (h : List.Forall₂ r as bs) :
    List.Forall₂ (fun a b => (a ∈ as ∧ b ∈ bs) ∧ r a b) as bs := by
  induction h with
  | nil => exact .nil
  | cons hab _ ih =>
    refine .cons ⟨by simp, hab⟩ (ih.imp fun a b h => ?_)
    obtain ⟨⟨ha, hb⟩, h⟩ := h
    exact ⟨by simp [ha, hb], h⟩

/-- Every item of the second of two matching lists has a partner in the first. -/
theorem exists_of_forall₂ {r : α → β → Prop} {as : List α} {bs : List β} (h : List.Forall₂ r as bs)
    {b : β} (hb : b ∈ bs) : ∃ a ∈ as, r a b := by
  induction h with
  | nil => cases hb
  | @cons a _ _ _ hab _ ih =>
    rcases List.mem_cons.mp hb with rfl | hb
    · exact ⟨a, List.mem_cons_self, hab⟩
    · obtain ⟨c, hc, hcb⟩ := ih hb
      exact ⟨c, List.mem_cons_of_mem _ hc, hcb⟩

/-- Items that match are mapped to the same. -/
theorem map_eq_map_of_forall₂ {r : α → β → Prop} {as : List α} {bs : List β}
    (h : List.Forall₂ r as bs) {f : α → γ} {g : β → γ} (hfg : ∀ a b, r a b → f a = g b) :
    as.map f = bs.map g := by
  rw [← List.forall₂_eq_eq_eq]
  exact List.rel_map hfg h

/-- What matches two lists in a row is in two parts that match one of them each. -/
theorem forall₂_append_left {r : α → β → Prop} {as bs : List α} {cs : List β} :
    List.Forall₂ r (as ++ bs) cs ↔
      ∃ front back, List.Forall₂ r as front ∧ List.Forall₂ r bs back ∧ cs = front ++ back := by
  constructor
  · intro h
    induction as generalizing cs with
    | nil => exact ⟨[], cs, .nil, h, rfl⟩
    | cons a as ih =>
      cases h with
      | cons hac hrest =>
        obtain ⟨front, back, hfront, hback, rfl⟩ := ih hrest
        exact ⟨_ :: front, back, .cons hac hfront, hback, rfl⟩
  · rintro ⟨front, back, hfront, hback, rfl⟩
    exact List.rel_append hfront hback

namespace Paired
variable {r : α → β → Prop} {as : List α} {bs : List β}

theorem of_forall₂ (h : List.Forall₂ r as bs) : Paired r as bs := ⟨as, .refl as, h⟩

theorem mem (h : Paired r as bs) : Paired (fun a b => (a ∈ as ∧ b ∈ bs) ∧ r a b) as bs := by
  obtain ⟨cs, hperm, hmatch⟩ := h
  refine ⟨cs, hperm, (forall₂_mem hmatch).imp fun a b hab => ?_⟩
  rwa [hperm.mem_iff]

theorem imp {s : α → β → Prop} (h : Paired r as bs) (hrs : ∀ a ∈ as, ∀ b ∈ bs, r a b → s a b) :
    Paired s as bs := by
  obtain ⟨cs, hperm, hmatch⟩ := h.mem
  exact ⟨cs, hperm, hmatch.imp fun a b hab => hrs a hab.1.1 b hab.1.2 hab.2⟩

theorem map {s : γ → δ → Prop} {f : α → γ} {g : β → δ} (h : Paired r as bs)
    (hfg : ∀ a b, r a b → s (f a) (g b)) : Paired s (as.map f) (bs.map g) := by
  obtain ⟨cs, hperm, hmatch⟩ := h
  exact ⟨cs.map f, hperm.map f, List.rel_map hfg hmatch⟩

theorem filterMap {s : γ → δ → Prop} {f : α → Option γ} {g : β → Option δ} (h : Paired r as bs)
    (hfg : ∀ a b, r a b → Option.Rel s (f a) (g b)) :
    Paired s (as.filterMap f) (bs.filterMap g) := by
  obtain ⟨cs, hperm, hmatch⟩ := h
  exact ⟨cs.filterMap f, hperm.filterMap f, List.rel_filterMap hfg hmatch⟩

theorem flatMap {f : α → List γ} {g : β → List γ} (h : Paired r as bs)
    (hfg : ∀ a ∈ as, ∀ b ∈ bs, r a b → (f a).Perm (g b)) : (as.flatMap f).Perm (bs.flatMap g) := by
  obtain ⟨cs, hperm, hmatch⟩ := h.imp hfg
  refine (hperm.flatMap_right f).trans ?_
  clear hperm h hfg
  induction hmatch with
  | nil => exact .refl []
  | cons hab _ ih => exact hab.append ih

/-- Lists of steps of which each transfers to its partner. -/
theorem mapM {s : γ → δ → Prop} {f : α → Except ε γ} {g : β → Except ε δ}
    (h : Paired (fun a b => Transfers s (f a) (g b)) as bs) :
    Transfers (Paired s) (as.mapM f) (bs.mapM g) := by
  intro xs hxs
  obtain ⟨cs, hperm, hmatch⟩ := h
  obtain ⟨zs, hzs, hxz⟩ := List.perm_comp_forall₂ hperm.symm (mapM_eq_ok.mp hxs)
  obtain ⟨ys, hys, hmatch⟩ := Transfers.mapM hmatch zs (mapM_eq_ok.mpr hzs)
  exact ⟨ys, hys, zs, hxz.symm, hmatch⟩

end Paired
end JsonSchema
