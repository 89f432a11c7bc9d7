import JsonSchema.FileTree

namespace JsonSchema.FileTree
variable {t u : FileTree} {p q : Place} {text : String} {content : Content}

theorem lookup_put (p q : Place) (content : Content) (files : List (Place × Content)) :
    (put p content files).lookup q = if q = p then some content else files.lookup q := by
  induction files with
  | nil => simp [put, List.lookup_cons]; grind
  | cons entry rest ih =>
    obtain ⟨r, old⟩ := entry
    unfold put
    split
    · subst_vars
      simp [List.lookup_cons]; grind
    · simp [List.lookup_cons, ih]; grind

/-- Places that were mentioned still are when something is put somewhere. -/
theorem mem_put {files : List (Place × Content)} (h : q ∈ files.map Prod.fst) :
    q ∈ (put p content files).map Prod.fst := by
  induction files with
  | nil => simp at h
  | cons entry rest ih =>
    obtain ⟨r, old⟩ := entry
    unfold put
    split
    · subst_vars
      simpa using h
    · rcases List.mem_cons.mp h with rfl | h
      · simp
      · simp [ih h]

structure Keeps (t u : FileTree) : Prop where
  home : u.home = t.home
  directories : ∀ p, t.isDirectory p = true → u.isDirectory p = true

theorem keeps_put (t : FileTree) (p : Place) (content : Content) :
    t.Keeps { t with files := put p content t.files } := by
  refine ⟨rfl, fun q h => ?_⟩
  simp only [isDirectory, mentioned, Bool.or_eq_true, List.any_cons, List.any_append,
    List.any_eq_true] at h ⊢
  rcases h with h | (h | ⟨r, hr, h⟩) | h
  · exact .inl h
  · exact .inr (.inl (.inl h))
  · exact .inr (.inl (.inr ⟨r, mem_put hr, h⟩))
  · exact .inr (.inr h)

/-- Names lead to the same place in a tree with further directories. -/
theorem Keeps.follow (h : t.Keeps u) {names : List String} (hp : t.follow p names = some q) :
    u.follow p names = some q := by
  induction names generalizing p with
  | nil => exact hp
  | cons name rest ih =>
    unfold FileTree.follow at hp ⊢
    by_cases hd : t.isDirectory p = true
    · simp only [hd, h.directories p hd] at hp ⊢
      grind
    · simp [hd] at hp

theorem Keeps.resolve (h : t.Keeps u) {path : String} (hp : t.resolve path = some p) :
    u.resolve path = some p := by
  unfold FileTree.resolve start at hp ⊢
  rw [h.home]
  grind [Keeps.follow]

theorem Keeps.trans {last : FileTree} (h : t.Keeps u) (hlast : u.Keeps last) : t.Keeps last :=
  ⟨hlast.home.trans h.home, fun p hp => hlast.directories p (h.directories p hp)⟩

theorem keeps_make (t : FileTree) (p : Place) : t.Keeps { t with made := t.made ++ [p] } := by
  refine ⟨rfl, fun q h => ?_⟩
  simp only [isDirectory, mentioned, Bool.or_eq_true, List.any_cons, List.any_append,
    List.any_eq_true, List.contains_iff_mem] at h ⊢
  rcases h with (h | h) | (h | h) | ⟨r, hr, h⟩
  · exact .inl (.inl h)
  · exact .inl (.inr (List.mem_append_left _ h))
  · exact .inr (.inl (.inl h))
  · exact .inr (.inl (.inr h))
  · exact .inr (.inr (.inl ⟨r, hr, h⟩))

/-- Making directories touches no file, and takes no directory away, however far it gets. -/
theorem makeFrom_keeps (t : FileTree) (p : Place) (names : List String) :
    t.Keeps (t.makeFrom p names).1 ∧ (t.makeFrom p names).1.files = t.files := by
  induction names generalizing t p with
  | nil => exact ⟨⟨rfl, fun _ h => h⟩, rfl⟩
  | cons name rest ih =>
    unfold makeFrom
    split
    · exact ih t p.dropLast
    · dsimp only
      split
      · exact ih t (p ++ [name])
      · split
        · exact ⟨⟨rfl, fun _ h => h⟩, rfl⟩
        · obtain ⟨hkeeps, hfiles⟩ := ih { t with made := t.made ++ [p ++ [name]] } (p ++ [name])
          exact ⟨(keeps_make t (p ++ [name])).trans hkeeps, hfiles⟩

theorem makeAround_keeps (t : FileTree) (path : String) :
    t.Keeps (t.makeAround path).1 ∧ (t.makeAround path).1.files = t.files := by
  unfold makeAround
  split
  · exact ⟨⟨rfl, fun _ h => h⟩, rfl⟩
  · split
    · exact ⟨⟨rfl, fun _ h => h⟩, rfl⟩
    · exact makeFrom_keeps t _ _

/-- A text that can be read still can when directories have been made. -/
theorem read_makeAround {path other : String} (h : t.read? other = some text) :
    (t.makeAround path).1.read? other = some text := by
  obtain ⟨hkeeps, hfiles⟩ := t.makeAround_keeps path
  simp only [read?, Option.bind_eq_some_iff] at h ⊢
  obtain ⟨content, ⟨p, hp, hcontent⟩, htext⟩ := h
  exact ⟨content, ⟨p, hkeeps.resolve hp, hfiles ▸ hcontent⟩, htext⟩

/-- A written text can be read back. -/
theorem read_write {path : String} (h : t.write? path text = some u) :
    u.read? path = some text := by
  unfold write? at h
  split at h
  · cases h
  · cases h
  · cases h
  · cases h
  · cases hp : t.resolve path with
    | none => simp [hp] at h
    | some p =>
      simp only [hp, Option.bind_eq_bind, Option.bind_some] at h
      split at h
      · cases h
      · cases h
        simp [read?, (keeps_put t p (.text text)).resolve hp, lookup_put, Content.text?]

end JsonSchema.FileTree
