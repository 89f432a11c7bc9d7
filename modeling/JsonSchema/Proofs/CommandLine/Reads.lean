import JsonSchema.Proofs.CommandLine.Items

namespace JsonSchema.CommandLine

/-- The sources that a word for inputs is meant to name. What a pattern finds are files. -/
inductive Names (t : FileTree) : String → List Source → Prop
  | hyphen : Names t "-" [.stdin]
  | path {word : String} (hword : word ≠ "-") (hplain : isPattern word = false) :
    Names t word [.file word]
  | pattern {word : String} {glob : Glob} (hpattern : isPattern word = true)
    (hglob : Glob.parse? word = some glob) (hfound : glob.paths t ≠ []) :
    Names t word ((glob.paths t).map .file)

/-- A word is a pattern that finds a path that is a hyphen. -/
def FindsHyphen (t : FileTree) (word : String) : Prop :=
  isPattern word = true ∧ ∃ glob, Glob.parse? word = some glob ∧ "-" ∈ glob.paths t

variable {t : FileTree} {word : String} {words : List String}

/-- Whatever a path is, its source is the file of that path, unless the path is a hyphen. -/
theorem ofPath_ne_hyphen (path : String) : Source.ofPath path ≠ .file "-" := by
  unfold Source.ofPath
  split
  · simp
  · simpa

theorem names_of_standsFor {paths : List String} (h : StandsFor t word paths)
    (hno : ¬ FindsHyphen t word) : Names t word (paths.map Source.ofPath) := by
  cases h with
  | hyphen => exact .hyphen
  | path hword hplain =>
    have hsource : Source.ofPath word = .file word := if_neg hword
    rw [List.map_singleton, hsource]
    exact .path hword hplain
  | @pattern _ glob hpattern hglob hfound =>
    have hfiles : (glob.paths t).map Source.ofPath = (glob.paths t).map .file := by
      refine List.map_congr_left fun path hpath => if_neg ?_
      rintro rfl
      exact hno ⟨hpattern, glob, hglob, hpath⟩
    rw [hfiles]
    exact .pattern hpattern hglob hfound

theorem Names.file_hyphen {named : List Source} (h : Names t word named)
    (hfinds : FindsHyphen t word) : .file "-" ∈ named := by
  obtain ⟨hpattern, glob, hglob, hmem⟩ := hfinds
  cases h with
  | hyphen => exact absurd hpattern (by decide)
  | path _ hplain => simp [hplain] at hpattern
  | pattern _ hglob' _ =>
    rw [hglob, Option.some.injEq] at hglob'
    subst hglob'
    exact List.mem_map_of_mem hmem

theorem Names.stdin {named : List Source} (h : Names t word named) :
    named.count .stdin = if word = "-" then 1 else 0 := by
  cases h with
  | hyphen => rfl
  | path hword _ => simp [hword]
  | pattern hpattern _ _ =>
    have hword : word ≠ "-" := by
      rintro rfl
      exact absurd hpattern (by decide)
    rw [if_neg hword, List.count_eq_zero]
    simp

theorem count_stdin {named : List (List Source)} (h : List.Forall₂ (Names t) words named) :
    named.flatten.count .stdin = words.count "-" := by
  induction h with
  | nil => rfl
  | @cons word _ _ _ hword _ ih =>
    rw [List.flatten_cons, List.count_append, hword.stdin, ih, List.count_cons]
    simp [Nat.add_comm]

/-- The sources that words come to are those that they are meant to name just when no pattern finds
a hyphen. -/
theorem sources_named_iff {all : List Source} (h : sources t words = .ok all) :
    (∃ named, List.Forall₂ (Names t) words named ∧ all = named.flatten) ↔
      ∀ word ∈ words, ¬ FindsHyphen t word := by
  obtain ⟨paths, ⟨-, found, hfound, rfl⟩, rfl⟩ := sources_ok.mp h
  constructor
  · rintro ⟨named, hnamed, hall⟩ word hword hfinds
    obtain ⟨files, ⟨-, hfiles⟩, hnames⟩ := exists_forall₂.mp ⟨named, forall₂_mem hnamed⟩ word hword
    have hmem : .file "-" ∈ named.flatten :=
      List.mem_flatten.mpr ⟨files, hfiles, hnames.file_hyphen hfinds⟩
    rw [← hall, List.mem_map] at hmem
    obtain ⟨path, -, hpath⟩ := hmem
    exact ofPath_ne_hyphen path hpath
  · intro hno
    refine ⟨found.map (·.map Source.ofPath), ?_, List.map_flatten⟩
    rw [List.forall₂_map_right_iff]
    exact (forall₂_mem hfound).imp fun word paths h => names_of_standsFor h.2 (hno word h.1.1)

/-- Sources are read in their order, each of them once, up to the first with a fault. -/
theorem load_reads (s : Selection) (all : List Source) (w : World) :
    ∃ done, done <+: all ∧ ((s.load all).on w).2.reads = w.reads ++ done := by
  induction all generalizing w with
  | nil => exact ⟨[], List.prefix_refl [], (List.append_nil _).symm⟩
  | cons source rest ih =>
    have hone : [source] <+: source :: rest := List.cons_prefix_cons.mpr ⟨rfl, List.nil_prefix⟩
    rw [Selection.load, Action.on_bind, Action.on_read]
    cases w.text? source with
    | none => exact ⟨[source], hone, rfl⟩
    | some text =>
      simp only
      rw [Action.on_bind, Action.on_lift]
      cases s.documents source.label text with
      | error e => exact ⟨[source], hone, rfl⟩
      | ok documents =>
        obtain ⟨done, hdone, hreads⟩ := ih (w.afterRead source)
        refine ⟨source :: done, List.cons_prefix_cons.mpr ⟨rfl, hdone⟩, ?_⟩
        rw [Action.on_bind_pure_after, hreads]
        simp [World.afterRead]

/-- A file that is named by a hyphen, in the working directory and in another one. -/
def hyphenFiles : FileTree := .ofFiles [("-", "1"), ("d/-", "2")]

end JsonSchema.CommandLine
