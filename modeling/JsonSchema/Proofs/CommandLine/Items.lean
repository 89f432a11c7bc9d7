import JsonSchema.CommandLine.Input
import JsonSchema.Proofs.CommandLine.Effects
import JsonSchema.Proofs.Paired

namespace JsonSchema.CommandLine

/-- The paths that a word for inputs stands for. -/
inductive StandsFor (t : FileTree) : String → List String → Prop
  | hyphen : StandsFor t "-" ["-"]
  | path {word : String} (hword : word ≠ "-") (hplain : isPattern word = false) :
    StandsFor t word [word]
  | pattern {word : String} {glob : Glob} (hpattern : isPattern word = true)
    (hglob : Glob.parse? word = some glob) (hfound : glob.paths t ≠ []) :
    StandsFor t word (glob.paths t)

/-- Words stand for paths, one word after the other. A hyphen may be among the words once. -/
def Resolves (t : FileTree) (words paths : List String) : Prop :=
  words.count "-" ≤ 1 ∧ ∃ found, List.Forall₂ (StandsFor t) words found ∧ paths = found.flatten

/-- The first word gives its paths, and the others are resolved knowing whether it was a hyphen. -/
theorem inputPaths_cons {t : FileTree} {given : Bool} {word : String} {rest paths : List String} :
    inputPaths t given (word :: rest) = .ok paths ↔
      ∃ first others, StandsFor t word first ∧ ¬ (given = true ∧ word = "-") ∧
        inputPaths t (given || word = "-") rest = .ok others ∧ paths = first ++ others := by
  constructor
  · intro h
    rw [inputPaths] at h
    split at h
    · rename_i hword
      subst hword
      split at h
      · cases h
      · rename_i hgiven
        simp only [bind_eq_ok, pure_eq_ok] at h
        obtain ⟨others, hothers, rfl⟩ := h
        exact ⟨["-"], others, .hyphen, by simp [hgiven], by simpa using hothers, rfl⟩
    · rename_i hword
      simp only [hword, decide_false, Bool.or_false]
      split at h
      · rename_i hpattern
        split at h
        · cases h
        · rename_i glob hglob
          split at h
          · cases h
          · rename_i hfound
            simp only [bind_eq_ok, pure_eq_ok] at h
            obtain ⟨others, hothers, rfl⟩ := h
            exact ⟨_, others, .pattern hpattern hglob hfound, by simp, hothers, rfl⟩
      · rename_i hplain
        simp only [bind_eq_ok, pure_eq_ok] at h
        obtain ⟨others, hothers, rfl⟩ := h
        exact ⟨[word], others, .path hword (by simpa using hplain), by simp, hothers, rfl⟩
  · rintro ⟨first, others, hfirst, hgiven, hothers, rfl⟩
    cases hfirst with
    | hyphen =>
      have hgiven : given = false := by simpa using hgiven
      subst hgiven
      have hothers : inputPaths t true rest = .ok others := hothers
      rw [inputPaths, if_pos rfl, if_neg (by decide), hothers]
      rfl
    | path hword hplain =>
      simp only [hword, decide_false, Bool.or_false] at hothers
      rw [inputPaths, if_neg hword, hplain, if_neg (by decide), hothers]
      rfl
    | @pattern word glob hpattern hglob hfound =>
      have hword : word ≠ "-" := by
        rintro rfl
        exact absurd hpattern (by decide)
      simp only [hword, decide_false, Bool.or_false] at hothers
      simp only [inputPaths, if_neg hword, if_pos hpattern, hglob]
      rw [hothers]
      rfl

theorem inputPaths_ok {t : FileTree} {given : Bool} {words paths : List String} :
    inputPaths t given words = .ok paths ↔ words.count "-" ≤ (if given then 0 else 1) ∧
      ∃ found, List.Forall₂ (StandsFor t) words found ∧ paths = found.flatten := by
  induction words generalizing given paths with
  | nil => simp [inputPaths, eq_comm]
  | cons word rest ih =>
    have hcount : (word :: rest).count "-" ≤ (if given then 0 else 1) ↔
        ¬ (given = true ∧ word = "-") ∧
          rest.count "-" ≤ (if given || word = "-" then 0 else 1) := by
      by_cases hword : word = "-" <;> cases given <;> simp [hword]
    simp only [inputPaths_cons, ih, hcount]
    constructor
    · rintro ⟨first, others, hfirst, hgiven, ⟨hrest, found, hfound, rfl⟩, rfl⟩
      exact ⟨⟨hgiven, hrest⟩, first :: found, .cons hfirst hfound, rfl⟩
    · rintro ⟨⟨hgiven, hrest⟩, found, hfound, rfl⟩
      cases hfound with
      | cons hfirst hfound =>
        exact ⟨_, _, hfirst, hgiven, ⟨hrest, _, hfound, rfl⟩, rfl⟩

theorem inputPaths_resolves {t : FileTree} {words paths : List String} :
    inputPaths t false words = .ok paths ↔ Resolves t words paths :=
  inputPaths_ok

/-- Words stand for one list of paths at most. -/
theorem Resolves.unique {t : FileTree} {words paths others : List String}
    (hpaths : Resolves t words paths) (hothers : Resolves t words others) : paths = others := by
  rw [← inputPaths_resolves] at hpaths hothers
  exact Except.ok.inj (hpaths.symm.trans hothers)

theorem sources_ok {t : FileTree} {words : List String} {all : List Source} :
    sources t words = .ok all ↔
      ∃ paths, Resolves t words paths ∧ all = paths.map Source.ofPath := by
  have hmap : sources t words =
      (fun paths => paths.map Source.ofPath) <$> inputPaths t false words := rfl
  rw [hmap, map_eq_ok]
  simp only [inputPaths_resolves]
  exact exists_congr fun paths => and_congr_right fun _ => eq_comm

/-- What should become a document: a text with its label, or a label alone if there is nothing to be
read. -/
structure Item where
  label : String
  text : Option String

namespace Selection

/-- The items in a text: its lines that have something on them, or the text itself. -/
def itemsIn (s : Selection) (label text : String) : List Item :=
  if s.ndjson then (numberedLines text).map fun line =>
    ⟨label ++ ":" ++ toString line.1, some line.2⟩
  else [⟨label, some text⟩]

/-- The items at a source, of which there is one at least if nothing can be read there. -/
def itemsAt (s : Selection) (label : String) : Option String → List Item
  | some text => s.itemsIn label text
  | none => [⟨label, none⟩]

/-- The items of some paths, one path after the other. A hyphen is the standard input, which is
empty once it has been read. -/
def items (s : Selection) (t : FileTree) (stdin : Content) : List String → List Item
  | [] => []
  | path :: rest =>
    if path = "-" then s.itemsAt "<stdin>" stdin.text? ++ s.items t (.text "") rest
    else s.itemsAt path (t.read? path) ++ s.items t stdin rest

/-- What is selected of a value: what it has at the pointer, or all of it. -/
def part? (s : Selection) (v : Value) : Option Value :=
  match s.pointer with
  | none => some v
  | some pointer => (Pointer.parse? pointer).bind (Pointer.find? v)

def value? (s : Selection) (item : Item) : Option Value :=
  (item.text.bind Value.parse?).bind s.part?

def Gives (s : Selection) (item : Item) (d : Document) : Prop :=
  d.label = item.label ∧ s.value? item = some d.value

variable {s : Selection} {w : World}

theorem select_ok {label : String} {v : Value} {d : Document} :
    s.select label v = .ok d ↔ d.label = label ∧ s.part? v = some d.value := by
  obtain ⟨name, value⟩ := d
  unfold select part?
  cases s.pointer with
  | none => simp [eq_comm]
  | some pointer =>
    cases h : (Pointer.parse? pointer).bind (Pointer.find? v) with
    | none => simp [h]
    | some part => simp [h, eq_comm]

theorem lineDocument_ok {label : String} {line : Nat × String} {d : Document} :
    s.lineDocument label line = .ok d ↔
      s.Gives ⟨label ++ ":" ++ toString line.1, some line.2⟩ d := by
  unfold lineDocument Gives value?
  cases h : Value.parse? line.2 with
  | none => simp [h]
  | some v => simp [h, select_ok]

theorem documents_ok {label text : String} {found : List Document} :
    s.documents label text = .ok found ↔ List.Forall₂ s.Gives (s.itemsIn label text) found := by
  unfold documents itemsIn
  split
  · rw [mapM_eq_ok, List.forall₂_map_left_iff]
    simp only [lineDocument_ok]
  · have hone : List.Forall₂ s.Gives [⟨label, some text⟩] found ↔
        ∃ d, s.Gives ⟨label, some text⟩ d ∧ [d] = found := by
      simp [List.forall₂_cons_left_iff, eq_comm]
    rw [hone]
    unfold Gives value?
    cases h : Value.parse? text with
    | none => simp [h]
    | some v =>
      have hmap : (s.select label v).map ([·]) = (fun d => [d]) <$> s.select label v := rfl
      simp [h, hmap, map_eq_ok, select_ok]

/-- A source that can be read gives the documents of its items, and one that cannot has an item that
gives none. -/
theorem itemsAt_ok {label : String} {text? : Option String} {found : List Document} :
    (∃ text, text? = some text ∧ s.documents label text = .ok found) ↔
      List.Forall₂ s.Gives (s.itemsAt label text?) found := by
  cases text? with
  | none => simp [itemsAt, List.forall₂_cons_left_iff, Gives, value?]
  | some text => simp [itemsAt, documents_ok]

/-- The items of a source are in front of those of the others, which are read after it. -/
theorem items_cons (path : String) (rest : List String) :
    s.items w.files w.stdin (path :: rest) =
      s.itemsAt (Source.ofPath path).label (w.text? (Source.ofPath path)) ++
        s.items (w.afterRead (Source.ofPath path)).files
          (w.afterRead (Source.ofPath path)).stdin rest := by
  by_cases hpath : path = "-"
  · subst hpath
    rfl
  · have hsource : Source.ofPath path = .file path := if_neg hpath
    rw [items, if_neg hpath, hsource]
    rfl

/-- All sources can be loaded when every item gives a value. -/
theorem load_ok {paths : List String} {found : List Document} :
    ((s.load (paths.map Source.ofPath)).on w).1 = .ok found ↔
      List.Forall₂ s.Gives (s.items w.files w.stdin paths) found := by
  induction paths generalizing w found with
  | nil => simp [load, items, eq_comm]
  | cons path rest ih =>
    simp only [List.map_cons, load, Action.on_bind_ok, Action.on_read_ok, Action.on_read_after,
      Action.on_lift, Action.on_pure, Except.ok.injEq, ih, items_cons, forall₂_append_left,
      ← itemsAt_ok]
    grind

end Selection
end JsonSchema.CommandLine
