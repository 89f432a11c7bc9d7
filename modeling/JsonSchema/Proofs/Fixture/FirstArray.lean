import JsonSchema.Proofs.Fixture.Accounted
import JsonSchema.Proofs.Json.Front
import JsonSchema.Proofs.Json.Record

namespace JsonSchema.Fixture

open Json (Decoder IsSpace Shape Token tokensFrom)
open Json.Decoder (Takes)

def Case.shape : Shape Case :=
  (Shape.record ⟨"description", .text⟩ ⟨"data", .value (Json.depthLimit - 4)⟩
    ⟨"valid", .flag⟩).map fun (description, data, valid) => ⟨description, data, valid⟩

def Group.shape : Shape Group :=
  (Shape.record ⟨"description", .text⟩ ⟨"schema", .value (Json.depthLimit - 2)⟩
    ⟨"tests", .list Case.shape⟩).map fun (description, schema, cases) =>
      ⟨description, schema, cases⟩

/-- A text is an array of groups, with nothing but space around it. -/
def IsArray (text : List Char) (all : List Group) : Prop :=
  Shape.list Group.shape (tokensFrom .between text) all

/-- A text starts with an array of groups, and some text is left behind its last bracket. -/
def StartsWith (text : List Char) (all : List Group) (back : List Char) : Prop :=
  ∃ front, text = front ++ ']' :: back ∧ IsArray (front ++ [']']) all

theorem Case.decoder_follows : Case.decoder.Follows Case.shape :=
  (Decoder.record_follows (by decide) Decoder.text_follows (Decoder.value_follows _)
    Decoder.flag_follows).map _

theorem Group.decoder_follows : Group.decoder.Follows Group.shape :=
  (Decoder.record_follows (by decide) Decoder.text_follows (Decoder.value_follows _)
    (Decoder.list_follows Case.decoder_follows)).map _

variable {text front back : List Char} {all whole : List Group}

theorem takes_iff {input rest : List Token} :
    (Decoder.list Group.decoder).Takes [] input all rest ↔
      ∃ used, input = used ++ rest ∧ Shape.list Group.shape used all :=
  (Decoder.list_follows Group.decoder_follows).takes_iff

theorem isArray_iff :
    IsArray text all ↔ (Decoder.list Group.decoder).Takes [] (tokensFrom .between text) all [] := by
  simp [takes_iff, IsArray]

theorem arrayTokens_ends (first : Bool) (parts : List (List Token)) :
    ∃ inside, Shape.arrayTokens first parts = inside ++ [.closeArray] := by
  induction parts generalizing first with
  | nil => exact ⟨[], rfl⟩
  | cons used more ih =>
    obtain ⟨inside, hinside⟩ := ih false
    exact ⟨(if first then [] else [.comma]) ++ used ++ inside, by simp [Shape.arrayTokens, hinside]⟩

theorem list_ends {item : Shape Group} {used : List Token} (h : Shape.list item used all) :
    ∃ inside, used = inside ++ [.closeArray] := by
  obtain ⟨parts, rfl, -⟩ := h
  obtain ⟨inside, hinside⟩ := arrayTokens_ends true parts
  exact ⟨.openArray :: inside, by simp [hinside]⟩

theorem takes_iff_startsWith {rest : List Token} :
    (Decoder.list Group.decoder).Takes [] (tokensFrom .between text) all rest ↔
      ∃ back, StartsWith text all back ∧ tokensFrom .between back = rest := by
  rw [takes_iff]
  constructor
  · rintro ⟨used, htext, hused⟩
    obtain ⟨inside, rfl⟩ := list_ends hused
    rw [List.append_assoc] at htext
    obtain ⟨front, back, rfl, hback, hall⟩ := Json.tokensFrom_cut (r := .between) trivial htext
    refine ⟨back, ⟨front, rfl, ?_⟩, hback⟩
    rw [IsArray, hall []]
    exact hused
  · rintro ⟨back, ⟨front, rfl, harray⟩, rfl⟩
    obtain ⟨inside, hinside⟩ := list_ends harray
    refine ⟨inside ++ [.closeArray], ?_, hinside ▸ harray⟩
    rw [Json.tokensFrom_behind hinside, List.append_assoc]
    rfl

/-- Groups are read from the array that a text starts with. -/
theorem groups_ok {text : String} :
    groups text = .ok all ↔ ∃ back, StartsWith text.toList all back := by
  have htakes : groups text = .ok all ↔
      ∃ rest, (Decoder.list Group.decoder).Takes [] (tokensFrom .between text.toList) all rest := by
    constructor
    · intro h
      obtain ⟨⟨_, last⟩, htaken, rfl⟩ := map_eq_ok.mp h
      exact ⟨_, last, htaken, rfl⟩
    · rintro ⟨_, last, htaken, rfl⟩
      exact map_eq_ok.mpr ⟨_, htaken, rfl⟩
  simp [htakes, takes_iff_startsWith]

/-- A text that starts with an array of groups is one itself just when only space is left. -/
theorem StartsWith.isArray_iff (h : StartsWith text all back) :
    IsArray text whole ↔ whole = all ∧ ∀ c ∈ back, IsSpace c := by
  have htaken := takes_iff_startsWith.mpr ⟨back, h, rfl⟩
  rw [Fixture.isArray_iff, ← Json.tokensFrom_eq_nil_iff]
  constructor
  · intro hwhole
    obtain ⟨hall, hback⟩ := hwhole.unique htaken
    exact ⟨hall, hback.symm⟩
  · rintro ⟨rfl, hback⟩
    rwa [hback] at htaken

theorem exists_isArray_iff : (∃ all, IsArray text all) ↔
    (Decoder.list Group.decoder [] (tokensFrom .between text)).toOption.any
      (fun taken => taken.2.val.isEmpty) = true := by
  simp only [isArray_iff, Takes, Option.any_eq_true, List.isEmpty_iff]
  constructor
  · rintro ⟨all, last, h, hlast⟩
    exact ⟨(all, last), by rw [h]; rfl, hlast⟩
  · rintro ⟨⟨all, last⟩, h, hlast⟩
    cases htaken : Decoder.list Group.decoder [] (tokensFrom .between text) with
    | error stop => simp [htaken, Except.toOption] at h
    | ok taken =>
      obtain rfl : taken = (all, last) := by simpa [htaken, Except.toOption] using h
      exact ⟨all, last, rfl, hlast⟩

instance (text : List Char) : Decidable (∃ all, IsArray text all) :=
  decidable_of_iff _ exists_isArray_iff.symm

theorem IsArray.startsWith (h : IsArray text all) :
    ∃ back, StartsWith text all back ∧ ∀ c ∈ back, IsSpace c := by
  obtain ⟨back, hback, hnone⟩ := takes_iff_startsWith.mp (isArray_iff.mp h)
  exact ⟨back, hback, Json.tokensFrom_eq_nil_iff.mp hnone⟩

variable {selected : String → Bool} {t : FileTree} {s s' : Summary}

theorem runFile_ok {file text : String} (h : t.read? file = some text) :
    runFile selected t file s = .ok s' ↔ ∃ all, groups text = .ok all ∧
      s' = ((entriesIn file all).filter fun e => selected e.name).foldl Summary.judge s := by
  unfold runFile
  cases hgroups : groups text with
  | error place => simp [h, hgroups]
  | ok all => simp [h, hgroups, run_groups, eq_comm]

theorem runFile_error {file text : String} (h : t.read? file = some text)
    (hnone : ∀ all, groups text ≠ .ok all) :
    ∃ place, runFile selected t file s = .error (.malformed file place) := by
  unfold runFile
  cases hgroups : groups text with
  | error place => exact ⟨place, by simp only [h, hgroups]⟩
  | ok all => exact absurd hgroups (hnone all)

/-- A file can be run just when its text starts with an array of groups, and then each selected case
of that array is judged, one after the other; any other text is malformed. The text is that array
itself if only space is left behind it. So where nothing else follows an array of groups, the file
can be run just when the whole text is one. -/
theorem runFile_first_array (selected : String → Bool) (s : Summary) {file text : String}
    (h : t.read? file = some text) :
    (∀ all back, StartsWith text.toList all back →
      runFile selected t file s =
        .ok (((entriesIn file all).filter fun e => selected e.name).foldl Summary.judge s) ∧
      ∀ whole, IsArray text.toList whole ↔ whole = all ∧ ∀ c ∈ back, IsSpace c) ∧
    ((¬ ∃ all back, StartsWith text.toList all back) →
      ∃ place, runFile selected t file s = .error (.malformed file place)) ∧
    ((∀ all back, StartsWith text.toList all back → ∀ c ∈ back, IsSpace c) →
      (∀ s', runFile selected t file s = .ok s' ↔
        ∃ all, IsArray text.toList all ∧
          s' = ((entriesIn file all).filter fun e => selected e.name).foldl Summary.judge s) ∧
      ((¬ ∃ all, IsArray text.toList all) →
        ∃ place, runFile selected t file s = .error (.malformed file place))) := by
  refine ⟨fun all back hall => ⟨?_, fun whole => hall.isArray_iff⟩, fun hnone => ?_,
    fun hspace => ?_⟩
  · exact (runFile_ok h).mpr ⟨all, groups_ok.mpr ⟨back, hall⟩, rfl⟩
  · exact runFile_error h fun all hall => hnone ⟨all, groups_ok.mp hall⟩
  · have hwhole : ∀ all, groups text = .ok all ↔ IsArray text.toList all := by
      intro all
      rw [groups_ok]
      constructor
      · rintro ⟨back, hback⟩
        exact hback.isArray_iff.mpr ⟨rfl, hspace all back hback⟩
      · intro harray
        obtain ⟨back, hback, -⟩ := harray.startsWith
        exact ⟨back, hback⟩
    refine ⟨fun s' => ?_, fun hnone => ?_⟩
    · simp only [runFile_ok h, hwhole]
    · exact runFile_error h fun all hall => hnone ⟨all, (hwhole all).mp hall⟩

def oneCase : String := "[\x7b\"description\":\"g\",\"schema\":true,\"tests\":[" ++
  "\x7b\"description\":\"one\",\"data\":1,\"valid\":true\x7d]\x7d]\n"

theorem runFile_first_array_one :
    let t : FileTree := .ofFiles [("f.json", oneCase)]
    let selected := fun name => name == "f.json :: g :: one"
    ∃ all back, t.read? "f.json" = some oneCase ∧ StartsWith oneCase.toList all back ∧
      IsArray oneCase.toList all ∧ (∀ c ∈ back, IsSpace c) ∧
      runFile selected t "f.json" ⟨2, ["before"]⟩ =
        .ok (((entriesIn "f.json" all).filter fun e => selected e.name).foldl Summary.judge
          ⟨2, ["before"]⟩) ∧
      runFile selected t "f.json" ⟨2, ["before"]⟩ = .ok ⟨3, ["before"]⟩ := by
  intro t selected
  have hread : t.read? "f.json" = some oneCase := by decide +kernel
  obtain ⟨hfirst, -, hwhole⟩ := runFile_first_array selected ⟨2, ["before"]⟩ hread
  obtain ⟨all, hall⟩ : ∃ all, IsArray oneCase.toList all := by decide +kernel
  obtain ⟨back, hback, -⟩ := hall.startsWith
  obtain ⟨-, hspace⟩ := ((hfirst all back hback).2 all).mp hall
  have hnothing : ∀ all back, StartsWith oneCase.toList all back → ∀ c ∈ back, IsSpace c :=
    fun _ _ hother => (hother.isArray_iff.mp hall).2
  have hrun := ((hwhole hnothing).1 _).mpr ⟨all, hall, rfl⟩
  have hsummary : (runFile selected t "f.json" ⟨2, ["before"]⟩).toOption =
      some ⟨3, ["before"]⟩ := by decide +kernel
  refine ⟨all, back, hread, hback, hall, hspace, hrun, ?_⟩
  rw [hrun] at hsummary ⊢
  exact congrArg Except.ok (Option.some.inj hsummary)

/-- Of two arrays behind each other, only the first one is run: the file can be run although it is
no array, and the case in the second array, which does not hold, is lost. -/
theorem runFile_second_array :
    let second := "[\x7b\"description\":\"g\",\"schema\":true,\"tests\":[" ++
      "\x7b\"description\":\"two\",\"data\":1,\"valid\":false\x7d]\x7d]"
    let t : FileTree := .ofFiles [("f.json", oneCase ++ second)]
    (¬ ∃ all, IsArray (oneCase ++ second).toList all) ∧ (∃ all, IsArray second.toList all) ∧
      t.read? "f.json" = some (oneCase ++ second) ∧
      (runFile (fun _ => true) t "f.json" .empty).toOption = some ⟨1, []⟩ := by
  decide +kernel

end JsonSchema.Fixture
