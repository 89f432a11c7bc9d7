import JsonSchema.Json.Decoder
import JsonSchema.Proofs.Paired

namespace JsonSchema.Json

section Read
variable {limit : Nat} {expect : Expect} {frames : List Frame} {input used rest : List Token}
  {v : Value}

/-- What comes behind a value does not matter for it. -/
theorem read_append (h : read limit expect frames used = .ok (v, rest)) (more : List Token) :
    read limit expect frames (used ++ more) = .ok (v, rest ++ more) := by
  induction used generalizing expect frames with
  | nil => simp [read] at h
  | cons token tail ih =>
    rw [List.cons_append, read]
    rw [read] at h
    cases hstep : step? limit expect frames token with
    | none => simp [hstep] at h
    | some progress =>
      cases progress with
      | complete w =>
        simp only [hstep, Except.ok.injEq, Prod.mk.injEq] at h ⊢
        exact ⟨h.1, by rw [h.2]⟩
      | more expect frames =>
        simp only [hstep] at h ⊢
        exact ih h

theorem read_split (h : read limit expect frames input = .ok (v, rest)) :
    ∃ used, input = used ++ rest ∧ read limit expect frames used = .ok (v, []) := by
  induction input generalizing expect frames with
  | nil => simp [read] at h
  | cons token tail ih =>
    rw [read] at h
    cases hstep : step? limit expect frames token with
    | none => simp [hstep] at h
    | some progress =>
      cases progress with
      | complete w =>
        simp only [hstep, Except.ok.injEq, Prod.mk.injEq] at h
        obtain ⟨rfl, rfl⟩ := h
        exact ⟨[token], rfl, by rw [read, hstep]⟩
      | more expect frames =>
        simp only [hstep] at h
        obtain ⟨used, rfl, hused⟩ := ih h
        exact ⟨token :: used, rfl, by rwa [read, hstep]⟩

def Progress.Within (depth : Nat) : Progress → Prop
  | .complete _ => True
  | .more _ frames => frames.length ≤ depth

theorem settle_within {depth : Nat} (h : frames.length ≤ depth) (v : Value) :
    (settle v frames).Within depth := by
  cases frames with
  | nil => trivial
  | cons frame outer => exact h

theorem begin_limit {token : Token} {progress : Progress} {other : Nat}
    (h : begin? limit frames token = some progress) (hother : frames.length < other) :
    begin? other frames token = some progress ∧ progress.Within (frames.length + 1) := by
  have hsettle : ∀ v, (settle v frames).Within (frames.length + 1) :=
    settle_within (Nat.le_succ _)
  cases token with
  | null | bool b =>
    obtain rfl := Option.some.inj h
    exact ⟨rfl, hsettle _⟩
  | number n =>
    obtain ⟨m, rfl, rfl⟩ := Option.map_eq_some_iff.mp h
    exact ⟨rfl, hsettle _⟩
  | string s =>
    obtain ⟨text, rfl, rfl⟩ := Option.map_eq_some_iff.mp h
    exact ⟨rfl, hsettle _⟩
  | openArray | openObject =>
    obtain ⟨-, hprogress⟩ := Option.ite_none_right_eq_some.mp h
    obtain rfl := Option.some.inj hprogress
    exact ⟨if_pos hother, Nat.le_refl _⟩
  | _ => cases h

/-- Inside fewer containers than the limit, the limit does not matter for a token, which opens one
more at most. -/
theorem step_limit {token : Token} {progress : Progress} {other : Nat}
    (hother : frames.length < other) :
    step? limit expect frames token = some progress →
      step? other expect frames token = some progress ∧ progress.Within (frames.length + 1) := by
  fun_cases step? limit expect frames token with
  | case2 | case4 => exact fun h => begin_limit h hother
  | case3 frames token hopen =>
    intro h
    rw [step?.eq_3 other frames token hopen]
    exact begin_limit h hother
  | case13 => intro h; cases h
  | case6 | case7 | case8 | case9 | case10 =>
    rintro ⟨⟩
    exact ⟨rfl, by simp [Progress.Within]⟩
  | _ =>
    rintro ⟨⟩
    exact ⟨rfl, settle_within (by rw [List.length_cons]; omega) _⟩

/-- A limit that leaves room for every token does not matter. -/
theorem read_limit {other : Nat} (h : read limit expect frames used = .ok (v, rest))
    (hother : frames.length + used.length ≤ other) :
    read other expect frames used = .ok (v, rest) := by
  induction used generalizing expect frames with
  | nil => simp [read] at h
  | cons token tail ih =>
    rw [List.length_cons] at hother
    rw [read] at h ⊢
    cases hstep : step? limit expect frames token with
    | none => simp [hstep] at h
    | some progress =>
      have hroom : frames.length < other := by omega
      obtain ⟨hsame, hwithin⟩ := step_limit hroom hstep
      rw [hsame]
      cases progress with
      | complete w => simpa [hstep] using h
      | more next inside =>
        simp only [hstep] at h
        simp only [Progress.Within] at hwithin
        exact ih h (by omega)

end Read

/-- Which tokens a value of some kind is written as, and what it is. -/
abbrev Shape (α : Type) := List Token → α → Prop

namespace Shape

def text : Shape String := fun used s => used = [.string (some s)]

def flag : Shape Bool := fun used b => used = [.bool b]

def value (limit : Nat) : Shape Value := fun used v => readValue limit used = .ok (v, [])

def skipped : Shape Unit := fun used _ =>
  ∃ limit v, readValue limit (used.map Decoder.withoutContent) = .ok (v, [])

def map (f : α → β) (shape : Shape α) : Shape β := fun used b => ∃ a, shape used a ∧ f a = b

def arrayTokens (first : Bool) : List (List Token) → List Token
  | [] => [.closeArray]
  | used :: rest => (if first then [] else [.comma]) ++ used ++ arrayTokens false rest

def list (item : Shape α) : Shape (List α) := fun used all =>
  ∃ parts, used = .openArray :: arrayTokens true parts ∧ List.Forall₂ item parts all

end Shape

namespace Decoder

/-- A decoder takes a value from the front of its input and leaves the rest. -/
def Takes (d : Decoder α) (place : Trail) (input : List Token) (a : α) (rest : List Token) : Prop :=
  ∃ last : Rest input, d place input = .ok (a, last) ∧ last.val = rest

/-- A decoder takes just what has a shape, which is no end of an array. -/
structure Follows (d : Decoder α) (shape : Shape α) : Prop where
  takes_iff : ∀ {place input a rest},
    d.Takes place input a rest ↔ ∃ used, input = used ++ rest ∧ shape used a
  opens : ∀ {more a}, ¬ shape (.closeArray :: more) a

section Basic
variable {d : Decoder α} {shape : Shape α} {place : Trail} {input rest : List Token} {a : α}

theorem Takes.unique {b : α} {last : List Token} (h : d.Takes place input a rest)
    (hother : d.Takes place input b last) : a = b ∧ rest = last := by
  obtain ⟨_, h, rfl⟩ := h
  obtain ⟨_, hother, rfl⟩ := hother
  rw [h, Except.ok.injEq, Prod.mk.injEq] at hother
  exact ⟨hother.1, congrArg _ hother.2⟩

/-- Some token is taken. -/
theorem Follows.exists_cons (h : d.Follows shape) {used : List Token} (hused : shape used a) :
    ∃ token more, used = token :: more ∧ token ≠ .closeArray := by
  cases used with
  | nil =>
    have htaken : d.Takes [] [] a [] := h.takes_iff.mpr ⟨[], rfl, hused⟩
    obtain ⟨last, -, -⟩ := htaken
    exact absurd last.2 (Nat.not_lt_zero _)
  | cons token more =>
    refine ⟨token, more, rfl, ?_⟩
    rintro rfl
    exact h.opens hused

theorem text_follows : text.Follows Shape.text where
  takes_iff {place input s rest} := by
    constructor
    · rintro ⟨last, h, rfl⟩
      unfold text at h
      split at h
      case h_1 => cases h; exact ⟨_, rfl, rfl⟩
      case h_2 => cases h
    · rintro ⟨_, rfl, rfl⟩
      exact ⟨tail _ rest, rfl, rfl⟩
  opens := by simp [Shape.text]

theorem flag_follows : flag.Follows Shape.flag where
  takes_iff {place input b rest} := by
    constructor
    · rintro ⟨last, h, rfl⟩
      unfold flag at h
      split at h
      case h_1 => cases h; exact ⟨_, rfl, rfl⟩
      case h_2 => cases h
    · rintro ⟨_, rfl, rfl⟩
      exact ⟨tail _ rest, rfl, rfl⟩
  opens := by simp [Shape.flag]

theorem value_follows (limit : Nat) : (value limit).Follows (Shape.value limit) where
  takes_iff {place input v rest} := by
    constructor
    · rintro ⟨last, h, rfl⟩
      unfold value at h
      split at h
      case h_1 hread =>
        cases h
        exact read_split hread
      case h_2 => cases h
    · rintro ⟨used, rfl, hused⟩
      have hread : readValue limit (used ++ rest) = .ok (v, rest) := read_append hused rest
      unfold Takes value
      split
      case h_1 hother =>
        obtain ⟨rfl, rfl⟩ := Prod.mk.inj (Except.ok.inj (hother.symm.trans hread))
        exact ⟨_, rfl, rfl⟩
      case h_2 hother => cases hother.symm.trans hread
  opens := by simp [Shape.value, readValue, read, step?, begin?]

theorem skip_follows : skip.Follows Shape.skipped where
  takes_iff {place input v rest} := by
    constructor
    · rintro ⟨last, h, rfl⟩
      unfold skip at h
      split at h
      case h_1 hread =>
        cases h
        obtain ⟨front, hinput, hfront⟩ := read_split hread
        obtain ⟨used, back, rfl, rfl, rfl⟩ := List.map_eq_append_iff.mp hinput
        exact ⟨used, by simp, _, _, hfront⟩
      case h_2 => cases h
    · rintro ⟨used, rfl, limit, w, hused⟩
      have hread : readValue (used ++ rest).length ((used ++ rest).map withoutContent) =
          .ok (w, rest.map withoutContent) := by
        rw [List.map_append]
        exact read_append (read_limit hused (by simp)) _
      unfold Takes skip
      split
      case h_1 hother =>
        obtain ⟨rfl, rfl⟩ := Prod.mk.inj (Except.ok.inj (hother.symm.trans hread))
        exact ⟨_, rfl, by simp⟩
      case h_2 hother => cases hother.symm.trans hread
  opens := by simp [Shape.skipped, readValue, read, step?, begin?, withoutContent]

theorem map_takes {f : α → β} {b : β} :
    (d.map f).Takes place input b rest ↔ ∃ a, d.Takes place input a rest ∧ f a = b := by
  constructor
  · rintro ⟨last, h, rfl⟩
    obtain ⟨⟨a, _⟩, ha, hlast⟩ := map_eq_ok.mp h
    cases hlast
    exact ⟨a, ⟨_, ha, rfl⟩, rfl⟩
  · rintro ⟨a, ⟨last, ha, rfl⟩, rfl⟩
    exact ⟨last, map_eq_ok.mpr ⟨(a, last), ha, rfl⟩, rfl⟩

theorem Follows.map (h : d.Follows shape) (f : α → β) : (d.map f).Follows (shape.map f) where
  takes_iff {place input b rest} := by
    simp only [map_takes, h.takes_iff, Shape.map]
    constructor
    · rintro ⟨a, ⟨used, hinput, hused⟩, hb⟩
      exact ⟨used, hinput, a, hused, hb⟩
    · rintro ⟨used, hinput, a, hused, hb⟩
      exact ⟨a, ⟨used, hinput, hused⟩, hb⟩
  opens := by
    rintro more b ⟨a, hused, -⟩
    exact h.opens hused

end Basic

section Arrays
variable {item : Decoder α} {shape : Shape α} {place : Trail} {input rest : List Token} {i : Nat}
  {first : Bool}

theorem next_ends {last : Rest input} (h : next first place input = .ok (.ends last)) :
    input = .closeArray :: last.val := by
  unfold next at h
  split at h
  · cases h
  · cases h
    rfl
  · split at h
    · cases h
    · split at h <;> cases h

theorem next_element {start : { rest : List Token // rest.length ≤ input.length }}
    (h : next first place input = .ok (.element start)) :
    input = (if first then [] else [.comma]) ++ start.val := by
  unfold next at h
  split at h
  · cases h
  · cases h
  · split at h
    case isTrue hfirst =>
      cases h
      rw [if_pos hfirst, List.nil_append]
    case isFalse hfirst =>
      rw [if_neg hfirst]
      split at h <;> cases h
      rfl

theorem next_start {token : Token} {more : List Token} (htoken : token ≠ .closeArray)
    (h : input = (if first then [] else [.comma]) ++ token :: more) :
    ∃ start, next first place input = .ok (.element start) ∧ start.val = token :: more := by
  subst h
  cases first with
  | true => cases token <;> first | exact ⟨_, rfl, rfl⟩ | contradiction
  | false => cases token <;> first | exact ⟨_, rfl, rfl⟩ | contradiction

theorem element?_none : (element? item i).Takes place input none rest ↔
    input = .closeArray :: rest := by
  constructor
  · rintro ⟨last, h, rfl⟩
    unfold element? at h
    cases hnext : next (i = 0) place input with
    | error stop => simp [hnext] at h
    | ok found =>
      cases found with
      | ends end' =>
        simp only [hnext, Except.ok.injEq, Prod.mk.injEq, true_and] at h
        rw [← h]
        exact next_ends hnext
      | element start =>
        simp only [hnext] at h
        obtain ⟨_, -, hnone⟩ := map_eq_ok.mp h
        simp at hnone
  · rintro rfl
    exact ⟨tail _ rest, rfl, rfl⟩

theorem element?_some (h : item.Follows shape) {a : α} :
    (element? item i).Takes place input (some a) rest ↔
      ∃ used, input = (if i = 0 then [] else [.comma]) ++ used ++ rest ∧ shape used a := by
  constructor
  · rintro ⟨last, htaken, rfl⟩
    unfold element? at htaken
    cases hnext : next (i = 0) place input with
    | error stop => simp [hnext] at htaken
    | ok found =>
      cases found with
      | ends end' => simp [hnext] at htaken
      | element start =>
        simp only [hnext] at htaken
        obtain ⟨⟨_, _⟩, hitem, hlast⟩ := map_eq_ok.mp htaken
        cases hlast
        obtain ⟨used, hstart, hused⟩ := h.takes_iff.mp ⟨_, hitem, rfl⟩
        refine ⟨used, ?_, hused⟩
        simpa [hstart] using next_element hnext
  · rintro ⟨used, hinput, hused⟩
    obtain ⟨token, more, rfl, htoken⟩ := h.exists_cons hused
    obtain ⟨start, hnext, hstart⟩ : ∃ start, next (i = 0) place input = .ok (.element start) ∧
        start.val = token :: more ++ rest :=
      next_start htoken (by simpa using hinput)
    have htaken : item.Takes (place ++ [.index i]) start.val a rest :=
      h.takes_iff.mpr ⟨token :: more, hstart, hused⟩
    obtain ⟨last, hlast, rfl⟩ := htaken
    unfold Takes element?
    simp only [hnext]
    exact ⟨_, map_eq_ok.mpr ⟨_, hlast, rfl⟩, rfl⟩

theorem elements_nil : Takes (elements item i) place input [] rest ↔
    (element? item i).Takes place input none rest := by
  constructor
  · rintro ⟨last, h, rfl⟩
    rw [elements] at h
    split at h
    case h_1 => cases h
    case h_2 hnone =>
      cases h
      exact ⟨_, hnone, rfl⟩
    case h_3 =>
      obtain ⟨_, -, hnil⟩ := map_eq_ok.mp h
      simp at hnil
  · rintro ⟨last, h, rfl⟩
    unfold Takes
    rw [elements, h]
    exact ⟨last, rfl, rfl⟩

theorem elements_cons {a : α} {more : List α} :
    Takes (elements item i) place input (a :: more) rest ↔
      ∃ middle, (element? item i).Takes place input (some a) middle ∧
        Takes (elements item (i + 1)) place middle more rest := by
  constructor
  · rintro ⟨last, h, rfl⟩
    rw [elements] at h
    split at h
    case h_1 => cases h
    case h_2 => cases h
    case h_3 hsome =>
      obtain ⟨⟨_, _⟩, hmore, hcons⟩ := map_eq_ok.mp h
      cases hcons
      exact ⟨_, ⟨_, hsome, rfl⟩, _, hmore, rfl⟩
  · rintro ⟨_, ⟨middle, h, rfl⟩, last, hmore, rfl⟩
    unfold Takes
    rw [elements, h]
    exact ⟨_, map_eq_ok.mpr ⟨_, hmore, rfl⟩, rfl⟩

/-- The elements of an array are taken one after the other. -/
theorem elements_takes (h : item.Follows shape) {all : List α} :
    Takes (elements item i) place input all rest ↔
      ∃ parts, input = Shape.arrayTokens (i = 0) parts ++ rest ∧ List.Forall₂ shape parts all := by
  induction all generalizing i input with
  | nil =>
    rw [elements_nil, element?_none]
    simp [Shape.arrayTokens]
  | cons a more ih =>
    simp only [elements_cons, element?_some h, ih, List.forall₂_cons_right_iff]
    constructor
    · rintro ⟨_, ⟨used, rfl, hused⟩, parts, rfl, hparts⟩
      exact ⟨used :: parts, by simp [Shape.arrayTokens], used, parts, hused, hparts, rfl⟩
    · rintro ⟨_, rfl, used, parts, hused, hparts, rfl⟩
      exact ⟨Shape.arrayTokens false parts ++ rest, ⟨used, by simp [Shape.arrayTokens], hused⟩,
        parts, by simp, hparts⟩

theorem list_follows (h : item.Follows shape) : (list item).Follows (Shape.list shape) where
  takes_iff {place input all rest} := by
    have hopen : (list item).Takes place input all rest ↔
        ∃ start, input = .openArray :: start ∧ Takes (elements item 0) place start all rest := by
      constructor
      · rintro ⟨last, htaken, rfl⟩
        unfold list at htaken
        split at htaken
        case h_1 =>
          obtain ⟨⟨_, _⟩, hall, hlast⟩ := map_eq_ok.mp htaken
          cases hlast
          exact ⟨_, rfl, _, hall, rfl⟩
        case h_2 => cases htaken
      · rintro ⟨start, rfl, last, hall, rfl⟩
        exact ⟨_, map_eq_ok.mpr ⟨_, hall, rfl⟩, rfl⟩
    simp only [hopen, elements_takes h, Shape.list]
    constructor
    · rintro ⟨_, rfl, parts, rfl, hparts⟩
      exact ⟨_, rfl, parts, rfl, hparts⟩
    · rintro ⟨_, rfl, parts, rfl, hparts⟩
      exact ⟨_, rfl, parts, rfl, hparts⟩
  opens := by simp [Shape.list]

end Arrays

end Decoder

end JsonSchema.Json
