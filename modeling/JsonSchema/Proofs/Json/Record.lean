import JsonSchema.Proofs.Json.Shape

namespace JsonSchema.Json

namespace Shape

def objectTokens (first : Bool) : List (String × List Token) → List Token
  | [] => [.closeObject]
  | (name, used) :: rest =>
    (if first then [] else [.comma]) ++ .string (some name) :: .colon :: used
      ++ objectTokens false rest

def under (name : String) (members : List (String × List Token)) : List (List Token) :=
  (members.filter fun m => m.1 = name).map Prod.snd

structure Field (α : Type) where
  name : String
  shape : Shape α

def Field.Alone (field : Field α) (members : List (String × List Token)) (x : α) : Prop :=
  ∃ used, under field.name members = [used] ∧ field.shape used x

/-- A record of three fields: an object in which each of them is there once, in whatever order and
among whatever other members, or an array of the fields in order. -/
def record (a : Field α) (b : Field β) (c : Field γ) : Shape (α × β × γ) := fun used (x, y, z) =>
  (∃ members, used = .openObject :: objectTokens true members ∧
    a.Alone members x ∧ b.Alone members y ∧ c.Alone members z ∧
    ∀ m ∈ members, m.1 ∉ [a.name, b.name, c.name] → skipped m.2 ()) ∨
  ∃ first second third, used = .openArray :: arrayTokens true [first, second, third] ∧
    a.shape first x ∧ b.shape second y ∧ c.shape third z

end Shape

namespace Decoder

section Objects
variable {place : Trail} {input rest : List Token} {first : Bool}

theorem name?_none : (name? first).Takes place input none rest ↔
    input = .closeObject :: rest := by
  constructor
  · rintro ⟨last, h, rfl⟩
    unfold name? at h
    split at h <;> cases h
    rfl
  · rintro rfl
    exact ⟨tail _ rest, by cases first <;> rfl, rfl⟩

theorem name?_some {name : String} : (name? first).Takes place input (some name) rest ↔
    input = (if first then [] else [.comma]) ++ .string (some name) :: rest := by
  constructor
  · rintro ⟨last, h, rfl⟩
    unfold name? at h
    split at h <;> cases h <;> rfl
  · rintro rfl
    cases first <;> exact ⟨_, rfl, rfl⟩

theorem content_takes {item : Decoder α} {name : String} {a : α} :
    (content item name).Takes place input a rest ↔
      ∃ start, input = .colon :: start ∧ item.Takes (place ++ [.name name]) start a rest := by
  constructor
  · rintro ⟨last, h, rfl⟩
    unfold content at h
    split at h
    case h_1 =>
      obtain ⟨⟨_, _⟩, hitem, hlast⟩ := map_eq_ok.mp h
      cases hlast
      exact ⟨_, rfl, _, hitem, rfl⟩
    case h_2 => cases h
  · rintro ⟨start, rfl, last, hitem, rfl⟩
    exact ⟨_, map_eq_ok.mpr ⟨_, hitem, rfl⟩, rfl⟩

variable {σ : Type} {field? : σ → String → Option (Decoder σ)} {found all : σ}

theorem members_step : Takes (members field? first found) place input all rest ↔
    (name? first).Takes place input none rest ∧ all = found ∨
    ∃ name start item next middle, (name? first).Takes place input (some name) start ∧
      field? found name = some item ∧ (content item name).Takes place start next middle ∧
      Takes (members field? false next) place middle all rest := by
  constructor
  · rintro ⟨last, h, rfl⟩
    rw [members] at h
    split at h
    case h_1 => cases h
    case h_2 hnone =>
      cases h
      exact .inl ⟨⟨_, hnone, rfl⟩, rfl⟩
    case h_3 hsome =>
      split at h
      case h_1 => cases h
      case h_2 hitem =>
        split at h
        case h_1 => cases h
        case h_2 hcontent =>
          obtain ⟨⟨_, _⟩, hmore, hlast⟩ := map_eq_ok.mp h
          cases hlast
          exact .inr ⟨_, _, _, _, _, ⟨_, hsome, rfl⟩, hitem, ⟨_, hcontent, rfl⟩, _, hmore, rfl⟩
  · unfold Takes
    rw [members]
    rintro (⟨⟨last, hnone, rfl⟩, rfl⟩ |
      ⟨name, _, item, next, _, ⟨start, hsome, rfl⟩, hitem, ⟨middle, hcontent, rfl⟩, last, hmore,
        rfl⟩)
    · rw [hnone]
      exact ⟨last, rfl, rfl⟩
    · simp only [hsome, hitem, hcontent]
      exact ⟨_, map_eq_ok.mpr ⟨_, hmore, rfl⟩, rfl⟩

/-- What is found after some members, when it is known what one member adds. -/
def AddsAll (adds : σ → String → List Token → σ → Prop) : σ → List (String × List Token) → σ → Prop
  | found, [], all => all = found
  | found, (name, used) :: rest, all =>
    ∃ next, adds found name used next ∧ AddsAll adds next rest all

/-- The members of an object are taken one after the other. -/
theorem members_takes {adds : σ → String → List Token → σ → Prop}
    (h : ∀ {found name place input next rest},
      (∃ item, field? found name = some item ∧ item.Takes place input next rest) ↔
        ∃ used, input = used ++ rest ∧ adds found name used next) :
    Takes (members field? first found) place input all rest ↔
      ∃ ms, input = Shape.objectTokens first ms ++ rest ∧ AddsAll adds found ms all := by
  constructor
  · intro htaken
    induction hn : input.length using Nat.strongRecOn generalizing first found input with
    | ind n ih =>
      rcases members_step.mp htaken with
        ⟨hnone, rfl⟩ | ⟨name, start, item, next, middle, hsome, hitem, hcontent, hmore⟩
      · exact ⟨[], name?_none.mp hnone, rfl⟩
      · obtain ⟨inside, rfl, htakes⟩ := content_takes.mp hcontent
        obtain ⟨used, rfl, hused⟩ := h.mp ⟨item, hitem, htakes⟩
        obtain rfl := name?_some.mp hsome
        have hshorter : middle.length < n := by
          rw [← hn]
          simp only [List.length_append, List.length_cons]
          omega
        obtain ⟨ms, rfl, hms⟩ := ih _ hshorter hmore rfl
        exact ⟨(name, used) :: ms, by simp [Shape.objectTokens], next, hused, hms⟩
  · rintro ⟨ms, rfl, hms⟩
    induction ms generalizing first found with
    | nil =>
      exact members_step.mpr (.inl ⟨name?_none.mpr rfl, hms⟩)
    | cons m more ih =>
      obtain ⟨name, used⟩ := m
      obtain ⟨next, hnext, hmore⟩ := hms
      have hitem : ∃ item, field? found name = some item ∧ item.Takes (place ++ [.name name])
          (used ++ (Shape.objectTokens false more ++ rest)) next
          (Shape.objectTokens false more ++ rest) :=
        h.mpr ⟨used, rfl, hnext⟩
      obtain ⟨item, hitem, htaken⟩ := hitem
      refine members_step.mpr (.inr ⟨name, _, item, next, _, name?_some.mpr ?_, hitem,
        content_takes.mpr ⟨_, rfl, htaken⟩, ih hmore⟩)
      simp [Shape.objectTokens]

end Objects

section Slots
variable {shape : Shape α} {before after : Option α}

/-- What some contents of members make of a field: nothing, or they fill it if it is empty. -/
def Fills (shape : Shape α) (before : Option α) (parts : List (List Token)) (after : Option α) :
    Prop :=
  parts = [] ∧ after = before ∨
    before = none ∧ ∃ used x, parts = [used] ∧ shape used x ∧ after = some x

theorem fills_nil : Fills shape before [] after ↔ after = before := by
  simp [Fills]

theorem fills_cons {used : List Token} {more : List (List Token)} :
    Fills shape before (used :: more) after ↔
      before = none ∧ ∃ x, shape used x ∧ Fills shape (some x) more after := by
  constructor
  · rintro (⟨h, -⟩ | ⟨hnone, _, x, hparts, hx, rfl⟩)
    · cases h
    · obtain ⟨rfl, rfl⟩ := List.cons.inj hparts
      exact ⟨hnone, x, hx, fills_nil.mpr rfl⟩
  · rintro ⟨hnone, x, hx, (⟨rfl, rfl⟩ | ⟨h, -⟩)⟩
    · exact .inr ⟨hnone, used, x, rfl, hx, rfl⟩
    · cases h

theorem fills_some {parts : List (List Token)} {x : α} :
    Fills shape none parts (some x) ↔ ∃ used, parts = [used] ∧ shape used x := by
  simp [Fills]

theorem under_cons (field name : String) (used : List Token) (more : List (String × List Token)) :
    Shape.under field ((name, used) :: more) =
      if name = field then used :: Shape.under field more else Shape.under field more := by
  by_cases h : name = field <;> simp [Shape.under, h]

end Slots

section Records

theorem nodup_three {x y z : String} : [x, y, z].Nodup ↔ (x ≠ y ∧ x ≠ z) ∧ y ≠ z := by
  simp

def Adds (a : Shape.Field α) (b : Shape.Field β) (c : Shape.Field γ) (found : Found α β γ)
    (name : String) (used : List Token) (next : Found α β γ) : Prop :=
  (name = a.name ∧ found.first = none ∧ ∃ x, a.shape used x ∧
    next = { found with first := some x }) ∨
  (name = b.name ∧ found.second = none ∧ ∃ y, b.shape used y ∧
    next = { found with second := some y }) ∨
  (name = c.name ∧ found.third = none ∧ ∃ z, c.shape used z ∧
    next = { found with third := some z }) ∨
  (name ∉ [a.name, b.name, c.name] ∧ Shape.skipped used () ∧ next = found)

/-- Whatever the order of the members, each field is filled by those that have its name. -/
theorem addsAll_iff {a : Shape.Field α} {b : Shape.Field β} {c : Shape.Field γ}
    (hnames : [a.name, b.name, c.name].Nodup) {found all : Found α β γ}
    {ms : List (String × List Token)} :
    AddsAll (Adds a b c) found ms all ↔
      Fills a.shape found.first (Shape.under a.name ms) all.first ∧
      Fills b.shape found.second (Shape.under b.name ms) all.second ∧
      Fills c.shape found.third (Shape.under c.name ms) all.third ∧
      ∀ m ∈ ms, m.1 ∉ [a.name, b.name, c.name] → Shape.skipped m.2 () := by
  obtain ⟨⟨hab, hac⟩, hbc⟩ := nodup_three.mp hnames
  induction ms generalizing found with
  | nil =>
    cases all
    cases found
    simp [AddsAll, fills_nil, Shape.under]
  | cons m more ih =>
    obtain ⟨name, used⟩ := m
    simp only [AddsAll, Adds, ih, List.forall_mem_cons, under_cons]
    by_cases ha : name = a.name
    · subst ha
      simp only [hab, hac, fills_cons, true_and, false_and, or_false, List.mem_cons_self,
        not_true_eq_false, IsEmpty.forall_iff, if_true, if_false]
      constructor
      · rintro ⟨_, ⟨hnone, x, hx, rfl⟩, hfirst, hmore⟩
        exact ⟨⟨hnone, x, hx, hfirst⟩, hmore⟩
      · rintro ⟨⟨hnone, x, hx, hfirst⟩, hmore⟩
        exact ⟨_, ⟨hnone, x, hx, rfl⟩, hfirst, hmore⟩
    by_cases hb : name = b.name
    · subst hb
      simp only [ha, hbc, fills_cons, true_and, false_and, or_false, false_or, List.mem_cons,
        true_or, or_true, not_true_eq_false, IsEmpty.forall_iff, if_true, if_false]
      constructor
      · rintro ⟨_, ⟨hnone, y, hy, rfl⟩, hfirst, hsecond, hmore⟩
        exact ⟨hfirst, ⟨hnone, y, hy, hsecond⟩, hmore⟩
      · rintro ⟨hfirst, ⟨hnone, y, hy, hsecond⟩, hmore⟩
        exact ⟨_, ⟨hnone, y, hy, rfl⟩, hfirst, hsecond, hmore⟩
    by_cases hc : name = c.name
    · subst hc
      simp only [ha, hb, fills_cons, true_and, false_and, or_false, false_or, List.mem_cons,
        true_or, or_true, not_true_eq_false, IsEmpty.forall_iff, if_true, if_false]
      constructor
      · rintro ⟨_, ⟨hnone, z, hz, rfl⟩, hfirst, hsecond, hthird, hmore⟩
        exact ⟨hfirst, hsecond, ⟨hnone, z, hz, hthird⟩, hmore⟩
      · rintro ⟨hfirst, hsecond, ⟨hnone, z, hz, hthird⟩, hmore⟩
        exact ⟨_, ⟨hnone, z, hz, rfl⟩, hfirst, hsecond, hthird, hmore⟩
    · have hother : name ∉ [a.name, b.name, c.name] := by simp [ha, hb, hc]
      simp only [ha, hb, hc, hother, false_and, false_or, not_false_eq_true, true_and,
        forall_const, if_false]
      constructor
      · rintro ⟨_, ⟨hskipped, rfl⟩, hfirst, hsecond, hthird, hmore⟩
        exact ⟨hfirst, hsecond, hthird, hskipped, hmore⟩
      · rintro ⟨hfirst, hsecond, hthird, hskipped, hmore⟩
        exact ⟨_, ⟨hskipped, rfl⟩, hfirst, hsecond, hthird, hmore⟩

variable {a : Field α} {b : Field β} {c : Field γ} {shapeA : Shape α} {shapeB : Shape β}
  {shapeC : Shape γ} {place : Trail} {input rest : List Token}

/-- A field is decoded if it has not been found before. -/
theorem slot_takes {σ : Type} {d : Decoder α} (h : d.Follows shapeA) (slot : Option α)
    (put : α → σ) {next : σ} :
    (∃ item, (if slot.isSome then none else some (d.map put)) = some item ∧
        item.Takes place input next rest) ↔
      ∃ used, input = used ++ rest ∧ slot = none ∧ ∃ x, shapeA used x ∧ next = put x := by
  cases slot with
  | some x => simp
  | none =>
    constructor
    · rintro ⟨_, ⟨⟩, htaken⟩
      obtain ⟨x, hx, rfl⟩ := map_takes.mp htaken
      obtain ⟨used, hinput, hused⟩ := h.takes_iff.mp hx
      exact ⟨used, hinput, rfl, x, hused, rfl⟩
    · rintro ⟨used, hinput, -, x, hused, rfl⟩
      exact ⟨_, rfl, map_takes.mpr ⟨x, h.takes_iff.mpr ⟨used, hinput, hused⟩, rfl⟩⟩

/-- How a member of a record is decoded. -/
theorem field?_takes (hnames : [a.name, b.name, c.name].Nodup) (ha : a.decoder.Follows shapeA)
    (hb : b.decoder.Follows shapeB) (hc : c.decoder.Follows shapeC) {found next : Found α β γ}
    {name : String} :
    (∃ item, field? a b c found name = some item ∧ item.Takes place input next rest) ↔
      ∃ used, input = used ++ rest ∧
        Adds ⟨a.name, shapeA⟩ ⟨b.name, shapeB⟩ ⟨c.name, shapeC⟩ found name used next := by
  obtain ⟨⟨hab, hac⟩, hbc⟩ := nodup_three.mp hnames
  unfold field? Adds
  by_cases hfirst : name = a.name
  · subst hfirst
    simpa [hab, hac] using slot_takes ha found.first fun x => { found with first := some x }
  by_cases hsecond : name = b.name
  · subst hsecond
    simpa [hfirst, hbc] using slot_takes hb found.second fun y => { found with second := some y }
  by_cases hthird : name = c.name
  · subst hthird
    simpa [hfirst, hsecond] using slot_takes hc found.third fun z => { found with third := some z }
  · have hother : name ∉ [a.name, b.name, c.name] := by simp [hfirst, hsecond, hthird]
    simp only [hfirst, hsecond, hthird, hother, if_false, false_and, false_or, not_false_eq_true,
      true_and, Option.some.injEq, exists_eq_left']
    constructor
    · intro htaken
      obtain ⟨⟨⟩, hskipped, rfl⟩ := map_takes.mp htaken
      obtain ⟨used, hinput, hused⟩ := skip_follows.takes_iff.mp hskipped
      exact ⟨used, hinput, hused, rfl⟩
    · rintro ⟨used, hinput, hused, rfl⟩
      exact map_takes.mpr ⟨(), skip_follows.takes_iff.mpr ⟨used, hinput, hused⟩, rfl⟩

theorem element_takes {item : Decoder α} {i : Nat} {x : α} :
    (element item i).Takes place input x rest ↔
      (element? item i).Takes place input (some x) rest := by
  constructor
  · rintro ⟨last, h, rfl⟩
    unfold element at h
    split at h
    case h_1 => cases h
    case h_2 => cases h
    case h_3 hsome =>
      cases h
      exact ⟨_, hsome, rfl⟩
  · rintro ⟨last, h, rfl⟩
    unfold Takes element
    rw [h]
    exact ⟨last, rfl, rfl⟩

theorem andThen_ok {decoded : Except Trail (α × Rest input)}
    {next : α → (rest : Rest input) → Except Trail (β × Rest rest.val)} {y : β} {last : Rest input}
    (h : andThen decoded next = .ok (y, last)) :
    ∃ x middle inner, decoded = .ok (x, middle) ∧ next x middle = .ok (y, inner) ∧
      inner.val = last.val := by
  unfold andThen at h
  split at h
  case h_1 => cases h
  case h_2 =>
    obtain ⟨⟨_, _⟩, hnext, hlast⟩ := map_eq_ok.mp h
    cases hlast
    exact ⟨_, _, _, rfl, hnext, rfl⟩

theorem arrayEnd_takes {x : Unit} : arrayEnd.Takes place input x rest ↔
    input = .closeArray :: rest := by
  constructor
  · rintro ⟨last, h, rfl⟩
    unfold arrayEnd at h
    split at h <;> cases h
    rfl
  · rintro rfl
    exact ⟨tail _ rest, rfl, rfl⟩

theorem Found.all?_eq_some {found : Found α β γ} {x : α} {y : β} {z : γ} :
    found.all? = some (x, y, z) ↔ found = ⟨some x, some y, some z⟩ := by
  obtain ⟨first, second, third⟩ := found
  cases first <;> cases second <;> cases third <;> simp [all?]

theorem record_array (ha : a.decoder.Follows shapeA) (hb : b.decoder.Follows shapeB)
    (hc : c.decoder.Follows shapeC) {x : α} {y : β} {z : γ} :
    (record a b c).Takes place (.openArray :: input) (x, y, z) rest ↔
      ∃ first second third, input = Shape.arrayTokens true [first, second, third] ++ rest ∧
        shapeA first x ∧ shapeB second y ∧ shapeC third z := by
  have hfields : (record a b c).Takes place (.openArray :: input) (x, y, z) rest ↔
      ∃ one two three, (element a.decoder 0).Takes place input x one ∧
        (element b.decoder 1).Takes place one y two ∧
        (element c.decoder 2).Takes place two z three ∧ three = .closeArray :: rest := by
    constructor
    · rintro ⟨last, h, rfl⟩
      obtain ⟨⟨_, last⟩, hfields, hlast⟩ := map_eq_ok.mp h
      cases hlast
      obtain ⟨_, one, _, hone, hbehind, hlast⟩ := andThen_ok hfields
      obtain ⟨_, two, _, htwo, hbehind, htwo'⟩ := andThen_ok hbehind
      obtain ⟨_, three, _, hthree, hbehind, hthree'⟩ := andThen_ok hbehind
      obtain ⟨⟨_, _⟩, hend, hall⟩ := map_eq_ok.mp hbehind
      cases hall
      exact ⟨one, two, three, ⟨one, hone, rfl⟩, ⟨two, htwo, rfl⟩, ⟨three, hthree, rfl⟩,
        arrayEnd_takes.mp ⟨_, hend, hthree'.trans (htwo'.trans hlast)⟩⟩
    · rintro ⟨_, _, _, ⟨one, hone, rfl⟩, ⟨two, htwo, rfl⟩, ⟨three, hthree, rfl⟩, hend⟩
      have hend : arrayEnd.Takes place three.val () rest := arrayEnd_takes.mpr hend
      obtain ⟨last, hend, hlast⟩ := hend
      unfold Takes record
      simp only [hone, htwo, hthree, hend, andThen, Except.map]
      exact ⟨_, rfl, hlast⟩
  simp only [hfields, element_takes, element?_some ha, element?_some hb, element?_some hc]
  constructor
  · rintro ⟨_, _, _, ⟨first, rfl, hfirst⟩, ⟨second, rfl, hsecond⟩, ⟨third, rfl, hthird⟩, rfl⟩
    exact ⟨first, second, third, by simp [Shape.arrayTokens], hfirst, hsecond, hthird⟩
  · rintro ⟨first, second, third, rfl, hfirst, hsecond, hthird⟩
    exact ⟨Shape.arrayTokens false [second, third] ++ rest,
      Shape.arrayTokens false [third] ++ rest, .closeArray :: rest,
      ⟨first, by simp [Shape.arrayTokens], hfirst⟩, ⟨second, by simp [Shape.arrayTokens], hsecond⟩,
      ⟨third, by simp [Shape.arrayTokens], hthird⟩, rfl⟩

theorem record_object (hnames : [a.name, b.name, c.name].Nodup) (ha : a.decoder.Follows shapeA)
    (hb : b.decoder.Follows shapeB) (hc : c.decoder.Follows shapeC) {x : α} {y : β} {z : γ} :
    (record a b c).Takes place (.openObject :: input) (x, y, z) rest ↔
      ∃ ms, input = Shape.objectTokens true ms ++ rest ∧
        Shape.Field.Alone ⟨a.name, shapeA⟩ ms x ∧ Shape.Field.Alone ⟨b.name, shapeB⟩ ms y ∧
        Shape.Field.Alone ⟨c.name, shapeC⟩ ms z ∧
        ∀ m ∈ ms, m.1 ∉ [a.name, b.name, c.name] → Shape.skipped m.2 () := by
  have hmembers : (record a b c).Takes place (.openObject :: input) (x, y, z) rest ↔
      Takes (members (field? a b c) true ⟨none, none, none⟩) place input ⟨some x, some y, some z⟩
        rest := by
    constructor
    · rintro ⟨last, h, rfl⟩
      unfold record at h
      simp only at h
      split at h
      case h_1 => cases h
      case h_2 found _ shorter hfound =>
        split at h
        case h_1 hall =>
          cases h
          rw [← Found.all?_eq_some.mp hall]
          exact ⟨_, hfound, rfl⟩
        case h_2 => cases h
    · rintro ⟨last, h, rfl⟩
      unfold Takes record
      simp only [h]
      exact ⟨_, rfl, rfl⟩
  have hadds : ∀ ms, AddsAll (Adds ⟨a.name, shapeA⟩ ⟨b.name, shapeB⟩ ⟨c.name, shapeC⟩)
      ⟨none, none, none⟩ ms ⟨some x, some y, some z⟩ ↔ _ := fun ms => addsAll_iff hnames
  rw [hmembers, members_takes (field?_takes hnames ha hb hc)]
  simp only [hadds, fills_some, Shape.Field.Alone]

theorem record_follows (hnames : [a.name, b.name, c.name].Nodup) (ha : a.decoder.Follows shapeA)
    (hb : b.decoder.Follows shapeB) (hc : c.decoder.Follows shapeC) :
    (record a b c).Follows (Shape.record ⟨a.name, shapeA⟩ ⟨b.name, shapeB⟩ ⟨c.name, shapeC⟩) where
  takes_iff {place input all rest} := by
    obtain ⟨x, y, z⟩ := all
    constructor
    · intro h
      have hstart : ∃ start, input = .openObject :: start ∨ input = .openArray :: start := by
        obtain ⟨last, h, -⟩ := h
        unfold record at h
        split at h
        case h_1 start => exact ⟨start, .inl rfl⟩
        case h_2 start => exact ⟨start, .inr rfl⟩
        case h_3 => cases h
      obtain ⟨start, rfl | rfl⟩ := hstart
      · obtain ⟨ms, rfl, hms⟩ := (record_object hnames ha hb hc).mp h
        exact ⟨_, rfl, .inl ⟨ms, rfl, hms⟩⟩
      · obtain ⟨first, second, third, rfl, hall⟩ := (record_array ha hb hc).mp h
        exact ⟨_, rfl, .inr ⟨first, second, third, rfl, hall⟩⟩
    · rintro ⟨_, rfl, ⟨ms, rfl, hms⟩ | ⟨first, second, third, rfl, hall⟩⟩
      · exact (record_object hnames ha hb hc).mpr ⟨ms, rfl, hms⟩
      · exact (record_array ha hb hc).mpr ⟨first, second, third, rfl, hall⟩
  opens := by
    rintro more ⟨x, y, z⟩
    simp [Shape.record]

end Records

end Decoder
end JsonSchema.Json
