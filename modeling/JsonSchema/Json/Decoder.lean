import JsonSchema.Json.Reader

namespace JsonSchema.Json

/-- Tokens that are left of some input when at least one has been taken. -/
abbrev Rest (input : List Token) := { rest : List Token // rest.length < input.length }

abbrev Decoder (α : Type) :=
  Trail → (input : List Token) → Except Trail (α × Rest input)

namespace Decoder

def tail (token : Token) (rest : List Token) : Rest (token :: rest) :=
  ⟨rest, Nat.lt_succ_self _⟩

def text : Decoder String
  | _, .string (some s) :: rest => .ok (s, tail _ rest)
  | place, _ => .error place

def flag : Decoder Bool
  | _, .bool b :: rest => .ok (b, tail _ rest)
  | place, _ => .error place

def value (limit : Nat) : Decoder Value := fun place input =>
  match h : readValue limit input with
  | .ok (v, rest) => .ok (v, ⟨rest, read_shorter h⟩)
  | .error inside => .error (place ++ inside)

def withoutContent : Token → Token
  | .number _ => .number (some (.unsigned 0))
  | .string _ => .string (some "")
  | token => token

/-- A value that nobody asks for. It only has to be well formed, however deep it is. -/
def skip : Decoder Unit := fun place input =>
  match h : readValue input.length (input.map withoutContent) with
  | .ok (_, rest) =>
    .ok ((), ⟨input.drop (input.length - rest.length), by
      have := read_shorter h
      rw [List.length_map] at this
      rw [List.length_drop]
      omega⟩)
  | .error _ => .error place

def map (f : α → β) (d : Decoder α) : Decoder β := fun place input =>
  (d place input).map fun (a, rest) => (f a, rest)

def andThen {input : List Token} (decoded : Except Trail (α × Rest input))
    (next : α → (rest : Rest input) → Except Trail (β × Rest rest.val)) :
    Except Trail (β × Rest input) :=
  match decoded with
  | .error stop => .error stop
  | .ok (a, rest) => (next a rest).map fun (b, last) => (b, ⟨last.val, Nat.lt_trans last.2 rest.2⟩)

inductive Next (input : List Token)
  | ends (rest : Rest input)
  | element (start : { rest : List Token // rest.length ≤ input.length })

def next (first : Bool) (place : Trail) (input : List Token) : Except Trail (Next input) :=
  match input with
  | [] => .error place
  | .closeArray :: rest => .ok (.ends (tail _ rest))
  | token :: rest =>
    if first then .ok (.element ⟨token :: rest, Nat.le_refl _⟩)
    else match token, rest with
      | .comma, .closeArray :: _ => .error place
      | .comma, start :: rest => .ok (.element ⟨start :: rest, Nat.le_succ _⟩)
      | _, _ => .error place

def element? (item : Decoder α) (i : Nat) : Decoder (Option α) := fun place input =>
  match next (i = 0) place input with
  | .error stop => .error stop
  | .ok (.ends rest) => .ok (none, rest)
  | .ok (.element start) => (item (place ++ [.index i]) start.val).map fun (a, rest) =>
    (some a, ⟨rest.val, Nat.lt_of_lt_of_le rest.2 start.2⟩)

def elements (item : Decoder α) (i : Nat) (place : Trail) (input : List Token) :
    Except Trail (List α × Rest input) :=
  match element? item i place input with
  | .error stop => .error stop
  | .ok (none, rest) => .ok ([], rest)
  | .ok (some a, ⟨rest, _⟩) =>
    (elements item (i + 1) place rest).map fun (more, last) =>
      (a :: more, ⟨last.val, by omega⟩)
termination_by input.length

def list (item : Decoder α) : Decoder (List α)
  | place, .openArray :: rest =>
    (elements item 0 place rest).map fun (all, last) => (all, ⟨last.val, Nat.lt_succ_of_lt last.2⟩)
  | place, _ => .error place

def name? (first : Bool) : Decoder (Option String) := fun place input =>
  match first, input with
  | _, .closeObject :: rest => .ok (none, tail _ rest)
  | true, .string (some s) :: rest => .ok (some s, tail _ rest)
  | false, .comma :: .string (some s) :: rest =>
    .ok (some s, ⟨rest, Nat.lt_succ_of_lt (Nat.lt_succ_self _)⟩)
  | _, _ => .error (place ++ [.unknown])

def content (item : Decoder α) (name : String) : Decoder α
  | place, .colon :: start =>
    (item (place ++ [.name name]) start).map fun (a, rest) =>
      (a, ⟨rest.val, Nat.lt_succ_of_lt rest.2⟩)
  | place, _ => .error place

def members (field? : σ → String → Option (Decoder σ)) (first : Bool) (found : σ) (place : Trail)
    (input : List Token) : Except Trail (σ × Rest input) :=
  match name? first place input with
  | .error stop => .error stop
  | .ok (none, rest) => .ok (found, rest)
  | .ok (some s, ⟨start, _⟩) =>
    match field? found s with
    | none => .error place
    | some item =>
      match content item s place start with
      | .error stop => .error stop
      | .ok (found, ⟨rest, _⟩) =>
        (members field? false found place rest).map fun (all, last) => (all, ⟨last.val, by omega⟩)
termination_by input.length

structure Field (α : Type) where
  name : String
  decoder : Decoder α

structure Found (α β γ : Type) where
  first : Option α
  second : Option β
  third : Option γ

def Found.all? (found : Found α β γ) : Option (α × β × γ) := do
  pure (← found.first, ← found.second, ← found.third)

/-- How to decode a member of a record: a field may not be there twice, and other members do not
matter. -/
def field? (a : Field α) (b : Field β) (c : Field γ) (found : Found α β γ) (name : String) :
    Option (Decoder (Found α β γ)) :=
  if name = a.name then
    if found.first.isSome then none
    else some (a.decoder.map fun x => { found with first := some x })
  else if name = b.name then
    if found.second.isSome then none
    else some (b.decoder.map fun y => { found with second := some y })
  else if name = c.name then
    if found.third.isSome then none
    else some (c.decoder.map fun z => { found with third := some z })
  else some (skip.map fun _ => found)

def element (item : Decoder α) (i : Nat) : Decoder α := fun place input =>
  match element? item i place input with
  | .error stop => .error stop
  | .ok (none, _) => .error place
  | .ok (some a, rest) => .ok (a, rest)

def arrayEnd : Decoder Unit
  | _, .closeArray :: rest => .ok ((), tail _ rest)
  | place, _ => .error place

/-- A record of three fields: an object, or an array of the fields in order. -/
def record (a : Field α) (b : Field β) (c : Field γ) : Decoder (α × β × γ) := fun place input =>
  match input with
  | .openObject :: rest =>
    match members (field? a b c) true ⟨none, none, none⟩ place rest with
    | .error stop => .error stop
    | .ok (found, ⟨last, shorter⟩) =>
      match found.all? with
      | some all => .ok (all, ⟨last, Nat.lt_succ_of_lt shorter⟩)
      | none => .error place
  | .openArray :: rest =>
    let fields := andThen (element a.decoder 0 place rest) fun x rest =>
      andThen (element b.decoder 1 place rest.val) fun y rest =>
      andThen (element c.decoder 2 place rest.val) fun z rest =>
      (arrayEnd place rest.val).map fun (_, last) => ((x, y, z), last)
    fields.map fun (all, last) => (all, ⟨last.val, Nat.lt_succ_of_lt last.2⟩)
  | _ => .error place

end Decoder
end JsonSchema.Json
