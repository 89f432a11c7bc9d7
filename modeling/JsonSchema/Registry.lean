import JsonSchema.Keyword

namespace JsonSchema

/-- Keywords by name, in the order in which the names were first registered. -/
structure Registry where
  entries : List (String × Keyword)
  unique : (entries.map Prod.fst).Nodup

namespace Registry

def empty : Registry := ⟨[], .nil⟩

def get? (r : Registry) (name : String) : Option Keyword :=
  r.entries.lookup name

def contains (r : Registry) (name : String) : Bool :=
  (r.get? name).isSome

def names (r : Registry) : List String :=
  r.entries.map Prod.fst

def replace (name : String) (k : Keyword) : List (String × Keyword) → List (String × Keyword)
  | [] => [(name, k)]
  | (other, old) :: rest =>
    if other = name then (name, k) :: rest else (other, old) :: replace name k rest

/-- A name keeps its place, and a new one comes last. -/
theorem names_replace (name : String) (k : Keyword) (entries : List (String × Keyword)) :
    (replace name k entries).map Prod.fst =
      if name ∈ entries.map Prod.fst then entries.map Prod.fst
      else entries.map Prod.fst ++ [name] := by
  induction entries with
  | nil => rfl
  | cons entry rest ih =>
    obtain ⟨other, old⟩ := entry
    by_cases h : other = name
    · simp [replace, h]
    · have hmem : name ∈ other :: rest.map Prod.fst ↔ name ∈ rest.map Prod.fst := by
        simp [Ne.symm h]
      rw [replace, if_neg h, List.map_cons, ih, List.map_cons]
      simp only [hmem]
      split <;> rfl

theorem replace_unique {entries : List (String × Keyword)} (h : (entries.map Prod.fst).Nodup)
    (name : String) (k : Keyword) : ((replace name k entries).map Prod.fst).Nodup := by
  rw [names_replace]
  split
  · exact h
  · rename_i hnew
    refine List.nodup_append.mpr ⟨h, by simp, fun a ha b hb he => hnew ?_⟩
    rwa [← List.mem_singleton.mp hb, ← he]

/-- Adds a keyword, or replaces the one of that name, which then is the second result. -/
def register (r : Registry) (name : String) (k : Keyword) : Registry × Option Keyword :=
  (⟨replace name k r.entries, replace_unique r.unique name k⟩, r.get? name)

def ofList (entries : List (String × Keyword)) : Registry :=
  entries.foldl (fun r (name, k) => (r.register name k).1) empty

def draft4 : Registry :=
  ofList (Builtin.all.map fun b => (b.name, b.keyword))

def quoted (name : String) : String :=
  "\"" ++ String.join (name.toList.map escaped) ++ "\""
where
  codePoint (c : Char) : String :=
    "\\u\x7b" ++ String.ofList (Nat.toDigits 16 c.toNat) ++ "\x7d"
  escaped (c : Char) : String :=
    if c = '"' then "\\\""
    else if c = '\\' then "\\\\"
    else if c = '\n' then "\\n"
    else if c = '\r' then "\\r"
    else if c = '\t' then "\\t"
    else if c = '\x00' then "\\0"
    else if Unicode.Latest.standsAlone c then String.singleton c
    else codePoint c

def text (r : Registry) : String :=
  "\x7b" ++ ", ".intercalate (r.names.map quoted) ++ "\x7d"

section Compile
variable (r : Registry) (peers : Peers)

mutual

/-- The rule of a schema document: of an object, the conjunction of its registered keywords in
declaration order. Members without a keyword are skipped. -/
def compileWith : Location → Value → Except SchemaError Rule
  | _, .bool accept => .ok (.constant accept)
  | location, .object members => do
    pure (.all (← keywordsWith ⟨members, location⟩ members))
  | location, other =>
    .error (.invalid location "schema" (.wrongKind [.object, .boolean] other.kind))
termination_by structural _ document => document

def keywordsWith : Site → Members → Except SchemaError (List Rule)
  | _, [] => .ok []
  | site, (name, value) :: rest =>
    match r.get? name with
    | none => keywordsWith site rest
    | some keyword => do
      let rule ← keyword site value
        { self := fun location => compileWith location value
          elements := fun location => match value with
            | .array documents => elementsWith location 0 documents
            | _ => .ok []
          members := fun location => match value with
            | .object documents => membersWith location documents
            | _ => .ok []
          peers := peers }
      pure (rule :: (← keywordsWith site rest))
termination_by structural _ members => members

def elementsWith : Location → Nat → List Value → Except SchemaError (List Rule)
  | _, _, [] => .ok []
  | location, i, document :: rest => do
    let rule ← compileWith (location.below [toString i]) document
    pure (rule :: (← elementsWith location (i + 1) rest))
termination_by structural _ _ documents => documents

def membersWith : Location → Members → Except SchemaError (List (String × Rule))
  | _, [] => .ok []
  | location, (name, document) :: rest => do
    let rule ← compileWith (location.below [name]) document
    pure ((name, rule) :: (← membersWith location rest))
termination_by structural _ documents => documents

end

def nestedWith (value : Value) : Nested where
  self location := r.compileWith peers location value
  elements location := match value with
    | .array documents => r.elementsWith peers location 0 documents
    | _ => .ok []
  members location := match value with
    | .object documents => r.membersWith peers location documents
    | _ => .ok []
  peers := peers

end Compile

/-- How deep documents that keywords make up can lead to further ones. Without an end they would
exhaust the memory. -/
def longestChain : Nat := 1000

/-- The registry as its keywords see it, with some length left for chains of made-up documents. -/
def peersAt (r : Registry) : Nat → Peers
  | 0 =>
    { names := r.names
      keyword? := fun name => (r.get? name).map fun _ site _ =>
        .error (site.invalid name .endless)
      compile := fun location _ => .error (.invalid location "schema" .endless) }
  | n + 1 =>
    { names := r.names
      keyword? := fun name => (r.get? name).map fun k site value =>
        k site value (r.nestedWith (r.peersAt n) value)
      compile := fun location document => r.compileWith (r.peersAt n) location document }

def peers (r : Registry) : Peers := r.peersAt longestChain

def compile (r : Registry) : Location → Value → Except SchemaError Rule :=
  r.compileWith r.peers

def compileKeywords (r : Registry) : Site → Members → Except SchemaError (List Rule) :=
  r.keywordsWith r.peers

def compileElements (r : Registry) : Location → Nat → List Value → Except SchemaError (List Rule) :=
  r.elementsWith r.peers

def compileMembers (r : Registry) :
    Location → Members → Except SchemaError (List (String × Rule)) :=
  r.membersWith r.peers

def nested (r : Registry) (value : Value) : Nested :=
  r.nestedWith r.peers value

def apply (r : Registry) (keyword : Keyword) (site : Site) (value : Value) :
    Except SchemaError Rule :=
  keyword site value (r.nested value)

def compileChild (r : Registry) (site : Site) (segments : List String) (document : Value) :
    Except SchemaError Rule :=
  r.compile (site.location.below segments) document

end Registry
end JsonSchema
