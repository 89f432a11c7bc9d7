import JsonSchema.Json.Token
import JsonSchema.Value.Basic

namespace JsonSchema.Json

/-- A step from a container to what is inside it. `unknown` is a member whose name was not read. -/
inductive Step
  | index (i : Nat)
  | name (s : String)
  | unknown
  deriving DecidableEq

abbrev Trail := List Step

def Trail.text (trail : Trail) : String :=
  match trail with
  | [] => "."
  | first :: rest => stepText first ++ String.join (rest.map later)
where
  stepText : Step → String
    | .index i => "[" ++ toString i ++ "]"
    | .name s => s
    | .unknown => "?"
  later : Step → String
    | .index i => stepText (.index i)
    | step => "." ++ stepText step

/-- A container that is being read: the elements so far, the last one first, or the members so far
and the name of the one being read. -/
inductive Frame
  | array (reversed : List Value)
  | object (members : Members) (name : String)

def Frame.step : Frame → Step
  | .array reversed => .index reversed.length
  | .object _ name => .name name

def Frame.add (v : Value) : Frame → Frame
  | .array reversed => .array (v :: reversed)
  | .object members name => .object (members.insert name v) name

def place (frames : List Frame) : Trail :=
  (frames.map Frame.step).reverse

inductive Expect
  /-- A value, the content of a member or the whole document. -/
  | value
  /-- The first element of an array, or its end. -/
  | firstElement
  /-- Another element of an array. -/
  | element
  /-- The name of the first member of an object, or its end. -/
  | firstName
  /-- The name of another member. -/
  | name
  | colon
  /-- A comma or the end of a container. -/
  | separator

/-- Where the reader stops at a token that it did not expect, or at the end of the text. A container
that breaks off between elements is itself at fault, and so is one that ends behind a comma. -/
def stopAt (expect : Expect) (frames : List Frame) (next : Option Token) : Trail :=
  match expect, frames with
  | .value, _ => place frames
  | .firstElement, _ | .element, _ =>
    match next with
    | none | some .closeArray => place frames.tail
    | some _ => place frames
  | .firstName, _ | .name, _ => place frames.tail ++ [.unknown]
  | .colon, _ => place frames.tail
  | .separator, .array _ :: outer => place outer
  | .separator, _ => place frames.tail ++ [.unknown]

inductive Progress
  | complete (v : Value)
  | more (expect : Expect) (frames : List Frame)

def settle (v : Value) : List Frame → Progress
  | [] => .complete v
  | frame :: outer => .more .separator (frame.add v :: outer)

/-- Takes the first token of a value, which opens a container only inside fewer than `limit`. -/
def begin? (limit : Nat) (frames : List Frame) : Token → Option Progress
  | .null => some (settle .null frames)
  | .bool b => some (settle (.bool b) frames)
  | .number n => n.map fun n => settle (.number n) frames
  | .string s => s.map fun s => settle (.string s) frames
  | .openArray =>
    if frames.length < limit then some (.more .firstElement (.array [] :: frames)) else none
  | .openObject =>
    if frames.length < limit then some (.more .firstName (.object [] "" :: frames)) else none
  | _ => none

def step? (limit : Nat) (expect : Expect) (frames : List Frame) (token : Token) : Option Progress :=
  match expect, token, frames with
  | .firstElement, .closeArray, _ :: around => some (settle (.array []) around)
  | .value, token, frames => begin? limit frames token
  | .firstElement, token, frames => begin? limit frames token
  | .element, token, frames => begin? limit frames token
  | .firstName, .closeObject, _ :: around => some (settle (.object []) around)
  | .firstName, .string (some s), .object members _ :: around =>
    some (.more .colon (.object members s :: around))
  | .name, .string (some s), .object members _ :: around =>
    some (.more .colon (.object members s :: around))
  | .colon, .colon, frames => some (.more .value frames)
  | .separator, .comma, .array reversed :: around =>
    some (.more .element (.array reversed :: around))
  | .separator, .comma, .object members name :: around =>
    some (.more .name (.object members name :: around))
  | .separator, .closeArray, .array reversed :: around =>
    some (settle (.array reversed.reverse) around)
  | .separator, .closeObject, .object members _ :: around =>
    some (settle (.object members) around)
  | _, _, _ => none

/-- How deep the containers of a document may nest. -/
def depthLimit : Nat := 127

/-- Reads the rest of a value. The result has the tokens that follow the value. -/
def read (limit : Nat) (expect : Expect) (frames : List Frame) :
    List Token → Except Trail (Value × List Token)
  | [] => .error (stopAt expect frames none)
  | token :: rest =>
    match step? limit expect frames token with
    | none => .error (stopAt expect frames (some token))
    | some (.complete v) => .ok (v, rest)
    | some (.more expect frames) => read limit expect frames rest

def readValue (limit : Nat) (input : List Token) : Except Trail (Value × List Token) :=
  read limit .value [] input

/-- What follows a value is shorter than the tokens it was read from. -/
theorem read_shorter {limit : Nat} {expect : Expect} {frames : List Frame} {input : List Token}
    {v : Value} {rest : List Token} (h : read limit expect frames input = .ok (v, rest)) :
    rest.length < input.length := by
  induction input generalizing expect frames with
  | nil => simp [read] at h
  | cons token tail ih =>
    rw [read] at h
    split at h
    · cases h
    · cases h; simp
    · exact Nat.lt_succ_of_lt (ih h)

end Json

def Value.parse? (text : String) : Option Value :=
  match Json.readValue Json.depthLimit (Json.tokens text) with
  | .ok (v, []) => some v
  | _ => none

end JsonSchema
