import JsonSchema.CommandLine.World
import JsonSchema.Glob
import JsonSchema.Json.Reader
import JsonSchema.Unicode.Derived

namespace JsonSchema.CommandLine

/-- The source that a path names. A hyphen names the standard input, also when a pattern has found
it. -/
def Source.ofPath (path : String) : Source :=
  if path = "-" then .stdin else .file path

def Source.label : Source → String
  | .stdin => "<stdin>"
  | .file path => path

def isPattern (word : String) : Bool :=
  word.toList.any fun c => c = '*' || c = '?' || c = '[' || c = '\x7b'

def inputPaths (t : FileTree) (stdinGiven : Bool) : List String → Except InputError (List String)
  | [] => .ok []
  | word :: rest =>
    if word = "-" then
      if stdinGiven then .error .stdinTwice else do pure (word :: (← inputPaths t true rest))
    else if isPattern word then
      match Glob.parse? word with
      | none => .error .badPattern
      | some glob =>
        match glob.paths t with
        | [] => .error (.noMatch word)
        | found => do pure (found ++ (← inputPaths t stdinGiven rest))
    else do pure (word :: (← inputPaths t stdinGiven rest))

def sources (t : FileTree) (words : List String) : Except InputError (List Source) :=
  (inputPaths t false words).map fun paths => paths.map Source.ofPath

structure Document where
  label : String
  value : Value

structure Selection where
  ndjson : Bool
  pointer : Option String

def Selection.select (s : Selection) (label : String) (v : Value) : Except RunError Document :=
  match s.pointer with
  | none => .ok ⟨label, v⟩
  | some pointer =>
    match (Pointer.parse? pointer).bind (Pointer.find? v) with
    | some part => .ok ⟨label, part⟩
    | none => .error (.nothingSelected pointer label)

def isBlank (line : List Char) : Bool := line.all Unicode.whiteSpace.contains

/-- The lines of a text that have something on them, with their numbers. A carriage return at the
end of a line is white space like any other. -/
def numberedLines (text : String) : List (Nat × String) :=
  ((Text.closedParts '\n' text.toList).zipIdx 1).filterMap fun (line, n) =>
    if isBlank line then none else some (n, String.ofList line)

def Selection.lineDocument (s : Selection) (label : String) (line : Nat × String) :
    Except RunError Document :=
  let label := label ++ ":" ++ toString line.1
  match Value.parse? line.2 with
  | none => .error (.lineMalformed label)
  | some v => s.select label v

def Selection.documents (s : Selection) (label text : String) : Except RunError (List Document) :=
  if s.ndjson then (numberedLines text).mapM (s.lineDocument label)
  else
    match Value.parse? text with
    | none => .error (.sourceMalformed label)
    | some v => (s.select label v).map ([·])

def Source.unreadable : Source → RunError
  | .stdin => .stdinUnreadable
  | .file path => .sourceUnreadable path

/-- Reads sources one after the other, each to its last document before the next one. -/
def Selection.load (s : Selection) : List Source → Action (List Document)
  | [] => pure []
  | source :: rest => do
    let text ← Action.read source source.unreadable
    let documents ← s.documents source.label text
    pure (documents ++ (← s.load rest))

end JsonSchema.CommandLine
