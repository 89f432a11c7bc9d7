import JsonSchema.CommandLine.Error
import JsonSchema.FileTree

namespace JsonSchema.CommandLine

inductive Source
  | stdin
  | file (path : String)
  deriving DecidableEq

structure Surroundings where
  files : FileTree
  stdin : Content
  /-- The time of the run, in text. -/
  now : String

/-- The surroundings of a run as they are by now, and what it has printed and read so far. -/
structure World extends Surroundings where
  stdout : String
  reads : List Source

namespace World

def start (s : Surroundings) : World := { s with stdout := "", reads := [] }

def text? (w : World) : Source → Option String
  | .stdin => w.stdin.text?
  | .file path => w.files.read? path

/-- The standard input is empty once it has been read. -/
def afterRead (w : World) (source : Source) : World :=
  { w with
    stdin := if source = .stdin then .text "" else w.stdin
    reads := w.reads ++ [source] }

end World

/-- A part of a run. What it has done when it fails stays done. -/
abbrev Action := ExceptT RunError (StateM World)

namespace Action

def on (a : Action α) (w : World) : Except RunError α × World :=
  a.run.run w

def read (source : Source) (failure : RunError) : Action String := do
  let w ← get
  set (w.afterRead source)
  match w.text? source with
  | some text => pure text
  | none => throw failure

def print (text : String) : Action Unit :=
  modify fun w => { w with stdout := w.stdout ++ text }

def makeAround (path : String) : Action Unit := do
  let w ← get
  let (files, made) := w.files.makeAround path
  set { w with files := files }
  unless made do throw .directoryNotMade

def write (path text : String) : Action Unit := do
  let w ← get
  match w.files.write? path text with
  | some files => set { w with files := files }
  | none => throw (.notWritten path)

end Action
end JsonSchema.CommandLine
