import JsonSchema.Fixture.Basic
import JsonSchema.Glob

namespace JsonSchema.Fixture

open Json (Trail)

inductive RunError
  /-- The expression that selects cases is malformed. -/
  | badFilter (source : String)
  /-- The pattern for files is malformed. -/
  | badPattern
  | noFiles (pattern : String)
  | unreadable (file : String)
  | malformed (file : String) (place : Trail)

def RunError.message (patternFault : String) : RunError → String
  | .badFilter source => "bad filter regex: " ++ source
  | .badPattern => "❌ " ++ patternFault
  | .noFiles pattern => "❌ no fixtures matched " ++ pattern
  | .unreadable file => "❌ failed to read fixture (" ++ file ++ ")"
  | .malformed file place =>
    "❌ malformed fixture (" ++ file ++ "): at JSON path " ++ place.text

def runFile (selected : String → Bool) (t : FileTree) (file : String) (s : Summary) :
    Except RunError Summary :=
  match t.read? file with
  | none => .error (.unreadable file)
  | some text =>
    match groups text with
    | .error place => .error (.malformed file place)
    | .ok all => .ok (all.foldl (fun s g => g.run selected file s) s)

def runFiles (selected : String → Bool) (t : FileTree) :
    List String → Summary → Except RunError Summary
  | [], s => .ok s
  | file :: rest, s => do runFiles selected t rest (← runFile selected t file s)

def runPattern (t : FileTree) (pattern : String) (filter : Option Pattern) :
    Except RunError Summary :=
  match Glob.parse? pattern with
  | none => .error .badPattern
  | some glob =>
    match glob.paths t with
    | [] => .error (.noFiles pattern)
    | files => runFiles (fun name => filter.all fun p => p.isIn name) t files .empty

/-- The files that are run when no pattern is given. They are in the directory of the program. -/
def defaultPattern (directory : String) : String := directory ++ "/fixtures/draft4/*.json"

def run (directory : String) (t : FileTree) (args : List String) : Except RunError Summary :=
  let pattern := args.head?.getD (defaultPattern directory)
  match args[1]? with
  | none => runPattern t pattern none
  | some source =>
    match Pattern.parse? source with
    | none => .error (.badFilter source)
    | some filter => runPattern t pattern (some filter)

structure Output where
  stdout : String
  stderr : String
  exitCode : Nat
  deriving DecidableEq

def Output.ofSummary (s : Summary) : Output where
  stdout := toString s.passed ++ " passed, " ++ toString s.failed.length ++ " failed\n"
  stderr := String.join (s.failed.map fun line => "FAIL " ++ line ++ "\n")
  exitCode := if s.failed.isEmpty then 0 else 1

def Output.ofRun (patternFault : String) : Except RunError Summary → Output
  | .ok s => .ofSummary s
  | .error e => ⟨"", e.message patternFault ++ "\n", 2⟩

end JsonSchema.Fixture
