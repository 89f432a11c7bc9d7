import JsonSchema.CommandLine.Run
import JsonSchema.Fixture.Run
import Std.Time.Format

namespace JsonSchema.Main

def addFile (t : FileTree) (place : Place) (entry : IO.FS.DirEntry) : IO FileTree := do
  let content ← try pure (Content.text (← IO.FS.readFile entry.path)) catch _ => pure .noText
  return { t with files := t.files ++ [(place, content)] }

def addDirectory (t : FileTree) (place : Place) (directory : IO.FS.DirEntry) : Nat → IO FileTree
  | 0 => return t
  | depth + 1 => do
    let mut t := t
    for entry in ← directory.path.readDir do
      let inside := place ++ [entry.fileName]
      if ← entry.path.isDir then
        t ← addDirectory { t with made := t.made ++ [inside] } inside entry depth
      else t ← addFile t inside entry
    return t

def addWord (t : FileTree) (word : String) : IO FileTree := do
  let names := FileTree.steps word
  let plain := names.takeWhile fun name => !CommandLine.isPattern name
  let place := plain.foldl (fun p name => if name = ".." then p.dropLast else p ++ [name])
    (t.start word)
  if t.home.isPrefixOf place then return t
  let entry : IO.FS.DirEntry :=
    { root := "/" ++ FileTree.pathText place.dropLast, fileName := place.getLast?.getD "" }
  if !(← entry.path.pathExists) then return t
  if ← entry.path.isDir then
    let depth :=
      if names.contains "**" then FileTree.longestPath else names.length - plain.length
    addDirectory { t with made := t.made ++ [place] } place entry depth
  else addFile t place entry

def currentFiles (words : List String) : IO FileTree := do
  let home := (← IO.currentDir).components.filter (· ≠ "")
  let t ← addDirectory ⟨home, [], []⟩ home { root := ".", fileName := "." } FileTree.longestPath
  words.foldlM addWord t

def currentStdin : IO Content := do
  try return .text (← (← IO.getStdin).readToEnd) catch _ => return .noText

def writeChanges (before after : FileTree) : IO Unit := do
  for place in after.made do
    unless before.made.contains place do IO.FS.createDirAll (after.pathTo place)
  for (path, text) in before.changes after do
    IO.FS.writeFile path text

def now : IO String := do
  let time := Std.Time.DateTime.ofTimestamp (← Std.Time.Timestamp.now) .UTC
  return time.format "uuuu-MM-dd'T'HH:mm:ss.SSSSSSSSSxxx"

def causes : CommandLine.Causes where
  file := "the file cannot be used"
  json := "this is not JSON"
  pattern := "the pattern is malformed"

def usage (e : CommandLine.UsageError) : String :=
  match e with
  | .help => "usage: (validate -s SCHEMA -i INPUT... | check -s SCHEMA)"
  | .noWords | .noCommand => "a command is needed: validate or check"
  | .unknownCommand => "unknown command"
  | .unknownArgument => "unknown argument"
  | .missingOption => "an option is missing"
  | .badValue => "an option has no value or a wrong one"
  | .unwantedValue => "an option takes no value"
  | .repeated => "an option is given twice"

def fixtures (args : List String) : IO UInt32 := do
  let files ← currentFiles (args.take 1)
  let directory := "/" ++ FileTree.pathText files.home
  let output := Fixture.Output.ofRun causes.pattern (Fixture.run directory files args)
  IO.eprint output.stderr
  IO.print output.stdout
  return output.exitCode.toUInt32

def validation (args : List String) : IO UInt32 := do
  match CommandLine.Request.ofWords args with
  | .error e =>
    IO.eprintln (usage e)
    return e.exitCode.toUInt32
  | .ok request =>
    let files ← currentFiles request.paths
    let stdin ← if request.wantsStdin files then currentStdin else pure (.text "")
    let result := request.run ⟨files, stdin, ← now⟩
    IO.print result.stdout
    writeChanges files result.files
    if let .error e := result.outcome then IO.eprintln ("error: " ++ e.message causes)
    return result.exitCode.toUInt32

end JsonSchema.Main

/-- The command line; its first word `fixtures` stands for the program that runs fixture files. -/
def main (args : List String) : IO UInt32 :=
  match args with
  | "fixtures" :: rest => JsonSchema.Main.fixtures rest
  | _ => JsonSchema.Main.validation args
