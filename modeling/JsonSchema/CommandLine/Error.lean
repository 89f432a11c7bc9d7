import JsonSchema.Error

namespace JsonSchema.CommandLine

inductive InputError
  | stdinTwice
  /-- A pattern is malformed. -/
  | badPattern
  | noMatch (pattern : String)
  deriving DecidableEq

inductive RunError
  | schemaUnreadable (path : String)
  | schemaMalformed (path : String)
  | schemaRejected (path : String) (e : SchemaError)
  | inputs (e : InputError)
  | stdinUnreadable
  | sourceUnreadable (path : String)
  | sourceMalformed (label : String)
  | lineMalformed (label : String)
  /-- A document has nothing at the pointer. -/
  | nothingSelected (pointer label : String)
  /-- The directories around the file for the report cannot be made. -/
  | directoryNotMade
  | notWritten (path : String)

structure Causes where
  file : String
  json : String
  pattern : String

def InputError.message (causes : Causes) : InputError → String
  | .stdinTwice => "stdin ('-') may only be given once"
  | .badPattern => causes.pattern
  | .noMatch pattern => "glob pattern matched no files: " ++ pattern

def RunError.message (causes : Causes) : RunError → String
  | .schemaUnreadable path => "failed to read schema (" ++ path ++ "): " ++ causes.file
  | .schemaMalformed path => "failed to parse schema (" ++ path ++ "): " ++ causes.json
  | .schemaRejected path e => "rejected schema (" ++ path ++ "): " ++ e.message
  | .inputs e => "failed to resolve input file paths: " ++ e.message causes
  | .stdinUnreadable => "failed to read stdin: " ++ causes.file
  | .sourceUnreadable path => "failed to read source file (" ++ path ++ "): " ++ causes.file
  | .sourceMalformed label =>
    "failed to parse JSON source file (" ++ label ++ "): " ++ causes.json
  | .lineMalformed label => "failed to parse JSON line (" ++ label ++ "): " ++ causes.json
  | .nothingSelected pointer label =>
    "json pointer " ++ pointer ++ " selects nothing in " ++ label
  | .directoryNotMade => causes.file
  | .notWritten path => "failed to write " ++ path ++ ": " ++ causes.file

end JsonSchema.CommandLine
