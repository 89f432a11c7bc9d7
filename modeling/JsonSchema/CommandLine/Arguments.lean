namespace JsonSchema.CommandLine

inductive Format
  | text
  | json
  deriving DecidableEq

structure Validation where
  schema : String
  inputs : List String
  /-- Every line of an input is a document. -/
  ndjson : Bool
  /-- Selects the part of each document that is validated. -/
  pointer : Option String
  format : Format
  /-- The file for the report, which otherwise is printed. -/
  out : Option String
  /-- Nothing is to be done. -/
  noOp : Bool
  deriving DecidableEq

inductive Request
  | validate (v : Validation)
  /-- Only the schema is looked at. -/
  | check (schema : String)
  deriving DecidableEq

inductive UsageError
  /-- Help is asked for. -/
  | help
  | noWords
  | noCommand
  | unknownCommand
  /-- An option or a word that the command does not know. -/
  | unknownArgument
  | missingOption
  /-- An option has no value, or one that it cannot have. -/
  | badValue
  /-- A value stands with an option that takes none. -/
  | unwantedValue
  /-- An option is given twice that may be given once. -/
  | repeated
  deriving DecidableEq

def UsageError.exitCode : UsageError → Nat
  | .help => 0
  | _ => 2

inductive Command
  | validate
  | check
  deriving DecidableEq

inductive Flag
  | schema
  | input
  | ndjson
  | pointer
  | format
  | out
  | noOp
  /-- More is to be logged. There is no log here. -/
  | verbose
  | help
  deriving DecidableEq

namespace Flag

def long : Flag → String
  | .schema => "schema"
  | .input => "input"
  | .ndjson => "ndjson"
  | .pointer => "json-pointer"
  | .format => "format"
  | .out => "out"
  | .noOp => "no-op"
  | .verbose => "verbose"
  | .help => "help"

def short? : Flag → Option Char
  | .schema => some 's'
  | .input => some 'i'
  | .out => some 'o'
  | .verbose => some 'v'
  | .help => some 'h'
  | _ => none

def takesValue : Flag → Bool
  | .schema | .input | .pointer | .format | .out => true
  | .ndjson | .noOp | .verbose | .help => false

def general : List Flag := [.verbose, .help]

end Flag

def Command.flags : Command → List Flag
  | .validate =>
    [.schema, .input, .ndjson, .pointer, .format, .out, .noOp] ++ Flag.general
  | .check => .schema :: Flag.general

inductive Word
  /-- Two hyphens alone. No flags follow. -/
  | hyphens
  /-- A name behind two hyphens, with the value behind an equals sign. -/
  | long (name : String) (value : Option String)
  /-- Letters behind one hyphen. -/
  | short (letters : List Char)
  | plain (text : String)

def Word.ofString (word : String) : Word :=
  match word.toList with
  | ['-', '-'] => .hyphens
  | '-' :: '-' :: rest =>
    let (name, value) := rest.span (· ≠ '=')
    .long (String.ofList name) (value.tail?.map String.ofList)
  | '-' :: c :: rest => .short (c :: rest)
  | _ => .plain word

structure Draft where
  schema : Option String
  inputs : Option (List String)
  ndjson : Bool
  pointer : Option String
  format : Option Format
  out : Option String
  noOp : Bool
  /-- The last option and its values, which have not been looked at. -/
  pending : Option (Flag × List String)
  /-- Whether the next plain word is a value. -/
  listening : Bool

namespace Draft

def empty : Draft where
  schema := none
  inputs := none
  ndjson := false
  pointer := none
  format := none
  out := none
  noOp := false
  pending := none
  listening := false

def once (old : Option α) (new : Except UsageError α) : Except UsageError (Option α) :=
  if old.isSome then .error .repeated else new.map some

def path (value : String) : Except UsageError String :=
  if value.isEmpty then .error .badValue else .ok value

def format? : String → Except UsageError Format
  | "text" => .ok .text
  | "json" => .ok .json
  | _ => .error .badValue

def take (d : Draft) (flag : Flag) (values : List String) : Except UsageError Draft :=
  match flag, values with
  | .ndjson, _ => if d.ndjson then .error .repeated else .ok { d with ndjson := true }
  | .noOp, _ => if d.noOp then .error .repeated else .ok { d with noOp := true }
  | .verbose, _ => .ok d
  | .help, _ => .error .help
  | _, [] => .error .badValue
  | .input, values => .ok { d with inputs := some (d.inputs.getD [] ++ values) }
  | .schema, v :: _ => (once d.schema (path v)).map fun s => { d with schema := s }
  | .pointer, v :: _ => (once d.pointer (.ok v)).map fun p => { d with pointer := p }
  | .format, v :: _ => (once d.format (format? v)).map fun f => { d with format := f }
  | .out, v :: _ => (once d.out (path v)).map fun o => { d with out := o }

def settle (d : Draft) : Except UsageError Draft :=
  let d' := { d with pending := none, listening := false }
  match d.pending with
  | none => .ok d'
  | some (flag, values) => d'.take flag values

def meet (d : Draft) (flag : Flag) (values : List String) : Except UsageError Draft := do
  (← d.settle).take flag values

def await (d : Draft) (flag : Flag) : Except UsageError Draft := do
  pure { (← d.settle) with pending := some (flag, []), listening := true }

/-- Takes letters behind one hyphen. What stands behind an option is its value, without an equals
sign in front. -/
def letters (flags : List Flag) (d : Draft) : List Char → Except UsageError Draft
  | [] => .ok d
  | c :: rest =>
    match flags.find? (·.short? = some c) with
    | none => .error .unknownArgument
    | some flag =>
      if flag.takesValue then
        match rest with
        | [] => d.await flag
        | '=' :: value => d.meet flag [String.ofList value]
        | value => d.meet flag [String.ofList value]
      else do letters flags (← d.meet flag []) rest

def word (flags : List Flag) (d : Draft) : Word → Except UsageError Draft
  | .hyphens => .ok d
  | .long name value =>
    match flags.find? (·.long = name), value with
    | none, _ => .error .unknownArgument
    | some flag, some v => if flag.takesValue then d.meet flag [v] else .error .unwantedValue
    | some flag, none => if flag.takesValue then d.await flag else d.meet flag []
  | .short cs => d.letters flags cs
  | .plain text =>
    match d.pending with
    | some (flag, values) =>
      if d.listening then
        .ok { d with pending := some (flag, values ++ [text]), listening := flag = .input }
      else .error .unknownArgument
    | none => .error .unknownArgument

def words (flags : List Flag) (d : Draft) : List String → Except UsageError Draft
  | [] => d.settle
  | w :: rest =>
    match Word.ofString w with
    | .hyphens => if rest.isEmpty then d.settle else .error .unknownArgument
    | form => do words flags (← d.word flags form) rest

def request (d : Draft) : Command → Except UsageError Request
  | .check =>
    match d.schema with
    | some schema => .ok (.check schema)
    | none => .error .missingOption
  | .validate =>
    match d.schema, d.inputs with
    | some schema, some inputs => .ok (.validate
        { schema, inputs, ndjson := d.ndjson, pointer := d.pointer
          format := d.format.getD .text, out := d.out, noOp := d.noOp })
    | _, _ => .error .missingOption

end Draft

def command? : String → Option Command
  | "validate" => some .validate
  | "check" => some .check
  | _ => none

def helpOn : List String → UsageError
  | [] => .help
  | [word] => if (command? word).isSome || word = "help" then .help else .unknownCommand
  | _ => .unknownCommand

def stray (word : String) : UsageError :=
  if (command? word).isSome || word = "help" then .unknownArgument else .unknownCommand

def requestFrom (given : Bool) : List String → Except UsageError Request
  | [] => .error (if given then .noCommand else .noWords)
  | w :: rest =>
    match Word.ofString w with
    | .hyphens =>
      match rest with
      | [] => .error (if given then .noCommand else .noWords)
      | next :: _ => .error (stray next)
    | .plain text =>
      match command? text with
      | some command => do (← Draft.empty.words command.flags rest).request command
      | none => .error (if text = "help" then helpOn rest else .unknownCommand)
    | form => do
      let _ ← Draft.empty.word Flag.general form
      requestFrom true rest

def Request.ofWords (words : List String) : Except UsageError Request :=
  requestFrom false words

end JsonSchema.CommandLine
