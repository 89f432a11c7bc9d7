import JsonSchema.CommandLine.Arguments
import JsonSchema.CommandLine.Input
import JsonSchema.Schema
import JsonSchema.Value.Pretty

namespace JsonSchema.CommandLine

inductive Outcome
  | valid
  /-- Some document does not follow the schema. -/
  | invalid
  /-- Nothing was asked for. -/
  | noOp
  deriving DecidableEq

def Outcome.exitCode : Outcome → Nat
  | .valid => 0
  | .invalid => 1
  | .noOp => 0

structure Result extends World where
  outcome : Except RunError Outcome

structure Judged where
  source : String
  report : Report
  deriving DecidableEq

structure RunReport where
  schema : String
  checkedAt : String
  documents : List Judged

namespace RunReport

def invalid (r : RunReport) : Nat :=
  r.documents.countP fun d => !d.report.valid

def valid (r : RunReport) : Nat :=
  r.documents.length - r.invalid

def outcome (r : RunReport) : Outcome :=
  if r.invalid = 0 then .valid else .invalid

def documentText (d : Judged) : String :=
  if d.report.valid then "valid   " ++ d.source ++ "\n"
  else "invalid " ++ d.source ++ "\n"
    ++ String.join (d.report.failures.map fun f => "    " ++ f.text ++ "\n")

def text (r : RunReport) : String :=
  String.join (r.documents.map documentText)
    ++ toString r.valid ++ " valid, " ++ toString r.invalid ++ " invalid"

def count (n : Nat) : Value := .number (.unsigned n.toUInt64)

def failureValue (f : Failure) : Value :=
  .object [("keyword", .string f.keyword), ("path", .string (Pointer.text f.path)),
    ("message", .string f.message)]

def documentValue (d : Judged) : Value :=
  .object [("source", .string d.source), ("valid", .bool d.report.valid),
    ("failures", .array (d.report.failures.map failureValue))]

def value (r : RunReport) : Value :=
  .object [("schema", .string r.schema), ("checked_at", .string r.checkedAt),
    ("valid", count r.valid), ("invalid", count r.invalid),
    ("documents", .array (r.documents.map documentValue))]

def render (r : RunReport) : Format → String
  | .text => r.text
  | .json => r.value.prettyText

end RunReport

def loadSchema (path : String) : Action Schema := do
  let text ← Action.read (.file path) (.schemaUnreadable path)
  match Value.parse? text with
  | none => throw (.schemaMalformed path)
  | some document => liftM ((Schema.ofDocument document).mapError (RunError.schemaRejected path))

namespace Validation

def selection (v : Validation) : Selection := ⟨v.ndjson, v.pointer⟩

/-- Finds all sources before the first of them is read. -/
def documents (v : Validation) : Action (List Document) := do
  let all ← liftM ((sources (← get).files v.inputs).mapError RunError.inputs)
  v.selection.load all

def judge (v : Validation) : Action RunReport := do
  let schema ← loadSchema v.schema
  let documents ← v.documents
  pure ⟨v.schema, (← get).now, documents.map fun d => ⟨d.label, schema.rule.report d.value⟩⟩

def deliver (v : Validation) (rendered : String) : Action Unit :=
  match v.out with
  | none => Action.print (rendered ++ "\n")
  | some path => do
    Action.makeAround path
    Action.write path rendered

def action (v : Validation) : Action Outcome :=
  if v.noOp then pure .noOp
  else do
    let report ← v.judge
    v.deliver (report.render v.format)
    pure report.outcome

end Validation

def checkSchema (path : String) : Action Outcome := do
  let _ ← loadSchema path
  Action.print ("ok " ++ path ++ "\n")
  pure .valid

namespace Request

def action : Request → Action Outcome
  | .check path => checkSchema path
  | .validate v => v.action

def run (r : Request) (s : Surroundings) : Result :=
  let (outcome, after) := r.action.on (.start s)
  { after with outcome := outcome }

def paths : Request → List String
  | .check path => [path]
  | .validate v => v.schema :: v.inputs ++ v.out.toList

def wantsStdin (r : Request) (t : FileTree) : Bool :=
  match r with
  | .check _ => false
  | .validate v =>
    match sources t v.inputs with
    | .ok all => !v.noOp && all.contains .stdin
    | .error _ => false

end Request

def Result.exitCode (r : Result) : Nat :=
  match r.outcome with
  | .ok outcome => outcome.exitCode
  | .error _ => 2

end JsonSchema.CommandLine
