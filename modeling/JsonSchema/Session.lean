import JsonSchema.Schema

namespace JsonSchema

structure Session where
  schema : Schema
  saved : List Rule

namespace Session

inductive Command
  | wrap (document : Value)
  | unwrap
  /-- Hands out the rule that holds now. -/
  | save
  /-- Goes on with a copy. -/
  | clone
  /-- Goes on with a new schema of draft 4. -/
  | reset

def start (r : Registry) : Session := ⟨.withRegistry r, []⟩

def step (s : Session) : Command → Session
  | .wrap document =>
    match s.schema.wrap document with
    | .ok schema => { s with schema := schema }
    | .error _ => s
  | .unwrap => { s with schema := s.schema.unwrap }
  | .save => { s with saved := s.saved ++ [s.schema.rule] }
  | .clone => s
  | .reset => { s with schema := .new }

def run (s : Session) (commands : List Command) : Session :=
  commands.foldl step s

end Session
end JsonSchema
