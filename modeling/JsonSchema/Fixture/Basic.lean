import JsonSchema.Json.Decoder
import JsonSchema.Schema

namespace JsonSchema.Fixture

open Json (Decoder Trail)

structure Case where
  description : String
  data : Value
  valid : Bool

structure Group where
  description : String
  schema : Value
  cases : List Case

def Case.decoder : Decoder Case :=
  (Decoder.record ⟨"description", .text⟩ ⟨"data", .value (Json.depthLimit - 4)⟩
    ⟨"valid", .flag⟩).map fun (description, data, valid) => ⟨description, data, valid⟩

def Group.decoder : Decoder Group :=
  (Decoder.record ⟨"description", .text⟩ ⟨"schema", .value (Json.depthLimit - 2)⟩
    ⟨"tests", .list Case.decoder⟩).map fun (description, schema, cases) =>
      ⟨description, schema, cases⟩

def groups (text : String) : Except Trail (List Group) :=
  (Decoder.list Group.decoder [] (Json.tokens text)).map Prod.fst

structure Summary where
  passed : Nat
  /-- A line for every case that did not pass. -/
  failed : List String
  deriving DecidableEq

namespace Summary

def empty : Summary := ⟨0, []⟩

def pass (s : Summary) : Summary := { s with passed := s.passed + 1 }

def fail (s : Summary) (line : String) : Summary := { s with failed := s.failed ++ [line] }

end Summary

namespace Group

def caseName (g : Group) (file : String) (c : Case) : String :=
  file ++ " :: " ++ g.description ++ " :: " ++ c.description

def runCase (g : Group) (selected : String → Bool) (file : String)
    (schema : Except SchemaError Schema) (s : Summary) (c : Case) : Summary :=
  let name := g.caseName file c
  if !selected name then s
  else
    match schema with
    | .error e => s.fail (name ++ " (schema rejected: " ++ e.message ++ ")")
    | .ok schema =>
      if schema.rule.accepts c.data = c.valid then s.pass
      else s.fail (name ++ " (expected valid = " ++ toString c.valid ++ ")")

def run (g : Group) (selected : String → Bool) (file : String) (s : Summary) : Summary :=
  g.cases.foldl (g.runCase selected file (Schema.ofDocument g.schema)) s

end Group
end JsonSchema.Fixture
