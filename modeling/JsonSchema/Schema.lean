import JsonSchema.Registry

namespace JsonSchema

/-- A document with its rule. The document is kept as it is, unknown keywords included. -/
structure SchemaNode where
  document : Value
  rule : Rule

namespace SchemaNode

def wrap (r : Registry) (document : Value) : Except SchemaError SchemaNode := do
  pure ⟨document, ← r.compile .root document⟩

def keyword? (node : SchemaNode) (name : String) : Option Value :=
  node.document.get? name

end SchemaNode

/-- A schema, which accepts every instance as long as it has no root. -/
structure Schema where
  registry : Registry
  root : Option SchemaNode

namespace Schema

def withRegistry (r : Registry) : Schema := ⟨r, none⟩

def new : Schema := withRegistry .draft4

def wrap (s : Schema) (document : Value) : Except SchemaError Schema := do
  pure { s with root := some (← SchemaNode.wrap s.registry document) }

def unwrap (s : Schema) : Schema := { s with root := none }

def ofDocument (document : Value) : Except SchemaError Schema :=
  new.wrap document

def rule (s : Schema) : Rule :=
  match s.root with
  | some node => node.rule
  | none => .acceptAll

def accepts (s : Schema) (x : Value) : Bool :=
  match s.root with
  | some node => node.rule.accepts x
  | none => true

end Schema
end JsonSchema
