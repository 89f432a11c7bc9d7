import JsonSchema.Keyword

namespace JsonSchema.Keyword

/-- Numbers have to be written as integers and be even. -/
def even : Keyword := fun _ _ _ =>
  .ok (.check (.extension ⟨"even", accepts⟩))
where
  accepts : Value → Bool
    | .number n => n.toInt?.any fun i => i % 2 = 0
    | _ => true

def never : Keyword := fun _ _ _ => .ok (.constant false)

def maxProperties : Keyword := fun site value _ => do
  let count ← site.count "maxProperties" value
  pure (.check (.extension ⟨"maxProperties", fun x =>
    match x with
    | .object members => members.length ≤ count.toNat
    | _ => true⟩))

end JsonSchema.Keyword
