import JsonSchema.Keyword.Extra
import JsonSchema.Main
import JsonSchema.Session
import JsonSchema.Proofs.Rule.Spelling
import JsonSchema.Proofs.Keyword.Accepted
import JsonSchema.Proofs.Schema.Compiled
import JsonSchema.Proofs.Schema.WellFormed
import JsonSchema.Proofs.Schema.Meaning
import JsonSchema.Proofs.Pointer.Lookup
import JsonSchema.Proofs.Rule.Places
import JsonSchema.Proofs.Schema.FirstFault
import JsonSchema.Proofs.Paired
import JsonSchema.Proofs.Rule.Equivalent
import JsonSchema.Proofs.Schema.Restated
import JsonSchema.Proofs.Session.LastBinding
import JsonSchema.Proofs.Schema.Surroundings
import JsonSchema.Proofs.Schema.Rewritten
import JsonSchema.Proofs.Schema.Divided
import JsonSchema.Proofs.Rule.Within
import JsonSchema.Proofs.Schema.Reading
import JsonSchema.Proofs.Schema.Tightened
import JsonSchema.Proofs.Schema.Extended
import JsonSchema.Proofs.Rule.Distinct
import JsonSchema.Proofs.Schema.Distinct
import JsonSchema.Proofs.Walk.Moves
import JsonSchema.Proofs.CommandLine.Items
import JsonSchema.Proofs.FileTree.Written
import JsonSchema.Proofs.CommandLine.Judged
import JsonSchema.Proofs.CommandLine.Ending
import JsonSchema.Proofs.Fixture.Accounted
import JsonSchema.Proofs.Number.Order
import JsonSchema.Proofs.Value.Readback
import JsonSchema.Proofs.Keyword.DecimalMultiple
import JsonSchema.Proofs.Number.Word
import JsonSchema.Proofs.Value.Alike
import JsonSchema.Proofs.Keyword.CountLimit
import JsonSchema.Proofs.Schema.Composed
import JsonSchema.Proofs.CommandLine.Lines
import JsonSchema.Proofs.CommandLine.Reads
import JsonSchema.Proofs.Json.Space
import JsonSchema.Proofs.CommandLine.LineByLine
import JsonSchema.Proofs.Fixture.FirstArray
import JsonSchema.Proofs.Schema.Child
