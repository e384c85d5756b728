import SqlSelect.Arg.OfJson
import SqlSelect.Dialect.Config
import SqlSelect.Query.Build
import SqlSelect.Query.Call
import SqlSelect.Value.Literal
import SqlSelect.Proofs.Renumber
import SqlSelect.Proofs.Tree
import SqlSelect.Proofs.Values
import SqlSelect.Proofs.Quoting
import SqlSelect.Proofs.CallerText
import SqlSelect.Proofs.Compositional
import SqlSelect.Proofs.Marker
import SqlSelect.Proofs.Template
import SqlSelect.Proofs.Alignment
import SqlSelect.Proofs.TokenFree
import SqlSelect.Proofs.InPlace
import SqlSelect.Proofs.QuotedRegion
import SqlSelect.Proofs.Reading
import SqlSelect.Proofs.Parameters
import SqlSelect.Proofs.Spelling
import SqlSelect.Proofs.Identifier
import SqlSelect.Proofs.Alike
import SqlSelect.Proofs.Parametric
import SqlSelect.Proofs.Outcome
import SqlSelect.Proofs.Payload
import SqlSelect.Proofs.Collecting
import SqlSelect.Proofs.Violation
import SqlSelect.Proofs.Masking
import SqlSelect.Proofs.Outline
import SqlSelect.Proofs.Canonical
import SqlSelect.Proofs.Chain
import SqlSelect.Proofs.WellFormed
import SqlSelect.Proofs.Building
import SqlSelect.Proofs.Write
import SqlSelect.Proofs.Latching
import SqlSelect.Proofs.AlikeSteps
import SqlSelect.Proofs.Interleaving
import SqlSelect.Proofs.Rewriting
import SqlSelect.Proofs.DialectSpelling
import SqlSelect.Proofs.Agreement
import SqlSelect.Proofs.Unquoting
import SqlSelect.Proofs.Legible
import SqlSelect.Proofs.ConditionTree
import SqlSelect.Proofs.Permitted
import SqlSelect.Proofs.Substitution
import SqlSelect.Proofs.Layout
import SqlSelect.Proofs.Phrase
import SqlSelect.Proofs.Flattening
import SqlSelect.Proofs.Dispatch
import SqlSelect.Proofs.RangeBounds
import SqlSelect.Proofs.Frame
import SqlSelect.Proofs.AddedCondition
import SqlSelect.Proofs.Pruning
import SqlSelect.Proofs.Joining
import SqlSelect.Proofs.Copying
import SqlSelect.Proofs.Decoding
