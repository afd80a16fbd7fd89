import SqlNormal.Main
import SqlNormal.Capabilities
import SqlNormal.Environment.Alternatives
import SqlNormal.Records.Run
import SqlNormal.Proofs.Induction
import SqlNormal.Proofs.Trace
import SqlNormal.Proofs.Catalog
import SqlNormal.Proofs.Fields
import SqlNormal.Proofs.Faults
import SqlNormal.Proofs.Climbing
import SqlNormal.Proofs.Regeneration
import SqlNormal.Proofs.Nesting
import SqlNormal.Proofs.Resolution
import SqlNormal.Proofs.Clauses
import SqlNormal.Proofs.RawText
import SqlNormal.Proofs.Capabilities
import SqlNormal.Proofs.Surroundings
import SqlNormal.Proofs.Sessions
import SqlNormal.Proofs.Separators
import SqlNormal.Proofs.SimpleCase
import SqlNormal.Proofs.Records
import SqlNormal.Proofs.Bounds
import SqlNormal.Proofs.Dialogue
import SqlNormal.Proofs.Projections
import SqlNormal.Proofs.Quoting
import SqlNormal.Proofs.KeywordForms
import SqlNormal.Proofs.ExactNumbers
import SqlNormal.Proofs.Rounding
import SqlNormal.Proofs.Calendar
import SqlNormal.Proofs.TypedLiterals
import SqlNormal.Proofs.TypeNames
import SqlNormal.Proofs.Spellings
import SqlNormal.Proofs.OuterNames
import SqlNormal.Proofs.Views
import SqlNormal.Proofs.Skipping
import SqlNormal.Proofs.SortedQueries
import SqlNormal.Proofs.TokenTexts
import SqlNormal.Proofs.RecordFiles
import SqlNormal.Proofs.Positions
import SqlNormal.Proofs.RegularTrees
