import FieldGuard.Dict
import FieldGuard.Dict.Sorted
import FieldGuard.Value
import FieldGuard.Value.Equality
import FieldGuard.Value.Number
import FieldGuard.Value.Order
import FieldGuard.Number.Binary
import FieldGuard.Number.Decimal
import FieldGuard.Number.Remainder
import FieldGuard.Number.Shortest
import FieldGuard.Unicode.CharSet
import FieldGuard.Unicode.Category
import FieldGuard.Unicode.Script
import FieldGuard.Unicode.Property
import FieldGuard.Unicode.CaseFold
import FieldGuard.Unicode.Segment
import FieldGuard.Unicode.Version
import FieldGuard.Unicode.Name
import FieldGuard.Pattern.Expr
import FieldGuard.Pattern.Matching
import FieldGuard.Pattern.Size
import FieldGuard.Pattern.Escape
import FieldGuard.Pattern.Bracket
import FieldGuard.Pattern.Notation
import FieldGuard.Pattern
import FieldGuard.Text.Blank
import FieldGuard.Text.Hex
import FieldGuard.Text.Base64
import FieldGuard.Text.Quoted
import FieldGuard.Calendar
import FieldGuard.Number.Reading
import FieldGuard.Value.Text
import FieldGuard.Path
import FieldGuard.Document.Flat
import FieldGuard.Document.Projection
import FieldGuard.Document.Intersection
import FieldGuard.Document.Merge
import FieldGuard.Error
import FieldGuard.Permission
import FieldGuard.Actor
import FieldGuard.Record
import FieldGuard.Permission.Reduction
import FieldGuard.Shape
import FieldGuard.Shape.Validation
import FieldGuard.Config
import FieldGuard.Filter
import FieldGuard.Filter.Reading
import FieldGuard.Filter.Matching
import FieldGuard.Sorting
import FieldGuard.Query
import FieldGuard.Table
import FieldGuard.Backend
import FieldGuard.Store
import FieldGuard.Outcome
import FieldGuard.Store.Reading
import FieldGuard.Store.Writing
import FieldGuard.Json
import FieldGuard.Json.Exchange
import FieldGuard.Json.Settings
import FieldGuard.Proofs.Error
import FieldGuard.Proofs.Path.Segments
import FieldGuard.Proofs.Dict
import FieldGuard.Proofs.Document.Branches
import FieldGuard.Proofs.Document.Nesting
import FieldGuard.Proofs.Permission.Restriction
import FieldGuard.Proofs.Document.Pruning
import FieldGuard.Proofs.Permission.Exactness
import FieldGuard.Proofs.Permission.Defaults
import FieldGuard.Proofs.Permission.Base
import FieldGuard.Proofs.Shape.Coverage
import FieldGuard.Proofs.Store.Action
import FieldGuard.Proofs.Store.Change
import FieldGuard.Proofs.Store.Confidentiality
import FieldGuard.Proofs.Document.Distinct
import FieldGuard.Proofs.Document.Leaves
import FieldGuard.Proofs.Document.CommonFields
import FieldGuard.Proofs.Document.Overlap
import FieldGuard.Proofs.Document.Reordering
import FieldGuard.Proofs.Document.Intersection
import FieldGuard.Proofs.Document.Merging
import FieldGuard.Proofs.Document.Assigning
import FieldGuard.Proofs.Store.Patching
import FieldGuard.Proofs.Record
import FieldGuard.Proofs.Store.SystemField
import FieldGuard.Proofs.Store.Run
import FieldGuard.Proofs.Store.Update
import FieldGuard.Proofs.Store.Integrity
import FieldGuard.Proofs.Store.Coverage
import FieldGuard.Proofs.Store.Overrides
import FieldGuard.Proofs.Store.Created
import FieldGuard.Proofs.Store.Forgery
import FieldGuard.Proofs.Store.Granting
import FieldGuard.Proofs.Table.Columns
import FieldGuard.Proofs.Value.Order
import FieldGuard.Proofs.Table.Sorting
import FieldGuard.Proofs.Filter
import FieldGuard.Proofs.Filter.Polarity
import FieldGuard.Proofs.Filter.Meaning
import FieldGuard.Proofs.Filter.Reading
import FieldGuard.Proofs.Store.Atomicity
import FieldGuard.Proofs.Store.Deletion
import FieldGuard.Proofs.Store.Removal
import FieldGuard.Proofs.Store.Projecting
import FieldGuard.Proofs.Document.Agreement
import FieldGuard.Proofs.Store.Noninterference
import FieldGuard.Proofs.Store.ReadBack
import FieldGuard.Proofs.Document.RoundTrip
import FieldGuard.Proofs.Table.Paging
import FieldGuard.Proofs.Store.Conformance
import FieldGuard.Proofs.Shape.Leafwise
import FieldGuard.Proofs.Store.Editing
import FieldGuard.Proofs.Store.Commuting
import FieldGuard.Proofs.Text.Bytes
import FieldGuard.Proofs.Path.Outermost
import FieldGuard.Proofs.Permission.Outermost
import FieldGuard.Proofs.Document.Projection
import FieldGuard.Proofs.Document.Redacting
import FieldGuard.Proofs.Permission.Tally
import FieldGuard.Proofs.Store.Accounting
import FieldGuard.Proofs.Store.Registries
import FieldGuard.Proofs.Store.Isolation
import FieldGuard.Proofs.Document.Lookup
import FieldGuard.Proofs.Shape.Conforming
import FieldGuard.Proofs.Filter.Nesting
import FieldGuard.Proofs.Value.Exact
import FieldGuard.Proofs.Value.Respelling
import FieldGuard.Proofs.Filter.Coherence
import FieldGuard.Proofs.Document.Lens
import FieldGuard.Proofs.Path.Order
