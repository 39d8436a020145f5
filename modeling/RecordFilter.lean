import RecordFilter.Main
import RecordFilter.Program.Inspect
import RecordFilter.Query.Meaning
import RecordFilter.Proofs.Query.Node
import RecordFilter.Proofs.Query.Simulation
import RecordFilter.Proofs.Expression.Meaning
import RecordFilter.Proofs.Expression.Negation
import RecordFilter.Proofs.Layout.Image
import RecordFilter.Proofs.Path.Follow
import RecordFilter.Proofs.Query.Paths
import RecordFilter.Proofs.Layout.Column
import RecordFilter.Proofs.Program.Agreement
import RecordFilter.Proofs.Program.Degradation
import RecordFilter.Proofs.Query.Repair
import RecordFilter.Proofs.Expression.Repair
import RecordFilter.Proofs.Assembly.Lockstep
import RecordFilter.Proofs.Program.Strictness
import RecordFilter.Proofs.Layout.Relocation
import RecordFilter.Proofs.Program.Stages
import RecordFilter.Proofs.Path.NullSafe
import RecordFilter.Proofs.Query.NullSafe
import RecordFilter.Proofs.Program.NullSafe
import RecordFilter.Proofs.Binary64.Units
import RecordFilter.Proofs.Number.Integral
import RecordFilter.Proofs.Value.Membership
import RecordFilter.Proofs.Predicate.Slots
import RecordFilter.Proofs.Expression.Literals
import RecordFilter.Proofs.Program.Hoisting
import RecordFilter.Proofs.Predicate.Absent
import RecordFilter.Proofs.Program.Rows
import RecordFilter.Proofs.Program.Builders
import RecordFilter.Proofs.Binary64.Rational
import RecordFilter.Proofs.Number.Order
import RecordFilter.Proofs.Value.Comparison
import RecordFilter.Proofs.Value.Classes
import RecordFilter.Proofs.Query.Duality
import RecordFilter.Proofs.Expression.Duality
import RecordFilter.Proofs.Assembly.Parallel
import RecordFilter.Proofs.Query.Context
import RecordFilter.Proofs.Expression.Nesting
import RecordFilter.Proofs.Path.RoundTrip
import RecordFilter.Proofs.Layout.Longest
import RecordFilter.Proofs.Layout.Renumbering
import RecordFilter.Proofs.Program.ColumnOrder
import RecordFilter.Proofs.Program.Alignment
import RecordFilter.Proofs.Predicate.Leaves
import RecordFilter.Proofs.Program.Cells
import RecordFilter.Proofs.Program.Fields
import RecordFilter.Proofs.Program.Index
import RecordFilter.Proofs.Json.Lines
import RecordFilter.Proofs.Json.Spacing
import RecordFilter.Proofs.Value.Equality
import RecordFilter.Proofs.Json.Grammar
import RecordFilter.Proofs.Json.Reading
import RecordFilter.Proofs.Program.Listing
import RecordFilter.Proofs.Expression.Registered
import RecordFilter.Proofs.Text.Splitting
import RecordFilter.Proofs.Path.Spelling
import RecordFilter.Proofs.Predicate.Canonical
import RecordFilter.Proofs.Test.Notation
import RecordFilter.Proofs.Predicate.Notation
import RecordFilter.Proofs.Query.Legible
import RecordFilter.Proofs.Program.Notation
