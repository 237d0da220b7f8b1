import ColumnChecks.Column.Name
import ColumnChecks.Number.Shortest
import ColumnChecks.Value.Encoding
import ColumnChecks.Config.Basic
import ColumnChecks.Constraint.Error
import ColumnChecks.Constraint.Printer
import ColumnChecks.Constraint.Validation
import ColumnChecks.Constraint.Encoding
import ColumnChecks.Constraint.Decoding
import ColumnChecks.Constraint.BoundDecoding
import ColumnChecks.Constraint.Room
import ColumnChecks.Clause.Parser
import ColumnChecks.Table.Printer
import ColumnChecks.Table.Enforcement
import ColumnChecks.Table.Archive
import ColumnChecks.Table.Storage
import ColumnChecks.Proofs.Text.Letters
import ColumnChecks.Proofs.Column.NameRoundTrip
import ColumnChecks.Proofs.Wire.Reads
import ColumnChecks.Proofs.Wire.Delimited
import ColumnChecks.Proofs.Wire.Consumption
import ColumnChecks.Proofs.Wire.Outcomes
import ColumnChecks.Proofs.Constraint.Tree
import ColumnChecks.Proofs.Constraint.Fields
import ColumnChecks.Proofs.Constraint.Limits
import ColumnChecks.Proofs.Constraint.RoundTrip
import ColumnChecks.Proofs.Constraint.SelfDelimiting
import ColumnChecks.Proofs.Constraint.Text
import ColumnChecks.Proofs.Constraint.Checks
import ColumnChecks.Proofs.Table.Reload
import ColumnChecks.Proofs.Table.Loading
import ColumnChecks.Proofs.Table.Settled
import ColumnChecks.Proofs.Table.Narrowing
import ColumnChecks.Proofs.Table.Conjoining
import ColumnChecks.Proofs.Table.RowIntegrity
import ColumnChecks.Proofs.Table.Decision
import ColumnChecks.Proofs.Value.Kind
import ColumnChecks.Proofs.Constraint.Requirements
import ColumnChecks.Proofs.Clause.Grammar
import ColumnChecks.Proofs.Clause.Spelling
import ColumnChecks.Proofs.Clause.Longest
import ColumnChecks.Proofs.Clause.Tokens
import ColumnChecks.Proofs.Clause.Layout
import ColumnChecks.Proofs.Clause.Continued
import ColumnChecks.Proofs.Clause.Rendering
import ColumnChecks.Proofs.Table.Declaration
import ColumnChecks.Proofs.Constraint.Flattening
import ColumnChecks.Proofs.Number.Integer
import ColumnChecks.Proofs.Number.Rounding
import ColumnChecks.Proofs.Number.FloatLiteral
import ColumnChecks.Proofs.Value.Literal
import ColumnChecks.Proofs.Table.Malformed
import ColumnChecks.Proofs.Constraint.IntegerComparison
import ColumnChecks.Proofs.Table.Admission
import ColumnChecks.Proofs.Value.StoredForm
import ColumnChecks.Proofs.Clause.NameTokens
import ColumnChecks.Proofs.Constraint.Nesting
import ColumnChecks.Proofs.Table.Encodable
import ColumnChecks.Proofs.Constraint.Lengths
import ColumnChecks.Proofs.Value.Order
import ColumnChecks.Proofs.Table.KeyPositions
import ColumnChecks.Proofs.Clause.Stages
import ColumnChecks.Proofs.Clause.Refusals
import ColumnChecks.Proofs.Constraint.Reservation
import ColumnChecks.Proofs.Constraint.FieldSequences
