import SchemaTypes.Naming
import SchemaTypes.Text.Bytes
import SchemaTypes.Text.Combining
import SchemaTypes.Text.DecimalDigit
import SchemaTypes.Text.Printable
import SchemaTypes.Text.Utf8
import SchemaTypes.Decimal.Binary64
import SchemaTypes.Decimal.Shortest
import SchemaTypes.Json.Failure
import SchemaTypes.Json.Reader
import SchemaTypes.Json.Strings
import SchemaTypes.Json.Numbers
import SchemaTypes.Json.Skipping
import SchemaTypes.Json.Typed
import SchemaTypes.Schema
import SchemaTypes.Schema.Decoding
import SchemaTypes.Defect
import SchemaTypes.Json.Value
import SchemaTypes.Primitive
import SchemaTypes.Schema.Encoding
import SchemaTypes.Agenda
import SchemaTypes.Declaration
import SchemaTypes.Schema.Size
import SchemaTypes.Dialect
import SchemaTypes.Dialect.Go
import SchemaTypes.Dialect.Rust
import SchemaTypes.Pass
import SchemaTypes.Sheet
import SchemaTypes.Files.Path
import SchemaTypes.Files.Tree
import SchemaTypes.Files.Wildcard
import SchemaTypes.Files.Expansion
import SchemaTypes.CommandLine.Request
import SchemaTypes.CommandLine.Outline
import SchemaTypes.CommandLine.Run
import SchemaTypes.Files.Changes
import SchemaTypes.Main
import SchemaTypes.Proofs.Resolution
import SchemaTypes.Proofs.Declaration
import SchemaTypes.Proofs.Agenda
import SchemaTypes.Proofs.Flattening
import SchemaTypes.Proofs.Pass.Steps
import SchemaTypes.Proofs.Pass.Ascending
import SchemaTypes.Proofs.Pass.Flattening
import SchemaTypes.Proofs.Pass.Mentions
import SchemaTypes.Proofs.Rearrangement
import SchemaTypes.Proofs.Pass.Rearrangement
import SchemaTypes.Proofs.Json.Yields
import SchemaTypes.Proofs.Decoding
import SchemaTypes.Proofs.Agreement
import SchemaTypes.Proofs.Dialects
import SchemaTypes.Proofs.Pass.Coverage
import SchemaTypes.Proofs.Pass.Failure
import SchemaTypes.Proofs.Reachable
import SchemaTypes.Proofs.Pass.Defects
import SchemaTypes.Proofs.FieldNames
import SchemaTypes.Proofs.Json.Running
import SchemaTypes.Proofs.Text.Utf8
import SchemaTypes.Proofs.Json.Strings
import SchemaTypes.Proofs.Json.Numbers
import SchemaTypes.Proofs.Json.Skipping
import SchemaTypes.Proofs.Json.Compact
import SchemaTypes.Proofs.Json.Outcome
import SchemaTypes.Proofs.Json.Members
import SchemaTypes.Proofs.Json.Records
import SchemaTypes.Proofs.Meaning
import SchemaTypes.Proofs.RoundTrip
import SchemaTypes.Proofs.UnknownMembers
import SchemaTypes.Proofs.Misplaced
import SchemaTypes.Proofs.Walk
import SchemaTypes.Proofs.Pass.Bounds
import SchemaTypes.Proofs.Worklist
import SchemaTypes.Proofs.Files.Faces
import SchemaTypes.Proofs.Files.Writing
import SchemaTypes.Proofs.CommandLine.Run
import SchemaTypes.Proofs.WireNames
import SchemaTypes.Proofs.SingleDeclaration
import SchemaTypes.Proofs.TrailingText
import SchemaTypes.Proofs.Pass.Warnings
import SchemaTypes.Proofs.IdentifierForm
import SchemaTypes.Proofs.ReservedWords
import SchemaTypes.Proofs.SheetHistory
import SchemaTypes.Proofs.WritingLoop
import SchemaTypes.Proofs.Files.PathOrder
import SchemaTypes.Proofs.Files.Matches
import SchemaTypes.Proofs.CommandLine.Inputs
