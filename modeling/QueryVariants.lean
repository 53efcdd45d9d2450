import QueryVariants.Calendar
import QueryVariants.Command.Arguments
import QueryVariants.Command.EnvFile
import QueryVariants.Command.Grid
import QueryVariants.Command.Run
import QueryVariants.Command.Session
import QueryVariants.Config
import QueryVariants.Distribution.Bundled
import QueryVariants.Distribution.Record
import QueryVariants.Distribution.Registry
import QueryVariants.Distribution.Table
import QueryVariants.Distribution.WellKnown
import QueryVariants.Error
import QueryVariants.Evaluation.Distinct
import QueryVariants.Evaluation.Evaluate
import QueryVariants.Evaluation.Guarded
import QueryVariants.Evaluation.Resolve
import QueryVariants.Evaluation.State
import QueryVariants.FileTree
import QueryVariants.Generator
import QueryVariants.JsonValue
import QueryVariants.Macro.Arguments
import QueryVariants.Macro.Expr
import QueryVariants.Macro.Outline
import QueryVariants.Macro.Parser
import QueryVariants.Macro.Printer
import QueryVariants.Main
import QueryVariants.OrderedMap
import QueryVariants.Output.Piece
import QueryVariants.Output.Sink
import QueryVariants.Path
import QueryVariants.Proofs.Batch
import QueryVariants.Proofs.Calendar
import QueryVariants.Proofs.Calendar.Order
import QueryVariants.Proofs.Calendar.WrittenForm
import QueryVariants.Proofs.Command.Effects
import QueryVariants.Proofs.Config
import QueryVariants.Proofs.Distribution.Acceptance
import QueryVariants.Proofs.Distribution.Drawing
import QueryVariants.Proofs.Distribution.Grammar
import QueryVariants.Proofs.Distribution.Offences
import QueryVariants.Proofs.Distribution.Registries
import QueryVariants.Proofs.Distribution.RoundTrip
import QueryVariants.Proofs.Distribution.Shares
import QueryVariants.Proofs.Distribution.Splitting
import QueryVariants.Proofs.Distribution.WellFormed
import QueryVariants.Proofs.Evaluation.Agreement
import QueryVariants.Proofs.Evaluation.Cache
import QueryVariants.Proofs.Evaluation.Calls
import QueryVariants.Proofs.Evaluation.Choice
import QueryVariants.Proofs.Evaluation.Constant
import QueryVariants.Proofs.Evaluation.Consults
import QueryVariants.Proofs.Evaluation.Cycles
import QueryVariants.Proofs.Evaluation.Distinct
import QueryVariants.Proofs.Evaluation.Endings
import QueryVariants.Proofs.Evaluation.Errors
import QueryVariants.Proofs.Evaluation.Evolution
import QueryVariants.Proofs.Evaluation.Failure
import QueryVariants.Proofs.Evaluation.Guarded
import QueryVariants.Proofs.Evaluation.Lookup
import QueryVariants.Proofs.Evaluation.Ranges
import QueryVariants.Proofs.Json.Output
import QueryVariants.Proofs.Json.Reader
import QueryVariants.Proofs.Json.Reading
import QueryVariants.Proofs.Macro.Joining
import QueryVariants.Proofs.Macro.Quoting
import QueryVariants.Proofs.Macro.Reading
import QueryVariants.Proofs.Macro.Refusal
import QueryVariants.Proofs.Macro.RoundTrip
import QueryVariants.Proofs.Macro.Scanning
import QueryVariants.Proofs.Macro.Sound
import QueryVariants.Proofs.Macro.Splitting
import QueryVariants.Proofs.Macro.Writable
import QueryVariants.Proofs.Macro.WrittenForm
import QueryVariants.Proofs.OrderedMap
import QueryVariants.Proofs.Output.Limited
import QueryVariants.Proofs.Random.Bounds
import QueryVariants.Proofs.Random.Range
import QueryVariants.Proofs.Random.Words
import QueryVariants.Proofs.Result
import QueryVariants.Proofs.Result.Items
import QueryVariants.Proofs.Template.Catalog
import QueryVariants.Proofs.Template.FlatText
import QueryVariants.Proofs.Template.Layers
import QueryVariants.Proofs.Template.LineKinds
import QueryVariants.Proofs.Template.OnePass
import QueryVariants.Proofs.Template.Overwriting
import QueryVariants.Proofs.Template.Parsing
import QueryVariants.Proofs.Template.Rearrangement
import QueryVariants.Proofs.Template.RowLimit
import QueryVariants.Proofs.Template.Safety
import QueryVariants.Proofs.Template.Substitution
import QueryVariants.Proofs.Template.Unused
import QueryVariants.Proofs.Template.WellMade
import QueryVariants.Proofs.Text.Cut
import QueryVariants.Proofs.Text.Lines
import QueryVariants.Proofs.Text.Numeral
import QueryVariants.Proofs.Text.Padding
import QueryVariants.Proofs.Weights
import QueryVariants.Random.ChaCha
import QueryVariants.Random.Range
import QueryVariants.Random.Stream
import QueryVariants.RowCounts
import QueryVariants.Sample
import QueryVariants.Template.Bundled
import QueryVariants.Template.Catalog
import QueryVariants.Template.Expand
import QueryVariants.Template.Line
import QueryVariants.Template.Source
import QueryVariants.Text.Alphanumeric
import QueryVariants.Text.AlphanumericTable
import QueryVariants.Text.Blank
import QueryVariants.Text.CodeRanges
import QueryVariants.Text.JsonString
import QueryVariants.Text.Latin1
import QueryVariants.Text.Lines
import QueryVariants.Text.Numeral
import QueryVariants.Text.Outline
import QueryVariants.Text.PrintableTable
import QueryVariants.Text.Quoted
import QueryVariants.Text.Search
import QueryVariants.Text.Upper
import QueryVariants.Text.UpperTable
import QueryVariants.Text.Utf8
import QueryVariants.Toml.Document
import QueryVariants.Toml.Quoted
import QueryVariants.Toml.Scalar
import QueryVariants.Toml.Value
import QueryVariants.Weights
