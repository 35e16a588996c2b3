import RecordFilter.CommandLine.Arguments
import RecordFilter.CommandLine.Command
import RecordFilter.CommandLine.Completions
import RecordFilter.CommandLine.Failure
import RecordFilter.CommandLine.Run
import RecordFilter.Disk
import RecordFilter.Expr.Compiled
import RecordFilter.Expr.Condition
import RecordFilter.Expr.Error
import RecordFilter.Expr.Operator
import RecordFilter.Expr.Reader
import RecordFilter.Expr.Tree
import RecordFilter.Expr.Value
import RecordFilter.Expr.ValueKind
import RecordFilter.Json.Number
import RecordFilter.Json.Reader
import RecordFilter.Json.Value
import RecordFilter.Json.Writer
import RecordFilter.Main
import RecordFilter.Number.Binary64
import RecordFilter.Number.Numeral
import RecordFilter.Number.Power
import RecordFilter.Number.Shortest
import RecordFilter.Outside
import RecordFilter.Pattern
import RecordFilter.Pattern.Compile
import RecordFilter.Pattern.Error
import RecordFilter.Pattern.Meaning
import RecordFilter.Pattern.Reader
import RecordFilter.Pattern.Size
import RecordFilter.Pattern.Term
import RecordFilter.Record.FieldType
import RecordFilter.Record.Input
import RecordFilter.Record.Rules
import RecordFilter.Record.Schema
import RecordFilter.Report.Expression
import RecordFilter.Report.Records
import RecordFilter.Report.Settings
import RecordFilter.Report.Style
import RecordFilter.Report.Tokens
import RecordFilter.Settings.Basic
import RecordFilter.Settings.Document
import RecordFilter.Settings.Location
import RecordFilter.Text.Blank
import RecordFilter.Text.Case
import RecordFilter.Text.CaseFold
import RecordFilter.Text.CategoryTable
import RecordFilter.Text.CharSet
import RecordFilter.Text.CodeRange
import RecordFilter.Text.EditDistance
import RecordFilter.Text.Hex
import RecordFilter.Text.Keyed
import RecordFilter.Text.Lines
import RecordFilter.Text.Lowercase
import RecordFilter.Text.Order
import RecordFilter.Text.Property
import RecordFilter.Text.PropertyTable
import RecordFilter.Text.Quoted
import RecordFilter.Text.ScriptTable
import RecordFilter.Token
import RecordFilter.Token.Cursor
import RecordFilter.Token.Lexeme
import RecordFilter.Token.Scan
import RecordFilter.Toml.Document
import RecordFilter.Toml.Reader
import RecordFilter.Toml.Scalar
import RecordFilter.Toml.Value
import RecordFilter.Toml.Writer
import RecordFilter.Proofs.Token.Lexeme
import RecordFilter.Proofs.Token.Scan
import RecordFilter.Proofs.Token.OpenString
import RecordFilter.Proofs.Token.Place
import RecordFilter.Proofs.Expr.Grammar
import RecordFilter.Proofs.Expr.Reader
import RecordFilter.Proofs.Expr.Acceptance
import RecordFilter.Proofs.Expr.Refusal
import RecordFilter.Proofs.Expr.RoundTrip
import RecordFilter.Proofs.Expr.Shape
import RecordFilter.Proofs.Expr.Compilation
import RecordFilter.Proofs.Expr.Evaluation
import RecordFilter.Proofs.Expr.Composition
import RecordFilter.Proofs.Record.Duality
import RecordFilter.Proofs.Text.Keyed
import RecordFilter.Proofs.Toml.Written
import RecordFilter.Proofs.Toml.Document
import RecordFilter.Proofs.Execution
import RecordFilter.Proofs.Toml.Order
import RecordFilter.Proofs.Settings.Document
import RecordFilter.Proofs.Settings.Change
import RecordFilter.Proofs.Disk
import RecordFilter.Proofs.Settings.Location
import RecordFilter.Proofs.Settings.Runs
import RecordFilter.Proofs.Settings.Commands
import RecordFilter.Proofs.Expr.Visit
import RecordFilter.Proofs.Record.Influence
import RecordFilter.Proofs.Text.Quoted
import RecordFilter.Proofs.Record.StringLiteral
import RecordFilter.Proofs.Number.Shortest
import RecordFilter.Proofs.Json.Number
import RecordFilter.Proofs.Json.RoundTrip
import RecordFilter.Proofs.Record.Input
import RecordFilter.Proofs.CommandLine.Effects
import RecordFilter.Proofs.CommandLine.Filter
import RecordFilter.Proofs.CommandLine.Failures
import RecordFilter.Proofs.CommandLine.Colors
import RecordFilter.Proofs.Report.Plain
import RecordFilter.Proofs.Record.Objections
import RecordFilter.Proofs.Record.Restriction
import RecordFilter.Proofs.Text.EditDistance
import RecordFilter.Proofs.Text.Order
import RecordFilter.Proofs.Record.Suggestion
import RecordFilter.Proofs.Expr.Layout
import RecordFilter.Proofs.CommandLine.Layout
import RecordFilter.Proofs.Number.Rounding
import RecordFilter.Proofs.Number.Value
import RecordFilter.Proofs.Number.Numeral
import RecordFilter.Proofs.Expr.NumberLiteral
import RecordFilter.Proofs.Record.Comparison
import RecordFilter.Proofs.Expr.Equality
import RecordFilter.Proofs.Text.Lines
import RecordFilter.Proofs.Record.Layout
import RecordFilter.Proofs.Json.Pretty
import RecordFilter.Proofs.CommandLine.Outcome
import RecordFilter.Proofs.CommandLine.Selection
import RecordFilter.Proofs.Report.Decoration
import RecordFilter.Proofs.CommandLine.Decoration
import RecordFilter.Proofs.Report.Outline
import RecordFilter.Proofs.CommandLine.Structure
import RecordFilter.Proofs.CommandLine.Arguments
import RecordFilter.Proofs.Record.Declarations
import RecordFilter.Proofs.CommandLine.Sources
import RecordFilter.Proofs.Expr.Chain
import RecordFilter.Proofs.Expr.History
import RecordFilter.Proofs.CommandLine.QuietArguments
import RecordFilter.Proofs.CommandLine.Quiet
