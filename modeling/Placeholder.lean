import Placeholder.Calendar.Date
import Placeholder.Calendar.Moment
import Placeholder.Calendar.Pattern
import Placeholder.Calendar.Reader
import Placeholder.Calendar.Writer
import Placeholder.CommandLine.Environment
import Placeholder.CommandLine.Request
import Placeholder.CommandLine.Run
import Placeholder.CommandLine.Style
import Placeholder.Config
import Placeholder.Config.Reader
import Placeholder.Engine
import Placeholder.Engine.Cache
import Placeholder.Engine.Summary
import Placeholder.Failure
import Placeholder.Json.Reader
import Placeholder.Json.Value
import Placeholder.Main
import Placeholder.Money.Currency
import Placeholder.Money.Format
import Placeholder.Money.Locale
import Placeholder.Number.Amount
import Placeholder.Number.Binary64
import Placeholder.Number.Digits
import Placeholder.Number.Printer
import Placeholder.Number.Reader
import Placeholder.Number.Rounding
import Placeholder.Processor
import Placeholder.Processor.Builtin
import Placeholder.Processor.Error
import Placeholder.Registry
import Placeholder.Replacements
import Placeholder.Table
import Placeholder.Tag
import Placeholder.Tag.Reader
import Placeholder.Template
import Placeholder.Text.Blank
import Placeholder.Text.Case
import Placeholder.Text.CaseTable
import Placeholder.Text.CasedTable
import Placeholder.Text.Cut
import Placeholder.Text.Quoted
import Placeholder.Text.Ranges
import Placeholder.Text.VisibleTable
import Placeholder.Yaml.Cursor
import Placeholder.Yaml.Document
import Placeholder.Yaml.Lexer
import Placeholder.Yaml.Node
import Placeholder.Yaml.Scalar
import Placeholder.Yaml.Schema
import Placeholder.Yaml.Tag
import Placeholder.Yaml.Token
import Placeholder.Proofs.Tag.Grammar
import Placeholder.Proofs.Tag.Readings
import Placeholder.Proofs.Template.Scan
import Placeholder.Proofs.Engine.Cache
import Placeholder.Proofs.Template.Filling
import Placeholder.Proofs.Engine.Resolution
import Placeholder.Proofs.Engine.Rendering
import Placeholder.Proofs.Engine.Stateless
import Placeholder.Proofs.Engine.Capacity
import Placeholder.Proofs.Engine.Slices
import Placeholder.Proofs.Tag.Arguments
import Placeholder.Proofs.Tag.Printer
import Placeholder.Proofs.Template.Printer
import Placeholder.Proofs.Calendar.Pattern
import Placeholder.Proofs.CommandLine.Failures
import Placeholder.Proofs.Engine.Invocations
import Placeholder.Proofs.Engine.Agreement
import Placeholder.Proofs.Engine.Batch
import Placeholder.Proofs.Registry
import Placeholder.Proofs.Calendar.Date
import Placeholder.Proofs.Number.Digits
import Placeholder.Proofs.Calendar.Moment
import Placeholder.Proofs.Calendar.Reader
import Placeholder.Proofs.Calendar.Layout
import Placeholder.Proofs.Calendar.RoundTrip
import Placeholder.Proofs.Calendar.Apart
import Placeholder.Proofs.Calendar.Form
import Placeholder.Proofs.Calendar.Seconds
import Placeholder.Proofs.Money.Format
import Placeholder.Proofs.Number.Binary64
import Placeholder.Proofs.Number.Reader
import Placeholder.Proofs.Number.Rounding
import Placeholder.Proofs.Money.Exact
import Placeholder.Proofs.Number.Ties
import Placeholder.Proofs.Template.Ending
import Placeholder.Proofs.Template.Suffixes
import Placeholder.Proofs.Number.Range
import Placeholder.Proofs.Processor.Defaults
import Placeholder.Proofs.Text.Letters
import Placeholder.Proofs.Money.Locale
import Placeholder.Proofs.CommandLine.Values
import Placeholder.Proofs.CommandLine.Templates
