import CodeSmell.CommandLine.Run
import CodeSmell.Datum.Entries
import CodeSmell.Grammar.Program
import CodeSmell.Main
import CodeSmell.Proofs.Analysis.Refusal
import CodeSmell.Report.Schema
import CodeSmell.Service.Respond
import CodeSmell.Proofs.Walk.Isolation
import CodeSmell.Proofs.Catalogue.Detections
import CodeSmell.Proofs.Report.Conformance
import CodeSmell.Proofs.Analysis.Conformance
import CodeSmell.Proofs.Text.Encoding
import CodeSmell.Proofs.Number.Integer
import CodeSmell.Proofs.Json.Token
import CodeSmell.Proofs.Json.Sorted
import CodeSmell.Proofs.Json.Written
import CodeSmell.Proofs.Json.RoundTrip
import CodeSmell.Proofs.Schema.Order
import CodeSmell.Proofs.Report.RoundTrip
import CodeSmell.Proofs.Tree.Layout
import CodeSmell.Proofs.Analysis.Lines
import CodeSmell.Proofs.Service.Agreement
import CodeSmell.Proofs.Tree.Annotation
import CodeSmell.Proofs.Walk.Annotation
import CodeSmell.Proofs.Walk.Statement
import CodeSmell.Proofs.Number.Equality
import CodeSmell.Proofs.Walk.Limits
import CodeSmell.Proofs.CommandLine.Saving
import CodeSmell.Proofs.Number.Grid
import CodeSmell.Proofs.Number.Nearest
import CodeSmell.Proofs.Number.Ratio
import CodeSmell.Proofs.Number.Rounding
import CodeSmell.Proofs.Number.Decimal
import CodeSmell.Proofs.Number.Literal
import CodeSmell.Proofs.Number.LiteralReading
import CodeSmell.Proofs.Catalogue.MagicNumber
import CodeSmell.Proofs.Number.ReadBack
import CodeSmell.Proofs.CommandLine.Input
import CodeSmell.Proofs.Number.Canonical
import CodeSmell.Proofs.Walk.Nesting
import CodeSmell.Proofs.Report.Table
import CodeSmell.Proofs.Datum.Canonical
import CodeSmell.Proofs.Report.Description
import CodeSmell.Proofs.Analysis.Description
import CodeSmell.Proofs.Service.Suffixes
import CodeSmell.Proofs.Tree.Spelling
import CodeSmell.Proofs.Number.Comparison
import CodeSmell.Proofs.Schema.Keyword
import CodeSmell.Proofs.Schema.Broken
import CodeSmell.Proofs.Report.Contract
import CodeSmell.Proofs.Json.Quotes
import CodeSmell.Proofs.Datum.Member
import CodeSmell.Proofs.Service.Failure
