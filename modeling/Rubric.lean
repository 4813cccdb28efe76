import Rubric.Document.Text
import Rubric.RuleFile.Basic
import Rubric.Edit
import Rubric.Unicode.Age
import Rubric.Unicode.Boundary
import Rubric.Unicode.Script
import Rubric.Decimal.Binary
import Rubric.Decimal.Shortest
import Rubric.Toml.Basic
import Rubric.Toml.Draft
import Rubric.Toml.Moment
import Rubric.Toml.Number
import Rubric.Toml.Quoted
import Rubric.Toml.Reader
import Rubric.Settings.Basic
import Rubric.Settings.Environment
import Rubric.Settings.Resolve
import Rubric.Settings.Template
import Rubric.Bytes
import Rubric.Encoding.Basic
import Rubric.Encoding.Label
import Rubric.CommandLine.Options
import Rubric.CommandLine.Program
import Rubric.Main
import Rubric.Proofs.Edit.Ledger
import Rubric.Proofs.Edit.Winners
import Rubric.Proofs.Edit.Ties
import Rubric.Proofs.Edit.Frame
import Rubric.Proofs.Edit.Audit
import Rubric.Proofs.Document.Layout
import Rubric.Proofs.Document.Reprint
import Rubric.Proofs.Document.Pieces
import Rubric.Proofs.Document.Line
import Rubric.Proofs.Document.History
import Rubric.Proofs.Edit.Reread
import Rubric.Proofs.Edit.Rerun
import Rubric.Proofs.Edit.Failure
import Rubric.Proofs.Edit.Dominance
import Rubric.Proofs.Edit.Isolation
import Rubric.Proofs.Edit.Listing
import Rubric.Proofs.Edit.Composition
import Rubric.Proofs.Edit.ByteOrderMark
import Rubric.Proofs.Edit.Trace
import Rubric.Proofs.Edit.Repetition
import Rubric.Proofs.Rule.Loosening
import Rubric.Proofs.Rule.Word
import Rubric.Proofs.File.Tree
import Rubric.Proofs.Run.Agreement
import Rubric.Proofs.Run.Delivery
import Rubric.Proofs.Run.Handling
import Rubric.Proofs.Run.Showing
import Rubric.Proofs.Run.Splitting
import Rubric.Proofs.Run.Stages
import Rubric.Proofs.Text.Fields
import Rubric.Proofs.Text.Numeral
import Rubric.Proofs.Text.Decomposition
import Rubric.Proofs.Toml.Names
import Rubric.Proofs.Toml.Overlay
import Rubric.Proofs.Toml.Spelling
import Rubric.Proofs.Toml.Path
import Rubric.Proofs.Toml.Rows
import Rubric.Proofs.Toml.Places
import Rubric.Proofs.Document.Grammar
import Rubric.Proofs.Json.Number
import Rubric.Proofs.Json.Reading
import Rubric.Proofs.Json.Printing
import Rubric.Proofs.Json.Log
import Rubric.Proofs.RuleFile.Alike
import Rubric.Proofs.RuleFile.Conditions
import Rubric.Proofs.RuleFile.Loading
import Rubric.Proofs.RuleFile.Priority
import Rubric.Proofs.RuleFile.Scalars
import Rubric.Proofs.Encoding.Label
import Rubric.Proofs.Encoding.Unicode
import Rubric.Proofs.Settings.Variables
import Rubric.Proofs.Settings.Layers
import Rubric.Proofs.Settings.Sources
import Rubric.Proofs.Settings.Loading
import Rubric.Proofs.Settings.Precedence
import Rubric.Proofs.Settings.Override
import Rubric.Proofs.Settings.Order
import Rubric.Proofs.Settings.Scan
import Rubric.Proofs.Settings.Unknown
import Rubric.Proofs.Settings.KeyLine
