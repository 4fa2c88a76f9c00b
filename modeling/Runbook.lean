import Runbook.Backend.Basic
import Runbook.Backend.DryRun
import Runbook.Backend.Log
import Runbook.Backend.Registry
import Runbook.Bindings
import Runbook.Bindings.Indexed
import Runbook.Command.Arguments
import Runbook.Command.Program
import Runbook.Console.Basic
import Runbook.Console.Instance
import Runbook.Dict
import Runbook.Except
import Runbook.Fills
import Runbook.Fixture.Directory
import Runbook.Fixture.FileTree
import Runbook.Fixture.Frontmatter
import Runbook.Fixture.Suite
import Runbook.Fixture.Verdict
import Runbook.Json.Basic
import Runbook.Json.Read
import Runbook.Main
import Runbook.Number.Basic
import Runbook.Number.Decimal
import Runbook.Number.Layout
import Runbook.Number.Numeral
import Runbook.Number.Shortest
import Runbook.Number.Stepwise
import Runbook.Proofs.Backend.DryRun
import Runbook.Proofs.Backend.Log
import Runbook.Proofs.Backend.Registry
import Runbook.Proofs.Backend.Report
import Runbook.Proofs.Backend.Session
import Runbook.Proofs.Backend.Trace
import Runbook.Proofs.Bindings
import Runbook.Proofs.Bindings.Indexed
import Runbook.Proofs.Command.Preparation
import Runbook.Proofs.Command.Run
import Runbook.Proofs.Command.Suggestion
import Runbook.Proofs.Console.Answers
import Runbook.Proofs.Console.Instance
import Runbook.Proofs.Dict
import Runbook.Proofs.Execution.Cancellation
import Runbook.Proofs.Execution.Completion
import Runbook.Proofs.Execution.Reachable
import Runbook.Proofs.Execution.Renaming
import Runbook.Proofs.Execution.Scoping
import Runbook.Proofs.Execution.Step
import Runbook.Proofs.Execution.Substitution
import Runbook.Proofs.Execution.Walk
import Runbook.Proofs.Execution.Watched
import Runbook.Proofs.Fills
import Runbook.Proofs.Fixture.Category
import Runbook.Proofs.Fixture.Directory
import Runbook.Proofs.Fixture.Frontmatter
import Runbook.Proofs.Fixture.Verdict
import Runbook.Proofs.Json.Numeral
import Runbook.Proofs.Json.Object
import Runbook.Proofs.Json.Quoted
import Runbook.Proofs.Number.Decimal
import Runbook.Proofs.Number.Digits
import Runbook.Proofs.Number.Grammar
import Runbook.Proofs.Number.Layout
import Runbook.Proofs.Number.Nearest
import Runbook.Proofs.Number.Reading
import Runbook.Proofs.Number.Reread
import Runbook.Proofs.Number.Rounding
import Runbook.Proofs.Number.Shortest
import Runbook.Proofs.Number.Whole
import Runbook.Proofs.Run.Report
import Runbook.Proofs.Script.Canonical
import Runbook.Proofs.Script.Coverage
import Runbook.Proofs.Script.Cursor
import Runbook.Proofs.Script.Extent
import Runbook.Proofs.Script.Fault
import Runbook.Proofs.Script.Fill
import Runbook.Proofs.Script.Grammar
import Runbook.Proofs.Script.Inquiry
import Runbook.Proofs.Script.Literal
import Runbook.Proofs.Script.Locality
import Runbook.Proofs.Script.Offset
import Runbook.Proofs.Script.Parse
import Runbook.Proofs.Script.Quoted
import Runbook.Proofs.Script.RoundTrip
import Runbook.Proofs.Script.Statement
import Runbook.Proofs.Script.Surface
import Runbook.Proofs.Script.Token
import Runbook.Proofs.Script.Writable
import Runbook.Proofs.Text.Bytes
import Runbook.Proofs.Text.Casing
import Runbook.Proofs.Text.Lines
import Runbook.Proofs.Text.Margin
import Runbook.Proofs.Value.Integer
import Runbook.Proofs.Value.Json
import Runbook.Proofs.Value.Literal
import Runbook.Proofs.Value.Sources
import Runbook.Run.Error
import Runbook.Run.Execution
import Runbook.Run.Report
import Runbook.Script.Dump
import Runbook.Script.Fault
import Runbook.Script.Parse
import Runbook.Script.Quoted
import Runbook.Script.Snippet
import Runbook.Script.Statement
import Runbook.Script.Template
import Runbook.Script.Token
import Runbook.Text.CaseData
import Runbook.Text.Casing
import Runbook.Text.Class
import Runbook.Text.Escape
import Runbook.Text.Margin
import Runbook.Text.PrintData
import Runbook.Text.Utf8
import Runbook.Toml.Basic
import Runbook.Toml.Read
import Runbook.Toml.Scalar
import Runbook.Toml.Section
import Runbook.Toml.Settled
import Runbook.Value
import Runbook.Value.Json
