import TemplateLint.Batch
import TemplateLint.Category
import TemplateLint.CommandLine.Arguments
import TemplateLint.CommandLine.Command
import TemplateLint.CommandLine.Run
import TemplateLint.CommandLine.Usage
import TemplateLint.Diagnostic
import TemplateLint.Dialect
import TemplateLint.Discovery
import TemplateLint.FileTree
import TemplateLint.FileTree.Glob
import TemplateLint.Grammar.Expression
import TemplateLint.Grammar.Extension
import TemplateLint.Grammar.Fault
import TemplateLint.Grammar.Statement
import TemplateLint.Grammar.Stream
import TemplateLint.Grammar.Terminal
import TemplateLint.Ignore
import TemplateLint.Json.Basic
import TemplateLint.Json.Parser
import TemplateLint.Json.Printer
import TemplateLint.Lexeme.Basic
import TemplateLint.Lexeme.Lexer
import TemplateLint.Lexeme.Scan
import TemplateLint.Lint
import TemplateLint.Linter
import TemplateLint.Log
import TemplateLint.Main
import TemplateLint.Node.Basic
import TemplateLint.Node.Kind
import TemplateLint.Node.Label
import TemplateLint.Number.Double
import TemplateLint.Output.Color
import TemplateLint.Output.Console
import TemplateLint.Output.Json
import TemplateLint.Output.Literal
import TemplateLint.Output.Markup
import TemplateLint.Output.Sarif
import TemplateLint.Output.Style
import TemplateLint.Output.Text
import TemplateLint.Path
import TemplateLint.Proofs.Batch.Bookkeeping
import TemplateLint.Proofs.Batch.ExitCode
import TemplateLint.Proofs.Batch.Survival
import TemplateLint.Proofs.Batch.Verdict
import TemplateLint.Proofs.Block.Count
import TemplateLint.Proofs.Block.Edges
import TemplateLint.Proofs.Block.Stack
import TemplateLint.Proofs.Complete.Expression
import TemplateLint.Proofs.Complete.Statement
import TemplateLint.Proofs.Complete.Tree
import TemplateLint.Proofs.Discovery.Ignore
import TemplateLint.Proofs.Discovery.Refusal
import TemplateLint.Proofs.Discovery.Templates
import TemplateLint.Proofs.FileTree.Find
import TemplateLint.Proofs.FileTree.Listing
import TemplateLint.Proofs.Grammar.Balance
import TemplateLint.Proofs.Grammar.Expression
import TemplateLint.Proofs.Grammar.Filters
import TemplateLint.Proofs.Grammar.Heads
import TemplateLint.Proofs.Grammar.Inside
import TemplateLint.Proofs.Grammar.Statement
import TemplateLint.Proofs.Grammar.Template
import TemplateLint.Proofs.Grammar.Woven
import TemplateLint.Proofs.Ignore.Pattern
import TemplateLint.Proofs.Ignore.Upward
import TemplateLint.Proofs.Json.Literal
import TemplateLint.Proofs.Json.Printable
import TemplateLint.Proofs.Json.RoundTrip
import TemplateLint.Proofs.Lexeme.Coverage
import TemplateLint.Proofs.Lexeme.Evaluation
import TemplateLint.Proofs.Lexeme.Step
import TemplateLint.Proofs.Lexeme.Tags
import TemplateLint.Proofs.Linter.Agreement
import TemplateLint.Proofs.Linter.Blocks
import TemplateLint.Proofs.Linter.Configuration
import TemplateLint.Proofs.Linter.Independence
import TemplateLint.Proofs.Linter.Leftovers
import TemplateLint.Proofs.Linter.Passes
import TemplateLint.Proofs.Linter.Portions
import TemplateLint.Proofs.Linter.Raising
import TemplateLint.Proofs.Linter.Resolution
import TemplateLint.Proofs.Linter.Transparency
import TemplateLint.Proofs.Node.Dump
import TemplateLint.Proofs.Node.Occurrence
import TemplateLint.Proofs.Node.Position
import TemplateLint.Proofs.Output.Console
import TemplateLint.Proofs.Output.Failures
import TemplateLint.Proofs.Output.Findings
import TemplateLint.Proofs.Output.Json
import TemplateLint.Proofs.Output.Markup
import TemplateLint.Proofs.Output.Sarif
import TemplateLint.Proofs.Path.Order
import TemplateLint.Proofs.Path.Text
import TemplateLint.Proofs.Progress.Expression
import TemplateLint.Proofs.Progress.Phrase
import TemplateLint.Proofs.Progress.Statement
import TemplateLint.Proofs.Progress.Template
import TemplateLint.Proofs.Rule.Key
import TemplateLint.Proofs.Rule.Separation
import TemplateLint.Proofs.Rule.Table
import TemplateLint.Proofs.Session.History
import TemplateLint.Proofs.Session.Recording
import TemplateLint.Proofs.SourceIndex.Fidelity
import TemplateLint.Proofs.SourceIndex.Lines
import TemplateLint.Proofs.SourceIndex.Pieces
import TemplateLint.Proofs.SourceIndex.Regrouping
import TemplateLint.Proofs.Splice.Region
import TemplateLint.Proofs.Splice.Statement
import TemplateLint.Proofs.Splice.Walk
import TemplateLint.Proofs.Text.Decimal
import TemplateLint.Proofs.Text.Glob
import TemplateLint.Proofs.Walk.Calls
import TemplateLint.Proofs.Walk.Dispatch
import TemplateLint.Proofs.Walk.Document
import TemplateLint.Proofs.Walk.Effects
import TemplateLint.Proofs.Walk.Failing
import TemplateLint.Proofs.Walk.Returning
import TemplateLint.Proofs.Walk.Trace
import TemplateLint.Proofs.Walk.Traversal
import TemplateLint.Results
import TemplateLint.Rule.Basic
import TemplateLint.Rule.Failure
import TemplateLint.Rule.Key
import TemplateLint.Rule.Loading
import TemplateLint.Rule.Spec
import TemplateLint.Rule.Table
import TemplateLint.Session
import TemplateLint.Settings
import TemplateLint.SourceIndex
import TemplateLint.Text.Blank
import TemplateLint.Text.Case
import TemplateLint.Text.CharName
import TemplateLint.Text.CharName.Table
import TemplateLint.Text.Columns
import TemplateLint.Text.Decimal
import TemplateLint.Text.Emoji
import TemplateLint.Text.Escape
import TemplateLint.Text.Glob
import TemplateLint.Text.Lines
import TemplateLint.Text.Quoted
import TemplateLint.Text.Replace
import TemplateLint.Text.Similar
import TemplateLint.Text.Split
import TemplateLint.Text.Utf16
import TemplateLint.Text.Utf8
import TemplateLint.Text.Word
import TemplateLint.Token
import TemplateLint.Validation
import TemplateLint.Walk
