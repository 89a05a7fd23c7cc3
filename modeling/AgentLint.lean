import AgentLint.Assoc
import AgentLint.Cache.Basic
import AgentLint.Cache.Index
import AgentLint.Cli.Arguments
import AgentLint.Cli.Command
import AgentLint.Cli.Run
import AgentLint.Cli.Table
import AgentLint.Conduct
import AgentLint.Config.Basic
import AgentLint.Config.Fault
import AgentLint.Config.Load
import AgentLint.Config.Validate
import AgentLint.Decimal.Binary64
import AgentLint.Decimal.Integer
import AgentLint.Decimal.Layout
import AgentLint.Decimal.Reader
import AgentLint.Decimal.Shortest
import AgentLint.Diagnostic
import AgentLint.Family.Basic
import AgentLint.Family.Collect
import AgentLint.Family.Lint
import AgentLint.Fault
import AgentLint.FileTree.Basic
import AgentLint.FileTree.Change
import AgentLint.FileTree.Text
import AgentLint.Finding
import AgentLint.Glob
import AgentLint.Json.Reader
import AgentLint.Json.Writer
import AgentLint.Main
import AgentLint.Markdown.Frontmatter
import AgentLint.Markdown.Import
import AgentLint.Markdown.Line
import AgentLint.Order
import AgentLint.Path
import AgentLint.Printout
import AgentLint.Proofs.Assoc
import AgentLint.Proofs.Cache.Additions
import AgentLint.Proofs.Cache.CallParts
import AgentLint.Proofs.Cache.Calls
import AgentLint.Proofs.Cache.Consistency
import AgentLint.Proofs.Cache.Contents
import AgentLint.Proofs.Cache.Damage
import AgentLint.Proofs.Cache.Directory
import AgentLint.Proofs.Cache.Distinguishing
import AgentLint.Proofs.Cache.Failures
import AgentLint.Proofs.Cache.Fingerprint
import AgentLint.Proofs.Cache.History
import AgentLint.Proofs.Cache.Independence
import AgentLint.Proofs.Cache.Interleaving
import AgentLint.Proofs.Cache.Ledger
import AgentLint.Proofs.Cache.Material
import AgentLint.Proofs.Cache.Orphans
import AgentLint.Proofs.Cache.Outside
import AgentLint.Proofs.Cache.Retention
import AgentLint.Proofs.Cache.Stored
import AgentLint.Proofs.Cache.Tracked
import AgentLint.Proofs.Cache.Transparency
import AgentLint.Proofs.Cli.Exit
import AgentLint.Proofs.Config.Extending
import AgentLint.Proofs.Config.Failures
import AgentLint.Proofs.Config.Flattening
import AgentLint.Proofs.Config.RoundTrip
import AgentLint.Proofs.Config.Termination
import AgentLint.Proofs.Decimal
import AgentLint.Proofs.Family.Abandoned
import AgentLint.Proofs.Family.Failures
import AgentLint.Proofs.Family.FileSize
import AgentLint.Proofs.Family.Independence
import AgentLint.Proofs.Family.Locality
import AgentLint.Proofs.Family.Selection
import AgentLint.Proofs.Family.SideBySide
import AgentLint.Proofs.FileTree.Answers
import AgentLint.Proofs.FileTree.Directories
import AgentLint.Proofs.FileTree.Effect
import AgentLint.Proofs.FileTree.Landing
import AgentLint.Proofs.FileTree.Linkless
import AgentLint.Proofs.FileTree.Reading
import AgentLint.Proofs.FileTree.Refilling
import AgentLint.Proofs.FileTree.ShortForm
import AgentLint.Proofs.FileTree.Thinning
import AgentLint.Proofs.FileTree.Walking
import AgentLint.Proofs.Glob
import AgentLint.Proofs.Glob.Classes
import AgentLint.Proofs.Glob.Pieces
import AgentLint.Proofs.Glob.Segments
import AgentLint.Proofs.Glob.Slashes
import AgentLint.Proofs.Json.Document
import AgentLint.Proofs.Json.Halves
import AgentLint.Proofs.Json.Number
import AgentLint.Proofs.Json.OneLine
import AgentLint.Proofs.Json.Quote
import AgentLint.Proofs.Json.Reading
import AgentLint.Proofs.Json.Written
import AgentLint.Proofs.Markdown.Blocks
import AgentLint.Proofs.Markdown.Header
import AgentLint.Proofs.Markdown.Numbering
import AgentLint.Proofs.Markdown.Reading
import AgentLint.Proofs.Order
import AgentLint.Proofs.Path
import AgentLint.Proofs.Printout
import AgentLint.Proofs.Regex.Matching
import AgentLint.Proofs.Regex.Reading
import AgentLint.Proofs.Resolver.Alike
import AgentLint.Proofs.Resolver.Complaints
import AgentLint.Proofs.Resolver.Layering
import AgentLint.Proofs.Resolver.Memory
import AgentLint.Proofs.Rule.Ending
import AgentLint.Proofs.Rule.Imports
import AgentLint.Proofs.Rule.Instructions
import AgentLint.Proofs.Rule.Lines
import AgentLint.Proofs.Rule.Names
import AgentLint.Proofs.Rule.Options
import AgentLint.Proofs.Rule.Parts
import AgentLint.Proofs.Rule.Records
import AgentLint.Proofs.Rule.Registration
import AgentLint.Proofs.Rule.Size
import AgentLint.Proofs.Runner.Accounting
import AgentLint.Proofs.Runner.Conservation
import AgentLint.Proofs.Runner.Deprecations
import AgentLint.Proofs.Runner.OffRules
import AgentLint.Proofs.Runner.Reported
import AgentLint.Proofs.Runner.Sharing
import AgentLint.Proofs.Sequencing
import AgentLint.Proofs.Suppression.Grammar
import AgentLint.Proofs.Suppression.Openings
import AgentLint.Proofs.Suppression.Reading
import AgentLint.Proofs.Suppression.Removal
import AgentLint.Proofs.Suppression.Usage
import AgentLint.Proofs.Text.Lines
import AgentLint.Proofs.Text.Naming
import AgentLint.Proofs.Text.Utf8
import AgentLint.Proofs.Value
import AgentLint.Proofs.Views
import AgentLint.Regex.Match
import AgentLint.Regex.Pattern
import AgentLint.Regex.Reader
import AgentLint.Resolver
import AgentLint.Rule.Basic
import AgentLint.Rule.Builtin
import AgentLint.Rule.Builtin.Definitions
import AgentLint.Rule.Builtin.Instructions
import AgentLint.Rule.Builtin.Records
import AgentLint.Rule.Field
import AgentLint.Rule.Option
import AgentLint.Rule.Registry
import AgentLint.Runner
import AgentLint.Severity
import AgentLint.Sha256
import AgentLint.Suppression.Directive
import AgentLint.Suppression.Tracker
import AgentLint.Text.Blank
import AgentLint.Text.Case
import AgentLint.Text.CharacterName
import AgentLint.Text.CharacterName.Letters
import AgentLint.Text.CharacterName.Others
import AgentLint.Text.CharacterName.Pictures
import AgentLint.Text.CharacterName.Row
import AgentLint.Text.CharacterName.Symbols
import AgentLint.Text.Elide
import AgentLint.Text.Expansion
import AgentLint.Text.Identifier
import AgentLint.Text.Lower
import AgentLint.Text.Naming
import AgentLint.Text.Printable
import AgentLint.Text.Quoted
import AgentLint.Text.Range
import AgentLint.Text.Similar
import AgentLint.Text.Surrogate
import AgentLint.Text.Utf8
import AgentLint.Text.Word
import AgentLint.Value.Basic
import AgentLint.Value.Calendar
import AgentLint.Value.Shape
import AgentLint.Views
import AgentLint.Yaml.Cursor
import AgentLint.Yaml.Graph
import AgentLint.Yaml.Lexeme
import AgentLint.Yaml.Load
import AgentLint.Yaml.Scalar
import AgentLint.Yaml.Tag
import AgentLint.Yaml.Token
