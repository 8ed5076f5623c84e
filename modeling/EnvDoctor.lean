import EnvDoctor.Checker.Basic
import EnvDoctor.Checker.Builtin
import EnvDoctor.Checker.Check
import EnvDoctor.Checker.Pool
import EnvDoctor.Checker.Registry
import EnvDoctor.Checker.Result
import EnvDoctor.Checker.Session
import EnvDoctor.CommandLine.Invocation
import EnvDoctor.CommandLine.Options
import EnvDoctor.CommandLine.Run
import EnvDoctor.Config.Basic
import EnvDoctor.Config.Loader
import EnvDoctor.Config.Location
import EnvDoctor.Config.Sample
import EnvDoctor.Config.Validation
import EnvDoctor.Console.Markup
import EnvDoctor.Console.Message
import EnvDoctor.Console.Table
import EnvDoctor.Decimal.Reader
import EnvDoctor.Decimal.Shortest
import EnvDoctor.Decimal.Style
import EnvDoctor.Docker
import EnvDoctor.Extraction
import EnvDoctor.Files.Path
import EnvDoctor.Files.Store
import EnvDoctor.Files.Workspace
import EnvDoctor.Host.Basic
import EnvDoctor.Host.Usual
import EnvDoctor.Json.Fault
import EnvDoctor.Json.Printer
import EnvDoctor.Json.Reader
import EnvDoctor.Main
import EnvDoctor.Named
import EnvDoctor.Numeral
import EnvDoctor.Numeral.Whole
import EnvDoctor.Operator
import EnvDoctor.Pattern.Basic
import EnvDoctor.Pattern.Escape
import EnvDoctor.Pattern.Fault
import EnvDoctor.Pattern.Matcher
import EnvDoctor.Pattern.Parser
import EnvDoctor.Pattern.Token
import EnvDoctor.Process
import EnvDoctor.Range.Basic
import EnvDoctor.Range.Parser
import EnvDoctor.Requirement.Basic
import EnvDoctor.Requirement.Parser
import EnvDoctor.Requirement.Verdict
import EnvDoctor.Routine
import EnvDoctor.Script.Fault
import EnvDoctor.Script.Literal
import EnvDoctor.Script.Reader
import EnvDoctor.Snapshot
import EnvDoctor.Text.Ascii
import EnvDoctor.Text.Base64
import EnvDoctor.Text.Blank
import EnvDoctor.Text.CaseFold
import EnvDoctor.Text.CharacterName
import EnvDoctor.Text.Digit
import EnvDoctor.Text.Identifier
import EnvDoctor.Text.Lines
import EnvDoctor.Text.LowerCase
import EnvDoctor.Text.Names
import EnvDoctor.Text.Pieces
import EnvDoctor.Text.Printable
import EnvDoctor.Text.Quoted
import EnvDoctor.Text.Surrogate
import EnvDoctor.Text.Utf8
import EnvDoctor.Text.Word
import EnvDoctor.Toml.Fault
import EnvDoctor.Toml.Reader
import EnvDoctor.Toml.Scalar
import EnvDoctor.Toml.Tree
import EnvDoctor.Toml.Writer
import EnvDoctor.Value.Basic
import EnvDoctor.Value.Calendar
import EnvDoctor.Value.Listing
import EnvDoctor.Value.Written
import EnvDoctor.Version.Basic
import EnvDoctor.Version.Grammar
import EnvDoctor.Version.Library
import EnvDoctor.Version.Parser
import EnvDoctor.Version.Precedence
import EnvDoctor.Version.Strict
import EnvDoctor.Yaml.Content
import EnvDoctor.Yaml.Cursor
import EnvDoctor.Yaml.Datum
import EnvDoctor.Yaml.Fault
import EnvDoctor.Yaml.Layout
import EnvDoctor.Yaml.Node
import EnvDoctor.Yaml.Property
import EnvDoctor.Yaml.Reader
import EnvDoctor.Yaml.Scalar
import EnvDoctor.Yaml.Schema
import EnvDoctor.Yaml.Token
import EnvDoctor.Proofs.Checker.Agreement
import EnvDoctor.Proofs.Checker.Ending
import EnvDoctor.Proofs.Checker.Extraction
import EnvDoctor.Proofs.Checker.Found
import EnvDoctor.Proofs.Checker.Ready
import EnvDoctor.Proofs.Checker.Schedule
import EnvDoctor.Proofs.Checker.Session
import EnvDoctor.Proofs.Checker.Shape
import EnvDoctor.Proofs.Checker.Triple
import EnvDoctor.Proofs.CommandLine.Init
import EnvDoctor.Proofs.CommandLine.Reload
import EnvDoctor.Proofs.CommandLine.Verbose
import EnvDoctor.Proofs.CommandLine.Verify
import EnvDoctor.Proofs.Config.Accepted
import EnvDoctor.Proofs.Config.Discovery
import EnvDoctor.Proofs.Config.Escapes
import EnvDoctor.Proofs.Config.Padding
import EnvDoctor.Proofs.Config.Probing
import EnvDoctor.Proofs.Config.Requirements
import EnvDoctor.Proofs.Config.Sample
import EnvDoctor.Proofs.Config.SampleText
import EnvDoctor.Proofs.Config.Unwritable
import EnvDoctor.Proofs.Config.Validity
import EnvDoctor.Proofs.Docker
import EnvDoctor.Proofs.Files.Absolute
import EnvDoctor.Proofs.Files.Making
import EnvDoctor.Proofs.Files.Normal
import EnvDoctor.Proofs.Files.Parent
import EnvDoctor.Proofs.Files.Rereading
import EnvDoctor.Proofs.Files.Saving
import EnvDoctor.Proofs.Files.Way
import EnvDoctor.Proofs.Host
import EnvDoctor.Proofs.Json.Continuation
import EnvDoctor.Proofs.Json.Kinds
import EnvDoctor.Proofs.Json.Padding
import EnvDoctor.Proofs.Numeral.Canonical
import EnvDoctor.Proofs.Outcome
import EnvDoctor.Proofs.Pattern.Run
import EnvDoctor.Proofs.Pattern.Search
import EnvDoctor.Proofs.Range.Bounds
import EnvDoctor.Proofs.Range.Composition
import EnvDoctor.Proofs.Range.Expanded
import EnvDoctor.Proofs.Range.Incomplete
import EnvDoctor.Proofs.Range.Interval
import EnvDoctor.Proofs.Range.Layout
import EnvDoctor.Proofs.Range.Meaning
import EnvDoctor.Proofs.Range.Tested
import EnvDoctor.Proofs.Range.Written
import EnvDoctor.Proofs.Requirement.Conjunction
import EnvDoctor.Proofs.Requirement.Fragment
import EnvDoctor.Proofs.Requirement.Grammar
import EnvDoctor.Proofs.Requirement.Printing
import EnvDoctor.Proofs.Requirement.Replay
import EnvDoctor.Proofs.Requirement.Split
import EnvDoctor.Proofs.Text.Pieces
import EnvDoctor.Proofs.Version.Canonical
import EnvDoctor.Proofs.Version.Library
import EnvDoctor.Proofs.Version.Rank
import EnvDoctor.Proofs.Version.Strict
import EnvDoctor.Proofs.Version.Written
