import SolverInput.Address.Basic
import SolverInput.Address.Escape
import SolverInput.Address.Fault
import SolverInput.Address.Host
import SolverInput.Address.Name
import SolverInput.Address.Path
import SolverInput.Address.Punycode
import SolverInput.CommandLine.Arguments
import SolverInput.CommandLine.Command
import SolverInput.CommandLine.Views
import SolverInput.Config.Basic
import SolverInput.Config.Error
import SolverInput.Config.KeyPath
import SolverInput.Config.Load
import SolverInput.Config.Value
import SolverInput.Decimal.Arithmetic
import SolverInput.Decimal.Double
import SolverInput.Decimal.Shortest
import SolverInput.Editor.ClientCapabilities
import SolverInput.Editor.Command
import SolverInput.Editor.CompletionItem
import SolverInput.Editor.Connection
import SolverInput.Editor.Dictionary
import SolverInput.Editor.Documents
import SolverInput.Editor.Incoming
import SolverInput.Editor.Method
import SolverInput.Editor.Params
import SolverInput.Editor.Parts
import SolverInput.Editor.Position
import SolverInput.Editor.Program
import SolverInput.Editor.Semantic
import SolverInput.Editor.Session
import SolverInput.Editor.Settings
import SolverInput.Editor.Wire
import SolverInput.Files.Path
import SolverInput.Files.Program
import SolverInput.Files.Tree
import SolverInput.Json.Basic
import SolverInput.Json.Parser
import SolverInput.Json.Printer
import SolverInput.Json.Shape
import SolverInput.Key.Lookup
import SolverInput.Key.Token
import SolverInput.Main
import SolverInput.Report.Basic
import SolverInput.Report.Bucket
import SolverInput.Report.Extract
import SolverInput.Report.Extraction
import SolverInput.Report.Load
import SolverInput.Report.Marker
import SolverInput.Report.Output
import SolverInput.Report.Prompt
import SolverInput.Report.Row
import SolverInput.Report.Section
import SolverInput.Text.Basic
import SolverInput.Text.Blank
import SolverInput.Text.Digit
import SolverInput.Text.Hidden
import SolverInput.Text.LetterCase
import SolverInput.Text.Lines
import SolverInput.Text.Quoted
import SolverInput.Text.Units
import SolverInput.Toml.Document
import SolverInput.Toml.Scalar
import SolverInput.Toml.Value
import SolverInput.Version
import SolverInput.Proofs.Report.Account
import SolverInput.Proofs.Report.Composition
import SolverInput.Proofs.Report.WellFormed
import SolverInput.Proofs.Key.Segment
import SolverInput.Proofs.Text.Units
import SolverInput.Proofs.Editor.SemanticTokens
import SolverInput.Proofs.Key.Lookup
import SolverInput.Proofs.Key.Line
import SolverInput.Proofs.Editor.Completion
import SolverInput.Proofs.Editor.Session
import SolverInput.Proofs.Report.Marker
import SolverInput.Proofs.Report.Extraction
import SolverInput.Proofs.Report.Row
import SolverInput.Proofs.Report.InputsTable
import SolverInput.Proofs.Report.Echo
import SolverInput.Proofs.Report.Dropped
import SolverInput.Proofs.Text.Endings
import SolverInput.Proofs.Files.Tree
import SolverInput.Proofs.Files.Program
import SolverInput.Proofs.Report.Extract
import SolverInput.Proofs.Config.Defaults
import SolverInput.Proofs.Report.Views
import SolverInput.Proofs.Report.Rendering
import SolverInput.Proofs.CommandLine.Extract
import SolverInput.Proofs.Editor.Command
import SolverInput.Proofs.Editor.TokenDelta
import SolverInput.Proofs.Files.Path
import SolverInput.Proofs.Report.Output
import SolverInput.Proofs.Config.Merge
import SolverInput.Proofs.Config.Normal
import SolverInput.Proofs.Config.KeyCase
import SolverInput.Proofs.Config.Leaf
import SolverInput.Proofs.Config.Precedence
import SolverInput.Proofs.Report.Prompts
import SolverInput.Proofs.Editor.Settings
import SolverInput.Proofs.Text.Trim
import SolverInput.Proofs.Text.Quoted
import SolverInput.Proofs.Report.MalformedRow
import SolverInput.Proofs.Report.PromptReading
import SolverInput.Proofs.Report.TokenRow
import SolverInput.Proofs.Editor.Position
import SolverInput.Proofs.Key.Normal
import SolverInput.Proofs.Report.SectionLabel
import SolverInput.Proofs.Report.Unambiguous
import SolverInput.Proofs.Files.Components
import SolverInput.Proofs.Report.RunDirectory
import SolverInput.Proofs.Report.RowReading
import SolverInput.Proofs.Files.Locality
import SolverInput.Proofs.Editor.Dictionary
