import ConfigWiring.Text.RangeTable
import ConfigWiring.Text.Blank
import ConfigWiring.Text.Alphanumeric
import ConfigWiring.Text.Identifier
import ConfigWiring.Text.Printable
import ConfigWiring.Text.Quoted
import ConfigWiring.Text.CaseContext
import ConfigWiring.Text.CaseMap
import ConfigWiring.Text.Grapheme
import ConfigWiring.Text.WordCharacter
import ConfigWiring.Text.Split
import ConfigWiring.Text.Pattern
import ConfigWiring.Text.PatternReading
import ConfigWiring.Decimal.Basic
import ConfigWiring.Decimal.Reading
import ConfigWiring.Tag.Params
import ConfigWiring.Tag.Marker
import ConfigWiring.Path
import ConfigWiring.Go.Declaration
import ConfigWiring.Go.Module
import ConfigWiring.Go.Number
import ConfigWiring.Go.Grammar
import ConfigWiring.Go.Language
import ConfigWiring.Go.Doc
import ConfigWiring.Go.Recovery.Terminal
import ConfigWiring.Go.Recovery.Phrase
import ConfigWiring.Go.Recovery.Definition
import ConfigWiring.Go.Recovery.Production
import ConfigWiring.Go.Recovery.Automaton
import ConfigWiring.Go.Recovery.Scanner
import ConfigWiring.Go.Recovery.Growth
import ConfigWiring.Go.Recovery.Stack
import ConfigWiring.Go.Recovery.Parser
import ConfigWiring.Go.Recovery.Items
import ConfigWiring.Go.Source
import ConfigWiring.Go.Lexer
import ConfigWiring.Go.Token
import ConfigWiring.MarkedType.Basic
import ConfigWiring.Descriptor.Basic
import ConfigWiring.Config.Error
import ConfigWiring.FileTree.Fault
import ConfigWiring.Template.Fault
import ConfigWiring.Template.Value
import ConfigWiring.Template.Json
import ConfigWiring.Template.Basic
import ConfigWiring.Template.Words
import ConfigWiring.Template.Expression
import ConfigWiring.Template.Tag
import ConfigWiring.Template.Reading
import ConfigWiring.Template.Argument
import ConfigWiring.Template.TextFilter
import ConfigWiring.Template.Filter
import ConfigWiring.Template.Test
import ConfigWiring.Template.Scope
import ConfigWiring.Template.Operation
import ConfigWiring.Template.Evaluation
import ConfigWiring.Template.Filling
import ConfigWiring.Failure
import ConfigWiring.WiringFile.Basic
import ConfigWiring.Environment.Basic
import ConfigWiring.EnvFile.LogicalLine
import ConfigWiring.EnvFile.Value
import ConfigWiring.EnvFile.Line
import ConfigWiring.EnvFile.Basic
import ConfigWiring.FileTree.Basic
import ConfigWiring.FileTree.Resolution
import ConfigWiring.FileTree.Access
import ConfigWiring.Notice
import ConfigWiring.Host.Basic
import ConfigWiring.Host.Files
import ConfigWiring.EnvFile.Sync
import ConfigWiring.FileTree.Listing
import ConfigWiring.Text.SortedSet
import ConfigWiring.Project.Basic
import ConfigWiring.Project.Loading
import ConfigWiring.Formatter.Basic
import ConfigWiring.Formatter.Program
import ConfigWiring.Generator.Config
import ConfigWiring.Generator.Basic
import ConfigWiring.Generator.Generation
import ConfigWiring.Config.Value
import ConfigWiring.Config.Escape
import ConfigWiring.Config.Literal
import ConfigWiring.Config.TomlDocument
import ConfigWiring.Config.TomlScalar
import ConfigWiring.Config.Toml
import ConfigWiring.Config.Reading
import ConfigWiring.Command.Settings
import ConfigWiring.Command.Arguments
import ConfigWiring.Config.Lossy
import ConfigWiring.Container.Basic
import ConfigWiring.Container.Running
import ConfigWiring.Container.Variables
import ConfigWiring.Build.Lifecycle
import ConfigWiring.Build.Context
import ConfigWiring.Command.Run
import ConfigWiring.Environment.Custody
import ConfigWiring.FileTree.Fixture
import ConfigWiring.Main
import ConfigWiring.Shell.Word
import ConfigWiring.Shell.Command
import ConfigWiring.Shell.Reading
import ConfigWiring.Shell.Wildcard
import ConfigWiring.Shell.Calculation
import ConfigWiring.Shell.State
import ConfigWiring.Shell.Condition
import ConfigWiring.Shell.Expansion
import ConfigWiring.Shell.Output
import ConfigWiring.Shell.Builtin
import ConfigWiring.Shell.Running
import ConfigWiring.Program.Interpreter
import ConfigWiring.Program.Tool
import ConfigWiring.Program.Start
import ConfigWiring.Proofs.EnvFile.Pending
import ConfigWiring.Proofs.EnvFile.WrittenLine
import ConfigWiring.Proofs.EnvFile.Built
import ConfigWiring.Proofs.FileTree.DirectoryPath
import ConfigWiring.Proofs.FileTree.Replacement
import ConfigWiring.Proofs.Host.ReadBack
import ConfigWiring.Proofs.EnvFile.Naming
import ConfigWiring.Proofs.EnvFile.Repetition
import ConfigWiring.Proofs.Container.Request
import ConfigWiring.Proofs.Container.Machine
import ConfigWiring.Proofs.Container.Invariants
import ConfigWiring.Proofs.Container.WiringGraph
import ConfigWiring.Proofs.Container.Progress
import ConfigWiring.Proofs.Container.Resolution
import ConfigWiring.Proofs.Tag.Printing
import ConfigWiring.Proofs.Tag.Grammar
import ConfigWiring.Proofs.Tag.Occurrence
import ConfigWiring.Proofs.EnvFile.Effect
import ConfigWiring.Proofs.Build.Lifecycle
import ConfigWiring.Proofs.EnvFile.Continuation
import ConfigWiring.Proofs.Generator.Repetition
import ConfigWiring.Proofs.Go.Foresight
import ConfigWiring.Proofs.Go.Lexeme
import ConfigWiring.Proofs.WiringFile.Acceptance
import ConfigWiring.Proofs.EnvFile.Seeding
import ConfigWiring.Proofs.EnvFile.ValueText
import ConfigWiring.Proofs.EnvFile.Batches
import ConfigWiring.Proofs.EnvFile.Preservation
import ConfigWiring.Proofs.WiringFile.StandardSource
import ConfigWiring.Proofs.Generator.Fixpoint
import ConfigWiring.Proofs.FileTree.Leaves
import ConfigWiring.Proofs.Host.Landing
import ConfigWiring.Proofs.EnvFile.Agreement
import ConfigWiring.Proofs.Generator.FailedRuns
import ConfigWiring.Proofs.Generator.SuccessfulRuns
import ConfigWiring.Proofs.Generator.CommandAgreement
import ConfigWiring.Proofs.Generator.References
import ConfigWiring.Proofs.Go.StringLiteral
import ConfigWiring.Proofs.Go.Words
import ConfigWiring.Proofs.WiringFile.Registrations
import ConfigWiring.Proofs.Container.Invocations
import ConfigWiring.Proofs.Build.Stages
import ConfigWiring.Proofs.Text.LetterCase
import ConfigWiring.Proofs.Container.ReadVariables
import ConfigWiring.Proofs.Environment.Guarding
import ConfigWiring.Proofs.Generator.ImportBlock
import ConfigWiring.Proofs.Generator.DestinationSpelling
import ConfigWiring.Proofs.Project.SourceSelection
import ConfigWiring.Proofs.Go.StructReading
import ConfigWiring.Proofs.Go.RemarkAbove
import ConfigWiring.Proofs.Tag.FirstWord
import ConfigWiring.Proofs.Generator.Permissions
import ConfigWiring.Proofs.Command.SettingLayers
import ConfigWiring.Proofs.Go.ModuleRemarks
import ConfigWiring.Proofs.EnvFile.Bookkeeping
import ConfigWiring.Proofs.Go.QuotedTag
