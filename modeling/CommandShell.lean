import CommandShell.Builtin.Banner
import CommandShell.Builtin.FileCommands
import CommandShell.Builtin.InformationCommands
import CommandShell.Builtin.Table
import CommandShell.Calendar
import CommandShell.CommandLine.Basic
import CommandShell.CommandLine.Running
import CommandShell.Console
import CommandShell.Dialogue
import CommandShell.Environment
import CommandShell.Event
import CommandShell.Execution.Executor
import CommandShell.Execution.Termination
import CommandShell.Execution.Wiring
import CommandShell.Failure
import CommandShell.Files.Fault
import CommandShell.Files.Operation
import CommandShell.Files.Tree
import CommandShell.Files.Walk
import CommandShell.History
import CommandShell.Machine
import CommandShell.Main
import CommandShell.Markup
import CommandShell.Number.Binary64
import CommandShell.Number.Decimal
import CommandShell.Number.Integer
import CommandShell.Number.Natural
import CommandShell.Path
import CommandShell.Plan.Basic
import CommandShell.Plan.Reading
import CommandShell.Plan.Token
import CommandShell.Program.Basic
import CommandShell.Program.Copying
import CommandShell.Program.Excerpt
import CommandShell.Program.FileTools
import CommandShell.Program.Launch
import CommandShell.Program.Message
import CommandShell.Program.Option
import CommandShell.Program.Order
import CommandShell.Program.Printing
import CommandShell.Program.Replacing
import CommandShell.Program.Source
import CommandShell.Program.Standard
import CommandShell.Proofs.Builtin.Address
import CommandShell.Proofs.Builtin.Find
import CommandShell.Proofs.Builtin.Password
import CommandShell.Proofs.Builtin.Remove
import CommandShell.Proofs.CommandLine.Start
import CommandShell.Proofs.Dialogue.Prompt
import CommandShell.Proofs.Dialogue.Session
import CommandShell.Proofs.Execution.Composition
import CommandShell.Proofs.Execution.Escape
import CommandShell.Proofs.Execution.Evolution
import CommandShell.Proofs.Execution.Ledger
import CommandShell.Proofs.Execution.Redirection
import CommandShell.Proofs.Execution.Signals
import CommandShell.Proofs.Execution.Sparing
import CommandShell.Proofs.Execution.Supervision
import CommandShell.Proofs.Execution.Survival
import CommandShell.Proofs.Execution.Turns
import CommandShell.Proofs.Files.Child
import CommandShell.Proofs.Files.Leading
import CommandShell.Proofs.Files.Removing
import CommandShell.Proofs.Files.Rooted
import CommandShell.Proofs.Files.Search
import CommandShell.Proofs.Files.Standing
import CommandShell.Proofs.Files.Writing
import CommandShell.Proofs.History.Entries
import CommandShell.Proofs.History.Keeping
import CommandShell.Proofs.History.Loading
import CommandShell.Proofs.History.Numbering
import CommandShell.Proofs.History.Settling
import CommandShell.Proofs.Lookup
import CommandShell.Proofs.Markup.Plain
import CommandShell.Proofs.Markup.Shown
import CommandShell.Proofs.Markup.Spans
import CommandShell.Proofs.Markup.Verbatim
import CommandShell.Proofs.Number.Integer
import CommandShell.Proofs.Path.Abbreviation
import CommandShell.Proofs.Path.Null
import CommandShell.Proofs.Path.Written
import CommandShell.Proofs.Plan.Appending
import CommandShell.Proofs.Plan.Grammar
import CommandShell.Proofs.Plan.Printing
import CommandShell.Proofs.Plan.Scanning
import CommandShell.Proofs.Plan.Segments
import CommandShell.Proofs.Plan.Tiling
import CommandShell.Proofs.Shell.Aliases
import CommandShell.Proofs.Shell.Deeds
import CommandShell.Proofs.Shell.Dispatch
import CommandShell.Proofs.Shell.Frame
import CommandShell.Proofs.Shell.Interrupt
import CommandShell.Proofs.Shell.Invariant
import CommandShell.Proofs.Shell.Line
import CommandShell.Proofs.Shell.Pipeline
import CommandShell.Proofs.Shell.Registered
import CommandShell.Proofs.Shell.Resolution
import CommandShell.Proofs.Shell.Sequence
import CommandShell.Proofs.Shell.Standing
import CommandShell.Proofs.Text.Classes
import CommandShell.Proofs.Text.Decoding
import CommandShell.Proofs.Text.Line
import CommandShell.Proofs.Text.Parts
import CommandShell.Proofs.Text.Percent
import CommandShell.Registry
import CommandShell.Script.Arithmetic
import CommandShell.Script.Basic
import CommandShell.Script.Condition
import CommandShell.Script.Expansion
import CommandShell.Script.Field
import CommandShell.Script.Interpreter
import CommandShell.Script.Names
import CommandShell.Script.OwnCommand
import CommandShell.Script.Pattern
import CommandShell.Script.Reading
import CommandShell.Script.Redirection
import CommandShell.Script.Running
import CommandShell.Script.Signal
import CommandShell.Script.State
import CommandShell.Script.Token
import CommandShell.Settings.Basic
import CommandShell.Settings.EnvironmentFile
import CommandShell.Settings.Reading
import CommandShell.Shell.Basic
import CommandShell.Shell.Running
import CommandShell.System
import CommandShell.Text.Blank
import CommandShell.Text.CodeRange
import CommandShell.Text.Digit
import CommandShell.Text.Line
import CommandShell.Text.Percent
import CommandShell.Text.Printable
import CommandShell.Text.Quoted
import CommandShell.Text.UpperCase
import CommandShell.Text.Utf8
import CommandShell.Text.Width
import CommandShell.Text.WordCharacter
