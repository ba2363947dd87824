import CommandShell.Action
import CommandShell.Builtin.Basic
import CommandShell.Builtin.Run
import CommandShell.CommandLine.Arguments
import CommandShell.CommandLine.Console
import CommandShell.CommandLine.Run
import CommandShell.Config.Document
import CommandShell.Config.Error
import CommandShell.Config.File
import CommandShell.Config.Property
import CommandShell.Config.Settings
import CommandShell.Device
import CommandShell.EvalError
import CommandShell.Machine.Basic
import CommandShell.Machine.FileTree
import CommandShell.Machine.OsError
import CommandShell.Machine.Program
import CommandShell.Main
import CommandShell.Path.Basic
import CommandShell.Path.Home
import CommandShell.Program.Call
import CommandShell.Program.Format.Directive
import CommandShell.Program.Format.Escape
import CommandShell.Program.Format.Field
import CommandShell.Program.Format.Floating
import CommandShell.Program.Format.Number
import CommandShell.Program.Installed
import CommandShell.Program.Message
import CommandShell.Program.Options
import CommandShell.Program.Script.Arithmetic
import CommandShell.Program.Script.Basic
import CommandShell.Program.Script.Builtin.Basic
import CommandShell.Program.Script.Builtin.Directory
import CommandShell.Program.Script.Builtin.Names
import CommandShell.Program.Script.Builtin.Signals
import CommandShell.Program.Script.Builtin.Variables
import CommandShell.Program.Script.Engine
import CommandShell.Program.Script.Expand
import CommandShell.Program.Script.Field
import CommandShell.Program.Script.Glob
import CommandShell.Program.Script.Lookup
import CommandShell.Program.Script.Parse
import CommandShell.Program.Script.Pattern
import CommandShell.Program.Script.Print
import CommandShell.Program.Script.Program
import CommandShell.Program.Script.Reader
import CommandShell.Program.Script.Redirect
import CommandShell.Program.Script.Run
import CommandShell.Program.Script.Signal
import CommandShell.Program.Script.State
import CommandShell.Program.Script.Test
import CommandShell.Program.Script.Word
import CommandShell.Program.Utility.Basic
import CommandShell.Program.Utility.Concatenate
import CommandShell.Program.Utility.Echo
import CommandShell.Program.Utility.Print
import CommandShell.Program.Utility.WordCount
import CommandShell.Proofs.Builtin.Directory
import CommandShell.Proofs.Builtin.Split
import CommandShell.Proofs.Config.Document
import CommandShell.Proofs.Config.File
import CommandShell.Proofs.Config.Property
import CommandShell.Proofs.Device.Reserved
import CommandShell.Proofs.Device.RoundTrip
import CommandShell.Proofs.Grammar.Basic
import CommandShell.Proofs.Grammar.Completeness
import CommandShell.Proofs.Grammar.Soundness
import CommandShell.Proofs.Grammar.Step
import CommandShell.Proofs.Grammar.Viable
import CommandShell.Proofs.Machine.FileTree
import CommandShell.Proofs.Machine.Open
import CommandShell.Proofs.Path.Components
import CommandShell.Proofs.Path.Home
import CommandShell.Proofs.Path.Name
import CommandShell.Proofs.Program.Streams
import CommandShell.Proofs.Segment.Agreement
import CommandShell.Proofs.Segment.Capture
import CommandShell.Proofs.Segment.Caret
import CommandShell.Proofs.Segment.Chain
import CommandShell.Proofs.Segment.Failure
import CommandShell.Proofs.Segment.Log
import CommandShell.Proofs.Segment.Outline
import CommandShell.Proofs.Segment.Quoting
import CommandShell.Proofs.Segment.RoundTrip
import CommandShell.Proofs.Segment.Saving
import CommandShell.Proofs.Segment.Sequencing
import CommandShell.Proofs.Segment.Shape
import CommandShell.Proofs.Segment.Temporary
import CommandShell.Proofs.Segment.Trace
import CommandShell.Proofs.Segment.Unknown
import CommandShell.Proofs.Segment.Wrapping
import CommandShell.Proofs.Session.Backing
import CommandShell.Proofs.Session.Run
import CommandShell.Proofs.Session.Switches
import CommandShell.Proofs.Text.Case
import CommandShell.Proofs.Text.Lines
import CommandShell.Proofs.Text.Separator
import CommandShell.Proofs.Text.Split
import CommandShell.Proofs.Text.Unlines
import CommandShell.Proofs.Text.Utf8
import CommandShell.Proofs.Token.Braces
import CommandShell.Proofs.Token.Location
import CommandShell.Proofs.Token.Mark
import CommandShell.Proofs.Token.Place
import CommandShell.Proofs.Token.Scans
import CommandShell.Proofs.Token.Source
import CommandShell.Proofs.Token.Tiling
import CommandShell.Proofs.Token.Translation
import CommandShell.Proofs.Token.Yields
import CommandShell.Proofs.Toml.Document
import CommandShell.Proofs.Toml.Text
import CommandShell.Proofs.Variable.Access
import CommandShell.Proofs.Variable.Cell
import CommandShell.Proofs.Variable.Failure
import CommandShell.Proofs.Variable.Lens
import CommandShell.Proofs.Variable.Revert
import CommandShell.Proofs.Variable.Store
import CommandShell.Proofs.Variable.Veto
import CommandShell.Rows
import CommandShell.Segment.Basic
import CommandShell.Segment.Eval
import CommandShell.Segment.Outline
import CommandShell.Segment.Parse
import CommandShell.Segment.Render
import CommandShell.Session
import CommandShell.Source
import CommandShell.State
import CommandShell.SyntaxError
import CommandShell.Text.Class
import CommandShell.Text.Cluster
import CommandShell.Text.ClusterClass
import CommandShell.Text.Hex
import CommandShell.Text.Hidden
import CommandShell.Text.Json
import CommandShell.Text.Lines
import CommandShell.Text.Literal
import CommandShell.Text.Narrow
import CommandShell.Text.Range
import CommandShell.Text.Split
import CommandShell.Text.Utf8
import CommandShell.Token.Basic
import CommandShell.Token.Scan
import CommandShell.Toml.Document
import CommandShell.Toml.Number
import CommandShell.Toml.Table
import CommandShell.Toml.Text
import CommandShell.Toml.Value
import CommandShell.Toml.Writer
import CommandShell.Value
import CommandShell.Variable.Access
import CommandShell.Variable.Scope
import CommandShell.Variable.Store
import CommandShell.Variable.Watch
import CommandShell.Word
