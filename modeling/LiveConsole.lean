import LiveConsole.Actions.Script
import LiveConsole.Main
import LiveConsole.Proofs.CommandLine.Flags
import LiveConsole.Proofs.CommandLine.Escaping
import LiveConsole.Proofs.FileTree.Real
import LiveConsole.Proofs.Loop.Protocol
import LiveConsole.Proofs.Loop.Reading
import LiveConsole.Proofs.Loop.Watching
import LiveConsole.Proofs.Options.Restart
import LiveConsole.Value.ShellError
import LiveConsole.Proofs.Options.Successive
import LiveConsole.Proofs.Console.Course
import LiveConsole.Proofs.Starter.Run
import LiveConsole.Proofs.Console.Transparency
import LiveConsole.Proofs.Console.Watching
import LiveConsole.Proofs.Line.Dispatch
import LiveConsole.Proofs.Dump.Decoding
import LiveConsole.Proofs.Shell.Sharing
import LiveConsole.Proofs.Program.Pieces
import LiveConsole.Proofs.Program.Parsing
import LiveConsole.Proofs.Line.Normal
import LiveConsole.Proofs.Loop.Quiet
import LiveConsole.Proofs.Actions.Runs
import LiveConsole.Proofs.Actions.Firing
import LiveConsole.Proofs.Program.Evaluating
import LiveConsole.Proofs.Starter.Growth
import LiveConsole.Proofs.CommandLine.Hook
import LiveConsole.Proofs.FileTree.Survey
import LiveConsole.Proofs.Console.Noticing
import LiveConsole.Proofs.Console.Vanishing
import LiveConsole.Proofs.Options.Script
import LiveConsole.Proofs.Shell.PromptScript
import LiveConsole.Proofs.Line.Separators
import LiveConsole.Proofs.Shell.Printing
import LiveConsole.Proofs.Shell.Serving
import LiveConsole.Proofs.CommandLine.Typing
import LiveConsole.Proofs.Line.Canonical
import LiveConsole.Proofs.History
import LiveConsole.Proofs.Options.WatchText
import LiveConsole.Proofs.Settings
import LiveConsole.Proofs.Dump.Depth
import LiveConsole.Proofs.Dump.SetOrder
