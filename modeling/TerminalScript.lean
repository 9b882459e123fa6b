import TerminalScript.Backend.Scripted
import TerminalScript.Main
import TerminalScript.Proofs.Capture
import TerminalScript.Proofs.Capture.Captions
import TerminalScript.Proofs.Document.RoundTrip
import TerminalScript.Proofs.Macro.Calls
import TerminalScript.Proofs.Macro.Interpolation
import TerminalScript.Proofs.Macro.Leaves
import TerminalScript.Proofs.Macro.Templates
import TerminalScript.Proofs.Multiplexer.Commands
import TerminalScript.Proofs.Multiplexer.Driving
import TerminalScript.Proofs.Multiplexer.Exit
import TerminalScript.Proofs.Multiplexer.Input
import TerminalScript.Proofs.Multiplexer.Names
import TerminalScript.Proofs.Multiplexer.Serving
import TerminalScript.Proofs.Multiplexer.Sessions
import TerminalScript.Proofs.Multiplexer.Teardown
import TerminalScript.Proofs.Plan.Arrangement
import TerminalScript.Proofs.Plan.Selection
import TerminalScript.Proofs.Redaction.Coverage
import TerminalScript.Proofs.Run.Attempts
import TerminalScript.Proofs.Run.Courses
import TerminalScript.Proofs.Run.Effects
import TerminalScript.Proofs.Run.Elapsed
import TerminalScript.Proofs.Run.Expanded
import TerminalScript.Proofs.Run.Failures
import TerminalScript.Proofs.Run.Input
import TerminalScript.Proofs.Run.Progress
import TerminalScript.Proofs.Run.Trace
import TerminalScript.Proofs.Run.Validity
import TerminalScript.Proofs.Run.Verdicts
import TerminalScript.Proofs.Terminal.Fingerprint
import TerminalScript.Proofs.Terminal.Paste
import TerminalScript.Proofs.Terminal.Scrollback
import TerminalScript.Proofs.Terminal.Watching
import TerminalScript.Proofs.Text.Tokens
import TerminalScript.Proofs.Transcript.Characters
import TerminalScript.Proofs.Wait.Stability
import TerminalScript.Rehearsal
import TerminalScript.Proofs.Keys
import TerminalScript.Proofs.Macro.Libraries
import TerminalScript.Proofs.Matcher.Occurrences
import TerminalScript.Proofs.Pattern.Reading
import TerminalScript.Proofs.Matcher.Literals
import TerminalScript.Proofs.Text.Intermediates
import TerminalScript.Proofs.Stability.Answers
import TerminalScript.Proofs.Multiplexer.Naming
import TerminalScript.Proofs.Wait.Exit
