import TerminalScript.Document.Violation

/-!
Everything that can go wrong with a run, before it starts or on the way.
-/

namespace TerminalScript

inductive FileError
  | notFound
  | notDirectory
  | isDirectory
  | alreadyExists
  | permission
  | nameTooLong
  | badText
  | nulInName
  | nulInArgument
  | argumentTooLong
  deriving Inhabited, DecidableEq

def FileError.message : FileError → String
  | notFound => "No such file or directory (os error 2)"
  | notDirectory => "Not a directory (os error 20)"
  | isDirectory => "Is a directory (os error 21)"
  | alreadyExists => "File exists (os error 17)"
  | permission => "Permission denied (os error 13)"
  | nameTooLong => "File name too long (os error 36)"
  | badText => "stream did not contain valid UTF-8"
  | nulInName => "file name contained an unexpected NUL byte"
  | nulInArgument => "nul byte found in provided data"
  | argumentTooLong => "Argument list too long (os error 7)"

inductive PatternFault
  | malformed
  | unsupportedFlag (flag : Char) (pattern : String)
  | tooLarge (limit : Nat)
  deriving Inhabited, DecidableEq

def PatternFault.message : PatternFault → String
  | malformed => "regex parse error"
  | unsupportedFlag flag pattern =>
      "unsupported regex flag '" ++ flag.toString ++ "' in /" ++ pattern ++ "/"
  | tooLarge limit =>
      "Compiled regex exceeds size limit of " ++ toString limit ++ " bytes."

inductive CountBound
  | exactly (count : UInt64)
  | atLeast (count : UInt64)
  | atMost (count : UInt64)
  deriving Inhabited, DecidableEq

inductive Expectation
  | notFound (matcher : String) (scope : String)
  | count (bound : CountBound) (matcher : String) (found : Nat)
  deriving Inhabited, DecidableEq

def CountBound.message : CountBound → String
  | exactly count => toString count.toNat
  | atLeast count => "at least " ++ toString count.toNat
  | atMost count => "at most " ++ toString count.toNat

def Expectation.message : Expectation → String
  | notFound matcher scope => matcher ++ " not found on " ++ scope
  | count bound matcher found =>
      "expected " ++ bound.message ++ " matches of " ++ matcher ++ ", found " ++ toString found

inductive Awaited
  | present (matcher : String)
  | absent (matcher : String)
  | stable (milliseconds : Nat)
  | running (process : Nat)
  | processExit
  | paneExit
  deriving Inhabited, DecidableEq

def Awaited.message : Awaited → String
  | present matcher => matcher
  | absent matcher => "absence of " ++ matcher
  | stable milliseconds => "screen stable for " ++ toString milliseconds ++ "ms"
  | running process => "process " ++ toString process ++ " running"
  | processExit => "process exit"
  | paneExit => "tmux pane exit"

def multiplexerVariable : String := "TUIMUPPET_TMUX_BIN"

inductive Lifecycle
  | launchRefused (command : String)
  | notStarted (backend : String)
  | exited (process : Nat)
  | terminalFailed (reason : String)
  | spawnFailed (command : String) (reason : String)
  | unnumbered (command : String)
  | readerFailed (reason : String)
  | writerFailed (reason : String)
  | writerStopped
  | pollFailed (process : Nat) (reason : String)
  | probeFailed (process : Nat) (reason : String)
  | relativeProgram (program : String)
  | missingProgram (program : String)
  | sessionTimeout (session : String)
  | badProcessNumber (output : String)
  | commandFailed
  | callTimeout (command : String) (seconds : Nat)
  | multiplexer (output : String)
  deriving Inhabited, DecidableEq

def Lifecycle.message : Lifecycle → String
  | launchRefused command => "failed to launch " ++ command
  | notStarted backend => backend ++ " not started"
  | exited process => "process " ++ toString process ++ " has exited"
  | terminalFailed reason => "Failed to open pty: " ++ reason
  | spawnFailed command reason => "Failed to spawn " ++ command ++ ": " ++ reason
  | unnumbered command => "No pid for spawned " ++ command
  | readerFailed reason => "Failed to clone pty reader: " ++ reason
  | writerFailed reason => "Failed to take pty writer: " ++ reason
  | writerStopped => "pty writer has stopped"
  | pollFailed process reason =>
      "Failed to poll process " ++ toString process ++ ": " ++ reason
  | probeFailed process reason =>
      "Failed to probe pid " ++ toString process ++ ": " ++ reason
  | relativeProgram program =>
      multiplexerVariable ++ " must be an absolute path, got " ++ program
  | missingProgram program => "tmux binary not found at " ++ program
  | sessionTimeout session => "Timed out waiting for tmux session " ++ session
  | badProcessNumber output => "Failed to read tmux pane pid from " ++ Text.quoted output
  | commandFailed => "tmux command failed"
  | callTimeout command seconds =>
      "tmux " ++ command ++ " did not finish within " ++ toString seconds ++ "s"
  | multiplexer output => output

inductive Failure
  | schema (violation : Document.Violation)
  | macroNotFound (name : String)
  | macroCycle (chain : List String)
  | sequenceReference (name : String)
  | duplicateName (kind : String) (names : List String)
  | matchTimeout (awaited : Awaited) (milliseconds : Nat)
  | unmet (expectation : Expectation)
  | unsupportedStep (stepType : String) (backend : String)
  | processLifecycle (lifecycle : Lifecycle)
  | invalidRegex (fault : PatternFault)
  | file (error : FileError)
  | json
  deriving Inhabited

namespace Failure

open Json (separated)

def message : Failure → String
  | schema violation => "Schema validation failed: " ++ violation.message
  | macroNotFound name => "Macro \"" ++ name ++ "\" not found"
  | macroCycle chain => "Macro cycle detected: " ++ separated " -> " chain
  | sequenceReference name => "Scenario references missing sequence: " ++ name
  | duplicateName kind names => kind ++ " contains duplicate names: " ++ separated ", " names
  | matchTimeout awaited milliseconds =>
      "Timed out after " ++ toString milliseconds ++ "ms waiting for " ++ awaited.message
  | unmet expectation => "Expectation failed: " ++ expectation.message
  | unsupportedStep stepType backend =>
      "Step type '" ++ stepType ++ "' is not supported by the " ++ backend ++ " backend"
  | processLifecycle lifecycle => "Process lifecycle error: " ++ lifecycle.message
  | invalidRegex fault => "Invalid regex: " ++ fault.message
  | file error => "IO error: " ++ error.message
  | json => "JSON error"

def chain (failure : Failure) : List String :=
  match failure with
  | file error => [failure.message, error.message]
  | _ => [failure.message]

/-- Failures found before any process is launched; they abort the run. -/
def isPreRun : Failure → Bool
  | schema _ => true
  | macroNotFound _ => true
  | macroCycle _ => true
  | sequenceReference _ => true
  | duplicateName _ _ => true
  | _ => false

end Failure

abbrev Outcome (α : Type) := Except Failure α

end TerminalScript
