import TerminalScript.Backend.Basic
import TerminalScript.Backend.Options
import TerminalScript.Files.Basic
import TerminalScript.Keys
import TerminalScript.Terminal.Control
import TerminalScript.Terminal.View
import TerminalScript.Transcript

/-!
A backend that runs a process on a terminal of its own. What the process prints goes to the
terminal and into a transcript; what is typed, and the terminal's answers, go to the process until
it has exited or nothing more can be written to it. What the system refuses is given from outside:
why a command cannot be started, what else a launch may fail for, and whether a process can be
asked for its end.
-/

namespace TerminalScript

namespace Pty

structure Session where
  display : Terminal.Display
  transcript : Transcript
  process : Nat
  exited : Bool := false
  stopped : Bool := false
  pollFault : Option String := none
  size : UInt16 × UInt16
  received : List UInt8 := []

structure State where
  time : Nat := 0
  session : Option Session := none
  nextProcess : Nat := 1000

abbrev Refusal := String → Option String

inductive ChildFault
  | unnumbered
  | reader (reason : String)
  | writer (reason : String)
  | thread (error : FileError)
  deriving Inhabited, DecidableEq

def ChildFault.failure (command : String) : ChildFault → Failure
  | unnumbered => .processLifecycle (.unnumbered command)
  | reader reason => .processLifecycle (.readerFailed reason)
  | writer reason => .processLifecycle (.writerFailed reason)
  | thread error => .file error

/-- What each launch fails for besides its command, by the number that its process has or is to
have. -/
structure Machine where
  terminalFault : Nat → Option String := fun _ => none
  childFault : Nat → Option ChildFault := fun _ => none

def Session.start (options : BackendOptions) (process : Nat) : Session :=
  { display :=
      { emulator :=
          .new options.cols.toNat options.rows.toNat options.scrollbackLines.toNat }
    transcript := .new options.transcriptLimit.toNat options.transcriptRetain.toNat
    process
    size := (options.cols, options.rows) }

def Session.forward (session : Session) : Session :=
  let emulator := session.display.emulator
  let answers := if session.exited || session.stopped then [] else Text.encode emulator.replies
  { session with
    display := { session.display with emulator := { emulator with replies := "" } }
    received := session.received ++ answers }

def Session.print (bytes : List UInt8) (session : Session) : Session :=
  { session with
    display := session.display.feed bytes
    transcript := session.transcript.append bytes }.forward

def State.modifySession (change : Session → Session) (state : State) : State :=
  { state with session := state.session.map change }

def State.print (bytes : List UInt8) (state : State) : State :=
  state.modifySession (Session.print bytes)

def State.exit (state : State) : State :=
  state.modifySession fun session => { session with exited := true }

def sleep (duration : Nat) (state : State) : State :=
  { state with time := state.time + duration }

def current : Operation State Session := do
  match (← get).session with
  | some session => pure session
  | none => throw (.processLifecycle (.notStarted "pty process"))

def grid : Operation State Terminal.Grid := do
  pure (← current).display.emulator.grid

def send (bytes : List UInt8) : Operation State Unit := do
  let session ← current
  if session.exited then throw (.processLifecycle (.exited session.process))
  else if session.stopped then throw (.processLifecycle .writerStopped)
  else
    modify (State.modifySession fun session =>
      { session with received := session.received ++ bytes })

def refuse : Option Failure → Operation State Unit
  | some failure => throw failure
  | none => pure ()

def launch (options : BackendOptions) (refusal : Refusal) (machine : Machine)
    (command : String) : Operation State Nat := do
  -- A previous process is killed first, whether the new one starts or not.
  modify fun state => { state with session := none }
  let process := (← get).nextProcess
  refuse ((machine.terminalFault process).map fun reason =>
    .processLifecycle (.terminalFailed reason))
  refuse ((refusal command).map fun reason => .processLifecycle (.spawnFailed command reason))
  modify fun state => { state with nextProcess := process + 1 }
  refuse ((machine.childFault process).map (ChildFault.failure command))
  modify fun state => { state with session := some (.start options process) }
  pure process

def hasExited : Operation State Bool := do
  let session ← current
  match session.pollFault with
  | some reason => throw (.processLifecycle (.pollFailed session.process reason))
  | none => pure session.exited

def isRunning (process : Nat) : Operation State Bool := do
  let session ← current
  if session.process = process then
    let exited ← hasExited
    pure !exited
  else pure false

def sendKeys (keys : List String) : Operation State Unit := do
  let _ ← current
  keys.forM fun key => send (Keys.encode key)

def sendText (text : String) : Operation State Unit :=
  send (Text.encode text)

def sendLine (text : String) : Operation State Unit := do
  sendText text
  sendKeys ["Enter"]

def pasteStart : List UInt8 := [27, 91, 50, 48, 48, 126]

def pasteEnd : List UInt8 := [27, 91, 50, 48, 49, 126]

def pasteBytes (bracketed : Bool) (text : String) : List UInt8 :=
  if bracketed then pasteStart ++ Text.encode text ++ pasteEnd else Text.encode text

def paste (text : String) : Operation State Unit := do
  let session ← current
  send (pasteBytes (session.display.emulator.has .bracketedPaste) text)

def Session.resize (cols rows : UInt16) (session : Session) : Session :=
  let emulator := session.display.emulator.resize cols.toNat rows.toNat
  { session with display := { session.display with emulator } }

def resize (cols rows : UInt16) : Operation State Unit := do
  -- The terminal has its new size even if the process cannot be told of it.
  let session ← current
  modify (State.modifySession (Session.resize cols rows))
  if session.stopped then throw (.processLifecycle .writerStopped)
  else modify (State.modifySession fun session => { session with size := (cols, rows) })

/-- Why a command cannot be started, by what its path leads to. Names without a directory are not
searched for. -/
def refusalOf (files : Files) (command : String) : Option String :=
  let unable (reason : String) : Option String :=
    some ("Unable to spawn " ++ command ++ " because " ++ reason)
  if !Path.isAbsolute command then unable "it does not exist"
  else
    match files.locate command with
    | .error .notDirectory =>
        unable "it doesn't exist on the filesystem (ENOTDIR: Not a directory)"
    | .error _ => unable "it doesn't exist on the filesystem (ENOENT: No such file or directory)"
    | .ok location =>
        match files.entry? location with
        | some .directory => unable "it is a directory"
        | some (.file _) =>
            if files.current.isPrefixOf location then
              unable "it is not executable (EACCES: Permission denied)"
            else none
        | none =>
            unable "it doesn't exist on the filesystem (ENOENT: No such file or directory)"

def backend (options : BackendOptions) (refusal : Refusal) (machine : Machine := {}) :
    Backend State where
  name := "pty"
  now := State.time
  sleep := sleep
  launch command _ _ := launch options refusal machine command
  isRunning := isRunning
  sendKeys := sendKeys
  sendText := sendText
  sendLine := sendLine
  paste := paste
  resize := resize
  captureScreen := do
    pure (← grid).screenText
  captureScrollback lines := do
    pure ((← grid).scrollbackText lines)
  captureTranscript := do
    pure (← current).transcript.text
  waitForExit timeout :=
    Backend.poll State.time sleep 100 hasExited (.matchTimeout .processExit timeout) timeout
  waitForStable stable timeout :=
    let digest := do
      pure (← grid).screenHash
    Backend.awaitStable State.time sleep options.stabilitySample.toNat digest stable timeout
  destroy := modify fun state => { state with session := none }

end Pty

end TerminalScript
