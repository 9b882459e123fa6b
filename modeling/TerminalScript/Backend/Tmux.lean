import TerminalScript.Backend.Basic
import TerminalScript.Backend.Options
import TerminalScript.Files.Basic
import TerminalScript.Text.Blank
import TerminalScript.Text.Lines

/-!
A backend that drives a process in a session of the multiplexer tmux, by calling its program with
one sub-command after the other. Each launch makes a session with a name of its own.
-/

namespace TerminalScript

namespace Tmux

structure Reply where
  exit : Int := 0
  stdout : List UInt8 := []
  stderr : List UInt8 := []
  duration : Nat := 0
  deriving Inhabited, DecidableEq

inductive Probe
  | delivered
  | missing
  | forbidden
  | failed (reason : String)
  deriving Inhabited, DecidableEq

structure Host where
  /-- How a call ends, given the calls before it. -/
  reply : List (List String) → List String → Reply
  clock : Nat → Nat
  draw : Nat → Nat
  probe : Nat → Probe

structure State where
  time : Nat := 0
  calls : List (List String) := []
  session : Option String := none
  launched : Nat := 0
  deriving Inhabited, DecidableEq

abbrev Script := List (String × List Reply)

def Script.reply (script : Script) (before : List (List String)) (args : List String) : Reply :=
  let replies := (script.lookup (args.headD "")).getD []
  let earlier := before.countP fun call => call.headD "" = args.headD ""
  (replies[earlier]?.orElse fun _ => replies.getLast?).getD {}

def hexSuffix (number : Nat) : String :=
  let digits := Nat.toDigits 16 (number % UInt32.size)
  String.ofList (List.replicate (8 - digits.length) '0' ++ digits)

def sessionName (stem : String) (clock launch random : Nat) : String :=
  stem ++ "_" ++ String.ofList (Nat.toDigits 16 clock) ++ "_" ++ toString launch ++ "_" ++
    hexSuffix random

/-- The longest argument that a program can be given, in bytes. -/
def argumentLimit : Nat := 131071

def argumentFault (args : List String) : Option FileError :=
  if args.any fun arg => arg.toList.contains (Char.ofNat 0) then some .nulInArgument
  else if args.any fun arg => arg.utf8ByteSize > argumentLimit then some .argumentTooLong
  else none

def complaint (reply : Reply) : Lifecycle :=
  let text := Text.trim (Text.decode reply.stderr)
  if text = "" then .commandFailed else .multiplexer text

def sleep (duration : Nat) (state : State) : State :=
  { state with time := state.time + duration }

variable (host : Host) (options : BackendOptions)

def callLimit : Nat := 10

def outcomeOf (args : List String) (reply : Reply) : Outcome String :=
  if reply.duration > callLimit * 1000 then
    .error (.processLifecycle (.callTimeout (args.headD "") callLimit))
  else if reply.exit ≠ 0 then .error (.processLifecycle (complaint reply))
  else .ok (Text.decode reply.stdout)

def call (args : List String) : Operation State String := do
  match argumentFault args with
  | some fault => throw (.file fault)
  | none =>
      let state ← get
      let reply := host.reply state.calls args
      set { state with
        time := state.time + min reply.duration (callLimit * 1000)
        calls := state.calls ++ [args] }
      ExceptT.mk (pure (outcomeOf args reply))

def active : Operation State String := do
  match (← get).session with
  | some session => pure session
  | none => throw (.processLifecycle (.notStarted "tmux session"))

def succeeds (args : List String) : Operation State Bool :=
  tryCatch (do let _ ← call host args; pure true) fun _ => pure false

def sessionTimeout : Nat := 1500

def awaitSession (session : String) : Operation State Unit :=
  Backend.poll State.time sleep 100 (succeeds host ["has-session", "-t", session])
    (.processLifecycle (.sessionTimeout session)) sessionTimeout

def digitsValue? (digits : List Char) : Option Nat :=
  if digits = [] ∨ digits.any (fun c => !c.isDigit) then none
  else some (digits.foldl (fun value c => value * 10 + (c.toNat - 48)) 0)

def processNumber? (output : String) : Option Nat := do
  let digits := match (Text.trim output).toList with
    | '+' :: digits => digits
    | digits => digits
  let value ← digitsValue? digits
  if value < UInt32.size then some value else none

def newSession (session command : String) (args : List String) (cwd : Option String) :
    List String :=
  let directory := match cwd with
    | some cwd => ["-c", cwd]
    | none => []
  ["new-session", "-d", "-s", session, "-x", toString options.cols.toNat, "-y",
    toString options.rows.toNat] ++ directory ++ [command] ++ args

def startSession (session command : String) (args : List String) (cwd : Option String) :
    Operation State Nat := do
  let _ ← call host (newSession options session command args cwd)
  awaitSession host session
  let output ← call host ["display-message", "-p", "-t", session, "#\x7bpane_pid\x7d"]
  match processNumber? output with
  | some process => pure process
  | none => throw (.processLifecycle (.badProcessNumber output))

def destroy : Operation State Unit := do
  match (← get).session with
  | some session =>
      modify fun state => { state with session := none }
      let _ ← succeeds host ["kill-session", "-t", session]
  | none => pure ()

def launch (command : String) (args : List String) (cwd : Option String) :
    Operation State Nat := do
  let number := (← get).launched
  let session := sessionName options.sessionPrefix (host.clock number) number (host.draw number)
  modify fun state => { state with session := some session, launched := number + 1 }
  tryCatch (startSession host options session command args cwd) fun failure => do
    destroy host
    throw failure

def isRunning (process : Nat) : Operation State Bool :=
  -- A process of another user exists as well, though it cannot be signalled.
  match host.probe process with
  | .delivered => pure true
  | .missing => pure false
  | .forbidden => pure true
  | .failed reason => throw (.processLifecycle (.probeFailed process reason))

def sendKeys (keys : List String) : Operation State Unit := do
  let session ← active
  keys.forM fun key => do
    let _ ← call host ["send-keys", "-t", session, key]

def sendText (text : String) : Operation State Unit := do
  let session ← active
  let _ ← call host ["send-keys", "-t", session, "-l", "--", text]

def sendLine (text : String) : Operation State Unit := do
  sendText host text
  sendKeys host ["Enter"]

def paste (text : String) : Operation State Unit := do
  let session ← active
  let _ ← call host ["set-buffer", "-b", session, "--", text]
  let _ ← call host ["paste-buffer", "-d", "-b", session, "-t", session]

def resize (cols rows : UInt16) : Operation State Unit := do
  let session ← active
  let _ ← call host
    ["resize-window", "-t", session, "-x", toString cols.toNat, "-y", toString rows.toNat]

def captureScreen : Operation State String := do
  let session ← active
  call host ["capture-pane", "-p", "-t", session]

def captureScrollback (lines : Nat) : Operation State String := do
  let session ← active
  call host ["capture-pane", "-p", "-t", session, "-S", "-" ++ toString lines]

def goneTexts : List String :=
  ["can't find session", "can't find window", "can't find pane", "no server running",
    "session not found"]

def isGone (failure : Failure) : Bool :=
  goneTexts.any fun text => occurs text.toList failure.message.toList

def allDead (output : String) : Bool :=
  (Text.lines output).all fun line => Text.trim line = "1"

def paneExited (session : String) : Operation State Bool := do
  if ← succeeds host ["has-session", "-t", session] then
    tryCatch
      (do
        let output ← call host ["list-panes", "-t", session, "-F", "#\x7bpane_dead\x7d"]
        pure (allDead output))
      fun failure => if isGone failure then pure true else throw failure
  else pure true

def waitForExit (timeout : Nat) : Operation State Unit := do
  let session ← active
  Backend.poll State.time sleep 200 (paneExited host session) (.matchTimeout .paneExit timeout)
    timeout

def giveUp : Operation State Unit :=
  destroy host

def backend : Backend State where
  name := "tmux"
  now := State.time
  sleep := sleep
  launch := launch host options
  isRunning := isRunning host
  sendKeys := sendKeys host
  sendText := sendText host
  sendLine := sendLine host
  paste := paste host
  resize := resize host
  captureScreen := captureScreen host
  captureScrollback := captureScrollback host
  captureTranscript := throw (.unsupportedStep "transcript" "tmux")
  waitForExit := waitForExit host
  waitForStable stable timeout :=
    Backend.awaitStableText State.time sleep options.stabilitySample.toNat (captureScreen host) stable
      timeout
  destroy := destroy host

def defaultProgram : String := "/usr/bin/tmux"

def findProgram (options : BackendOptions) (environment : Option String) (files : Files) :
    Outcome String :=
  let program := (options.program.orElse fun _ => environment).getD defaultProgram
  if !Path.isAbsolute program then .error (.processLifecycle (.relativeProgram program))
  else
    match files.exists? program with
    | some _ => .ok program
    | none => .error (.processLifecycle (.missingProgram program))

end Tmux

end TerminalScript
