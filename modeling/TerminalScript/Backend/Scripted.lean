import TerminalScript.Backend.Basic
import TerminalScript.Text.Lines

/-!
A backend without a process: its screen is text that is set beforehand, at given times, or by
replies to the lines that are sent.
-/

namespace TerminalScript

namespace Scripted

structure Script where
  exitAfterKeys : List String := []
  exitAfterLines : List String := []
  exitAfterPaste : List String := []
  failLaunch : Bool := false
  responder : Option (String → Option String) := none
  deriving Inhabited

structure Responder where
  replies : List (String × Option String)
  echo : Option String
  deriving Inhabited, DecidableEq

structure Event where
  time : Nat
  screen : Option String := none
  scrollback : Option String := none
  exit : Bool := false
  deriving Inhabited, DecidableEq

structure State where
  time : Nat := 0
  events : List Event := []
  running : Bool := false
  screen : String := ""
  scrollback : String := ""
  transcript : String := ""
  cols : UInt16 := 0
  rows : UInt16 := 0
  launches : List (String × List String) := []
  sentKeys : List String := []
  sentText : List String := []
  sentLines : List String := []
  pasted : List String := []
  destroyCalls : Nat := 0
  deriving Inhabited, DecidableEq

def processNumber : Nat := 1234

def Responder.answer (responder : Responder) (line : String) : Option String :=
  match responder.replies.lookup line with
  | some reply => reply
  | none => responder.echo.map (· ++ line)

instance : Coe (Option Responder) (Option (String → Option String)) :=
  ⟨Option.map Responder.answer⟩

def Event.apply (event : Event) (state : State) : State :=
  { state with
    screen := event.screen.getD state.screen
    scrollback := event.scrollback.getD state.scrollback
    running := state.running && !event.exit }

namespace State

def settle (time : Nat) : List Event → State → State
  | [], state => { state with events := [] }
  | event :: rest, state =>
      if event.time ≤ time then settle time rest (event.apply state)
      else { state with events := event :: rest }

def sleep (duration : Nat) (state : State) : State :=
  let time := state.time + duration
  settle time state.events { state with time }

def print (text : String) (state : State) : State :=
  { state with
    screen := if state.screen = "" then text else state.screen ++ "\n" ++ text
    scrollback := state.scrollback ++ text ++ "\n"
    transcript := state.transcript ++ text ++ "\n" }

def exitIf (condition : Bool) (state : State) : State :=
  { state with running := state.running && !condition }

def submit (script : Script) (line : String) (state : State) : State :=
  let shown := print line { state with sentLines := state.sentLines ++ [line] }
  let replied :=
    match script.responder.bind (· line) with
    | some reply => shown.print reply
    | none => shown
  replied.exitIf (script.exitAfterLines.contains line)

def paste (script : Script) (text : String) (state : State) : State :=
  (print text { state with pasted := state.pasted ++ [text] }).exitIf
    (script.exitAfterPaste.contains text)

def sendKeys (script : Script) (keys : List String) (state : State) : State :=
  { state with sentKeys := state.sentKeys ++ keys }.exitIf
    (script.exitAfterKeys.contains (Json.separated " " keys))

def lastLines (state : State) (lines : Nat) : String :=
  let kept := (Text.lines state.scrollback).filter (· ≠ "")
  Json.separated "\n" (kept.drop (kept.length - lines))

end State

def awaitExit (timeout remaining : Nat) : Operation State Unit := do
  if !(← get).running then return ()
  if _left : remaining = 0 then throw (.matchTimeout .processExit timeout)
  else
    modify (State.sleep 10)
    awaitExit timeout (remaining - 10)
termination_by remaining

def launch (script : Script) (command : String) (args : List String) : Operation State Nat := do
  if script.failLaunch then throw (.processLifecycle (.launchRefused command))
  modify fun state =>
    { state with launches := state.launches ++ [(command, args)], running := true }
  pure processNumber

def backend (script : Script) : Backend State where
  name := "fake"
  now := State.time
  sleep := State.sleep
  launch command args _ := launch script command args
  isRunning _ := do
    pure (← get).running
  sendKeys keys := modify (State.sendKeys script keys)
  sendText text := modify fun state => { state with sentText := state.sentText ++ [text] }
  sendLine line := modify (State.submit script line)
  paste text := modify (State.paste script text)
  resize cols rows := modify fun state => { state with cols, rows }
  captureScreen := do
    pure (← get).screen
  captureScrollback lines := do
    pure ((← get).lastLines lines)
  captureTranscript := do
    pure (← get).transcript
  waitForExit timeout := awaitExit timeout timeout
  waitForStable stable timeout :=
    Backend.awaitStableText State.time State.sleep 5 (do pure (← get).screen) stable timeout
  destroy := modify fun state =>
    { state with destroyCalls := state.destroyCalls + 1, running := false }

end Scripted

end TerminalScript
