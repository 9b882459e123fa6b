import TerminalScript.Matcher

/-!
Steps: the scripted actions and assertions of a sequence.
-/

namespace TerminalScript

inductive Scope
  | screen
  | scrollback
  | transcript
  | both
  deriving Inhabited, DecidableEq

inductive CaptureFormat
  | text
  | ansi
  | json
  deriving Inhabited, DecidableEq

inductive MouseAction
  | move
  | down
  | up
  | click
  | drag
  | wheel
  deriving Inhabited, DecidableEq

inductive MouseButton
  | left
  | middle
  | right
  deriving Inhabited, DecidableEq

inductive Modifier
  | shift
  | alt
  | ctrl
  | metaKey
  deriving Inhabited, DecidableEq

inductive ScrollDirection
  | up
  | down
  | pageUp
  | pageDown
  | top
  | bottom
  deriving Inhabited, DecidableEq

structure StepCommon where
  id : Option String := none
  description : Option String := none
  timeoutMs : Option UInt64 := none
  pollMs : Option UInt64 := none
  scope : Option Scope := none
  scrollbackLines : Option UInt64 := none
  capturesDir : Option String := none
  deriving Inhabited, DecidableEq

inductive StepKind
  | line (text : String) (submitKeys : Option (List String)) (postTypeMs : Option UInt64)
  | sendKeys (keys : String)
  | keys (keys : List String)
  | paste (text : String)
  | sleep (ms : UInt64)
  | resize (cols rows : UInt16)
  | waitFor (matcher : Matcher)
  | waitForNot (matcher : Matcher)
  | expect (matcher : Matcher)
  | expectCount (matcher : Matcher) (equals atLeast atMost : Option UInt64)
  | waitForExit
  | capture (name : Option String) (format : Option CaptureFormat)
  | waitForStable (stableMs : UInt64)
  | call (name : String) (args : Option (List (String × Json.Value)))
  | mouse (action : MouseAction) (button : Option MouseButton) (x y : Option UInt32)
      (delta : Option Int32) (modifiers : Option (List Modifier))
  | scroll (direction : ScrollDirection) (amount : Option UInt32)
  deriving Inhabited

structure Step where
  common : StepCommon := {}
  kind : StepKind
  deriving Inhabited

namespace Scope

def named : List (String × Scope) :=
  [("screen", screen), ("scrollback", scrollback), ("transcript", transcript), ("both", both)]

def name : Scope → String
  | screen => "screen"
  | scrollback => "scrollback"
  | transcript => "transcript"
  | both => "both"

end Scope

namespace CaptureFormat

def named : List (String × CaptureFormat) :=
  [("text", text), ("ansi", ansi), ("json", json)]

def name : CaptureFormat → String
  | text => "text"
  | ansi => "ansi"
  | json => "json"

def extension : CaptureFormat → String
  | text => "txt"
  | ansi => "ansi"
  | json => "json"

end CaptureFormat

namespace MouseAction

def named : List (String × MouseAction) :=
  [("move", move), ("down", down), ("up", up), ("click", click), ("drag", drag), ("wheel", wheel)]

def name : MouseAction → String
  | move => "move"
  | down => "down"
  | up => "up"
  | click => "click"
  | drag => "drag"
  | wheel => "wheel"

end MouseAction

namespace MouseButton

def named : List (String × MouseButton) :=
  [("left", left), ("middle", middle), ("right", right)]

def name : MouseButton → String
  | left => "left"
  | middle => "middle"
  | right => "right"

end MouseButton

namespace Modifier

def named : List (String × Modifier) :=
  [("shift", shift), ("alt", alt), ("ctrl", ctrl), ("meta", metaKey)]

def name : Modifier → String
  | shift => "shift"
  | alt => "alt"
  | ctrl => "ctrl"
  | metaKey => "meta"

end Modifier

namespace ScrollDirection

def named : List (String × ScrollDirection) :=
  [("up", up), ("down", down), ("pageUp", pageUp), ("pageDown", pageDown), ("top", top),
    ("bottom", bottom)]

def name : ScrollDirection → String
  | up => "up"
  | down => "down"
  | pageUp => "pageUp"
  | pageDown => "pageDown"
  | top => "top"
  | bottom => "bottom"

end ScrollDirection

def StepKind.typeName : StepKind → String
  | line .. => "line"
  | sendKeys .. => "sendKeys"
  | keys .. => "keys"
  | paste .. => "paste"
  | sleep .. => "sleep"
  | resize .. => "resize"
  | waitFor .. => "waitFor"
  | waitForNot .. => "waitForNot"
  | expect .. => "expect"
  | expectCount .. => "expectCount"
  | waitForExit => "waitForExit"
  | capture .. => "capture"
  | waitForStable .. => "waitForStable"
  | call .. => "macro"
  | mouse .. => "mouse"
  | scroll .. => "scroll"

namespace Step

def typeName (step : Step) : String :=
  step.kind.typeName

def ofKind (kind : StepKind) : Step :=
  { kind }

def withId (id : String) (step : Step) : Step :=
  { step with common := { step.common with id := some id } }

def line (text : String) : Step :=
  ofKind (.line text none none)

def waitFor (matcher : Matcher) : Step :=
  ofKind (.waitFor matcher)

def expect (matcher : Matcher) : Step :=
  ofKind (.expect matcher)

def call (name : String) (args : List (String × Json.Value)) : Step :=
  ofKind (.call name (some args))

end Step

end TerminalScript
