/-!
The modes of a terminal that a process can set, reset and ask for.
-/

namespace TerminalScript.Terminal

inductive Mode
  | insert
  | newLine
  | cursorKeys
  | origin
  | lineWrap
  | blinkingCursor
  | showCursor
  | mouseClicks
  | mouseDrag
  | mouseMotion
  | focusEvents
  | utf8Mouse
  | sgrMouse
  | alternateScroll
  | urgencyHints
  | alternateScreen
  | bracketedPaste
  deriving Inhabited, DecidableEq

namespace Mode

def standardCodes : List (Nat × Mode) :=
  [(4, insert), (20, newLine)]

def privateCodes : List (Nat × Mode) :=
  [(1, cursorKeys), (6, origin), (7, lineWrap), (12, blinkingCursor), (25, showCursor),
    (1000, mouseClicks), (1002, mouseDrag), (1003, mouseMotion), (1004, focusEvents),
    (1005, utf8Mouse), (1006, sgrMouse), (1007, alternateScroll), (1042, urgencyHints),
    (1049, alternateScreen), (2004, bracketedPaste)]

def columnCode : Nat := 3

def synchronizedCode : Nat := 2026

def rivals : Mode → List Mode
  | mouseClicks => [mouseDrag, mouseMotion]
  | mouseDrag => [mouseClicks, mouseMotion]
  | mouseMotion => [mouseClicks, mouseDrag]
  | utf8Mouse => [sgrMouse]
  | sgrMouse => [utf8Mouse]
  | _ => []

def initial : List Mode :=
  [showCursor, lineWrap, alternateScroll, urgencyHints]

def set (mode : Mode) (modes : List Mode) : List Mode :=
  mode :: modes.filter fun other => other ≠ mode ∧ !mode.rivals.contains other

def unset (mode : Mode) (modes : List Mode) : List Mode :=
  modes.filter (· ≠ mode)

def reportOf (modes : List Mode) : Option Mode → Nat
  | none => 0
  | some mode => if modes.contains mode then 1 else 2

end Mode

end TerminalScript.Terminal
