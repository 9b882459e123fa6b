/-!
The cells of a terminal's screen: a character, the marks written over it, and how it is drawn.
-/

namespace TerminalScript.Terminal

inductive Color
  | standard
  | named (index : Nat)
  | indexed (index : Nat)
  | exact (red green blue : Nat)
  deriving Inhabited, DecidableEq

structure Pen where
  foreground : Color := .standard
  background : Color := .standard
  inverse : Bool := false
  underlined : Bool := false
  struck : Bool := false
  deriving Inhabited, DecidableEq

/-- The part a cell plays in a character: all of it, the first or the second half of a wide one,
or the rest of a line for which the next, wide character was too wide. -/
inductive Part
  | whole
  | wide
  | spacer
  | filler
  deriving Inhabited, DecidableEq

structure Cell where
  char : Char := ' '
  marks : List Char := []
  pen : Pen := {}
  part : Part := .whole
  wrapped : Bool := false
  deriving Inhabited, DecidableEq

namespace Cell

def blank (background : Color) : Cell :=
  { pen := { background } }

def filler : Cell :=
  { part := .filler }

def drawsNothing (pen : Pen) : Bool :=
  pen.foreground = .standard && pen.background = .standard && !pen.inverse && !pen.underlined &&
    !pen.struck

def isEmpty (cell : Cell) : Bool :=
  (cell.char = ' ' || cell.char = '\t') && drawsNothing cell.pen && !cell.wrapped &&
    cell.part ≠ .spacer && cell.part ≠ .filler && cell.marks.isEmpty

def clearWide (cell : Cell) : Cell :=
  { cell with
    char := ' '
    marks := []
    part := if cell.part = .wide then .whole else cell.part }

def without (part : Part) (cell : Cell) : Cell :=
  if cell.part = part then { cell with part := .whole } else cell

def isPadding (cell : Cell) : Bool :=
  cell.part = .spacer || cell.part = .filler

end Cell

end TerminalScript.Terminal
