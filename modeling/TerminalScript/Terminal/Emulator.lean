import TerminalScript.Terminal.Mode
import TerminalScript.Terminal.Reflow
import TerminalScript.Unicode.Width

/-!
A terminal: two grids, of which one is shown, the modes, the tab stops and the scrolling region,
and what writing and the movements of the cursor do to them.
-/

namespace TerminalScript.Terminal

structure Emulator where
  grid : Grid
  hidden : Grid
  modes : List Mode := Mode.initial
  charset : Nat := 0
  tabStops : Array Bool
  top : Nat := 0
  bottom : Nat
  printed : Option Char := none
  replies : String := ""
  deriving Inhabited

namespace Emulator

def isTabColumn (column : Nat) : Bool :=
  column % 8 = 0

def standardTabStops (columns : Nat) : Array Bool :=
  ((List.range columns).map isTabColumn).toArray

def new (columns lines limit : Nat) : Emulator :=
  { grid := .new columns lines limit
    hidden := .new columns lines 0
    tabStops := standardTabStops columns
    bottom := lines }

def has (emulator : Emulator) (mode : Mode) : Bool :=
  emulator.modes.contains mode

def columns (emulator : Emulator) : Nat :=
  emulator.grid.columns

def lines (emulator : Emulator) : Nat :=
  emulator.grid.lines

def cursor (emulator : Emulator) : Cursor :=
  emulator.grid.cursor

def modifyGrid (change : Grid → Grid) (emulator : Emulator) : Emulator :=
  { emulator with grid := change emulator.grid }

def modifyCursor (change : Cursor → Cursor) (emulator : Emulator) : Emulator :=
  emulator.modifyGrid fun grid => grid.modifyCursor change

def modifyPen (change : Pen → Pen) (emulator : Emulator) : Emulator :=
  emulator.modifyCursor fun cursor => { cursor with pen := change cursor.pen }

def reply (text : String) (emulator : Emulator) : Emulator :=
  { emulator with replies := emulator.replies ++ text }

/-! Scrolling. -/

def scrollUpFrom (origin count : Nat) (emulator : Emulator) : Emulator :=
  let count := min count (emulator.bottom - emulator.top)
  emulator.modifyGrid fun grid => grid.scrollUp origin emulator.bottom count

def scrollDownFrom (origin count : Nat) (emulator : Emulator) : Emulator :=
  let count := min (min count (emulator.bottom - emulator.top)) (emulator.bottom - origin)
  emulator.modifyGrid fun grid => grid.scrollDown origin emulator.bottom count

def scrollUp (count : Nat) (emulator : Emulator) : Emulator :=
  emulator.scrollUpFrom emulator.top count

def scrollDown (count : Nat) (emulator : Emulator) : Emulator :=
  emulator.scrollDownFrom emulator.top count

def inRegion (emulator : Emulator) : Bool :=
  emulator.top ≤ emulator.cursor.line && emulator.cursor.line < emulator.bottom

def insertLines (count : Nat) (emulator : Emulator) : Emulator :=
  if emulator.inRegion then emulator.scrollDownFrom emulator.cursor.line count else emulator

def deleteLines (count : Nat) (emulator : Emulator) : Emulator :=
  let origin := emulator.cursor.line
  let count := min count (emulator.lines - origin)
  if count > 0 ∧ emulator.inRegion then emulator.scrollUpFrom origin count else emulator

/-! Movements of the cursor. -/

def goto (line : Int) (column : Nat) (emulator : Emulator) : Emulator :=
  let (offset, last) :=
    if emulator.has .origin then (emulator.top, emulator.bottom - 1) else (0, emulator.lines - 1)
  emulator.modifyCursor fun cursor =>
    { cursor with
      line := (min (line + offset) last).toNat
      column := min column (emulator.columns - 1)
      wrapPending := false }

def gotoLine (line : Int) (emulator : Emulator) : Emulator :=
  emulator.goto line emulator.cursor.column

def gotoColumn (column : Nat) (emulator : Emulator) : Emulator :=
  -- In origin mode the line counts anew from the scrolling region.
  emulator.goto emulator.cursor.line column

def moveLines (distance : Int) (emulator : Emulator) : Emulator :=
  emulator.goto (emulator.cursor.line + distance) emulator.cursor.column

def moveLinesToStart (distance : Int) (emulator : Emulator) : Emulator :=
  emulator.goto (emulator.cursor.line + distance) 0

def setColumn (column : Nat) (emulator : Emulator) : Emulator :=
  emulator.modifyCursor fun cursor => { cursor with column, wrapPending := false }

def moveForward (count : Nat) (emulator : Emulator) : Emulator :=
  emulator.setColumn (min (emulator.cursor.column + count) (emulator.columns - 1))

def moveBackward (count : Nat) (emulator : Emulator) : Emulator :=
  emulator.setColumn (emulator.cursor.column - count)

def carriageReturn (emulator : Emulator) : Emulator :=
  emulator.setColumn 0

def backspace (emulator : Emulator) : Emulator :=
  if emulator.cursor.column > 0 then emulator.moveBackward 1 else emulator

def lineFeed (emulator : Emulator) : Emulator :=
  let next := emulator.cursor.line + 1
  if next = emulator.bottom then emulator.scrollUp 1
  else if next < emulator.lines then
    emulator.modifyCursor fun cursor => { cursor with line := next }
  else emulator

def reverseLineFeed (emulator : Emulator) : Emulator :=
  if emulator.cursor.line = emulator.top then emulator.scrollDown 1
  else emulator.modifyCursor fun cursor => { cursor with line := cursor.line - 1 }

def saveCursor (emulator : Emulator) : Emulator :=
  emulator.modifyGrid fun grid => { grid with saved := grid.cursor }

def restoreCursor (emulator : Emulator) : Emulator :=
  emulator.modifyGrid fun grid => { grid with cursor := grid.saved }

def setRegion (first : Nat) (last : Option Nat) (emulator : Emulator) : Emulator :=
  -- Lines are counted from one, and a region without lines is no region.
  let last := last.getD emulator.lines
  if first ≥ last then emulator
  else
    { emulator with
      top := min (first - 1) emulator.lines
      bottom := min last emulator.lines }.goto 0 0

/-! Writing. -/

def drawings : List (Char × Char) :=
  [('_', ' '), (Char.ofNat 0x60, '◆'), ('a', '▒'), ('b', '\u2409'), ('c', '\u240c'),
    ('d', '\u240d'), ('e', '\u240a'), ('f', '°'), ('g', '±'), ('h', '\u2424'), ('i', '\u240b'),
    ('j', '┘'), ('k', '┐'), ('l', '┌'), ('m', '└'), ('n', '┼'), ('o', '⎺'), ('p', '⎻'),
    ('q', '─'), ('r', '⎼'), ('s', '⎽'), ('t', '├'), ('u', '┤'), ('v', '┴'), ('w', '┬'),
    ('x', '│'), ('y', '≤'), ('z', '≥'), ('\x7b', 'π'), ('|', '≠'), ('\x7d', '£'), ('~', '·')]

def mapped (emulator : Emulator) (c : Char) : Char :=
  match emulator.cursor.charsets[emulator.charset]?.getD .ascii with
  | .ascii => c
  | .lineDrawing => (drawings.lookup c).getD c

def breakWide (grid : Grid) : Grid :=
  -- The filler that a wide character left at the end of the row above goes as well.
  let cursor := grid.cursor
  let cell := grid.cursorCell
  if cell.part = .wide ∨ cell.part = .spacer then
    let grid :=
      if cell.part = .wide ∧ cursor.column < grid.columns - 1 then
        grid.modifyCell cursor.line (cursor.column + 1) (Cell.without .spacer)
      else if cursor.column > 0 then
        grid.modifyCell cursor.line (cursor.column - 1) Cell.clearWide
      else grid
    if cursor.column ≤ 1 then
      grid.modifyRowAbove cursor.line fun row =>
        row.modify (grid.columns - 1) (Cell.without .filler)
    else grid
  else grid

def put (c : Char) (part : Part) (emulator : Emulator) : Emulator :=
  let char := emulator.mapped c
  emulator.modifyGrid fun grid =>
    (breakWide grid).modifyCursorCell fun _ => { char, pen := grid.cursor.pen, part }

def wrapLine (emulator : Emulator) : Emulator :=
  if emulator.has .lineWrap then
    let emulator := emulator.modifyGrid fun grid =>
      grid.modifyCursorCell fun cell => { cell with wrapped := true }
    let emulator :=
      if emulator.cursor.line + 1 ≥ emulator.bottom then emulator.lineFeed
      else emulator.modifyCursor fun cursor => { cursor with line := cursor.line + 1 }
    emulator.carriageReturn
  else emulator

def putMark (c : Char) (emulator : Emulator) : Emulator :=
  emulator.modifyGrid fun grid =>
    let cursor := grid.cursor
    let column := if cursor.wrapPending then cursor.column else cursor.column - 1
    let column := if (grid.cell cursor.line column).part = .spacer then column - 1 else column
    grid.modifyCell cursor.line column fun cell => { cell with marks := cell.marks ++ [c] }

def advance (emulator : Emulator) : Emulator :=
  emulator.modifyCursor fun cursor =>
    if cursor.column + 1 < emulator.columns then { cursor with column := cursor.column + 1 }
    else { cursor with wrapPending := true }

def putWide (c : Char) (emulator : Emulator) : Emulator :=
  let emulator := emulator.put c .wide
  let emulator := emulator.modifyCursor fun cursor => { cursor with column := cursor.column + 1 }
  (emulator.put ' ' .spacer).advance

def makeRoom (width : Nat) (emulator : Emulator) : Emulator :=
  if emulator.has .insert ∧ emulator.cursor.column + width < emulator.columns then
    emulator.modifyGrid fun grid =>
      grid.modifyRow grid.cursor.line fun row => row.shift grid.cursor.column width
  else emulator

def write (c : Char) (emulator : Emulator) : Emulator :=
  match Unicode.width? c with
  | none => emulator
  | some 0 => emulator.putMark c
  | some width =>
      let emulator := if emulator.cursor.wrapPending then emulator.wrapLine else emulator
      let emulator := emulator.makeRoom width
      if width = 1 then (emulator.put c .whole).advance
      else if emulator.cursor.column + 1 < emulator.columns then emulator.putWide c
      else if emulator.has .lineWrap then (emulator.put ' ' .filler).wrapLine.putWide c
      else emulator.modifyCursor fun cursor => { cursor with wrapPending := true }

def print (c : Char) (emulator : Emulator) : Emulator :=
  { emulator.write c with printed := some c }

def writeTimes (c : Char) : Nat → Emulator → Emulator
  | 0, emulator => emulator
  | count + 1, emulator => writeTimes c count (emulator.write c)

def repeatPrinted (count : Nat) (emulator : Emulator) : Emulator :=
  match emulator.printed with
  | some c => emulator.writeTimes c count
  | none => emulator

/-! Erasing. -/

def eraseCells (start stop : Nat) (emulator : Emulator) : Emulator :=
  emulator.modifyGrid fun grid =>
    grid.modifyRow grid.cursor.line fun row => row.erase start stop grid.background

def insertCells (count : Nat) (emulator : Emulator) : Emulator :=
  emulator.modifyGrid fun grid =>
    grid.modifyRow grid.cursor.line fun row => row.insert grid.cursor.column count grid.background

def deleteCells (count : Nat) (emulator : Emulator) : Emulator :=
  emulator.modifyGrid fun grid =>
    grid.modifyRow grid.cursor.line fun row => row.delete grid.cursor.column count grid.background

def eraseAhead (count : Nat) (emulator : Emulator) : Emulator :=
  emulator.eraseCells emulator.cursor.column (emulator.cursor.column + count)

def eraseLeft (emulator : Emulator) : Emulator :=
  emulator.eraseCells 0 (emulator.cursor.column + 1)

def eraseRight (emulator : Emulator) : Emulator :=
  emulator.eraseCells emulator.cursor.column emulator.columns

def eraseLines (start stop : Nat) (emulator : Emulator) : Emulator :=
  emulator.modifyGrid fun grid => grid.eraseLines start stop

def eraseLineRight (emulator : Emulator) : Emulator :=
  if emulator.cursor.wrapPending then emulator else emulator.eraseRight

def eraseBelow (emulator : Emulator) : Emulator :=
  emulator.eraseRight.eraseLines (emulator.cursor.line + 1) emulator.lines

def eraseAbove (emulator : Emulator) : Emulator :=
  let line := emulator.cursor.line
  (if line > 1 then emulator.eraseLines 0 line else emulator).eraseLeft

def eraseAll (emulator : Emulator) : Emulator :=
  -- What was on the main screen becomes history.
  if emulator.has .alternateScreen then emulator.eraseLines 0 emulator.lines
  else emulator.modifyGrid Grid.clearScreen

def fillScreen (emulator : Emulator) : Emulator :=
  emulator.modifyGrid fun grid =>
    { grid with
      screen := Array.replicate grid.lines (Array.replicate grid.columns { char := 'E' }) }

/-! Tab stops. -/

def isTabStop (emulator : Emulator) (column : Nat) : Bool :=
  emulator.tabStops[column]?.getD false

def tabAfter (emulator : Emulator) (column : Nat) : Nat → Nat
  | 0 => column
  | fuel + 1 =>
      if column + 1 ≥ emulator.columns then column
      else if emulator.isTabStop (column + 1) then column + 1
      else emulator.tabAfter (column + 1) fuel

def tabBefore? (emulator : Emulator) : Nat → Option Nat
  | 0 => none
  | column + 1 => if emulator.isTabStop column then some column else emulator.tabBefore? column

def moveToTab (emulator : Emulator) : Emulator :=
  emulator.modifyCursor fun cursor =>
    { cursor with column := emulator.tabAfter cursor.column emulator.columns }

def tab (emulator : Emulator) : Emulator :=
  -- A tab is written into an empty cell. In a full line it only wraps.
  if emulator.cursor.wrapPending then emulator.wrapLine
  else
    let mark := emulator.mapped '\t'
    let emulator := emulator.modifyGrid fun grid =>
      grid.modifyCursorCell fun cell => if cell.char = ' ' then { cell with char := mark } else cell
    emulator.moveToTab

def moveTabsForward : Nat → Emulator → Emulator
  | 0, emulator => emulator
  | count + 1, emulator => moveTabsForward count emulator.moveToTab

def moveToTabBefore (emulator : Emulator) : Emulator :=
  emulator.modifyCursor fun cursor =>
    { cursor with column := (emulator.tabBefore? cursor.column).getD cursor.column }

def moveTabsBackward : Nat → Emulator → Emulator
  | 0, emulator => emulator
  | count + 1, emulator => moveTabsBackward count emulator.moveToTabBefore

def setTabStop (stop : Bool) (emulator : Emulator) : Emulator :=
  { emulator with tabStops := emulator.tabStops.setIfInBounds emulator.cursor.column stop }

def clearTabStops (emulator : Emulator) : Emulator :=
  { emulator with tabStops := emulator.tabStops.map fun _ => false }

def resetTabStops (emulator : Emulator) : Emulator :=
  { emulator with tabStops := standardTabStops emulator.columns }

/-! Modes. -/

def swapScreens (emulator : Emulator) : Emulator :=
  -- The alternate screen starts empty, with the cursor of the main one.
  if emulator.has .alternateScreen then
    { emulator with
      grid := emulator.hidden
      hidden := emulator.grid
      modes := Mode.unset .alternateScreen emulator.modes }
  else
    let cursor := emulator.cursor
    let alternate := { emulator.hidden with cursor }
    { emulator with
      grid := alternate.eraseLines 0 alternate.lines
      hidden := { emulator.grid with saved := cursor }
      modes := Mode.set .alternateScreen emulator.modes }

def setMode (mode : Mode) (emulator : Emulator) : Emulator :=
  match mode with
  | .alternateScreen =>
      if emulator.has .alternateScreen then emulator else emulator.swapScreens
  | .origin => { emulator with modes := Mode.set mode emulator.modes }.goto 0 0
  | _ => { emulator with modes := Mode.set mode emulator.modes }

def unsetMode (mode : Mode) (emulator : Emulator) : Emulator :=
  match mode with
  | .alternateScreen =>
      if emulator.has .alternateScreen then emulator.swapScreens else emulator
  | _ => { emulator with modes := Mode.unset mode emulator.modes }

def changeColumns (emulator : Emulator) : Emulator :=
  -- A change of the number of columns keeps the columns but erases the screen.
  (emulator.setRegion 1 none).eraseLines 0 emulator.lines

def setCharset (index : Nat) (charset : Charset) (emulator : Emulator) : Emulator :=
  emulator.modifyCursor fun cursor =>
    { cursor with charsets := cursor.charsets.setIfInBounds index charset }

def reset (emulator : Emulator) : Emulator :=
  let main := if emulator.has .alternateScreen then emulator.hidden else emulator.grid
  { Emulator.new main.columns main.lines main.limit with
    printed := emulator.printed
    replies := emulator.replies }

def resizeTabStops (columns : Nat) (stops : Array Bool) : Array Bool :=
  stops.extract 0 columns ++ (standardTabStops columns).extract stops.size columns

def resize (columns lines : Nat) (emulator : Emulator) : Emulator :=
  if columns = emulator.columns ∧ lines = emulator.lines then emulator
  else
    let alternate := emulator.has .alternateScreen
    { emulator with
      grid := emulator.grid.resize (!alternate) columns lines
      hidden := emulator.hidden.resize alternate columns lines
      tabStops := resizeTabStops columns emulator.tabStops
      top := 0
      bottom := lines }

end Emulator

end TerminalScript.Terminal
