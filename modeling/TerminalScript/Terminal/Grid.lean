import TerminalScript.Terminal.Cell

/-!
The rows of a screen and of its history. Rows that leave the screen at its top become history,
of which only the newest are kept.
-/

namespace TerminalScript.Terminal

abbrev Row := Array Cell

namespace Row

def blank (columns : Nat) (background : Color) : Row :=
  Array.replicate columns (.blank background)

def erase (row : Row) (start stop : Nat) (background : Color) : Row :=
  row.extract 0 start ++ Array.replicate (min stop row.size - start) (.blank background) ++
    row.extract (max start stop) row.size

def insert (row : Row) (column count : Nat) (background : Color) : Row :=
  let count := min count (row.size - column)
  row.extract 0 column ++ Array.replicate count (.blank background) ++
    row.extract column (row.size - count)

def delete (row : Row) (column count : Nat) (background : Color) : Row :=
  -- As many cells are erased at the end as were to be deleted, even if there were fewer.
  let count := min count row.size
  let kept := if column + count ≤ row.size then row.extract 0 column else #[]
  let moved := if column + count ≤ row.size then row.extract (column + count) row.size
    else row.extract 0 (row.size - count)
  kept ++ moved ++ Array.replicate count (.blank background)

def shift (row : Row) (column count : Nat) : Row :=
  -- The cells at the end come round to the free places, to be overwritten there.
  (List.range (row.size - count - column)).foldr
    (fun offset row => row.swapIfInBounds (column + offset + count) (column + offset)) row

def isClear (row : Row) : Bool :=
  row.all Cell.isEmpty

def isWrapped (row : Row) : Bool :=
  match row.back? with
  | some cell => cell.wrapped
  | none => false

def setWrapped (row : Row) (wrapped : Bool) : Row :=
  row.modify (row.size - 1) fun cell => { cell with wrapped }

def widen (row : Row) (columns : Nat) : Row :=
  row ++ Array.replicate (columns - row.size) (Cell.blank .standard)

end Row

inductive Charset
  | ascii
  | lineDrawing
  deriving Inhabited, DecidableEq

structure Cursor where
  line : Nat := 0
  column : Nat := 0
  pen : Pen := {}
  charsets : Array Charset := #[.ascii, .ascii, .ascii, .ascii]
  wrapPending : Bool := false
  deriving Inhabited, DecidableEq

structure Grid where
  columns : Nat
  limit : Nat
  history : Array Row := #[]
  screen : Array Row
  cursor : Cursor := {}
  saved : Cursor := {}
  deriving Inhabited, DecidableEq

namespace Grid

def new (columns lines limit : Nat) : Grid :=
  { columns, limit, screen := Array.replicate lines (Row.blank columns .standard) }

def lines (grid : Grid) : Nat :=
  grid.screen.size

def rows (grid : Grid) : List Row :=
  grid.history.toList ++ grid.screen.toList

def background (grid : Grid) : Color :=
  grid.cursor.pen.background

def blankRow (grid : Grid) : Row :=
  Row.blank grid.columns grid.background

def modifyCursor (grid : Grid) (change : Cursor → Cursor) : Grid :=
  { grid with cursor := change grid.cursor }

def modifyRow (grid : Grid) (line : Nat) (change : Row → Row) : Grid :=
  { grid with screen := grid.screen.modify line change }

def modifyCell (grid : Grid) (line column : Nat) (change : Cell → Cell) : Grid :=
  grid.modifyRow line fun row => row.modify column change

def modifyRowAbove (grid : Grid) (line : Nat) (change : Row → Row) : Grid :=
  if line = 0 then { grid with history := grid.history.modify (grid.history.size - 1) change }
  else grid.modifyRow (line - 1) change

def cell (grid : Grid) (line column : Nat) : Cell :=
  (grid.screen[line]?.getD #[])[column]?.getD {}

def cursorCell (grid : Grid) : Cell :=
  grid.cell grid.cursor.line grid.cursor.column

def modifyCursorCell (grid : Grid) (change : Cell → Cell) : Grid :=
  grid.modifyCell grid.cursor.line grid.cursor.column change

def eraseLines (grid : Grid) (start stop : Nat) : Grid :=
  { grid with
    screen := grid.screen.extract 0 start ++
      Array.replicate (min stop grid.lines - start) grid.blankRow ++
      grid.screen.extract (max start stop) grid.lines }

def newest (limit : Nat) (rows : Array Row) : Array Row :=
  if rows.size ≤ limit then rows else rows.extract (rows.size - limit) rows.size

def scrollUp (grid : Grid) (start stop count : Nat) : Grid :=
  -- The lines become history if the region starts at the top.
  if start ≠ 0 ∧ stop - start ≤ count then grid.eraseLines start stop
  else
    let history :=
      if start = 0 then newest grid.limit (grid.history ++ grid.screen.extract 0 count)
      else grid.history
    let screen := grid.screen.extract 0 start ++ grid.screen.extract (start + count) stop ++
      Array.replicate (min count (stop - start)) grid.blankRow ++
      grid.screen.extract stop grid.lines
    { grid with history, screen }

def scrollDown (grid : Grid) (start stop count : Nat) : Grid :=
  if stop - start ≤ count then grid.eraseLines start stop
  else
    { grid with
      screen := grid.screen.extract 0 start ++ Array.replicate count grid.blankRow ++
        grid.screen.extract start (stop - count) ++ grid.screen.extract stop grid.lines }

def usedLines (grid : Grid) : Nat :=
  -- With nothing on the screen, one line counts as used unless there is history.
  let used := grid.lines - (grid.screen.toList.reverse.takeWhile Row.isClear).length
  if used = 0 ∧ grid.history.isEmpty then 1 else used

def clearScreen (grid : Grid) : Grid :=
  (grid.scrollUp 0 grid.lines grid.usedLines).eraseLines 0 grid.lines

def clearHistory (grid : Grid) : Grid :=
  { grid with history := #[] }

end Grid

end TerminalScript.Terminal
