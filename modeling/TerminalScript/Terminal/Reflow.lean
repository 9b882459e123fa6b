import TerminalScript.Terminal.Grid

/-!
Changing the size of a grid. Lines that were wrapped are joined again where the new width allows
it, and broken anew where it demands it; the cursor stays with its text. Rows are worked through
from the oldest to the newest, each with the number of rows below it.
-/

namespace TerminalScript.Terminal.Grid

def growLines (grid : Grid) (lines : Nat) : Grid :=
  let added := lines - grid.lines
  let restored := min grid.history.size added
  let kept := grid.history.size - restored
  { grid with
    history := grid.history.extract 0 kept
    screen := grid.history.extract kept grid.history.size ++ grid.screen ++
      Array.replicate (added - restored) (Row.blank grid.columns .standard)
    cursor := { grid.cursor with line := grid.cursor.line + restored }
    saved := { grid.saved with line := grid.saved.line + restored } }

def shrinkLines (grid : Grid) (lines : Nat) : Grid :=
  -- Lines go below the cursor first, and above it once it would leave the screen.
  let above := grid.cursor.line + 1 - lines
  let grid := if above > 0 then grid.scrollUp 0 grid.lines above else grid
  { grid with
    screen := grid.screen.extract 0 lines
    cursor := { grid.cursor with line := min grid.cursor.line (lines - 1) }
    saved := { grid.saved with line := min grid.saved.line (lines - 1) } }

def withDepth : List Row → List (Row × Nat)
  | [] => []
  | row :: rest => (row, rest.length) :: withDepth rest

def ofRows (grid : Grid) (columns lines : Nat) (rows : Array Row) (cursor saved : Cursor) : Grid :=
  let kept := rows.size - lines
  { grid with
    columns
    history := rows.extract 0 kept
    screen := rows.extract kept rows.size
    cursor
    saved }

def release (cursor : Cursor) : Cursor :=
  if cursor.wrapPending then
    { cursor with wrapPending := false, column := cursor.column + 1 }
  else cursor

def stepBack (columns line column count : Nat) : Nat × Nat :=
  let back := (count + columns - 1 - column) / columns
  if line < back then (0, 0)
  else (line - back, min ((columns + column - count % columns) % columns) (columns - 1))

structure Widening where
  rows : List Row := []
  cursor : Cursor
  joined : Nat := 0

namespace Widening

def pull (row : Row) (free : Nat) : Row × Nat × Row :=
  -- A wide character is not split: a filler takes its place.
  let count := min row.size free
  match row[count - 1]? with
  | some cell =>
      if cell.part = .wide then
        ((row.extract 0 (count - 1)).push .filler, free - 1, row.extract (count - 1) row.size)
      else (row.extract 0 count, free, row.extract count row.size)
  | none => (#[], free, row)

def openEnd (row : Row) : Row :=
  let row := row.setWrapped false
  match row.back? with
  | some cell => if cell.part = .filler then row.pop else row
  | none => row

def join (columns lines depth : Nat) (state : Widening) (above : Row) (older : List Row)
    (row : Row) : Widening :=
  let above := openEnd above
  let (moved, gained, rest) := pull row (columns - above.size)
  let above := above ++ moved
  let cursor := state.cursor
  let cursorDepth := lines - cursor.line - 1
  let keep (state : Widening) : Widening :=
    { state with rows := rest :: above.setWrapped true :: older }
  let drop (state : Widening) : Widening := { state with rows := above :: older }
  if depth = cursorDepth then
    let (line, column) := stepBack columns cursor.line cursor.column gained
    let hold := column = 0 && rest.isClear
    let (line, column) := if hold then stepBack columns line column 1 else (line, column)
    let up := cursor.line - line
    let state :=
      { state with
        cursor := { cursor with column, wrapPending := cursor.wrapPending || hold } }
    if up ≠ 0 ∧ rest.isClear then drop state else keep { state with joined := state.joined + up }
  else if rest.isClear then
    let line := if depth < cursorDepth then cursor.line + 1 else cursor.line
    drop { state with cursor := { cursor with line } }
  else keep state

def step (reflow : Bool) (columns lines : Nat) (state : Widening) : Row × Nat → Widening
  | (row, depth) =>
      match state.rows with
      | above :: older =>
          if reflow && above.size < columns && above.isWrapped then
            state.join columns lines depth above older row
          else { state with rows := row :: state.rows }
      | [] => { state with rows := [row] }

def fill (columns lines : Nat) (state : Widening) : Widening :=
  let missing := lines - state.rows.length
  { state with
    rows := List.replicate missing (Row.blank columns .standard) ++ state.rows
    cursor := { state.cursor with line := state.cursor.line - missing } }

def settle (lines : Nat) (state : Widening) : Widening :=
  if state.joined = 0 then state
  else
    let available := min (lines - state.cursor.line - 1) (state.rows.length - lines)
    let overflow := state.joined - available
    { state with
      rows := state.rows.drop (state.joined - overflow)
      cursor := { state.cursor with line := state.cursor.line - overflow } }

end Widening

def growColumns (grid : Grid) (reflow : Bool) (columns : Nat) : Grid :=
  let lines := grid.lines
  let cursor := if reflow then release grid.cursor else grid.cursor
  let state := (withDepth grid.rows).foldl (Widening.step reflow columns lines) { cursor }
  let state := (state.fill columns lines).settle lines
  let rows := (state.rows.reverse.map fun row => row.widen columns).toArray
  ofRows grid columns lines rows state.cursor grid.saved

/-- Rows so far, the newest first, the cells cut off that belong in front of the next row, and
what becomes of the cursor. -/
structure Narrowing where
  rows : List Row := []
  carried : Option Row := none
  cursor : Cursor

namespace Narrowing

def excess (row : Row) (columns : Nat) : Row :=
  let cells := row.extract columns row.size
  cells.extract 0 (cells.size - (cells.toList.reverse.takeWhile Cell.isEmpty).length)

def breakWide (columns : Nat) (row rest : Row) : Row × Row :=
  match row[columns - 1]? with
  | some cell =>
      if cell.part = .wide then (row.setIfInBounds (columns - 1) .filler, #[cell] ++ rest) else (row, rest)
  | none => (row, rest)

def dropFiller (row rest : Row) : Row × Row × Bool :=
  match rest.back? with
  | some cell =>
      if cell.part = .filler then
        if rest.size = 1 then (row.setWrapped true, #[], true)
        else (row, Row.setWrapped rest.pop true, false)
      else (row, rest, false)
  | none => (row, rest, false)

def restWrapped (depth : Nat) (rest : Row) : Bool :=
  depth ≥ 1 && rest.isWrapped

def advance (columns lines depth : Nat) (cursor : Cursor) : Cursor :=
  let here := depth = lines - cursor.line - 1
  let below := depth < lines - cursor.line - 1
  let line := if (here && cursor.column < columns) || below then cursor.line - 1 else cursor.line
  let column :=
    if here && cursor.column ≥ columns then cursor.column - columns else cursor.column
  { cursor with line, column }

def split (reflow : Bool) (columns lines depth : Nat) (state : Narrowing) (row : Row) :
    Nat → Narrowing
  | 0 => { state with rows := row :: state.rows }
  | fuel + 1 =>
      let rest := excess row columns
      let kept := row.extract 0 columns
      let cursor := state.cursor
      let blankBefore := depth = lines - cursor.line - 1 && cursor.column > columns
      if !reflow || (rest.isEmpty && !blankBefore) then { state with rows := kept :: state.rows }
      else
        let (kept, rest) := breakWide columns kept rest
        let (kept, rest, finished) := dropFiller kept rest
        if finished then { state with rows := kept :: state.rows }
        else
          let state := { state with rows := kept.setWrapped true :: state.rows }
          if restWrapped depth rest then { state with carried := some (rest.setWrapped false) }
          else
            split reflow columns lines depth
              { state with cursor := advance columns lines depth cursor } (rest.widen columns) fuel

def receive (lines depth : Nat) (state : Narrowing) (row : Row) : Narrowing × Row :=
  match state.carried with
  | none => (state, row)
  | some cells =>
      let cursor := state.cursor
      let column :=
        if depth = lines - cursor.line - 1 then cursor.column + cells.size else cursor.column
      ({ state with carried := none, cursor := { cursor with column } }, cells ++ row)

def step (reflow : Bool) (columns lines : Nat) (state : Narrowing) : Row × Nat → Narrowing
  | (row, depth) =>
      let (state, row) := state.receive lines depth row
      split reflow columns lines depth state row (row.size + state.cursor.column + 2)

end Narrowing

def anchor (columns : Nat) (reflow : Bool) (screen : Array Row) (cursor : Cursor) : Cursor :=
  -- Behind the last column the cursor waits to wrap, unless the line goes on.
  if !reflow then { cursor with column := min cursor.column (columns - 1) }
  else if cursor.column = columns ∧ !(screen[cursor.line]?.getD #[]).isWrapped then
    { cursor with wrapPending := true, column := cursor.column - 1 }
  else { cursor with column := min cursor.column (columns - 1) }

def shrinkColumns (grid : Grid) (reflow : Bool) (columns : Nat) : Grid :=
  let lines := grid.lines
  let cursor := if reflow then release grid.cursor else grid.cursor
  let state := (withDepth grid.rows).foldl (Narrowing.step reflow columns lines) { cursor }
  let rows := newest (grid.limit + lines) state.rows.reverse.toArray
  let saved := { grid.saved with column := min grid.saved.column (columns - 1) }
  let grid := ofRows grid columns lines rows state.cursor saved
  { grid with cursor := anchor columns reflow grid.screen grid.cursor }

def resize (grid : Grid) (reflow : Bool) (columns lines : Nat) : Grid :=
  -- The lines change first, then the columns. New cells have no background of their own.
  let pen := grid.cursor.pen
  let grid := grid.modifyCursor fun cursor => { cursor with pen := {} }
  let grid :=
    if grid.lines < lines then grid.growLines lines
    else if lines < grid.lines then grid.shrinkLines lines
    else grid
  let grid :=
    if grid.columns < columns then grid.growColumns reflow columns
    else if columns < grid.columns then grid.shrinkColumns reflow columns
    else grid
  grid.modifyCursor fun cursor => { cursor with pen }

end TerminalScript.Terminal.Grid
