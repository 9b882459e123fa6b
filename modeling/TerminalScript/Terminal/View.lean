import TerminalScript.Digest.Sha256
import TerminalScript.Json.Printer
import TerminalScript.Terminal.Grid
import TerminalScript.Text.Blank

/-!
The text of a grid: lines without blanks at their ends, and no empty lines at the end.
-/

namespace TerminalScript.Terminal

def Cell.text (cell : Cell) : List Char :=
  if cell.isPadding then [] else cell.char :: cell.marks

def Row.text (row : Row) : List Char :=
  Text.trimEnd (row.toList.flatMap Cell.text)

namespace Grid

def trimLines (lines : List (List Char)) : List (List Char) :=
  (lines.reverse.dropWhile (·.isEmpty)).reverse

def screenLines (grid : Grid) : List (List Char) :=
  trimLines (grid.screen.toList.map Row.text)

def allLines (grid : Grid) : List (List Char) :=
  trimLines (grid.rows.map Row.text)

def lastLines (grid : Grid) (count : Nat) : List (List Char) :=
  grid.allLines.drop (grid.allLines.length - count)

def joinLines (lines : List (List Char)) : String :=
  Json.separated "\n" (lines.map String.ofList)

def screenText (grid : Grid) : String :=
  joinLines grid.screenLines

def scrollbackText (grid : Grid) (count : Nat) : String :=
  joinLines (grid.lastLines count)

def littleEndian (value : Nat) : Nat → List UInt8
  | 0 => []
  | count + 1 => (value % 256).toUInt8 :: littleEndian (value / 256) count

def fingerprint (grid : Grid) : List UInt8 :=
  grid.screen.toList.flatMap
      (fun row => row.toList.flatMap fun cell => String.utf8EncodeChar cell.char) ++
    littleEndian grid.cursor.line 4 ++ littleEndian grid.cursor.column 8

def screenHash (grid : Grid) : String :=
  Digest.sha256Hex grid.fingerprint

end Grid

end TerminalScript.Terminal
