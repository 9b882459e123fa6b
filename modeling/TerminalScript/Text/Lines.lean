import TerminalScript.Files.Path

/-!
Lines of text. A line ends with a line feed, before which one carriage return belongs to the end.
-/

namespace TerminalScript.Text

def dropReturn (line : List Char) : List Char :=
  if line.getLast? = some '\r' then line.dropLast else line

def linesOfParts : List (List Char) → List (List Char)
  | [] => []
  | [last] => if last = [] then [] else [last]
  | part :: rest => dropReturn part :: linesOfParts rest

def lines (text : String) : List String :=
  (linesOfParts (Path.cut '\n' [] text.toList)).map String.ofList

end TerminalScript.Text
