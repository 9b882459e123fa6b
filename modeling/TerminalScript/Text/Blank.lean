import TerminalScript.Unicode.Property

/-!
Blank characters, and text without those at its ends.
-/

namespace TerminalScript.Text

def isBlank (c : Char) : Bool :=
  if c.val < 128 then c = ' ' || (9 ≤ c.val && c.val ≤ 13)
  else Unicode.whiteSpace.contains c.toNat

def trimEnd (chars : List Char) : List Char :=
  (chars.reverse.dropWhile isBlank).reverse

def trim (text : String) : String :=
  String.ofList (trimEnd (text.toList.dropWhile isBlank))

end TerminalScript.Text
