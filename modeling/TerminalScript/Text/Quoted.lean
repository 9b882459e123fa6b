import TerminalScript.Unicode.Category
import TerminalScript.Unicode.Property

/-!
Text in quotes for messages. Whatever would not show as itself is written as an escape: control
and format characters, unassigned code points, blanks other than the space, and marks that join
the character before them.
-/

namespace TerminalScript.Text

def hiddenCategories : List String :=
  ["cc", "cf", "cs", "co", "cn", "zl", "zp", "zs"]

def hiddenClasses : Array Bool :=
  (Unicode.categoryNames.map fun names =>
    hiddenCategories.any fun name => names.contains name).toArray

def isShown (c : Char) : Bool :=
  c = ' ' || !(hiddenClasses[Unicode.categories.classOf c.toNat]?.getD false)

def hexText (value : Nat) : String :=
  String.ofList (Nat.toDigits 16 value)

def unicodeEscape (c : Char) : List Char :=
  "\\u\x7b".toList ++ (hexText c.toNat).toList ++ ['\x7d']

def quoteChar (c : Char) : List Char :=
  match c with
  | '"' => ['\\', '"']
  | '\\' => ['\\', '\\']
  | '\n' => ['\\', 'n']
  | '\r' => ['\\', 'r']
  | '\t' => ['\\', 't']
  | _ =>
      if c.val = 0 then ['\\', '0']
      else if 32 ≤ c.val ∧ c.val < 127 then [c]
      else if Unicode.graphemeExtend.contains c.toNat || !isShown c then
        unicodeEscape c
      else [c]

def quoted (text : String) : String :=
  "\"" ++ String.ofList (text.toList.flatMap quoteChar) ++ "\""

end TerminalScript.Text
