import TerminalScript.Text.Utf8

/-!
Key names and the bytes that a terminal sends for them.
-/

namespace TerminalScript.Keys

def escapeByte : UInt8 := 27

def names : List (String × List UInt8) :=
  [("Enter", [13]), ("Tab", [9]), ("BTab", [27, 91, 90]), ("Escape", [27]), ("Esc", [27]),
    ("BSpace", [127]), ("Backspace", [127]), ("Space", [32]), ("Up", [27, 91, 65]),
    ("Down", [27, 91, 66]), ("Right", [27, 91, 67]), ("Left", [27, 91, 68]),
    ("Home", [27, 91, 72]), ("End", [27, 91, 70]), ("PageUp", [27, 91, 53, 126]),
    ("PPage", [27, 91, 53, 126]), ("PageDown", [27, 91, 54, 126]), ("NPage", [27, 91, 54, 126]),
    ("Insert", [27, 91, 50, 126]), ("IC", [27, 91, 50, 126]), ("Delete", [27, 91, 51, 126]),
    ("DC", [27, 91, 51, 126]), ("F1", [27, 79, 80]), ("F2", [27, 79, 81]), ("F3", [27, 79, 82]),
    ("F4", [27, 79, 83]), ("F5", [27, 91, 49, 53, 126]), ("F6", [27, 91, 49, 55, 126]),
    ("F7", [27, 91, 49, 56, 126]), ("F8", [27, 91, 49, 57, 126]), ("F9", [27, 91, 50, 48, 126]),
    ("F10", [27, 91, 50, 49, 126]), ("F11", [27, 91, 50, 51, 126]),
    ("F12", [27, 91, 50, 52, 126])]

def control? (c : Char) : Option UInt8 :=
  if c.isAlpha then some (c.toLower.toNat % 32).toUInt8
  else if c = '@' ∨ c = ' ' ∨ c = '2' then some 0
  else if c = '[' ∨ c = '3' then some 27
  else if c = '\\' ∨ c = '4' then some 28
  else if c = ']' ∨ c = '5' then some 29
  else if c = '^' ∨ c = '6' then some 30
  else if c = '_' ∨ c = '7' ∨ c = '/' then some 31
  else if c = '?' ∨ c = '8' then some 127
  else none

def encodeBare (token : List Char) : List UInt8 :=
  match names.lookup (String.ofList token) with
  | some bytes => bytes
  | none =>
      match token with
      | ['C', '-', c] =>
          match control? c with
          | some byte => [byte]
          | none => Text.encode (String.ofList token)
      | _ => Text.encode (String.ofList token)

def encodeChars : List Char → List UInt8
  -- A leading `M-` before more text sends an escape. No name starts so.
  | 'M' :: '-' :: c :: rest => escapeByte :: encodeChars (c :: rest)
  | token => encodeBare token

def encode (token : String) : List UInt8 :=
  encodeChars token.toList

end TerminalScript.Keys
