import TerminalScript.Json.Value
import TerminalScript.Decimal.Shortest

/-!
The two written forms of a JSON value: `compact` on one line, `pretty` with two spaces a level.
-/

namespace TerminalScript.Json

/-- Positional from `0.00001` up to seventeen digits; otherwise one digit before the point and a
signed exponent. -/
def realText (number : Float) : String :=
  let (negative, binary) := Decimal.ofFloat number
  let sign := if negative then "-" else ""
  if binary.mantissa = 0 then sign ++ "0.0"
  else
    let shortest := Decimal.shortest binary
    let digits := toString shortest.digits
    let length : Int := digits.length
    let point := length + shortest.exponent
    let zeros (count : Int) := String.ofList (List.replicate count.toNat '0')
    let body :=
      if 0 ≤ shortest.exponent ∧ point ≤ 16 then digits ++ zeros shortest.exponent ++ ".0"
      else if 0 < point ∧ point ≤ 16 then
        (digits.take point.toNat).toString ++ "." ++ (digits.drop point.toNat).toString
      else if -5 < point ∧ point ≤ 0 then "0." ++ zeros (-point) ++ digits
      else
        let tail := if digits.length = 1 then "" else "." ++ (digits.drop 1).toString
        let power := point - 1
        let exponent := if power < 0 then toString power else "+" ++ toString power
        (digits.take 1).toString ++ tail ++ "e" ++ exponent
    sign ++ body

def Number.toText : Number → String
  | .natural value => toString value.toNat
  | .negative value => toString value.toInt
  | .real value => realText value

def hexDigit (value : Nat) : Char :=
  (Nat.digitChar (value % 16))

def escapeChar (c : Char) : List Char :=
  match c with
  | '"' => ['\\', '"']
  | '\\' => ['\\', '\\']
  | '\n' => ['\\', 'n']
  | '\r' => ['\\', 'r']
  | '\t' => ['\\', 't']
  | _ =>
      if c.val = 8 then ['\\', 'b']
      else if c.val = 12 then ['\\', 'f']
      else if c.val < 32 then
        ['\\', 'u', '0', '0', hexDigit (c.toNat / 16), hexDigit c.toNat]
      else [c]

def quote (text : String) : String :=
  "\"" ++ String.ofList (text.toList.flatMap escapeChar) ++ "\""

def separated (separator : String) : List String → String
  | [] => ""
  | [only] => only
  | first :: rest => first ++ separator ++ separated separator rest

namespace Value

mutual

def compact : Value → String
  | null => "null"
  | boolean value => if value then "true" else "false"
  | number value => value.toText
  | text value => quote value
  | array items => "[" ++ separated "," (compactItems items) ++ "]"
  | object fields => "\x7b" ++ separated "," (compactFields fields) ++ "\x7d"

def compactItems : List Value → List String
  | [] => []
  | item :: rest => compact item :: compactItems rest

def compactFields : List (String × Value) → List String
  | [] => []
  | (name, value) :: rest => (quote name ++ ":" ++ compact value) :: compactFields rest

end

def lineBreak (level : Nat) : String :=
  "\n" ++ String.ofList (List.replicate (2 * level) ' ')

mutual

def prettyAt (level : Nat) : Value → String
  | array [] => "[]"
  | array items =>
      "[" ++ lineBreak (level + 1) ++
        separated ("," ++ lineBreak (level + 1)) (prettyItems (level + 1) items) ++
        lineBreak level ++ "]"
  | object [] => "\x7b\x7d"
  | object fields =>
      "\x7b" ++ lineBreak (level + 1) ++
        separated ("," ++ lineBreak (level + 1)) (prettyFields (level + 1) fields) ++
        lineBreak level ++ "\x7d"
  | null => "null"
  | boolean value => if value then "true" else "false"
  | number value => value.toText
  | text value => quote value

def prettyItems (level : Nat) : List Value → List String
  | [] => []
  | item :: rest => prettyAt level item :: prettyItems level rest

def prettyFields (level : Nat) : List (String × Value) → List String
  | [] => []
  | (name, value) :: rest =>
      (quote name ++ ": " ++ prettyAt level value) :: prettyFields level rest

end

def pretty (value : Value) : String :=
  prettyAt 0 value

end Value

end TerminalScript.Json
