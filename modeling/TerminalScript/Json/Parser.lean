import TerminalScript.Json.Value

/-!
Reading JSON text. `parse?` takes the whole text or nothing; nesting is bounded, and a name that an
object repeats keeps its last value.
-/

namespace TerminalScript.Json

def isBlank (c : Char) : Bool :=
  c = ' ' || c = '\n' || c = '\t' || c = '\r'

def skipBlanks : List Char → List Char
  | c :: rest => if isBlank c then skipBlanks rest else c :: rest
  | [] => []

def digit? (c : Char) : Option Nat :=
  if c.isDigit then some (c.toNat - 48) else none

def hexValue? (c : Char) : Option Nat :=
  if c.isDigit then some (c.toNat - 48)
  else if 'a' ≤ c ∧ c ≤ 'f' then some (c.toNat - 87)
  else if 'A' ≤ c ∧ c ≤ 'F' then some (c.toNat - 55)
  else none

def hexFour? : List Char → Option (Nat × List Char)
  | a :: b :: c :: d :: rest => do
      let a ← hexValue? a
      let b ← hexValue? b
      let c ← hexValue? c
      let d ← hexValue? d
      pure (((a * 16 + b) * 16 + c) * 16 + d, rest)
  | _ => none

def unicodeEscape? (chars : List Char) : Option (Char × List Char) := do
  let (unit, rest) ← hexFour? chars
  if 0xD800 ≤ unit ∧ unit < 0xDC00 then
    match rest with
    | '\\' :: 'u' :: rest =>
        let (low, rest) ← hexFour? rest
        if 0xDC00 ≤ low ∧ low < 0xE000 then
          pure (Char.ofNat (0x10000 + (unit - 0xD800) * 0x400 + (low - 0xDC00)), rest)
        else none
    | _ => none
  else if 0xDC00 ≤ unit ∧ unit < 0xE000 then none
  else pure (Char.ofNat unit, rest)

def simpleEscape? : Char → Option Char
  | '"' => some '"'
  | '\\' => some '\\'
  | '/' => some '/'
  | 'b' => some (Char.ofNat 8)
  | 'f' => some (Char.ofNat 12)
  | 'n' => some '\n'
  | 'r' => some '\r'
  | 't' => some '\t'
  | _ => none

def stringTail? (read : List Char) : Nat → List Char → Option (String × List Char)
  | 0, _ => none
  | _, [] => none
  | fuel + 1, c :: rest =>
      if c = '"' then some (String.ofList read.reverse, rest)
      else if c = '\\' then
        match rest with
        | 'u' :: rest =>
            match unicodeEscape? rest with
            | some (c, rest) => stringTail? (c :: read) fuel rest
            | none => none
        | c :: rest =>
            match simpleEscape? c with
            | some c => stringTail? (c :: read) fuel rest
            | none => none
        | [] => none
      else if c.val < 32 then none
      else stringTail? (c :: read) fuel rest

/-- A significand of at most 64 bits and a power of ten, combined by floating point products and
quotients; too large a result has no value. -/
def realOfParts? (significand : Nat) (power : Int) : Option Float :=
  let rec shrink (value : Float) (power : Int) : Nat → Option Float
    | 0 => some value
    | fuel + 1 =>
        if power.natAbs ≤ 308 then
          let factor := Float.ofScientific 1 false power.natAbs
          if power ≥ 0 then
            let product := value * factor
            if product.isInf then none else some product
          else some (value / factor)
        else if value == 0.0 then some value
        else if power ≥ 0 then none
        else shrink (value / Float.ofScientific 1 false 308) (power + 308) fuel
  shrink (Float.ofNat significand) power (power.natAbs / 308 + 2)

structure Numeral where
  significand : Nat
  power : Int
  real : Bool
  full : Bool

def limit64 : Nat := UInt64.size

def wholeDigits (numeral : Numeral) : List Char → Numeral × List Char
  | [] => (numeral, [])
  | c :: rest =>
      match digit? c with
      | none => (numeral, c :: rest)
      | some digit =>
          let next := numeral.significand * 10 + digit
          if numeral.full ∨ next ≥ limit64 then
            wholeDigits { numeral with power := numeral.power + 1, real := true, full := true } rest
          else wholeDigits { numeral with significand := next } rest

def fractionDigits (numeral : Numeral) : List Char → Numeral × List Char
  | [] => (numeral, [])
  | c :: rest =>
      match digit? c with
      | none => (numeral, c :: rest)
      | some digit =>
          let next := numeral.significand * 10 + digit
          if numeral.full ∨ next ≥ limit64 then
            fractionDigits { numeral with full := true } rest
          else fractionDigits { numeral with significand := next, power := numeral.power - 1 } rest

def startsWithDigit : List Char → Bool
  | c :: _ => c.isDigit
  | [] => false

def takeDigits (value : Nat) : List Char → Nat × List Char
  | [] => (value, [])
  | c :: rest =>
      match digit? c with
      | none => (value, c :: rest)
      | some digit => takeDigits (value * 10 + digit) rest

def largestExponent : Nat := 0x7FFFFFFF

def finishNumber (negative : Bool) (numeral : Numeral) : Option Number :=
  if numeral.real then do
    let value ← realOfParts? numeral.significand numeral.power
    pure (.real (if negative then -value else value))
  else if negative then
    if 0 < numeral.significand ∧ numeral.significand ≤ limit64 / 2 then
      some (.negative (Int64.ofInt (-(numeral.significand : Int))))
    else some (.real (-(Float.ofNat numeral.significand)))
  else some (.natural numeral.significand.toUInt64)

def exponentPart? (negative : Bool) (numeral : Numeral) (chars : List Char) :
    Option (Number × List Char) :=
  let (down, chars) :=
    match chars with
    | '+' :: rest => (false, rest)
    | '-' :: rest => (true, rest)
    | _ => (false, chars)
  if !startsWithDigit chars then none
  else
    let (exponent, rest) := takeDigits 0 chars
    if exponent > largestExponent then
      if numeral.significand ≠ 0 ∧ !down then none
      else some (.real (if negative then -0.0 else 0.0), rest)
    else
      let power := if down then numeral.power - exponent else numeral.power + exponent
      (finishNumber negative { numeral with power, real := true }).map (·, rest)

def numberTail? (negative : Bool) (numeral : Numeral) : List Char → Option (Number × List Char)
  | '.' :: rest =>
      if !startsWithDigit rest then none
      else
        match fractionDigits { numeral with real := true } rest with
        | (numeral, 'e' :: rest) => exponentPart? negative numeral rest
        | (numeral, 'E' :: rest) => exponentPart? negative numeral rest
        | (numeral, rest) => (finishNumber negative numeral).map (·, rest)
  | 'e' :: rest => exponentPart? negative numeral rest
  | 'E' :: rest => exponentPart? negative numeral rest
  | rest => (finishNumber negative numeral).map (·, rest)

def unsigned? (negative : Bool) : List Char → Option (Number × List Char)
  | '0' :: rest =>
      if startsWithDigit rest then none else numberTail? negative ⟨0, 0, false, false⟩ rest
  | chars =>
      if !startsWithDigit chars then none
      else
        let (numeral, rest) := wholeDigits ⟨0, 0, false, false⟩ chars
        numberTail? negative numeral rest

def word? (word : List Char) (chars : List Char) : Option (List Char) :=
  if word.isPrefixOf chars then some (chars.drop word.length) else none

mutual

def value? (depth : Nat) : Nat → List Char → Option (Value × List Char)
  | 0, _ => none
  | fuel + 1, chars =>
      match skipBlanks chars with
      | 'n' :: rest => (word? ['u', 'l', 'l'] rest).map (.null, ·)
      | 't' :: rest => (word? ['r', 'u', 'e'] rest).map (.boolean true, ·)
      | 'f' :: rest => (word? ['a', 'l', 's', 'e'] rest).map (.boolean false, ·)
      | '"' :: rest => (stringTail? [] (rest.length + 1) rest).map fun (text, rest) =>
          (.text text, rest)
      | '[' :: rest =>
          if depth ≤ 1 then none
          else
            match skipBlanks rest with
            | ']' :: rest => some (.array [], rest)
            | rest => items? (depth - 1) [] fuel rest
      | '\x7b' :: rest =>
          if depth ≤ 1 then none
          else
            match skipBlanks rest with
            | '\x7d' :: rest => some (.object [], rest)
            | rest => fields? (depth - 1) [] fuel rest
      | '-' :: rest => (unsigned? true rest).map fun (number, rest) => (.number number, rest)
      | rest => (unsigned? false rest).map fun (number, rest) => (.number number, rest)

def items? (depth : Nat) (read : List Value) : Nat → List Char → Option (Value × List Char)
  | 0, _ => none
  | fuel + 1, chars =>
      match value? depth fuel chars with
      | none => none
      | some (item, rest) =>
          match skipBlanks rest with
          | ',' :: rest => items? depth (item :: read) fuel rest
          | ']' :: rest => some (.array (item :: read).reverse, rest)
          | _ => none

def fields? (depth : Nat) (read : List (String × Value)) :
    Nat → List Char → Option (Value × List Char)
  | 0, _ => none
  | fuel + 1, chars =>
      match skipBlanks chars with
      | '"' :: rest =>
          match stringTail? [] (rest.length + 1) rest with
          | none => none
          | some (name, rest) =>
              match skipBlanks rest with
              | ':' :: rest =>
                  match value? depth fuel rest with
                  | none => none
                  | some (value, rest) =>
                      let read := insertField name value read
                      match skipBlanks rest with
                      | ',' :: rest => fields? depth read fuel rest
                      | '\x7d' :: rest => some (.object read, rest)
                      | _ => none
              | _ => none
      | _ => none

end

/-- The number of nesting levels a document may have, plus one. -/
def documentDepth : Nat := 128

def parseWithin? (depth : Nat) (text : String) : Option Value :=
  let chars := text.toList
  match value? depth (2 * chars.length + 2) chars with
  | some (value, rest) => if (skipBlanks rest).isEmpty then some value else none
  | none => none

def parse? (text : String) : Option Value :=
  parseWithin? documentDepth text

end TerminalScript.Json
