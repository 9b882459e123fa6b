import TerminalScript.Toml.Table
import TerminalScript.Json.Parser

/-!
Reading configuration text. The whole text is one table, or nothing.
-/

namespace TerminalScript.Toml

open Json (Value)

abbrev Reader := StateT (List Char) Option

namespace Reader

def fail {α : Type} : Reader α :=
  fun _ => none

def peek? : Reader (Option Char) := do
  pure (← get).head?

def next : Reader Char := do
  match ← get with
  | c :: rest =>
      set rest
      pure c
  | [] => fail

def accept (word : List Char) : Reader Bool := do
  let chars ← get
  if word.isPrefixOf chars then
    set (chars.drop word.length)
    pure true
  else pure false

def expect (word : List Char) : Reader Unit := do
  if !(← accept word) then fail

def takeWhile (test : Char → Bool) : Reader (List Char) := do
  let chars ← get
  set (chars.dropWhile test)
  pure (chars.takeWhile test)

def fuelLeft : Reader Nat := do
  pure ((← get).length + 1)

def blank (c : Char) : Bool :=
  c = ' ' || c = '\t'

def blanks : Reader Unit := do
  let _ ← takeWhile blank

def allowed (c : Char) : Bool :=
  c = '\t' || (32 ≤ c.val && c.val ≠ 127)

def lineEnd? : Reader Bool := do
  if ← accept ['\n'] then pure true else accept ['\r', '\n']

def comment : Reader Unit := do
  if ← accept ['#'] then
    let _ ← takeWhile allowed

def restOfLine : Reader Unit := do
  blanks
  comment
  if (← get).isEmpty then return ()
  if !(← lineEnd?) then fail

def gap : Nat → Reader Unit
  | 0 => fail
  | fuel + 1 => do
      blanks
      comment
      if ← lineEnd? then gap fuel

def hexCount : Nat → Nat → Reader Nat
  | 0, value => pure value
  | count + 1, value => do
      match Json.hexValue? (← next) with
      | some digit => hexCount count (value * 16 + digit)
      | none => fail

def scalar (count : Nat) : Reader Char := do
  let value ← hexCount count 0
  if value < 0xD800 ∨ (0xE000 ≤ value ∧ value < 0x110000) then pure (Char.ofNat value) else fail

def escaped : Reader Char := do
  match ← next with
  | 'b' => pure (Char.ofNat 8)
  | 't' => pure '\t'
  | 'n' => pure '\n'
  | 'f' => pure (Char.ofNat 12)
  | 'r' => pure '\r'
  | '"' => pure '"'
  | '\\' => pure '\\'
  | 'u' => scalar 4
  | 'U' => scalar 8
  | _ => fail

def basicTail (read : List Char) : Nat → Reader String
  | 0 => fail
  | fuel + 1 => do
      let c ← next
      if c = '"' then pure (String.ofList read.reverse)
      else if c = '\\' then basicTail ((← escaped) :: read) fuel
      else if allowed c then basicTail (c :: read) fuel
      else fail

def literalTail : Reader String := do
  let chars ← takeWhile fun c => allowed c && c ≠ '\''
  expect ['\'']
  pure (String.ofList chars)

def foldedGap : Nat → Reader Unit
  | 0 => fail
  | fuel + 1 => do
      blanks
      if ← lineEnd? then foldedGap fuel

def quotesAhead (quote : Char) : Reader Nat := do
  pure (((← get).take 5).takeWhile (· = quote)).length

def multiTail (quote : Char) (escapes : Bool) (read : List Char) : Nat → Reader String
  -- Up to two quotes may stand before the three that end the text.
  | 0 => fail
  | fuel + 1 => do
      let quotes ← quotesAhead quote
      if quotes ≥ 3 then
        modify (·.drop quotes)
        pure (String.ofList (List.replicate (quotes - 3) quote ++ read).reverse)
      else if ← accept ['\r', '\n'] then multiTail quote escapes ('\n' :: '\r' :: read) fuel
      else
        let c ← next
        if c = '\n' then multiTail quote escapes (c :: read) fuel
        else if c = '\\' ∧ escapes then
          let rest ← get
          let after := rest.dropWhile blank
          if after.head? = some '\n' ∨ ['\r', '\n'].isPrefixOf after then
            foldedGap (rest.length + 1)
            multiTail quote escapes read fuel
          else multiTail quote escapes ((← escaped) :: read) fuel
        else if allowed c then multiTail quote escapes (c :: read) fuel
        else fail

def multi (quote : Char) (escapes : Bool) : Reader String := do
  let _ ← lineEnd?
  multiTail quote escapes [] (← fuelLeft)

def quoted? : Reader (Option String) := do
  if ← accept ['"'] then pure (some (← basicTail [] (← fuelLeft)))
  else if ← accept ['\''] then pure (some (← literalTail))
  else pure none

def text? : Reader (Option String) := do
  if ← accept ['"', '"', '"'] then pure (some (← multi '"' true))
  else if ← accept ['\'', '\'', '\''] then pure (some (← multi '\'' false))
  else quoted?

def bareChar (c : Char) : Bool :=
  c.isAlphanum || c = '_' || c = '-'

def simpleKey : Reader String := do
  match ← quoted? with
  | some key => pure key
  | none =>
      let chars ← takeWhile bareChar
      if chars.isEmpty then fail else pure (String.ofList chars)

def keyTail (names : List String) : Nat → Reader (List String)
  | 0 => fail
  | fuel + 1 => do
      blanks
      if ← accept ['.'] then
        blanks
        let name ← simpleKey
        keyTail (name :: names) fuel
      else pure names.reverse

def nestingLimit : Nat := 80

def key : Reader (List String) := do
  let name ← simpleKey
  let names ← keyTail [name] (← fuelLeft)
  if names.length > nestingLimit then fail else pure names

def digitsOf (base : Nat) (chars : List Char) : Option Nat :=
  let rec read (value : Nat) (afterDigit : Bool) : List Char → Option Nat
    | [] => if afterDigit then some value else none
    | '_' :: rest => if afterDigit then read value false rest else none
    | c :: rest =>
        match Json.hexValue? c with
        | some digit => if digit < base then read (value * base + digit) true rest else none
        | none => none
  read 0 false chars

def plainDigits (chars : List Char) : List Char :=
  chars.filter (· ≠ '_')

def decimalOf (chars : List Char) : Option Nat :=
  match chars with
  | '0' :: _ :: _ => none
  | _ => digitsOf 10 chars

def magnitudeLimit : Nat := 0x8000000000000000

def integer (negative : Bool) (magnitude : Nat) : Option Value :=
  if negative ∧ magnitude ≠ 0 then
    if magnitude ≤ magnitudeLimit then some (.number (.negative (Int64.ofInt (-(magnitude : Int))))) else none
  else if magnitude < magnitudeLimit then some (.number (.natural magnitude.toUInt64))
  else none

def real (negative : Bool) (whole fraction : List Char) (exponent : Int) : Value :=
  let digits := Json.takeDigits 0 (whole ++ fraction)
  let power := exponent - fraction.length
  let value := Float.ofScientific digits.1 (power < 0) power.natAbs
  .number (.real (if negative then -value else value))

def splitExponent (chars : List Char) : List Char × Option (List Char) :=
  let head := chars.takeWhile fun c => c ≠ 'e' && c ≠ 'E'
  match chars.drop head.length with
  | [] => (head, none)
  | _ :: rest => (head, some rest)

def exponentOf (chars : List Char) : Option Int :=
  match chars with
  | '-' :: rest => (digitsOf 10 rest).map fun value => -(value : Int)
  | '+' :: rest => (digitsOf 10 rest).map fun value => (value : Int)
  | rest => (digitsOf 10 rest).map fun value => (value : Int)

def numberOf (chars : List Char) : Option Value :=
  let (signed, negative, body) := match chars with
    | '-' :: rest => (true, true, rest)
    | '+' :: rest => (true, false, rest)
    | rest => (false, false, rest)
  match body with
  | ['i', 'n', 'f'] => some (.number (.real (if negative then -1.0 / 0.0 else 1.0 / 0.0)))
  | ['n', 'a', 'n'] => some (.number (.real (0.0 / 0.0)))
  | '0' :: 'x' :: rest => if signed then none else (digitsOf 16 rest).bind (integer false)
  | '0' :: 'o' :: rest => if signed then none else (digitsOf 8 rest).bind (integer false)
  | '0' :: 'b' :: rest => if signed then none else (digitsOf 2 rest).bind (integer false)
  | _ => do
      let (mantissa, exponent) := splitExponent body
      let whole := mantissa.takeWhile (· ≠ '.')
      let magnitude ← decimalOf whole
      match mantissa.drop whole.length, exponent with
      | [], none => integer negative magnitude
      | [], some exponent => do
          let power ← exponentOf exponent
          pure (real negative (plainDigits whole) [] power)
      | _ :: fraction, exponent => do
          let _ ← digitsOf 10 fraction
          let power ← match exponent with
            | some exponent => exponentOf exponent
            | none => some 0
          pure (real negative (plainDigits whole) (plainDigits fraction) power)

def field (width low high : Nat) (chars : List Char) : Option (Nat × List Char) :=
  let digits := chars.take width
  if digits.length = width ∧ digits.all Char.isDigit then
    let value := (Json.takeDigits 0 digits).1
    if low ≤ value ∧ value ≤ high then some (value, chars.drop width) else none
  else none

def mark (c : Char) (chars : List Char) : Option (List Char) :=
  match chars with
  | head :: rest => if head = c then some rest else none
  | [] => none

def daysInMonth (year month : Nat) : Nat :=
  if month = 2 then
    if year % 4 = 0 ∧ (year % 100 ≠ 0 ∨ year % 400 = 0) then 29 else 28
  else if month = 4 ∨ month = 6 ∨ month = 9 ∨ month = 11 then 30
  else 31

def date? (chars : List Char) : Option (List Char) := do
  let (year, rest) ← field 4 0 9999 chars
  let rest ← mark '-' rest
  let (month, rest) ← field 2 1 12 rest
  let rest ← mark '-' rest
  let (_, rest) ← field 2 1 (daysInMonth year month) rest
  pure rest

def time? (chars : List Char) : Option (List Char) := do
  let (_, rest) ← field 2 0 23 chars
  let rest ← mark ':' rest
  let (_, rest) ← field 2 0 59 rest
  let rest ← mark ':' rest
  let (_, rest) ← field 2 0 60 rest
  match rest with
  | '.' :: fraction =>
      if (fraction.takeWhile Char.isDigit).isEmpty then none
      else some (fraction.dropWhile Char.isDigit)
  | rest => some rest

def offset? (chars : List Char) : Option (List Char) :=
  match chars with
  | 'Z' :: rest => some rest
  | 'z' :: rest => some rest
  | c :: rest =>
      if c = '+' ∨ c = '-' then do
        let (_, rest) ← field 2 0 23 rest
        let rest ← mark ':' rest
        let (_, rest) ← field 2 0 59 rest
        pure rest
      else some (c :: rest)
  | [] => some []

def moment? (chars : List Char) : Option (List Char) :=
  match date? chars with
  | some rest =>
      match rest with
      | c :: after =>
          if c = 'T' ∨ c = 't' ∨ c = ' ' then
            match time? after with
            | some rest => offset? rest
            | none => if c = ' ' then some rest else none
          else some rest
      | [] => some []
  | none => time? chars

def momentName : String := "$__toml_private_datetime"

def scalarChar (c : Char) : Bool :=
  c.isAlphanum || c = '_' || c = '-' || c = '+' || c = '.'

def inlineTable (pairs : List (List String × Value)) : Option Value := do
  let add (table : Table) (pair : List String × Value) : Option Table := do
    let name ← pair.1.getLast?
    addValue pair.1.dropLast name (.value pair.2) table
  let table ← pairs.foldlM add ⟨.header, []⟩
  pure (Item.table .header table.entries).toJson

def lift {α : Type} : Option α → Reader α
  | some value => pure value
  | none => fail

mutual

def value (depth : Nat) : Nat → Reader Value
  | 0 => fail
  | fuel + 1 => do
      match ← text? with
      | some text => return .text text
      | none => pure ()
      match ← peek? with
      | some '[' =>
          if depth = 0 then fail
          let _ ← next
          array (depth - 1) [] fuel
      | some '\x7b' =>
          if depth = 0 then fail
          let _ ← next
          blanks
          if ← accept ['\x7d'] then return .object []
          pairs (depth - 1) [] fuel
      | _ =>
          match moment? (← get) with
          | some rest =>
              set rest
              pure (.object [(momentName, .text "")])
          | none =>
              let chars ← takeWhile scalarChar
              match String.ofList chars with
              | "true" => pure (.boolean true)
              | "false" => pure (.boolean false)
              | _ => lift (numberOf chars)

def array (depth : Nat) (items : List Value) : Nat → Reader Value
  | 0 => fail
  | fuel + 1 => do
      gap (← fuelLeft)
      if ← accept [']'] then return .array items.reverse
      let item ← value depth fuel
      gap (← fuelLeft)
      if ← accept [','] then array depth (item :: items) fuel
      else
        expect [']']
        pure (.array (item :: items).reverse)

def pairs (depth : Nat) (read : List (List String × Value)) : Nat → Reader Value
  | 0 => fail
  | fuel + 1 => do
      blanks
      let names ← key
      blanks
      expect ['=']
      blanks
      let item ← value depth fuel
      blanks
      if ← accept [','] then pairs depth ((names, item) :: read) fuel
      else
        expect ['\x7d']
        lift (inlineTable ((names, item) :: read).reverse)

end

def line (state : State) : Reader State := do
  blanks
  if ← accept ['[', '['] then
    blanks
    let path ← key
    expect [']', ']']
    restOfLine
    lift (state.openRepeated path)
  else if ← accept ['['] then
    blanks
    let path ← key
    expect [']']
    restOfLine
    lift (state.openTable path)
  else
    match ← peek? with
    | none => pure state
    | some c =>
        if c = '#' ∨ c = '\n' ∨ c = '\r' then
          restOfLine
          pure state
        else
          let names ← key
          expect ['=']
          blanks
          let item ← value nestingLimit (2 * (← fuelLeft))
          restOfLine
          let name ← lift names.getLast?
          let current ← lift (addValue names.dropLast name (.value item) state.current)
          pure { state with current }

def lines (state : State) : Nat → Reader State
  | 0 => fail
  | fuel + 1 => do
      if (← get).isEmpty then pure state
      else
        let state ← line state
        lines state fuel

end Reader

def parse? (text : String) : Option Value := do
  let chars := match text.toList with
    | c :: rest => if c = Char.ofNat 0xFEFF then rest else c :: rest
    | [] => []
  let (state, _) ← (Reader.lines {} (chars.length + 1)).run chars
  let table ← state.finish
  pure (Item.table .header table.entries).toJson

end TerminalScript.Toml
