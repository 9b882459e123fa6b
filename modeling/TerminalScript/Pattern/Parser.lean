import TerminalScript.Pattern.Syntax
import TerminalScript.Pattern.Property

/-!
Reading the syntax of regular expressions. A malformed expression has no tree. In spaced mode
blanks and comments between the parts of an expression are skipped.
-/

namespace TerminalScript.Pattern

structure Cursor where
  rest : List Char
  spaced : Bool
  names : List String := []
  deriving Inhabited

abbrev Parser := StateT Cursor Option

namespace Parser

def fail {α : Type} : Parser α :=
  fun _ => none

def peek? : Parser (Option Char) := do
  pure (← get).rest.head?

def peekNext? : Parser (Option Char) := do
  pure ((← get).rest[1]?)

def isBlankChar (c : Char) : Bool :=
  Unicode.whiteSpace.contains c.toNat

def skipSpace (inComment : Bool) : List Char → List Char
  | [] => []
  | c :: rest =>
      if inComment then skipSpace (c ≠ '\n') rest
      else if isBlankChar c then skipSpace false rest
      else if c = '#' then skipSpace true rest
      else c :: rest

def space : Parser Unit :=
  modify fun cursor =>
    if cursor.spaced then { cursor with rest := skipSpace false cursor.rest } else cursor

def bump : Parser Unit :=
  modify fun cursor => { cursor with rest := cursor.rest.drop 1 }

def bumpSpace : Parser Unit := do
  bump
  space

def current : Parser Char := do
  match ← peek? with
  | some c => pure c
  | none => fail

def accept (word : List Char) : Parser Bool := do
  let cursor ← get
  if word.isPrefixOf cursor.rest then
    set { cursor with rest := cursor.rest.drop word.length }
    pure true
  else pure false

def peekSpace? : Parser (Option Char) := do
  let cursor ← get
  let rest := cursor.rest.drop 1
  pure (if cursor.spaced then skipSpace false rest else rest).head?

def takeSpaced (test : Char → Bool) : Nat → List Char → Parser (List Char)
  | 0, _ => fail
  | fuel + 1, taken => do
      match ← peek? with
      | some c =>
          if test c then
            bumpSpace
            takeSpaced test fuel (c :: taken)
          else pure taken.reverse
      | none => pure taken.reverse

def skipBlankChars : Parser Unit :=
  modify fun cursor => { cursor with rest := cursor.rest.dropWhile isBlankChar }

def fuelLeft : Parser Nat := do
  pure ((← get).rest.length + 1)

def numberOf (digits : List Char) : Nat :=
  digits.foldl (fun value c => value * 10 + (c.toNat - 48)) 0

def decimal : Parser (Option Nat) := do
  skipBlankChars
  let digits ← takeSpaced Char.isDigit (← fuelLeft) []
  skipBlankChars
  if digits.isEmpty then pure none
  else
    let value := numberOf digits
    if value < UInt32.size then pure (some value) else fail

def isHexDigit (c : Char) : Bool :=
  c.isDigit || ('a' ≤ c && c ≤ 'f') || ('A' ≤ c && c ≤ 'F')

def hexOf (digits : List Char) : Nat :=
  digits.foldl (fun value c =>
    value * 16 + (if c.isDigit then c.toNat - 48 else c.toLower.toNat - 87)) 0

def charOf (value : Nat) : Parser Char :=
  if value < 0xD800 ∨ (0xE000 ≤ value ∧ value < 0x110000) then pure (Char.ofNat value) else fail

def fixedHex : Nat → List Char → Parser (List Char)
  | 0, digits => pure digits.reverse
  | count + 1, digits => do
      let c ← current
      if isHexDigit c then
        bumpSpace
        fixedHex count (c :: digits)
      else fail

def hexEscape (width : Nat) : Parser (Char × Bool) := do
  bumpSpace
  if (← current) = '\x7b' then
    bumpSpace
    let digits ← takeSpaced isHexDigit (← fuelLeft) []
    if (← current) ≠ '\x7d' ∨ digits.isEmpty then fail
    bumpSpace
    pure (← charOf (hexOf digits), false)
  else
    let digits ← fixedHex width []
    pure (← charOf (hexOf digits), width = 2)

def splitAt? (mark : List Char) (before : List Char) : List Char → Option (String × String)
  | [] => none
  | c :: rest =>
      if mark.isPrefixOf (c :: rest) then
        some (String.ofList before.reverse, String.ofList ((c :: rest).drop mark.length))
      else splitAt? mark (c :: before) rest

def queryOf (name : List Char) : PropertyQuery × Bool :=
  match splitAt? ['!', '='] [] name with
  | some (property, value) => (.value property value, true)
  | none =>
      match splitAt? [':'] [] name with
      | some (property, value) => (.value property value, false)
      | none =>
          match splitAt? ['='] [] name with
          | some (property, value) => (.value property value, false)
          | none => (.name (String.ofList name), false)

def propertyEscape : Parser (PropertyQuery × Bool) := do
  let negated := (← current) = 'P'
  bumpSpace
  let c ← current
  if c = '\x7b' then
    bumpSpace
    let name ← takeSpaced (· ≠ '\x7d') (← fuelLeft) []
    let _ ← current
    bump
    let (query, flipped) := queryOf name
    pure (query, negated != flipped)
  else if c = '\\' then fail
  else
    bumpSpace
    pure (.name c.toString, negated)

def isMeta (c : Char) : Bool :=
  "\\.+*?()|[]\x7b\x7d^$#&-~".toList.contains c

def isEscapable (c : Char) : Bool :=
  c.toNat < 128 && !c.isAlphanum && c ≠ '<' && c ≠ '>'

def boundaryChar (c : Char) : Bool :=
  c.isAlpha || c = '-'

def namedBoundary : Parser Anchor := do
  -- A brace that holds no name begins a repetition instead.
  let cursor ← get
  bumpSpace
  let c ← current
  if !boundaryChar c then
    set cursor
    pure .wordBoundary
  else
    let name ← takeSpaced boundaryChar (← fuelLeft) []
    if (← current) ≠ '\x7d' then fail
    bump
    match String.ofList name with
    | "start" => pure .wordStart
    | "end" => pure .wordEnd
    | "start-half" => pure .wordStartHalf
    | "end-half" => pure .wordEndHalf
    | _ => fail

def shorthandOf? (c : Char) : Option (Shorthand × Bool) :=
  match c with
  | 'd' => some (.digit, false)
  | 'D' => some (.digit, true)
  | 's' => some (.space, false)
  | 'S' => some (.space, true)
  | 'w' => some (.word, false)
  | 'W' => some (.word, true)
  | _ => none

def escape : Parser Node := do
  bump
  let c ← current
  match shorthandOf? c with
  | some (kind, negated) =>
      bump
      return .shorthand kind negated
  | none => pure ()
  match c with
  | 'x' =>
      let (c, isByte) ← hexEscape 2
      return .literal c isByte
  | 'u' =>
      let (c, isByte) ← hexEscape 4
      return .literal c isByte
  | 'U' =>
      let (c, isByte) ← hexEscape 8
      return .literal c isByte
  | 'p' =>
      let (query, negated) ← propertyEscape
      return .property query negated
  | 'P' =>
      let (query, negated) ← propertyEscape
      return .property query negated
  | _ => pure ()
  bump
  if isMeta c || isEscapable c then return .literal c false
  match c with
  | 'a' => pure (.literal (Char.ofNat 7) false)
  | 'f' => pure (.literal (Char.ofNat 12) false)
  | 't' => pure (.literal '\t' false)
  | 'n' => pure (.literal '\n' false)
  | 'r' => pure (.literal '\r' false)
  | 'v' => pure (.literal (Char.ofNat 11) false)
  | 'A' => pure (.anchor .textStart)
  | 'z' => pure (.anchor .textEnd)
  | 'B' => pure (.anchor .notWordBoundary)
  | '<' => pure (.anchor .wordStart)
  | '>' => pure (.anchor .wordEnd)
  | 'b' =>
      if (← peek?) = some '\x7b' then pure (.anchor (← namedBoundary))
      else pure (.anchor .wordBoundary)
  | _ => fail

def asciiClass? : Parser (Option ClassNode) := do
  let cursor ← get
  match cursor.rest with
  | '[' :: ':' :: rest =>
      let (negated, rest) := match rest with
        | '^' :: rest => (true, rest)
        | rest => (false, rest)
      let name := rest.takeWhile (· ≠ ':')
      let rest := rest.dropWhile (· ≠ ':')
      match rest, asciiClasses.lookup (String.ofList name) with
      | ':' :: ']' :: rest, some members =>
          set { cursor with rest }
          pure (some (.ascii members negated))
      | _, _ => pure none
  | _ => pure none

def classItem : Parser Node := do
  let c ← current
  if c = '\\' then escape
  else
    bump
    pure (.literal c false)

def classMember : Node → Parser ClassNode
  | .literal c isByte => pure (.literal c isByte)
  | .shorthand kind negated => pure (.shorthand kind negated)
  | .property query negated => pure (.property query negated)
  | _ => fail

def classRange : Parser ClassNode := do
  let first ← classItem
  space
  let c ← current
  let after ← peekSpace?
  if c ≠ '-' ∨ after = some ']' ∨ after = some '-' then classMember first
  else
    bumpSpace
    let _ ← current
    let last ← classItem
    match first, last with
    | .literal first firstIsByte, .literal last lastIsByte =>
        if first ≤ last then pure (.range first last firstIsByte lastIsByte) else fail
    | _, _ => fail

def leadingHyphens : Nat → List ClassNode → Parser (List ClassNode)
  | 0, _ => fail
  | fuel + 1, items => do
      if (← current) = '-' then
        bumpSpace
        leadingHyphens fuel (.literal '-' false :: items)
      else pure items

def classOpen : Parser (Bool × List ClassNode) := do
  bumpSpace
  let negated := (← current) = '^'
  if negated then bumpSpace
  let items ← leadingHyphens (← fuelLeft) []
  if items.isEmpty ∧ (← current) = ']' then
    bumpSpace
    let _ ← current
    pure (negated, [.literal ']' false])
  else pure (negated, items)

def operationOf? (c : Char) : Option SetOperation :=
  match c with
  | '&' => some .intersection
  | '-' => some .difference
  | '~' => some .symmetricDifference
  | _ => none

def closeOperand (pending : Option (SetOperation × ClassNode)) (items : List ClassNode) :
    ClassNode :=
  match pending with
  | some (kind, left) => .operation kind left (.union items.reverse)
  | none => .union items.reverse

def classBody (pending : Option (SetOperation × ClassNode)) (items : List ClassNode) :
    Nat → Parser ClassNode
  | 0 => fail
  | fuel + 1 => do
      space
      let c ← current
      match c with
      | '[' =>
          match ← asciiClass? with
          | some item => classBody pending (item :: items) fuel
          | none =>
              let (negated, first) ← classOpen
              let content ← classBody none first fuel
              classBody pending (.bracketed negated content :: items) fuel
      | ']' =>
          bump
          pure (closeOperand pending items)
      | _ =>
          match operationOf? c with
          | some kind =>
              if (← peekNext?) = some c then
                bump
                bump
                classBody (some (kind, closeOperand pending items)) [] fuel
              else
                let item ← classRange
                classBody pending (item :: items) fuel
          | none =>
              let item ← classRange
              classBody pending (item :: items) fuel

def classNode : Parser Node := do
  let (negated, first) ← classOpen
  let content ← classBody none first (← fuelLeft)
  pure (.bracketed negated content)

def flagLetters (seen : List Char) : Nat → Parser (List Char)
  | 0 => fail
  | fuel + 1 => do
      let c ← current
      if c = ':' ∨ c = ')' then pure seen.reverse
      else if "imsUuRx-".toList.contains c ∧ !seen.contains c then
        bump
        flagLetters (c :: seen) fuel
      else fail

def FlagChange.set (change : FlagChange) (flag : Char) (value : Bool) : FlagChange :=
  match flag with
  | 'i' => { change with caseInsensitive := some value }
  | 'm' => { change with multiLine := some value }
  | 's' => { change with dotAll := some value }
  | 'U' => { change with swapGreed := some value }
  | 'u' => { change with unicode := some value }
  | 'R' => { change with carriageReturns := some value }
  | 'x' => { change with spaced := some value }
  | _ => change

def changeOf (change : FlagChange) (value : Bool) : List Char → FlagChange
  | [] => change
  | '-' :: rest => changeOf change false rest
  | flag :: rest => changeOf (FlagChange.set change flag value) value rest

def isNameChar (first : Bool) (c : Char) : Bool :=
  let letter := Unicode.alphabetic.contains c.toNat
  if first then c = '_' || letter
  else
    c = '_' || c = '.' || c = '[' || c = ']' || letter ||
      ["nd", "nl", "no"].any fun name =>
        (Unicode.categoryNames[Unicode.categories.classOf c.toNat]?.getD []).contains name

def groupName : Parser Unit := do
  let cursor ← get
  let name := cursor.rest.takeWhile (· ≠ '>')
  let rest := cursor.rest.dropWhile (· ≠ '>')
  let text := String.ofList name
  if rest.isEmpty ∨ name.isEmpty ∨ cursor.names.contains text then fail
  if !(isNameChar true (name.headD '>') && (name.drop 1).all (isNameChar false)) then fail
  set { cursor with rest := rest.drop 1, names := text :: cursor.names }

inductive Opening
  | flags (change : FlagChange)
  | group (change : FlagChange)

def isLookaround (rest : List Char) : Bool :=
  [['?', '='], ['?', '!'], ['?', '<', '='], ['?', '<', '!']].any fun mark => mark.isPrefixOf rest

def opening : Parser Opening := do
  bump
  space
  if isLookaround (← get).rest then fail
  if (← accept ['?', 'P', '<']) || (← accept ['?', '<']) then
    groupName
    pure (.group {})
  else if ← accept ['?'] then
    let letters ← flagLetters [] (← fuelLeft)
    if letters.getLast? = some '-' then fail
    let change := changeOf {} true letters
    let closing ← current
    bump
    if closing = ')' then
      if letters.isEmpty then fail
      pure (.flags change)
    else pure (.group change)
  else pure (.group {})

def isRepeatable : Node → Bool
  | .empty => false
  | .setFlags _ => false
  | _ => true

def repeatLast (least : Nat) (most : Option Nat) (parts : List Node) : Parser (List Node) := do
  match parts with
  | last :: rest =>
      if !isRepeatable last then fail
      let lazy := (← peek?) = some '?'
      if lazy then bump
      pure (.repetition least most (!lazy) last :: rest)
  | [] => fail

def counted (parts : List Node) : Parser (List Node) := do
  if parts.isEmpty then fail
  bumpSpace
  let _ ← current
  let least ← decimal
  let (least, most) ← do
    if (← current) = ',' then
      bumpSpace
      if (← current) = '\x7d' then
        match least with
        | some least => pure (least, none)
        | none => fail
      else
        match least, ← decimal with
        | some least, some most => pure (least, some most)
        | _, _ => fail
    else
      match least with
      | some least => pure (least, some least)
      | none => fail
  if (← current) ≠ '\x7d' then fail
  bumpSpace
  if most.any (· < least) then fail
  repeatLast least most parts

def sequenceOf (parts : List Node) : Node :=
  match parts with
  | [] => .empty
  | [only] => only
  | parts => .concatenation parts.reverse

def choiceOf (branches : List Node) : Node :=
  match branches with
  | [only] => only
  | branches => .alternation branches.reverse

/-- Reads a group's content up to its closing parenthesis or the end of the text; `parts` is the
branch being read and `branches` those before it, both reversed. -/
def expression (branches parts : List Node) : Nat → Parser Node
  | 0 => fail
  | fuel + 1 => do
      space
      match ← peek? with
      | none => pure (choiceOf (sequenceOf parts :: branches))
      | some c =>
          match c with
          | ')' => pure (choiceOf (sequenceOf parts :: branches))
          | '(' =>
              let outer := (← get).spaced
              match ← opening with
              | .flags change =>
                  modify fun cursor => { cursor with spaced := change.spaced.getD outer }
                  expression branches (.setFlags change :: parts) fuel
              | .group change =>
                  modify fun cursor => { cursor with spaced := change.spaced.getD outer }
                  let content ← expression [] [] fuel
                  if (← current) ≠ ')' then fail
                  modify fun cursor => { cursor with spaced := outer }
                  bump
                  expression branches (.group change content :: parts) fuel
          | '|' =>
              bump
              expression (sequenceOf parts :: branches) [] fuel
          | '[' =>
              let node ← classNode
              expression branches (node :: parts) fuel
          | '?' =>
              bump
              expression branches (← repeatLast 0 (some 1) parts) fuel
          | '*' =>
              bump
              expression branches (← repeatLast 0 none parts) fuel
          | '+' =>
              bump
              expression branches (← repeatLast 1 none parts) fuel
          | '\x7b' => expression branches (← counted parts) fuel
          | '\\' =>
              let node ← escape
              expression branches (node :: parts) fuel
          | '.' =>
              bump
              expression branches (.dot :: parts) fuel
          | '^' =>
              bump
              expression branches (.anchor .lineStart :: parts) fuel
          | '$' =>
              bump
              expression branches (.anchor .lineEnd :: parts) fuel
          | _ =>
              bump
              expression branches (.literal c false :: parts) fuel

end Parser

def parse? (spaced : Bool) (text : String) : Option Node := do
  let chars := text.toList
  let (node, cursor) ← (Parser.expression [] [] (2 * chars.length + 2)).run ⟨chars, spaced, []⟩
  if cursor.rest.isEmpty && node.depth ≤ depthLimit then some node else none

end TerminalScript.Pattern
