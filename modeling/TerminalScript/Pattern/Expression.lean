import TerminalScript.Pattern.Parser

/-!
Regular expressions without their syntax: sets of characters, places, repetitions, sequences and
ordered choices. Flags and names are resolved on the way from the syntax tree; what could match
only part of a character has no expression.
-/

namespace TerminalScript.Pattern

structure Flags where
  caseInsensitive : Bool := false
  multiLine : Bool := false
  dotAll : Bool := false
  swapGreed : Bool := false
  unicode : Bool := true
  carriageReturns : Bool := false
  deriving Inhabited, DecidableEq

def Flags.change (flags : Flags) (change : FlagChange) : Flags where
  caseInsensitive := change.caseInsensitive.getD flags.caseInsensitive
  multiLine := change.multiLine.getD flags.multiLine
  dotAll := change.dotAll.getD flags.dotAll
  swapGreed := change.swapGreed.getD flags.swapGreed
  unicode := change.unicode.getD flags.unicode
  carriageReturns := change.carriageReturns.getD flags.carriageReturns

inductive Look
  | textStart
  | textEnd
  | lineStart
  | lineEnd
  | lineStartReturns
  | lineEndReturns
  | boundary (unicode : Bool)
  | notBoundary (unicode : Bool)
  | wordStart (unicode : Bool)
  | wordEnd (unicode : Bool)
  | wordStartHalf (unicode : Bool)
  | wordEndHalf (unicode : Bool)
  deriving Inhabited, DecidableEq

inductive Expression
  | empty
  | chars (set : CharSet)
  | look (kind : Look)
  | repetition (least : Nat) (most : Option Nat) (greedy : Bool) (item : Expression)
  | sequence (items : List Expression)
  | choice (items : List Expression)
  deriving Inhabited

def shorthandSet? (flags : Flags) (kind : Shorthand) (negated : Bool) : Option CharSet :=
  let set := match flags.unicode, kind with
    | true, .digit => digits
    | true, .space => blanks
    | true, .word => wordChars
    | false, .digit => asciiDigits
    | false, .space => asciiBlanks
    | false, .word => asciiWordChars
  if !negated then some set
  else if flags.unicode then some set.complement
  else none

def foldFor (flags : Flags) (set : CharSet) : CharSet :=
  if !flags.caseInsensitive then set
  else if flags.unicode then set.fold
  else set.foldAscii

def foldAndNegate (flags : Flags) (negated : Bool) (set : CharSet) : CharSet :=
  -- Case is folded before a set is negated.
  let folded := foldFor flags set
  if negated then folded.complement else folded

def querySet? : PropertyQuery → Option CharSet
  | .name name => namedSet? name
  | .value property value => valueSet? property value

def propertySetFor? (flags : Flags) (query : PropertyQuery) (negated : Bool) : Option CharSet :=
  if !flags.unicode then none
  else (querySet? query).map (foldAndNegate flags negated)

def memberAllowed (flags : Flags) (c : Char) : Bool :=
  flags.unicode || c.toNat < 128

def combineSets (kind : SetOperation) (left right : CharSet) : CharSet :=
  match kind with
  | .intersection => left.intersection right
  | .difference => left.difference right
  | .symmetricDifference => left.symmetricDifference right

mutual

def classSetOf? (flags : Flags) : ClassNode → Option CharSet
  | .literal c isByte =>
      if memberAllowed flags c || isByte then some (CharSet.single c) else none
  | .range first last firstIsByte lastIsByte =>
      if (memberAllowed flags first || firstIsByte) && (memberAllowed flags last || lastIsByte) then
        some (CharSet.between first last)
      else none
  | .ascii set negated => some (foldAndNegate flags negated set)
  | .shorthand kind negated =>
      match shorthandSet? flags kind false with
      | some set => some (if negated then set.complement else set)
      | none => none
  | .property query negated => propertySetFor? flags query negated
  | .union items => unionOf? flags items
  | .bracketed negated content =>
      match classSetOf? flags content with
      | some set => some (foldAndNegate flags negated set)
      | none => none
  | .operation kind left right =>
      match classSetOf? flags left, classSetOf? flags right with
      | some left, some right =>
          some (combineSets kind (foldFor flags left) (foldFor flags right))
      | _, _ => none

def unionOf? (flags : Flags) : List ClassNode → Option CharSet
  | [] => some []
  | item :: rest =>
      match classSetOf? flags item, unionOf? flags rest with
      | some set, some others => some (set ++ others)
      | _, _ => none

end

def testable? (flags : Flags) (set : CharSet) : Option Expression :=
  if flags.unicode || set.isAscii then some (.chars set.normalize) else none

def literalOf? (flags : Flags) (c : Char) (isByte : Bool) : Option Expression :=
  if !flags.unicode && isByte && c.toNat ≥ 128 then none
  else if !flags.unicode && c.toNat ≥ 128 then some (.chars (CharSet.single c))
  else some (.chars (foldFor flags (CharSet.single c)))

def dotSet (flags : Flags) : CharSet :=
  if flags.dotAll then CharSet.all
  else if flags.carriageReturns then
    CharSet.complement (CharSet.single '\n' ++ CharSet.single '\r')
  else CharSet.complement (CharSet.single '\n')

def lookOf (flags : Flags) : Anchor → Look
  | .lineStart =>
      if !flags.multiLine then .textStart
      else if flags.carriageReturns then .lineStartReturns
      else .lineStart
  | .lineEnd =>
      if !flags.multiLine then .textEnd
      else if flags.carriageReturns then .lineEndReturns
      else .lineEnd
  | .textStart => .textStart
  | .textEnd => .textEnd
  | .wordBoundary => .boundary flags.unicode
  | .notWordBoundary => .notBoundary flags.unicode
  | .wordStart => .wordStart flags.unicode
  | .wordEnd => .wordEnd flags.unicode
  | .wordStartHalf => .wordStartHalf flags.unicode
  | .wordEndHalf => .wordEndHalf flags.unicode

mutual

def expressionOf? (flags : Flags) : Node → Option (Expression × Flags)
  | .empty => some (.empty, flags)
  | .literal c isByte => (literalOf? flags c isByte).map (·, flags)
  | .dot => if flags.unicode then some (.chars (dotSet flags), flags) else none
  | .anchor kind => some (.look (lookOf flags kind), flags)
  | .shorthand kind negated =>
      match shorthandSet? flags kind negated with
      | some set => some (.chars set, flags)
      | none => none
  | .property query negated =>
      match propertySetFor? flags query negated with
      | some set => some (.chars set.normalize, flags)
      | none => none
  | .bracketed negated content =>
      match classSetOf? flags content with
      | some set => (testable? flags (foldAndNegate flags negated set)).map (·, flags)
      | none => none
  | .repetition least most greedy item =>
      match expressionOf? flags item with
      | some (item, flags) =>
          some (.repetition least most (greedy != flags.swapGreed) item, flags)
      | none => none
  | .group change item =>
      match expressionOf? (flags.change change) item with
      | some (item, _) => some (item, flags)
      | none => none
  | .setFlags change => some (.empty, flags.change change)
  | .concatenation items =>
      match expressionsOf? flags items with
      | some (items, flags) => some (.sequence items, flags)
      | none => none
  | .alternation items =>
      match expressionsOf? flags items with
      | some (items, flags) => some (.choice items, flags)
      | none => none

def expressionsOf? (flags : Flags) : List Node → Option (List Expression × Flags)
  | [] => some ([], flags)
  | item :: rest =>
      match expressionOf? flags item with
      | some (item, flags) =>
          match expressionsOf? flags rest with
          | some (rest, flags) => some (item :: rest, flags)
          | none => none
      | none => none

end

end TerminalScript.Pattern
