import TerminalScript.Pattern.CharSet

/-!
The syntax trees of regular expressions.
-/

namespace TerminalScript.Pattern

structure FlagChange where
  caseInsensitive : Option Bool := none
  multiLine : Option Bool := none
  dotAll : Option Bool := none
  swapGreed : Option Bool := none
  unicode : Option Bool := none
  carriageReturns : Option Bool := none
  spaced : Option Bool := none
  deriving Inhabited

inductive Anchor
  | lineStart
  | lineEnd
  | textStart
  | textEnd
  | wordBoundary
  | notWordBoundary
  | wordStart
  | wordEnd
  | wordStartHalf
  | wordEndHalf
  deriving Inhabited, DecidableEq

inductive Shorthand
  | digit
  | space
  | word
  deriving Inhabited, DecidableEq

inductive PropertyQuery
  | name (name : String)
  | value (property value : String)
  deriving Inhabited

inductive SetOperation
  | intersection
  | difference
  | symmetricDifference
  deriving Inhabited, DecidableEq

inductive ClassNode
  | literal (c : Char) (isByte : Bool)
  | range (first last : Char) (firstIsByte lastIsByte : Bool)
  | ascii (set : CharSet) (negated : Bool)
  | shorthand (kind : Shorthand) (negated : Bool)
  | property (query : PropertyQuery) (negated : Bool)
  | union (items : List ClassNode)
  | bracketed (negated : Bool) (content : ClassNode)
  | operation (kind : SetOperation) (left right : ClassNode)
  deriving Inhabited

inductive Node
  | empty
  | literal (c : Char) (isByte : Bool)
  | dot
  | anchor (kind : Anchor)
  | shorthand (kind : Shorthand) (negated : Bool)
  | property (query : PropertyQuery) (negated : Bool)
  | bracketed (negated : Bool) (content : ClassNode)
  | repetition (least : Nat) (most : Option Nat) (greedy : Bool) (item : Node)
  | group (flags : FlagChange) (item : Node)
  | setFlags (flags : FlagChange)
  | concatenation (items : List Node)
  | alternation (items : List Node)
  deriving Inhabited

mutual

def ClassNode.depth : ClassNode → Nat
  | .union items => if items.length < 2 then itemsDepth items else itemsDepth items + 1
  | .bracketed _ content => content.depth + 1
  | .operation _ left right => max left.depth right.depth + 1
  | .literal .. => 0
  | .range .. => 0
  | .ascii .. => 0
  | .shorthand .. => 0
  | .property .. => 0

def ClassNode.itemsDepth : List ClassNode → Nat
  | [] => 0
  | item :: rest => max item.depth (itemsDepth rest)

end

mutual

def Node.depth : Node → Nat
  | .bracketed _ content => content.depth + 1
  | .repetition _ _ _ item => item.depth + 1
  | .group _ item => item.depth + 1
  | .concatenation items => itemsDepth items + 1
  | .alternation items => itemsDepth items + 1
  | .empty => 0
  | .literal .. => 0
  | .dot => 0
  | .anchor _ => 0
  | .shorthand .. => 0
  | .property .. => 0
  | .setFlags _ => 0

def Node.itemsDepth : List Node → Nat
  | [] => 0
  | item :: rest => max item.depth (itemsDepth rest)

end

def depthLimit : Nat := 250

end TerminalScript.Pattern
