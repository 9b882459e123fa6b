import TerminalScript.Pattern.Search
import TerminalScript.Failure

/-!
Compiled regular expressions: the leftmost match is taken, and of the matches that begin there the
one that the expression prefers.
-/

namespace TerminalScript

structure Pattern where
  program : Pattern.Program
  deriving Inhabited

namespace Pattern

structure Options where
  flags : Flags := {}
  spaced : Bool := false
  deriving Inhabited

def compile (options : Options) (text : String) : Except PatternFault Pattern :=
  match parse? options.spaced text with
  | none => .error .malformed
  | some node =>
      match expressionOf? options.flags node with
      | none => .error .malformed
      | some (expression, _) =>
          if expression.size > sizeLimit then .error (.tooLarge sizeLimit)
          else .ok ⟨Program.ofExpression expression⟩

def isMatch (pattern : Pattern) (text : String) : Bool :=
  (search? pattern.program text.toList.toArray 0).isSome

def spans (pattern : Pattern) (text : Array Char) : List Span :=
  spansFrom pattern.program text (2 * text.size + 2) 0 none

def count (pattern : Pattern) (text : String) : Nat :=
  (pattern.spans text.toList.toArray).length

end Pattern

/-- Writes a mark in place of each span; the spans are in order and do not overlap. -/
def replaceSpans (mark : List Char) (text : Array Char) : Nat → List Pattern.Span → List Char
  | place, [] => (text.extract place text.size).toList
  | place, span :: rest =>
      (text.extract place span.start).toList ++ mark ++ replaceSpans mark text span.stop rest

def Pattern.replaceAll (pattern : Pattern) (mark text : String) : String :=
  let chars := text.toList.toArray
  String.ofList (replaceSpans mark.toList chars 0 (pattern.spans chars))

end TerminalScript
