import TerminalScript.Matcher
import TerminalScript.Pattern.Basic

/-!
Matchers ready to be tried on text, and the bounds on how often one matches.
-/

namespace TerminalScript

inductive Condition
  | literal (text : List Char)
  | pattern (compiled : Pattern)
  deriving Inhabited

structure CompiledMatcher where
  condition : Condition
  description : String
  deriving Inhabited

def occurs (literal : List Char) : List Char → Bool
  | [] => literal.isEmpty
  | c :: rest => literal.isPrefixOf (c :: rest) || occurs literal rest

/-- The number of occurrences found from left to right without overlap; an empty literal occurs
around every character. -/
def countOccurrences (literal : List Char) (text : List Char) : Nat :=
  match text with
  | [] => if literal.isEmpty then 1 else 0
  | c :: rest =>
      if literal.isPrefixOf (c :: rest) then
        1 + countOccurrences literal (rest.drop (literal.length - 1))
      else countOccurrences literal rest
termination_by text.length
decreasing_by
  · simp only [List.length_drop, List.length_cons]
    omega
  · simp

namespace Condition

def holds (condition : Condition) (text : String) : Bool :=
  match condition with
  | literal chars => occurs chars text.toList
  | pattern compiled => compiled.isMatch text

def count (condition : Condition) (text : String) : Nat :=
  match condition with
  | literal chars => countOccurrences chars text.toList
  | pattern compiled => compiled.count text

end Condition

def optionsOf (pattern : String) : List Char → Pattern.Options → Except PatternFault Pattern.Options
  | [], options => .ok options
  | flag :: rest, options =>
      match flag with
      | 'i' => optionsOf pattern rest { options with flags.caseInsensitive := true }
      | 'm' => optionsOf pattern rest { options with flags.multiLine := true }
      | 's' => optionsOf pattern rest { options with flags.dotAll := true }
      | 'x' => optionsOf pattern rest { options with spaced := true }
      | 'u' => optionsOf pattern rest { options with flags.unicode := true }
      | 'g' => optionsOf pattern rest options
      | 'y' => optionsOf pattern rest options
      | other => .error (.unsupportedFlag other pattern)

namespace CompiledMatcher

def compile (matcher : Matcher) : Outcome CompiledMatcher :=
  -- The literal wins where a matcher has both forms.
  match matcher.contains, matcher.regex with
  | some text, _ =>
      if Pattern.literalSize text > Pattern.sizeLimit then
        .error (.invalidRegex (.tooLarge Pattern.sizeLimit))
      else .ok ⟨.literal text.toList, matcher.describe⟩
  | none, some pattern =>
      Except.mapError Failure.invalidRegex do
        let options ← optionsOf pattern (matcher.regexFlags.getD "").toList {}
        let compiled ← Pattern.compile options pattern
        pure ⟨.pattern compiled, matcher.describe⟩
  | none, none => .error (.schema (.of .matcherComplete))

def isMatch (matcher : CompiledMatcher) (text : String) : Bool :=
  matcher.condition.holds text

def count (matcher : CompiledMatcher) (text : String) : Nat :=
  matcher.condition.count text

end CompiledMatcher

def failBound (bound : CountBound) (description : String) (found : Nat) : Outcome Unit :=
  .error (.unmet (.count bound description found))

def checkCount (found : Nat) (equals atLeast atMost : Option UInt64) (description : String) :
    Outcome Unit := do
  if let some expected := equals then
    if found ≠ expected.toNat then failBound (.exactly expected) description found
  if let some least := atLeast then
    if found < least.toNat then failBound (.atLeast least) description found
  if let some most := atMost then
    if found > most.toNat then failBound (.atMost most) description found

end TerminalScript
