import TerminalScript.Document.Record
import TerminalScript.Document.Violation

/-!
Conditions on captured text: a literal to be found, or a regular expression.
-/

namespace TerminalScript

open Json Document

structure Matcher where
  contains : Option String := none
  regex : Option String := none
  regexFlags : Option String := none
  deriving Inhabited, DecidableEq

namespace Matcher

def ofText (text : String) : Matcher :=
  { contains := some text }

def ofPattern (pattern : String) : Matcher :=
  { regex := some pattern }

def withFlags (flags : String) (matcher : Matcher) : Matcher :=
  { matcher with regexFlags := some flags }

def check (matcher : Matcher) : Checked Unit := do
  ensureNonEmpty matcher.contains "matcher contains"
  ensureNonEmpty matcher.regex "matcher regex"
  ensureThat (matcher.contains.isSome || matcher.regex.isSome) .matcherComplete

def describe (matcher : Matcher) : String :=
  match matcher.contains, matcher.regex with
  | some text, _ => "contains " ++ Text.quoted text
  | none, some pattern => "regex /" ++ pattern ++ "/" ++ matcher.regexFlags.getD ""
  | none, none => "empty matcher"

def record : Record Matcher :=
  mk <$> .optional "contains" text <*> .optional "regex" text <*> .optional "regexFlags" text

def read : Reader Matcher :=
  record.read "Matcher"

def toFields (matcher : Matcher) : List (String × Value) :=
  optionalField "contains" .text matcher.contains ++
    optionalField "regex" .text matcher.regex ++
    optionalField "regexFlags" .text matcher.regexFlags

def toJson (matcher : Matcher) : Value :=
  .ofFields matcher.toFields

end Matcher

end TerminalScript
