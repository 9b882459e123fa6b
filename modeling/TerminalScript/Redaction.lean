import TerminalScript.Pattern.Basic

/-!
Redaction: whatever looks like a secret is replaced by a mark.
-/

namespace TerminalScript

def redactedMark : String := "[REDACTED]"

structure Redactor where
  patterns : List Pattern
  deriving Inhabited

namespace Redactor

def new (patterns : List String) : Outcome Redactor := do
  let patterns ← patterns.mapM fun pattern =>
    (Pattern.compile {} pattern).mapError Failure.invalidRegex
  pure ⟨patterns⟩

def redact (redactor : Redactor) (text : String) : String :=
  redactor.patterns.foldl (fun text pattern => pattern.replaceAll redactedMark text) text

end Redactor

end TerminalScript
