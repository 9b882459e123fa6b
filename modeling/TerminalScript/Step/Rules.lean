import TerminalScript.Step.Basic

/-!
The rules of a step that the types of its fields do not express.
-/

namespace TerminalScript

open Document

def ensurePositive (value : Option UInt64) (subject : String) : Checked Unit :=
  ensureThat (value ≠ some 0) (.positive subject)

namespace StepCommon

def check (common : StepCommon) (isCapture : Bool) : Checked Unit := do
  ensureNonEmpty common.id "id"
  ensureNonEmpty common.description "description"
  ensureNonEmpty common.capturesDir "capturesDir"
  ensurePositive common.timeoutMs "timeoutMs"
  ensurePositive common.pollMs "pollMs"
  ensurePositive common.scrollbackLines "scrollbackLines"
  ensureThat (common.scope ≠ some .both || isCapture) .bothOnlyForCapture

end StepCommon

namespace MouseAction

def needsPosition (action : MouseAction) : Bool :=
  action = move || action = drag

def needsButton (action : MouseAction) : Bool :=
  action = down || action = up || action = click || action = drag

end MouseAction

namespace StepKind

def isCapture : StepKind → Bool
  | capture .. => true
  | _ => false

def isCall : StepKind → Bool
  | call .. => true
  | _ => false

def check : StepKind → Checked Unit
  | line _ submitKeys _ =>
      ensureThat (!(submitKeys.getD []).contains "") (.nonEmptyEntries "submitKeys")
  | sendKeys tokens => ensureThat (tokens ≠ "") (.nonEmpty "keys")
  | keys tokens => ensureThat (!tokens.isEmpty && !tokens.contains "") .keyList
  | resize cols rows => ensureThat (cols ≠ 0 && rows ≠ 0) (.positive "cols and rows")
  | waitFor matcher => matcher.check
  | waitForNot matcher => matcher.check
  | expect matcher => matcher.check
  | expectCount matcher equals atLeast atMost => do
      matcher.check
      ensureThat (equals.isSome || atLeast.isSome || atMost.isSome) .countBounded
  | capture name _ => ensureNonEmpty name "name"
  | waitForStable stableMs => ensureThat (stableMs ≠ 0) (.positive "stableMs")
  | call name _ => ensureThat (name ≠ "") (.nonEmpty "name")
  | mouse action button x y delta _ => do
      ensureThat (!action.needsPosition || (x.isSome && y.isSome)) .pointerPosition
      ensureThat (!action.needsButton || button.isSome) .pointerButton
      ensureThat (action ≠ .wheel || delta.isSome) .wheelDelta
  | scroll _ amount => ensureThat (amount ≠ some 0) (.positive "amount")
  | paste _ => .ok ()
  | sleep _ => .ok ()
  | waitForExit => .ok ()

end StepKind

def Step.check (step : Step) : Checked Unit :=
  inside (.stepType step.typeName) do
    step.common.check step.kind.isCapture
    step.kind.check

end TerminalScript
