import TerminalScript.Document.Fault

/-!
Broken rules of documents and reports, with the places that lead to them.
-/

namespace TerminalScript.Document

open Json

inductive Rule
  | readable (document : String) (fault : Fault)
  | nonEmpty (subject : String)
  | nonEmptyEntries (subject : String)
  | positive (subject : String)
  | keyList
  | matcherComplete
  | countBounded
  | bothOnlyForCapture
  | pointerPosition
  | pointerButton
  | wheelDelta
  | reportArtifact
  | reportStepType
  | reportStepId
  | reportStepError
  deriving Inhabited

inductive Place
  | scenario (name : String)
  | sequence (name : String)
  | readyMatcher
  | ensure
  | step (number : Nat)
  | macroStep (name : String) (number : Nat)
  | stepType (name : String)
  | expansion (name : String)
  | report
  | reportSequence (name : String)
  deriving Inhabited

structure Violation where
  places : List Place
  rule : Rule
  deriving Inhabited

def Rule.message : Rule → String
  | readable document fault => "invalid " ++ document ++ ": " ++ fault.message
  | nonEmpty subject => subject ++ " must be non-empty"
  | nonEmptyEntries subject => subject ++ " entries must be non-empty"
  | positive subject => subject ++ " must be positive"
  | keyList => "keys must be a non-empty list of non-empty tokens"
  | matcherComplete => "Matcher requires contains or regex"
  | countBounded => "expectCount requires equals, atLeast, or atMost"
  | bothOnlyForCapture => "scope 'both' is only valid for capture"
  | pointerPosition => "mouse action requires x and y"
  | pointerButton => "mouse action requires button"
  | wheelDelta => "mouse wheel requires delta"
  | reportArtifact => "has an empty artifact path"
  | reportStepType => "has a step without type"
  | reportStepId => "has a step with an empty id"
  | reportStepError => "has a step with an empty error"

def Place.message : Place → String
  | scenario name => "scenario " ++ Text.quoted name ++ ": "
  | sequence name => "sequence " ++ Text.quoted name ++ ": "
  | readyMatcher => "launch.readyMatcher: "
  | ensure => "ensure: "
  | step number => "step " ++ toString number ++ ": "
  | macroStep name number =>
      "macro " ++ Text.quoted name ++ " step " ++ toString number ++ ": "
  | stepType name => name ++ " step: "
  | expansion name => "macro " ++ Text.quoted name ++ " produced an invalid step: "
  | report => "invalid report: "
  | reportSequence name => "sequence " ++ Text.quoted name ++ " "

namespace Violation

def message (violation : Violation) : String :=
  String.join (violation.places.map Place.message) ++ violation.rule.message

def of (rule : Rule) : Violation :=
  ⟨[], rule⟩

def inside (place : Place) (violation : Violation) : Violation :=
  { violation with places := place :: violation.places }

end Violation

abbrev Checked (α : Type) := Except Violation α

def ensureThat (condition : Bool) (rule : Rule) : Checked Unit :=
  if condition then .ok () else .error (.of rule)

def inside {α : Type} (place : Place) (checked : Checked α) : Checked α :=
  checked.mapError (.inside place)

def ensureNonEmpty (value : Option String) (subject : String) : Checked Unit :=
  ensureThat (value ≠ some "") (.nonEmpty subject)

end TerminalScript.Document
