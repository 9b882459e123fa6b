import TerminalScript.Scenario

/-!
Sequences of steps, and files of macros: named lists of steps to be used in sequences.
-/

namespace TerminalScript

open Json Document

structure Sequence where
  schemaVersion : SchemaVersion := .v1
  name : String
  prerequisites : List String := []
  ensure : Option Matcher := none
  steps : List Step
  deriving Inhabited

/-- Step templates by name; the names are sorted and distinct. -/
structure MacroFile where
  schemaVersion : SchemaVersion := .v1
  macros : List (String × List Step)
  deriving Inhabited

def checkSteps (place : Nat → Place) (steps : List Step) : Checked Unit :=
  (steps.zipIdx 1).forM fun (step, number) => inside (place number) step.check

namespace Sequence

def record : Record Sequence :=
  mk <$> .required "schemaVersion" SchemaVersion.read <*> .required "name" text <*>
    .defaulted "prerequisites" (list text) [] <*> .optional "ensure" Matcher.read <*>
    .required "steps" (list Step.read)

def read : Reader Sequence :=
  record.read "Sequence"

def toJson (sequence : Sequence) : Value :=
  .ofFields <|
    [("schemaVersion", .text sequence.schemaVersion.name), ("name", .text sequence.name)] ++
      (if sequence.prerequisites.isEmpty then []
        else [("prerequisites", .ofTexts sequence.prerequisites)]) ++
      optionalField "ensure" Matcher.toJson sequence.ensure ++
      [("steps", .array (sequence.steps.map Step.toJson))]

def check (sequence : Sequence) : Checked Unit := do
  ensureThat (sequence.name ≠ "") (.nonEmpty "sequence name")
  inside (.sequence sequence.name) do
    ensureThat (!sequence.prerequisites.contains "") (.nonEmptyEntries "prerequisites")
    match sequence.ensure with
    | some matcher => inside .ensure matcher.check
    | none => pure ()
    checkSteps .step sequence.steps

def ofJson : Value → Outcome Sequence :=
  readDocument "sequence" read check

def ofText : String → Outcome Sequence :=
  readDocumentText ofJson

end Sequence

namespace MacroFile

def readMacros : Reader (List (String × List Step))
  | .object fields => fields.mapM fun (name, steps) => do
      let steps ← list Step.read steps
      pure (name, steps)
  | other => .error (.wrongType other "a map")

def record : Record MacroFile :=
  mk <$> .required "schemaVersion" SchemaVersion.read <*> .required "macros" readMacros

def read : Reader MacroFile :=
  record.read "MacroFile"

def toJson (file : MacroFile) : Value :=
  .ofFields [("schemaVersion", .text file.schemaVersion.name),
    ("macros", .object (file.macros.map fun (name, steps) =>
      (name, .array (steps.map Step.toJson))))]

def check (file : MacroFile) : Checked Unit :=
  file.macros.forM fun (name, steps) => do
    ensureThat (name ≠ "") (.nonEmpty "macro names")
    checkSteps (.macroStep name) steps

def ofJson : Value → Outcome MacroFile :=
  readDocument "macro file" read check

def ofText : String → Outcome MacroFile :=
  readDocumentText ofJson

end MacroFile

end TerminalScript
