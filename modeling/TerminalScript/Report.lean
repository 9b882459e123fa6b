import TerminalScript.Scenario

/-!
The report of a run: the outcome of every step of every sequence.
-/

namespace TerminalScript

open Json Document

inductive RunStatus
  | passed
  | failed
  | skipped
  deriving Inhabited, DecidableEq

structure StepResult where
  id : Option String := none
  stepType : String
  status : RunStatus
  durationMs : UInt64
  error : Option String
  deriving Inhabited, DecidableEq

structure SequenceResult where
  name : String
  status : RunStatus
  durationMs : UInt64
  steps : List StepResult
  artifacts : List String
  deriving Inhabited, DecidableEq

structure RunReport where
  schemaVersion : SchemaVersion := .v1
  scenario : String
  startedAt : String
  finishedAt : String
  status : RunStatus
  sequences : List SequenceResult
  deriving Inhabited, DecidableEq

namespace RunStatus

def named : List (String × RunStatus) :=
  [("passed", passed), ("failed", failed), ("skipped", skipped)]

def name : RunStatus → String
  | passed => "passed"
  | failed => "failed"
  | skipped => "skipped"

def read : Reader RunStatus :=
  choice false named

end RunStatus

namespace StepResult

def record : Record StepResult :=
  mk <$> .optional "id" text <*> .required "type" text <*> .required "status" RunStatus.read <*>
    .required "durationMs" milliseconds <*> .expected "error" text

def read : Reader StepResult :=
  record.read "StepResult"

def toJson (result : StepResult) : Value :=
  .object <|
    optionalField "id" .text result.id ++
      [("type", .text result.stepType), ("status", .text result.status.name),
        ("durationMs", .number (.natural result.durationMs)),
        ("error", (result.error.map Value.text).getD .null)]

def check (result : StepResult) : Checked Unit := do
  ensureThat (result.stepType ≠ "") .reportStepType
  ensureThat (result.id ≠ some "") .reportStepId
  ensureThat (result.error ≠ some "") .reportStepError

end StepResult

namespace SequenceResult

def record : Record SequenceResult :=
  mk <$> .required "name" text <*> .required "status" RunStatus.read <*>
    .required "durationMs" milliseconds <*> .required "steps" (list StepResult.read) <*>
    .required "artifacts" (list text)

def read : Reader SequenceResult :=
  record.read "SequenceResult"

def toJson (result : SequenceResult) : Value :=
  .object [("name", .text result.name), ("status", .text result.status.name),
    ("durationMs", .number (.natural result.durationMs)),
    ("steps", .array (result.steps.map StepResult.toJson)),
    ("artifacts", .ofTexts result.artifacts)]

def check (result : SequenceResult) : Checked Unit := do
  ensureThat (result.name ≠ "") (.nonEmpty "sequence name")
  inside (.reportSequence result.name) do
    ensureThat (!result.artifacts.contains "") .reportArtifact
    result.steps.forM StepResult.check

end SequenceResult

namespace RunReport

def record : Record RunReport :=
  mk <$> .required "schemaVersion" SchemaVersion.read <*> .required "scenario" text <*>
    .required "startedAt" text <*> .required "finishedAt" text <*>
    .required "status" RunStatus.read <*> .required "sequences" (list SequenceResult.read)

def read : Reader RunReport :=
  record.read "RunReport"

def toJson (report : RunReport) : Value :=
  .object [("schemaVersion", .text report.schemaVersion.name), ("scenario", .text report.scenario),
    ("startedAt", .text report.startedAt), ("finishedAt", .text report.finishedAt),
    ("status", .text report.status.name),
    ("sequences", .array (report.sequences.map SequenceResult.toJson))]

def toText (report : RunReport) : String :=
  report.toJson.pretty

def passed (report : RunReport) : Bool :=
  report.status = .passed

def check (report : RunReport) : Checked Unit :=
  inside .report do
    ensureThat (report.scenario ≠ "") (.nonEmpty "scenario")
    ensureThat (report.startedAt ≠ "" && report.finishedAt ≠ "") (.nonEmpty "timestamps")
    ensureThat (!report.sequences.isEmpty) (.nonEmpty "sequences")
    report.sequences.forM SequenceResult.check

end RunReport

end TerminalScript
