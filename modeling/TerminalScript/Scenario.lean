import TerminalScript.Step.Document
import TerminalScript.Failure
import TerminalScript.Json.Parser

/-!
Scenarios: what to launch, with which defaults, and the order of the sequences to run.
-/

namespace TerminalScript

open Json Document

inductive SchemaVersion
  | v1
  deriving Inhabited, DecidableEq

inductive BackendKind
  | tmux
  | pty
  deriving Inhabited, DecidableEq

structure LaunchSpec where
  command : String
  args : List String := []
  cwd : Option String := none
  backend : BackendKind
  cols : Option UInt16 := none
  rows : Option UInt16 := none
  startupTimeoutMs : Option UInt64 := none
  readyMatcher : Option Matcher := none
  deriving Inhabited, DecidableEq

structure ScenarioDefaults where
  waitTimeoutMs : Option UInt64 := none
  pollMs : Option UInt64 := none
  scrollbackLines : Option UInt64 := none
  postTypeMs : Option UInt64 := none
  deriving Inhabited, DecidableEq

structure ArtifactSettings where
  report : Option String := none
  capturesDir : Option String := none
  redact : Bool := false
  redactPatterns : List String := []
  deriving Inhabited, DecidableEq

structure Scenario where
  schemaVersion : SchemaVersion := .v1
  name : String
  launch : LaunchSpec
  defaults : ScenarioDefaults := {}
  artifacts : ArtifactSettings := {}
  sequenceOrder : List String
  deriving Inhabited, DecidableEq

namespace SchemaVersion

def named : List (String × SchemaVersion) :=
  [("v1", v1)]

def name : SchemaVersion → String
  | v1 => "v1"

def read : Reader SchemaVersion :=
  choice false named

end SchemaVersion

namespace BackendKind

def named : List (String × BackendKind) :=
  [("tmux", tmux), ("pty", pty)]

def name : BackendKind → String
  | tmux => "tmux"
  | pty => "pty"

end BackendKind

namespace LaunchSpec

def record : Record LaunchSpec :=
  mk <$> .required "command" text <*> .defaulted "args" (list text) [] <*>
    .optional "cwd" path <*> .required "backend" (choice false BackendKind.named) <*>
    .optional "cols" word16 <*> .optional "rows" word16 <*>
    .optional "startupTimeoutMs" milliseconds <*> .optional "readyMatcher" Matcher.read

def read : Reader LaunchSpec :=
  record.read "LaunchSpec"

def toJson (launch : LaunchSpec) : Value :=
  .ofFields <|
    [("command", .text launch.command), ("args", .ofTexts launch.args)] ++
      optionalField "cwd" .text launch.cwd ++
      [("backend", .text launch.backend.name)] ++
      optionalField "cols" (.number ∘ .natural ∘ UInt16.toUInt64) launch.cols ++
      optionalField "rows" (.number ∘ .natural ∘ UInt16.toUInt64) launch.rows ++
      optionalField "startupTimeoutMs" (.number ∘ .natural) launch.startupTimeoutMs ++
      optionalField "readyMatcher" Matcher.toJson launch.readyMatcher

def check (launch : LaunchSpec) : Checked Unit := do
  ensureThat (launch.command ≠ "") (.nonEmpty "launch.command")
  ensureThat (launch.cols ≠ some 0 && launch.rows ≠ some 0)
    (.positive "launch.cols and launch.rows")
  ensurePositive launch.startupTimeoutMs "launch.startupTimeoutMs"
  match launch.readyMatcher with
  | some matcher => inside .readyMatcher matcher.check
  | none => pure ()

end LaunchSpec

namespace ScenarioDefaults

def record : Record ScenarioDefaults :=
  mk <$> .optional "waitTimeoutMs" milliseconds <*> .optional "pollMs" milliseconds <*>
    .optional "scrollbackLines" count <*> .optional "postTypeMs" milliseconds

def read : Reader ScenarioDefaults :=
  record.read "ScenarioDefaults"

def toJson (defaults : ScenarioDefaults) : Value :=
  .ofFields <|
    optionalField "waitTimeoutMs" (.number ∘ .natural) defaults.waitTimeoutMs ++
      optionalField "pollMs" (.number ∘ .natural) defaults.pollMs ++
      optionalField "scrollbackLines" (.number ∘ .natural) defaults.scrollbackLines ++
      optionalField "postTypeMs" (.number ∘ .natural) defaults.postTypeMs

def check (defaults : ScenarioDefaults) : Checked Unit :=
  ensureThat (defaults.waitTimeoutMs ≠ some 0 && defaults.pollMs ≠ some 0 &&
    defaults.scrollbackLines ≠ some 0) (.positive "defaults")

end ScenarioDefaults

namespace ArtifactSettings

def record : Record ArtifactSettings :=
  mk <$> .optional "report" text <*> .optional "capturesDir" path <*>
    .defaulted "redact" boolean false <*> .defaulted "redactPatterns" (list text) []

def read : Reader ArtifactSettings :=
  record.read "ArtifactSettings"

def toJson (settings : ArtifactSettings) : Value :=
  .ofFields <|
    optionalField "report" .text settings.report ++
      optionalField "capturesDir" .text settings.capturesDir ++
      [("redact", .boolean settings.redact)] ++
      (if settings.redactPatterns.isEmpty then []
        else [("redactPatterns", .ofTexts settings.redactPatterns)])

def check (settings : ArtifactSettings) : Checked Unit := do
  ensureNonEmpty settings.report "artifacts.report"
  ensureThat (!settings.redactPatterns.contains "") (.nonEmptyEntries "artifacts.redactPatterns")

end ArtifactSettings

namespace Scenario

def record : Record Scenario :=
  mk <$> .required "schemaVersion" SchemaVersion.read <*> .required "name" text <*>
    .required "launch" LaunchSpec.read <*> .defaulted "defaults" ScenarioDefaults.read {} <*>
    .defaulted "artifacts" ArtifactSettings.read {} <*> .required "sequenceOrder" (list text)

def read : Reader Scenario :=
  record.read "Scenario"

def toJson (scenario : Scenario) : Value :=
  .ofFields [("schemaVersion", .text scenario.schemaVersion.name), ("name", .text scenario.name),
    ("launch", scenario.launch.toJson), ("defaults", scenario.defaults.toJson),
    ("artifacts", scenario.artifacts.toJson), ("sequenceOrder", .ofTexts scenario.sequenceOrder)]

def check (scenario : Scenario) : Checked Unit := do
  ensureThat (scenario.name ≠ "") (.nonEmpty "scenario name")
  inside (.scenario scenario.name) do
    scenario.launch.check
    scenario.defaults.check
    scenario.artifacts.check
    ensureThat (!scenario.sequenceOrder.isEmpty) (.nonEmpty "sequenceOrder")
    ensureThat (!scenario.sequenceOrder.contains "") (.nonEmptyEntries "sequenceOrder")

end Scenario

def readDocument {α : Type} (name : String) (reader : Reader α) (check : α → Checked Unit)
    (value : Value) : Outcome α :=
  Except.mapError Failure.schema do
    let document ← (reader value).mapError fun fault => .of (.readable name fault)
    check document
    pure document

def readDocumentText {α : Type} (ofJson : Value → Outcome α) (text : String) : Outcome α :=
  match parse? text with
  | some value => ofJson value
  | none => .error .json

def Scenario.ofJson : Value → Outcome Scenario :=
  readDocument "scenario" Scenario.read Scenario.check

def Scenario.ofText : String → Outcome Scenario :=
  readDocumentText Scenario.ofJson

end TerminalScript
