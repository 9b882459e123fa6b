import TerminalScript.Backend.Pty
import TerminalScript.Backend.Tmux
import TerminalScript.Bundle
import TerminalScript.CommandLine
import TerminalScript.Configuration
import TerminalScript.Report.Target
import TerminalScript.Runner

/-!
The command as a whole: from its arguments and what it finds around it to what it prints, writes and
calls. Settings are taken from the command line before the scenario, and from the scenario before
the configuration.
-/

namespace TerminalScript

namespace Command

structure Surroundings where
  files : Files
  configuration : Option String := none
  program : Option String := none
  host : Tmux.Host
  epoch : Int := 0

structure Ending where
  status : UInt32
  output : String := ""
  error : Option String := none
  files : Files
  calls : List (List String) := []

inductive Fault
  | configuration (fault : ConfigurationFault)
  | bundle (fault : BundleFault)
  | failure (cause : Failure)
  | report (error : FileError)
  deriving Inhabited

def Fault.chain : Fault → List String
  | configuration fault => [fault.message]
  | bundle fault => fault.chain
  | failure cause => cause.chain
  | report error => [error.message]

def Fault.message (fault : Fault) : String :=
  "Error: " ++ Json.separated ": " fault.chain

structure Task where
  runner : ScenarioRunner
  options : BackendOptions
  target : ReportTarget

def capturesDirectory (line : CommandLine) (scenario : Scenario)
    (configuration : Configuration) : Option String :=
  match line.captures, scenario.artifacts.capturesDir with
  | some directory, _ => some directory
  | none, some _ => none
  | none, none => configuration.capturesDir

def loadConfiguration (surroundings : Surroundings) (line : CommandLine) :
    Except Fault Configuration :=
  match line.configuration with
  | some path => (Configuration.load surroundings.files path).mapError .configuration
  | none => .ok {}

def checkBackend (surroundings : Surroundings) (options : BackendOptions) :
    BackendKind → Outcome Unit
  | .tmux => (Tmux.findProgram options surroundings.program surroundings.files).map fun _ => ()
  | .pty => .ok ()

def prepare (surroundings : Surroundings) (line : CommandLine) : Except Fault Task := do
  let configuration ← loadConfiguration surroundings line
  let bundle ← (Bundle.load surroundings.files line.scenario).mapError Fault.bundle
  let scenario := bundle.scenario
  let target :=
    ReportTarget.resolve [line.report, scenario.artifacts.report, configuration.report]
  let options := configuration.backend.forLaunch scenario.launch
  Except.mapError Fault.failure do
    let plan ← RunPlan.build scenario bundle.sequences bundle.macros line.sequence
    let runner ← ScenarioRunner.new plan
    checkBackend surroundings options scenario.launch.backend
    pure
      { runner := runner.withCaptures (capturesDirectory line scenario configuration), options,
        target }

def runOn {σ : Type} (runner : ScenarioRunner) (backend : Backend σ) (giveUp : Operation σ Unit)
    (start : σ) (epoch : Int) (files : Files) : Outcome RunReport × Stage σ :=
  let (outcome, stage) := (runner.run backend epoch).run.run { backend := start, files }
  let (_, last) := giveUp.run.run stage.backend
  (outcome, { stage with backend := last })

def runTask (surroundings : Surroundings) (task : Task) :
    Outcome RunReport × Files × List (List String) :=
  let { files, host, epoch, .. } := surroundings
  match task.runner.plan.scenario.launch.backend with
  | .tmux =>
      let (outcome, stage) :=
        runOn task.runner (Tmux.backend host task.options) (Tmux.giveUp host) {} epoch files
      (outcome, stage.files, stage.backend.calls)
  | .pty =>
      let backend := Pty.backend task.options (Pty.refusalOf files)
      let (outcome, stage) := runOn task.runner backend backend.destroy {} epoch files
      (outcome, stage.files, [])

def failed (files : Files) (calls : List (List String)) (fault : Fault) : Ending :=
  { status := 1, error := some fault.message, files, calls }

def deliver (target : ReportTarget) (report : RunReport) (files : Files)
    (calls : List (List String)) : Ending :=
  match target with
  | .standardOutput => { status := 0, output := report.toText ++ "\n", files, calls }
  | .file path =>
      match ReportTarget.writeFile files path report with
      | .ok files => { status := 0, files, calls }
      | .error error => failed files calls (.report error)

def runLine (surroundings : Surroundings) (line : CommandLine) : Ending :=
  -- A run whose sequences fail is still a run that was carried out.
  match prepare surroundings line with
  | .error fault => failed surroundings.files [] fault
  | .ok task =>
      let (outcome, files, calls) := runTask surroundings task
      match outcome with
      | .error failure => failed files calls (.failure failure)
      | .ok report => deliver task.target report files calls

def usage : String :=
  "Usage: terminal-script --scenario FILE [--sequence NAME] [--report FILE|stdout]\n" ++
    "                       [--captures DIRECTORY] [--config FILE] [-v|--verbose]\n"

def versionText : String := "terminal-script 1.0.0\n"

def run (surroundings : Surroundings) (arguments : List String) : Ending :=
  let files := surroundings.files
  match CommandLine.parse arguments surroundings.configuration with
  | .ok line => runLine surroundings line
  | .error .help => { status := 0, output := usage, files }
  | .error .version => { status := 0, output := versionText, files }
  | .error .misuse => { status := 2, files }

end Command

end TerminalScript
