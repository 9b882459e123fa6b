import TerminalScript.Interpreter
import TerminalScript.Plan
import TerminalScript.Timestamp

/-!
Running a plan: the process is launched, each sequence is run once the process is ready for it, and
the backend is destroyed whatever happened.
-/

namespace TerminalScript

def statusOf (sequences : List SequenceResult) : RunStatus :=
  if sequences.any fun sequence => sequence.status = .failed then .failed else .passed

def buildReport (scenario : String) (started finished : Int) (sequences : List SequenceResult) :
    Outcome RunReport := do
  let report : RunReport :=
    { scenario, startedAt := timestamp started, finishedAt := timestamp finished,
      status := statusOf sequences, sequences }
  report.check.mapError Failure.schema
  pure report

structure ScenarioRunner where
  plan : RunPlan
  timing : Timing
  captures : CaptureWriter

namespace ScenarioRunner

def new (plan : RunPlan) : Outcome ScenarioRunner := do
  let captures ← CaptureWriter.new plan.scenario.name plan.scenario.artifacts
  pure { plan, timing := Timing.ofDefaults plan.scenario.defaults, captures }

def withCaptures (runner : ScenarioRunner) : Option String → ScenarioRunner
  | some directory => { runner with captures := runner.captures.withDirectory directory }
  | none => runner

variable {σ : Type} (runner : ScenarioRunner) (backend : Backend σ)

def awaitStartup (process : Nat) : Operation σ Unit :=
  match runner.plan.scenario.launch.startupTimeoutMs with
  | some timeout => backend.awaitRunning process timeout.toNat
  | none => pure ()

def awaitReady : Operation σ Unit :=
  match runner.plan.ready with
  | some ready =>
      let timeout :=
        runner.plan.scenario.launch.startupTimeoutMs.getD runner.timing.waitTimeout
      backend.awaitMatch ready .screen false timeout.toNat runner.timing.poll.toNat
  | none => pure ()

def start : Operation σ Nat := do
  let launch := runner.plan.scenario.launch
  let process ← backend.launch launch.command launch.args launch.cwd
  runner.awaitStartup backend process
  runner.awaitReady backend
  pure process

def awaitEnsured : Option Matcher → Operation σ Unit
  | some matcher => do
      let compiled ← ExceptT.mk (pure (CompiledMatcher.compile matcher))
      backend.awaitMatch compiled .screen false runner.timing.waitTimeout.toNat
        runner.timing.poll.toNat
  | none => pure ()

def awaitSequence (sequence : PlannedSequence) (process : Nat) : Operation σ Unit := do
  backend.awaitRunning process runner.timing.waitTimeout.toNat
  runner.awaitEnsured backend sequence.ensure

def runSteps (interpreter : Interpreter σ) (index : Nat) :
    List Step → StateM (Stage σ) (List StepResult × RunStatus)
  | [] => pure ([], .passed)
  | step :: rest => do
      let result ← interpreter.runStep step index
      if result.status = .failed then pure ([result], .failed)
      else
        let (results, status) ← runSteps interpreter (index + 1) rest
        pure (result :: results, status)

def runSequence (sequence : PlannedSequence) (process : Nat) :
    StateM (Stage σ) SequenceResult := do
  modify fun stage => { stage with artifacts := [] }
  let started := backend.now (← get).backend
  let readiness ← (Interpreter.perform (runner.awaitSequence backend sequence process)).run
  let (steps, status) ←
    match readiness with
    | .error _ => pure ([], RunStatus.failed)
    | .ok () =>
        runSteps ⟨backend, runner.timing, runner.captures, sequence.name⟩ 0 sequence.steps
  let stage ← get
  pure
    { name := sequence.name, status,
      durationMs := (backend.now stage.backend - started).toUInt64, steps,
      artifacts := stage.artifacts }

def runSequences (process : Nat) : List PlannedSequence → StateM (Stage σ) (List SequenceResult)
  | [] => pure []
  | sequence :: rest => do
      let result ← runner.runSequence backend sequence process
      if result.status = .failed then pure [result]
      else
        let results ← runSequences process rest
        pure (result :: results)

def drive : Act σ (List SequenceResult) := do
  let process ← Interpreter.perform (runner.start backend)
  let results ← runner.runSequences backend process runner.plan.sequences
  pure results

def run (epoch : Int) : Act σ RunReport :=
  -- The backend is destroyed once at the end, and a failure to do so is passed over.
  ExceptT.mk do
    let started := backend.now (← get).backend
    let outcome ← (runner.drive backend).run
    let _ ← (Interpreter.perform backend.destroy).run
    let finished := backend.now (← get).backend
    pure do
      let results ← outcome
      buildReport runner.plan.scenario.name (epoch + started) (epoch + finished) results

end ScenarioRunner

end TerminalScript
