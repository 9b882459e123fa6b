import TerminalScript.Runner
import TerminalScript.Proofs.Stateful

/-!
The journal of a run: a visit for each step and each sequence that was run, with the stages before
and after it. The loops of a run are equal to what their journals tell, and a journal breaks off
after the first visit that failed.
-/

namespace TerminalScript

variable {σ : Type}

def StepResult.ofOutcome (step : Step) (started finished : Nat) : Outcome Unit → StepResult
  | .ok () =>
      { id := step.common.id, stepType := step.typeName, status := .passed,
        durationMs := (finished - started).toUInt64, error := none }
  | .error failure =>
      { id := step.common.id, stepType := step.typeName, status := .failed,
        durationMs := (finished - started).toUInt64, error := some failure.message }

theorem ran_runStep (interpreter : Interpreter σ) (step : Step) (index : Nat) (stage : Stage σ) :
    ran (interpreter.runStep step index) stage =
      let (outcome, after) := ran (interpreter.execute step index).run stage
      (StepResult.ofOutcome step (interpreter.backend.now stage.backend)
        (interpreter.backend.now after.backend) outcome, after) := by
  rw [Interpreter.runStep, ran_bind, ran_get, ran_bind, ran_bind, ran_get]
  rcases ran (interpreter.execute step index).run stage with ⟨failure | answer, after⟩ <;> rfl

structure StepVisit (σ : Type) where
  step : Step
  index : Nat
  before : Stage σ
  result : StepResult
  after : Stage σ

namespace StepVisit

def make (interpreter : Interpreter σ) (step : Step) (index : Nat) (stage : Stage σ) :
    StepVisit σ :=
  let (result, after) := ran (interpreter.runStep step index) stage
  { step, index, before := stage, result, after }

def failed (visit : StepVisit σ) : Bool :=
  visit.result.status = .failed

def last (stage : Stage σ) (visits : List (StepVisit σ)) : Stage σ :=
  (visits.getLast?.map after).getD stage

theorem last_cons (stage : Stage σ) (visit : StepVisit σ) (visits : List (StepVisit σ)) :
    last stage (visit :: visits) = last visit.after visits := by
  cases visits <;> simp [last, List.getLast?_cons]

end StepVisit

def Interpreter.visits (interpreter : Interpreter σ) (index : Nat) :
    List Step → Stage σ → List (StepVisit σ)
  | [], _ => []
  | step :: rest, stage =>
      let visit := StepVisit.make interpreter step index stage
      if visit.failed then [visit]
      else visit :: interpreter.visits (index + 1) rest visit.after

theorem Interpreter.visits_made (interpreter : Interpreter σ) {index : Nat} {steps : List Step}
    {stage : Stage σ} {visit : StepVisit σ} (member : visit ∈ interpreter.visits index steps stage) :
    ∃ step ∈ steps, ∃ index before, visit = StepVisit.make interpreter step index before := by
  induction steps generalizing index stage with
  | nil => simp [visits] at member
  | cons step rest ih =>
      simp only [visits] at member
      split at member
      · exact ⟨step, by simp, index, stage, List.mem_singleton.mp member⟩
      · rcases List.mem_cons.mp member with rfl | later
        · exact ⟨step, by simp, index, stage, rfl⟩
        · obtain ⟨other, inside, made⟩ := ih later
          exact ⟨other, List.mem_cons_of_mem step inside, made⟩

def StepVisit.statusOf (visits : List (StepVisit σ)) : RunStatus :=
  if visits.any failed then .failed else .passed

theorem ran_runSteps_cons (interpreter : Interpreter σ) (index : Nat) (step : Step)
    (rest : List Step) (stage : Stage σ) :
    ran (ScenarioRunner.runSteps interpreter index (step :: rest)) stage =
      let visit := StepVisit.make interpreter step index stage
      if visit.failed then (([visit.result], .failed), visit.after)
      else
        let later := ran (ScenarioRunner.runSteps interpreter (index + 1) rest) visit.after
        ((visit.result :: later.1.1, later.1.2), later.2) := by
  rw [ScenarioRunner.runSteps, ran_bind]
  by_cases failed : (ran (interpreter.runStep step index) stage).1.status = .failed
  · simp [StepVisit.make, StepVisit.failed, failed]
  · simp [StepVisit.make, StepVisit.failed, failed, ran_map]

theorem ran_runSteps (interpreter : Interpreter σ) (steps : List Step) (index : Nat)
    (stage : Stage σ) :
    ran (ScenarioRunner.runSteps interpreter index steps) stage =
      let visits := interpreter.visits index steps stage
      ((visits.map StepVisit.result, StepVisit.statusOf visits), StepVisit.last stage visits) := by
  induction steps generalizing index stage with
  | nil => rfl
  | cons step rest ih =>
      rw [ran_runSteps_cons]
      simp only [Interpreter.visits]
      by_cases failed : (StepVisit.make interpreter step index stage).failed
      · simp [failed, StepVisit.statusOf, StepVisit.last]
      · simp [failed, ih, StepVisit.statusOf, StepVisit.last_cons]

structure SequenceVisit (σ : Type) where
  process : Nat
  sequence : PlannedSequence
  before : Stage σ
  readiness : Outcome Unit
  ready : Stage σ
  steps : List (StepVisit σ)
  result : SequenceResult
  after : Stage σ

namespace ScenarioRunner

variable (runner : ScenarioRunner) (backend : Backend σ)

def interpreter (sequence : PlannedSequence) : Interpreter σ :=
  ⟨backend, runner.timing, runner.captures, sequence.name⟩

def stepVisits (sequence : PlannedSequence) (ready : Stage σ) :
    Outcome Unit → List (StepVisit σ)
  | .error _ => []
  | .ok () => (runner.interpreter backend sequence).visits 0 sequence.steps ready

def sequenceStatus (steps : List (StepVisit σ)) : Outcome Unit → RunStatus
  | .error _ => .failed
  | .ok () => StepVisit.statusOf steps

def visit (process : Nat) (sequence : PlannedSequence) (stage : Stage σ) : SequenceVisit σ :=
  let before := { stage with artifacts := [] }
  let (readiness, ready) :=
    ran (Interpreter.perform (runner.awaitSequence backend sequence process)).run before
  let steps := runner.stepVisits backend sequence ready readiness
  let after := StepVisit.last ready steps
  let result :=
    { name := sequence.name, status := sequenceStatus steps readiness,
      durationMs := (backend.now after.backend - backend.now before.backend).toUInt64,
      steps := steps.map StepVisit.result, artifacts := after.artifacts }
  { process, sequence, before, readiness, ready, steps, result, after }

end ScenarioRunner

namespace SequenceVisit

def failed (visit : SequenceVisit σ) : Bool :=
  visit.result.status = .failed

def last (stage : Stage σ) (visits : List (SequenceVisit σ)) : Stage σ :=
  (visits.getLast?.map after).getD stage

theorem last_cons (stage : Stage σ) (visit : SequenceVisit σ) (visits : List (SequenceVisit σ)) :
    last stage (visit :: visits) = last visit.after visits := by
  cases visits <;> simp [last, List.getLast?_cons]

end SequenceVisit

namespace ScenarioRunner

variable (runner : ScenarioRunner) (backend : Backend σ)

def visits (process : Nat) : List PlannedSequence → Stage σ → List (SequenceVisit σ)
  | [], _ => []
  | sequence :: rest, stage =>
      let visit := runner.visit backend process sequence stage
      if visit.failed then [visit] else visit :: visits process rest visit.after

theorem visits_made {runner : ScenarioRunner} {backend : Backend σ} {process : Nat}
    {sequences : List PlannedSequence} {stage : Stage σ} {visit : SequenceVisit σ}
    (member : visit ∈ runner.visits backend process sequences stage) :
    ∃ sequence ∈ sequences, ∃ before, visit = runner.visit backend process sequence before := by
  induction sequences generalizing stage with
  | nil => simp [visits] at member
  | cons sequence rest ih =>
      simp only [visits] at member
      split at member
      · exact ⟨sequence, by simp, stage, List.mem_singleton.mp member⟩
      · rcases List.mem_cons.mp member with rfl | later
        · exact ⟨sequence, by simp, stage, rfl⟩
        · obtain ⟨other, inside, made⟩ := ih later
          exact ⟨other, List.mem_cons_of_mem sequence inside, made⟩

theorem ran_runSequence (process : Nat) (sequence : PlannedSequence) (stage : Stage σ) :
    ran (runner.runSequence backend sequence process) stage =
      ((runner.visit backend process sequence stage).result,
        (runner.visit backend process sequence stage).after) := by
  rw [runSequence, ran_bind, ran_modify, ran_bind, ran_get, ran_bind]
  simp only [visit]
  rcases ran (Interpreter.perform (runner.awaitSequence backend sequence process)).run
    { stage with artifacts := [] } with ⟨readiness, ready⟩
  cases readiness with
  | error failure => rfl
  | ok answer =>
      rw [ran_bind, ran_runSteps]
      rfl

theorem ran_runSequences_cons (process : Nat) (sequence : PlannedSequence)
    (rest : List PlannedSequence) (stage : Stage σ) :
    ran (runner.runSequences backend process (sequence :: rest)) stage =
      let first := ran (runner.runSequence backend sequence process) stage
      if first.1.status = .failed then ([first.1], first.2)
      else
        let later := ran (runner.runSequences backend process rest) first.2
        (first.1 :: later.1, later.2) := by
  rw [runSequences, ran_bind]
  by_cases failed : (ran (runner.runSequence backend sequence process) stage).1.status = .failed
  · simp [failed]
  · simp [failed, ran_map]

theorem ran_runSequences (process : Nat) (sequences : List PlannedSequence) (stage : Stage σ) :
    ran (runner.runSequences backend process sequences) stage =
      let visits := runner.visits backend process sequences stage
      (visits.map SequenceVisit.result, SequenceVisit.last stage visits) := by
  induction sequences generalizing stage with
  | nil => rfl
  | cons sequence rest ih =>
      rw [ran_runSequences_cons, ran_runSequence]
      simp only [visits, SequenceVisit.failed, decide_eq_true_eq]
      by_cases failed :
          (runner.visit backend process sequence stage).result.status = .failed
      · simp [failed, SequenceVisit.last]
      · simp [failed, ih, SequenceVisit.last_cons]

def ended (stage : Stage σ) : Stage σ :=
  (ran (Interpreter.perform backend.destroy).run stage).2

theorem ran_drive_error {stage launched : Stage σ} {failure : Failure}
    (failed : ran (Interpreter.perform (runner.start backend)).run stage =
      (.error failure, launched)) :
    ran (runner.drive backend).run stage = (.error failure, launched) := by
  rw [drive, ran_run_bind_error failed]

theorem ran_drive_ok {stage launched : Stage σ} {process : Nat}
    (started : ran (Interpreter.perform (runner.start backend)).run stage =
      (.ok process, launched)) :
    ran (runner.drive backend).run stage =
      let visits := runner.visits backend process runner.plan.sequences launched
      (.ok (visits.map SequenceVisit.result), SequenceVisit.last launched visits) := by
  have followed := ran_runSequences runner backend process runner.plan.sequences launched
  have lifted : ran (runner.drive backend).run stage =
      (.ok (ran (runner.runSequences backend process runner.plan.sequences) launched).1,
        (ran (runner.runSequences backend process runner.plan.sequences) launched).2) := by
    rw [drive, ran_run_bind_ok started]
    rfl
  rw [lifted, followed]

theorem ran_run (epoch : Int) (stage : Stage σ) :
    ran (runner.run backend epoch).run stage =
      let driven := ran (runner.drive backend).run stage
      let last := ended backend driven.2
      (driven.1.bind (buildReport runner.plan.scenario.name (epoch + backend.now stage.backend)
        (epoch + backend.now last.backend)), last) := by
  rw [run, ExceptT.run_mk, ran_bind, ran_get, ran_bind, ran_bind, ran_bind, ran_get]
  rfl

end ScenarioRunner

end TerminalScript
