import TerminalScript.Proofs.Run.Validity

/-!
The sequences that a run attempted and the steps of them that it executed, as its report tells of
them. What holds of each step and each check holds along the whole run, and a run of a sound plan
has a report exactly if its start did not fail.
-/

namespace TerminalScript

variable {σ : Type}

structure Attempt where
  sequence : PlannedSequence
  steps : List Step

def RunPlan.attempts (plan : RunPlan) (report : RunReport) : List Attempt :=
  plan.sequences.zipWith
    (fun sequence result => ⟨sequence, sequence.steps.take result.steps.length⟩) report.sequences

/-- A report tells of some attempts by the names of the sequences and the ids and types of the
steps; it has a result for each of them, and no other. -/
def RunReport.Tells (report : RunReport) (attempts : List Attempt) : Prop :=
  (report.sequences.map fun sequence =>
    (sequence.name, sequence.steps.map fun result => (result.id, result.stepType))) =
  attempts.map fun attempt =>
    (attempt.sequence.name, attempt.steps.map fun step => (step.common.id, step.typeName))

def SequenceVisit.attempt (visit : SequenceVisit σ) : Attempt :=
  ⟨visit.sequence, visit.steps.map StepVisit.step⟩

namespace Interpreter

variable (interpreter : Interpreter σ)

theorem visits_steps (index : Nat) (steps : List Step) (stage : Stage σ) :
    (interpreter.visits index steps stage).map StepVisit.step =
      steps.take (interpreter.visits index steps stage).length := by
  induction steps generalizing index stage with
  | nil => rfl
  | cons step rest ih =>
      simp only [visits]
      split
      · rfl
      · exact congrArg (step :: ·) (ih _ _)

theorem visits_recorded {index : Nat} {steps : List Step} {stage : Stage σ} {visit : StepVisit σ}
    (member : visit ∈ interpreter.visits index steps stage) :
    StepRecorded visit.step visit.result := by
  obtain ⟨step, _, index, before, rfl⟩ := interpreter.visits_made member
  exact runStep_recorded interpreter step index before

/-- A relation between the stages before and after some steps holds of all that were executed if
each of them may be put before others. -/
theorem visits_chain (chain : List Step → Stage σ → Stage σ → Prop) {steps : List Step}
    (done : ∀ stage, chain [] stage stage)
    (next : ∀ step ∈ steps, ∀ index rest stage last,
      chain rest (ran (interpreter.execute step index).run stage).2 last →
      chain (step :: rest) stage last)
    (index : Nat) (stage : Stage σ) :
    chain ((interpreter.visits index steps stage).map StepVisit.step) stage
      (StepVisit.last stage (interpreter.visits index steps stage)) := by
  induction steps generalizing index stage with
  | nil => exact done stage
  | cons step rest ih =>
      have after : (StepVisit.make interpreter step index stage).after =
          (ran (interpreter.execute step index).run stage).2 := by
        rw [StepVisit.make, ran_runStep]
      have first := next step (by simp) index
      simp only [visits]
      -- A step that failed was executed too, but nothing after it was.
      split
      · exact first [] stage _ (after ▸ done _)
      · rw [StepVisit.last_cons]
        refine first _ stage _ (after ▸ ih ?_ (index + 1) _)
        exact fun other member => next other (List.mem_cons_of_mem _ member)

end Interpreter

namespace ScenarioRunner

variable (runner : ScenarioRunner) (backend : Backend σ)

theorem visit_attempt (process : Nat) (sequence : PlannedSequence) (stage : Stage σ) :
    (runner.visit backend process sequence stage).attempt =
      ⟨sequence, sequence.steps.take
        (runner.visit backend process sequence stage).result.steps.length⟩ := by
  let visit := runner.visit backend process sequence stage
  have executed : visit.steps.map StepVisit.step = sequence.steps.take visit.steps.length := by
    have visited : visit.steps = runner.stepVisits backend sequence visit.ready visit.readiness :=
      rfl
    rw [visited]
    cases visit.readiness with
    | error failure => rfl
    | ok answer => exact Interpreter.visits_steps _ 0 sequence.steps visit.ready
  have told : visit.result.steps = visit.steps.map StepVisit.result := rfl
  rw [told, List.length_map, ← executed]
  rfl

theorem visits_attempts (process : Nat) (sequences : List PlannedSequence) (stage : Stage σ) :
    (runner.visits backend process sequences stage).map SequenceVisit.attempt =
      sequences.zipWith
        (fun sequence result => ⟨sequence, sequence.steps.take result.steps.length⟩)
        ((runner.visits backend process sequences stage).map SequenceVisit.result) := by
  induction sequences generalizing stage with
  | nil => rfl
  | cons sequence rest ih =>
      simp only [visits]
      split
      · simp [visit_attempt]
      · simp [visit_attempt, ih]

theorem visit_told (process : Nat) (sequence : PlannedSequence) (stage : Stage σ) :
    let visit := runner.visit backend process sequence stage
    (visit.result.name, visit.result.steps.map fun result => (result.id, result.stepType)) =
      (visit.attempt.sequence.name,
        visit.attempt.steps.map fun step => (step.common.id, step.typeName)) := by
  intro visit
  have recorded : ∀ step ∈ visit.steps, StepRecorded step.step step.result := by
    intro step member
    have visited : visit.steps = runner.stepVisits backend sequence visit.ready visit.readiness :=
      rfl
    rw [visited] at member
    cases readiness : visit.readiness with
    | error failure => simp [readiness, stepVisits] at member
    | ok answer =>
        rw [readiness] at member
        exact Interpreter.visits_recorded _ member
  have told : visit.result.steps = visit.steps.map StepVisit.result := rfl
  rw [told, SequenceVisit.attempt, List.map_map, List.map_map]
  refine Prod.ext rfl (List.map_congr_left fun step member => ?_)
  exact Prod.ext (recorded step member).id (recorded step member).stepType

theorem visits_told (process : Nat) (sequences : List PlannedSequence) (stage : Stage σ) :
    ((runner.visits backend process sequences stage).map fun visit =>
      (visit.result.name, visit.result.steps.map fun result => (result.id, result.stepType))) =
    (runner.visits backend process sequences stage).map fun visit =>
      (visit.attempt.sequence.name,
        visit.attempt.steps.map fun step => (step.common.id, step.typeName)) := by
  induction sequences generalizing stage with
  | nil => rfl
  | cons sequence rest ih =>
      have first := runner.visit_told backend process sequence stage
      simp only [visits]
      split
      · exact congrArg (· :: []) first
      · exact congrArg₂ List.cons first (ih _)

theorem visits_chain (chain : List Attempt → Stage σ → Stage σ → Prop) {process : Nat}
    {sequences : List PlannedSequence} (done : ∀ stage, chain [] stage stage)
    (next : ∀ sequence ∈ sequences, ∀ rest stage last,
      chain rest (runner.visit backend process sequence stage).after last →
      chain ((runner.visit backend process sequence stage).attempt :: rest) stage last)
    (stage : Stage σ) :
    chain ((runner.visits backend process sequences stage).map SequenceVisit.attempt) stage
      (SequenceVisit.last stage (runner.visits backend process sequences stage)) := by
  induction sequences generalizing stage with
  | nil => exact done stage
  | cons sequence rest ih =>
      have first := next sequence (by simp)
      simp only [visits]
      split
      · exact first [] stage _ (done _)
      · rw [SequenceVisit.last_cons]
        refine first _ stage _ (ih ?_ _)
        exact fun other member => next other (List.mem_cons_of_mem _ member)

variable {runner backend} {stage launched : Stage σ}

theorem ran_run_of_unstarted {failure : Failure}
    (unstarted : ran (Interpreter.perform (runner.start backend)).run stage =
      (.error failure, launched)) (epoch : Int) :
    ran (runner.run backend epoch).run stage = (.error failure, ended backend launched) := by
  rw [ran_run, runner.ran_drive_error backend unstarted]
  rfl

theorem ran_run_of_started (sound : runner.plan.Sound) {process : Nat}
    (started : ran (Interpreter.perform (runner.start backend)).run stage =
      (.ok process, launched)) (epoch : Int) :
    let visits := runner.visits backend process runner.plan.sequences launched
    ∃ report,
      ran (runner.run backend epoch).run stage =
        (.ok report, ended backend (SequenceVisit.last launched visits)) ∧
      runner.plan.attempts report = visits.map SequenceVisit.attempt := by
  intro visits
  have kept : ∀ result ∈ visits.map SequenceVisit.result, result.check = .ok () := by
    intro result member
    obtain ⟨visit, inside, rfl⟩ := List.mem_map.mp member
    exact runner.visits_check backend process sound.names sound.steps launched visit inside
  have visited : visits.map SequenceVisit.result ≠ [] := by
    simpa using runner.visits_ne_nil backend process sound.nonempty launched
  obtain ⟨report, made, _⟩ := buildReport_of_check sound.scenario visited kept
    (epoch + backend.now stage.backend)
    (epoch + backend.now (ended backend (SequenceVisit.last launched visits)).backend)
  refine ⟨report, ?_, ?_⟩
  · rw [ran_run, runner.ran_drive_ok backend started]
    exact Prod.ext made rfl
  · rw [RunPlan.attempts, (buildReport_ok made).1, visits_attempts]

theorem tells_of_run_ok {epoch : Int} {last : Stage σ} {report : RunReport}
    (finished : ran (runner.run backend epoch).run stage = (.ok report, last)) :
    report.Tells (runner.plan.attempts report) := by
  obtain ⟨process, launched, _, results, _, _⟩ := started_of_run_ok finished
  -- The visits are what the run did, so they connect the report to the attempts of the plan.
  rw [RunReport.Tells, RunPlan.attempts, results, ← visits_attempts, List.map_map, List.map_map]
  exact runner.visits_told backend process runner.plan.sequences launched

end ScenarioRunner

end TerminalScript
