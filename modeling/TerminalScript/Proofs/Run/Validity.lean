import TerminalScript.Proofs.NonEmpty
import TerminalScript.Proofs.Plan
import TerminalScript.Proofs.Run.Artifacts

/-!
The report of a plan that was built from checked documents keeps the rules of reports, so nothing
but its start makes the run of such a plan fail.
-/

namespace TerminalScript

variable {σ : Type}

theorem StepResult.check_ofOutcome {step : Step} (checked : step.check = .ok ())
    (started finished : Nat) (outcome : Outcome Unit) :
    (StepResult.ofOutcome step started finished outcome).check = .ok () := by
  rw [StepResult.check_eq_ok]
  cases outcome with
  | ok answer => exact ⟨step.kind.typeName_ne_empty, Step.check_id checked, by simp [ofOutcome]⟩
  | error failure =>
      refine ⟨step.kind.typeName_ne_empty, Step.check_id checked, ?_⟩
      simpa [ofOutcome] using failure.message_ne_empty

theorem Interpreter.visits_check (interpreter : Interpreter σ) {steps : List Step}
    (checked : ∀ step ∈ steps, step.check = .ok ()) (index : Nat) (stage : Stage σ) :
    ∀ visit ∈ interpreter.visits index steps stage, visit.result.check = .ok () := by
  intro visit member
  obtain ⟨step, inside, number, before, rfl⟩ := interpreter.visits_made member
  simp only [StepVisit.make, ran_runStep]
  exact StepResult.check_ofOutcome (checked step inside) _ _ _

namespace ScenarioRunner

variable (runner : ScenarioRunner) (backend : Backend σ)

theorem visit_check (process : Nat) {sequence : PlannedSequence} (named : sequence.name ≠ "")
    (checked : ∀ step ∈ sequence.steps, step.check = .ok ()) (stage : Stage σ) :
    (runner.visit backend process sequence stage).result.check = .ok () := by
  let visit := runner.visit backend process sequence stage
  have stored := runner.visit_stored backend process sequence stage
  have visited : visit.steps = runner.stepVisits backend sequence visit.ready visit.readiness := rfl
  refine SequenceResult.check_eq_ok.mpr ⟨named, ?_, ?_⟩
  · have added : visit.result.artifacts = _ := stored.artifacts
    rw [added]
    exact stored.nonempty
  · have told : visit.result.steps = visit.steps.map StepVisit.result := rfl
    rw [told, visited]
    intro result member
    obtain ⟨step, inside, rfl⟩ := List.mem_map.mp member
    cases readiness : visit.readiness with
    | error failure => simp [readiness, stepVisits] at inside
    | ok answer =>
        rw [readiness] at inside
        exact (runner.interpreter backend sequence).visits_check checked 0 visit.ready step inside

theorem visits_check (process : Nat) {sequences : List PlannedSequence}
    (named : ∀ sequence ∈ sequences, sequence.name ≠ "")
    (checked : ∀ sequence ∈ sequences, ∀ step ∈ sequence.steps, step.check = .ok ())
    (stage : Stage σ) :
    ∀ visit ∈ runner.visits backend process sequences stage, visit.result.check = .ok () := by
  intro visit member
  obtain ⟨sequence, inside, before, rfl⟩ := visits_made member
  exact runner.visit_check backend process (named sequence inside) (checked sequence inside) before

theorem visits_ne_nil (process : Nat) {sequences : List PlannedSequence}
    (nonempty : sequences ≠ []) (stage : Stage σ) :
    runner.visits backend process sequences stage ≠ [] := by
  cases sequences with
  | nil => exact absurd rfl nonempty
  | cons sequence rest =>
      simp only [visits]
      split <;> simp

end ScenarioRunner

theorem buildReport_of_check {scenario : String} {results : List SequenceResult}
    (named : scenario ≠ "") (nonempty : results ≠ [])
    (checked : ∀ result ∈ results, result.check = .ok ()) (started finished : Int) :
    ∃ report, buildReport scenario started finished results = .ok report ∧
      report.check = .ok () := by
  let report : RunReport :=
    { scenario, startedAt := timestamp started, finishedAt := timestamp finished,
      status := statusOf results, sequences := results }
  have kept : report.check = .ok () := RunReport.check_eq_ok.mpr
    ⟨named, ⟨timestamp_ne_empty started, timestamp_ne_empty finished⟩, nonempty, checked⟩
  exact ⟨report, check_bind_eq_ok.mpr ⟨mapError_eq_ok.mpr kept, rfl⟩, kept⟩

/-- A run fails exactly as its start does; past its start it answers with a report that keeps the
rules of reports. The scenario and the macros are checked when the plan is built, so only the
sequences are asked to be checked before. -/
theorem run_valid_or_start_failed {scenario : Scenario} {sequences : List Sequence}
    {files : List MacroFile} {selected : Option String} {runner : ScenarioRunner}
    (checked : ∀ sequence ∈ sequences, sequence.check = .ok ())
    (built : RunPlan.build scenario sequences files selected = .ok runner.plan)
    (backend : Backend σ) (epoch : Int) (stage : Stage σ) :
    (∀ failure, (ran (runner.run backend epoch).run stage).1 = .error failure ↔
      (ran (runner.start backend).run stage.backend).1 = .error failure) ∧
    ((∃ process, (ran (runner.start backend).run stage.backend).1 = .ok process) →
      ∃ report, (ran (runner.run backend epoch).run stage).1 = .ok report ∧
        report.check = .ok ()) := by
  have sound := (RunPlan.built built).sound checked
  rcases started : ran (Interpreter.perform (runner.start backend)).run stage with
    ⟨failure | process, launched⟩
  · have cause : (ran (runner.start backend).run stage.backend).1 = .error failure :=
      congrArg Prod.fst started
    have failed : (ran (runner.run backend epoch).run stage).1 = .error failure := by
      rw [runner.ran_run, runner.ran_drive_error backend started]
      rfl
    rw [cause, failed]
    simp
  · have cause : (ran (runner.start backend).run stage.backend).1 = .ok process :=
      congrArg Prod.fst started
    let visits := runner.visits backend process runner.plan.sequences launched
    have kept : ∀ result ∈ visits.map SequenceVisit.result, result.check = .ok () := by
      intro result member
      obtain ⟨visit, inside, rfl⟩ := List.mem_map.mp member
      exact runner.visits_check backend process sound.names sound.steps launched visit inside
    have visited : visits.map SequenceVisit.result ≠ [] := by
      simpa using runner.visits_ne_nil backend process sound.nonempty launched
    obtain ⟨report, made, valid⟩ := buildReport_of_check sound.scenario visited kept
      (epoch + backend.now stage.backend)
      (epoch + backend.now (ScenarioRunner.ended backend
        (SequenceVisit.last launched visits)).backend)
    have finished : (ran (runner.run backend epoch).run stage).1 = .ok report := by
      rw [runner.ran_run, runner.ran_drive_ok backend started]
      exact made
    rw [cause, finished]
    exact ⟨by simp, fun _ => ⟨report, rfl, valid⟩⟩

def tourSequences : List Sequence :=
  [{ name := "leave", steps := [.line "exit"] },
    { name := "look", ensure := some (.ofText "Hall"),
      steps := [.line "map", .ofKind (.scroll .down none), .line "legend"] },
    { name := "arrive", ensure := some (.ofText "Welcome"), steps := [.line "hello"] }]

/-- A run that is welcomed has its report, one that is not fails in the end of its wait, and one
whose process cannot be launched fails at once. -/
theorem run_valid_or_start_failed_of_tour :
    let outcome (script : Scripted.Script) stage :=
      (ran (tour.run (Scripted.backend script) 0).run stage).1
    (∃ report, outcome {} opening = .ok report ∧ report.check = .ok ()) ∧
    outcome {} { opening with backend := {} } =
      .error (.matchTimeout (.present "contains \"Welcome\"") 50) ∧
    outcome { failLaunch := true } opening =
      .error (.processLifecycle (.launchRefused "shell")) := by
  intro outcome
  have checked : ∀ sequence ∈ tourSequences, sequence.check = .ok () := by
    intro sequence member
    simp only [tourSequences, List.mem_cons, List.not_mem_nil, or_false] at member
    rcases member with rfl | rfl | rfl <;> rfl
  have built : RunPlan.build tour.plan.scenario tourSequences [] none = .ok tour.plan := by
    change ([tourSequences[2], tourSequences[1], tourSequences[0]].mapM
      (RunPlan.planSequence []) >>= fun sequences => pure { tour.plan with sequences }) = _
    simp only [List.mapM_cons, List.mapM_nil, RunPlan.planSequence, expand]
    rw [expandWithin_of_uncalled (by decide), expandWithin_of_uncalled (by decide),
      expandWithin_of_uncalled (by decide)]
    rfl
  have welcomed := run_valid_or_start_failed checked built (Scripted.backend {}) 0 opening
  have ignored := run_valid_or_start_failed checked built (Scripted.backend {}) 0
    { opening with backend := {} }
  have refused := run_valid_or_start_failed checked built
    (Scripted.backend { failLaunch := true }) 0 opening
  have shown : (ran (tour.start (Scripted.backend {})).run opening.backend).1 = .ok 1234 := by
    with_unfolding_all rfl
  have waited : (ran (tour.start (Scripted.backend {})).run {}).1 =
      .error (.matchTimeout (.present "contains \"Welcome\"") 50) := by
    with_unfolding_all rfl
  exact ⟨welcomed.2 ⟨1234, shown⟩, (ignored.1 _).mpr waited, (refused.1 _).mpr rfl⟩

end TerminalScript
