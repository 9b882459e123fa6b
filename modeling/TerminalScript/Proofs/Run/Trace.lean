import TerminalScript.Proofs.Run.Operations
import TerminalScript.Proofs.Run.ShortCircuit

/-!
The operations that a run issues, from the launch to the end. They are divided among the start, the
check before each sequence that was run, and each step that was run, and the division breaks off
after the first check or step that failed.
-/

namespace TerminalScript

variable {σ α : Type}

def issued (program : StateM (Stage (σ × List Event)) α) (stage : Stage σ) : List Event :=
  (ran program (stage.recording [])).2.backend.2

namespace Records

variable {law : List Event → α → Prop} {recorded : StateM (Stage (σ × List Event)) α}
  {plain : StateM (Stage σ) α}

theorem issued_law (records : Records Stage.recording law recorded plain) (stage : Stage σ) :
    law (issued recorded stage) (ran plain stage).1 := by
  obtain ⟨events, kept, same⟩ := records stage
  rw [issued, same]
  exact kept

theorem ran_recorded (records : Records Stage.recording law recorded plain) (stage : Stage σ)
    (earlier : List Event) :
    ran recorded (stage.recording earlier) =
      ((ran plain stage).1,
        (ran plain stage).2.recording (earlier ++ issued recorded stage)) := by
  obtain ⟨events, _, same⟩ := records stage
  have found : issued recorded stage = events := by
    rw [issued, same]
    rfl
  rw [same, found]

end Records

theorem runStep_records (interpreter : Interpreter σ) (step : Step) (index : Nat) :
    Records Stage.recording (Only Event.Inner) (interpreter.recorded.runStep step index)
      (interpreter.runStep step index) := by
  intro stage
  obtain ⟨events, kept, same⟩ := execute_records interpreter step index stage
  refine ⟨events, kept, fun earlier => ?_⟩
  rw [ran_runStep, ran_runStep, same]
  rfl

def StepVisit.events (interpreter : Interpreter σ) (visit : StepVisit σ) : List Event :=
  issued (interpreter.recorded.runStep visit.step visit.index) visit.before

theorem ran_runSteps_recorded (interpreter : Interpreter σ) (steps : List Step) (index : Nat)
    (stage : Stage σ) (earlier : List Event) :
    ran (ScenarioRunner.runSteps interpreter.recorded index steps) (stage.recording earlier) =
      let answer := ran (ScenarioRunner.runSteps interpreter index steps) stage
      (answer.1, answer.2.recording (earlier ++
        (interpreter.visits index steps stage).flatMap (StepVisit.events interpreter))) := by
  induction steps generalizing index stage earlier with
  | nil => simp [ScenarioRunner.runSteps, Interpreter.visits]
  | cons step rest ih =>
      have first := (runStep_records interpreter step index).ran_recorded stage earlier
      rw [ran_runSteps_cons, ran_runSteps_cons]
      simp only [Interpreter.visits, StepVisit.make, StepVisit.failed, first, decide_eq_true_eq]
      by_cases failed : (ran (interpreter.runStep step index) stage).1.status = .failed
      · simp [failed, StepVisit.events]
      · simp [failed, StepVisit.events, ih]

namespace SequenceVisit

variable (runner : ScenarioRunner) (backend : Backend σ)

def checkEvents (visit : SequenceVisit σ) : List Event :=
  issued (Interpreter.perform
    (runner.awaitSequence backend.recorded visit.sequence visit.process)).run visit.before

def stepEvents (visit : SequenceVisit σ) : List Event :=
  visit.steps.flatMap (StepVisit.events (runner.interpreter backend visit.sequence))

def events (visit : SequenceVisit σ) : List Event :=
  visit.checkEvents runner backend ++ visit.stepEvents runner backend

end SequenceVisit

namespace ScenarioRunner

variable (runner : ScenarioRunner) (backend : Backend σ)

theorem ran_runSequence_recorded (process : Nat) (sequence : PlannedSequence) (stage : Stage σ)
    (earlier : List Event) :
    ran (runner.runSequence backend.recorded sequence process) (stage.recording earlier) =
      let visit := runner.visit backend process sequence stage
      (visit.result, visit.after.recording (earlier ++ visit.events runner backend)) := by
  have checked :=
    (perform_records (awaitSequence_records runner backend sequence process)).ran_recorded
      { stage with artifacts := [] } earlier
  have reset : { stage.recording earlier with artifacts := [] } =
      ({ stage with artifacts := [] } : Stage σ).recording earlier := rfl
  rw [runSequence, ran_bind, ran_modify, ran_bind, ran_get, ran_bind, reset, checked]
  simp only [visit, SequenceVisit.events, SequenceVisit.checkEvents, SequenceVisit.stepEvents]
  rcases ran (Interpreter.perform (runner.awaitSequence backend sequence process)).run
    { stage with artifacts := [] } with ⟨readiness, ready⟩
  cases readiness with
  | error failure =>
      simp only [stepVisits, List.flatMap_nil, List.append_nil]
      rfl
  | ok answer =>
      let interpreter := runner.interpreter backend sequence
      let checks := issued (Interpreter.perform
        (runner.awaitSequence backend.recorded sequence process)).run
        { stage with artifacts := [] }
      let visits := interpreter.visits 0 sequence.steps ready
      have followed :
          ran (runSteps ⟨backend.recorded, runner.timing, runner.captures, sequence.name⟩ 0
            sequence.steps) (ready.recording (earlier ++ checks)) =
          ((visits.map StepVisit.result, StepVisit.statusOf visits),
            (StepVisit.last ready visits).recording (earlier ++ checks ++
              visits.flatMap (StepVisit.events interpreter))) := by
        have same := ran_runSteps_recorded interpreter sequence.steps 0 ready (earlier ++ checks)
        rw [ran_runSteps interpreter] at same
        exact same
      simp only [ran_bind]
      rw [followed, List.append_assoc]
      rfl

theorem ran_runSequences_recorded (process : Nat) (sequences : List PlannedSequence)
    (stage : Stage σ) (earlier : List Event) :
    ran (runner.runSequences backend.recorded process sequences) (stage.recording earlier) =
      let answer := ran (runner.runSequences backend process sequences) stage
      (answer.1, answer.2.recording (earlier ++
        (runner.visits backend process sequences stage).flatMap
          (SequenceVisit.events runner backend))) := by
  induction sequences generalizing stage earlier with
  | nil => simp [runSequences, visits]
  | cons sequence rest ih =>
      rw [ran_runSequences_cons, ran_runSequences_cons, ran_runSequence_recorded, ran_runSequence]
      simp only [visits, SequenceVisit.failed, decide_eq_true_eq]
      by_cases failed :
          (runner.visit backend process sequence stage).result.status = .failed
      · simp [failed]
      · simp [failed, ih]

def journal (stage : Stage σ) : List (SequenceVisit σ) :=
  match ran (Interpreter.perform (runner.start backend)).run stage with
  | (.ok process, launched) => runner.visits backend process runner.plan.sequences launched
  | (.error _, _) => []

def startEvents (stage : Stage σ) : List Event :=
  issued (Interpreter.perform (runner.start backend.recorded)).run stage

theorem ran_drive_recorded (stage : Stage σ) (earlier : List Event) :
    ran (runner.drive backend.recorded).run (stage.recording earlier) =
      let answer := ran (runner.drive backend).run stage
      (answer.1, answer.2.recording (earlier ++ (runner.startEvents backend stage ++
        (runner.journal backend stage).flatMap (SequenceVisit.events runner backend)))) := by
  have launched := (perform_records (start_records runner backend)).ran_recorded stage earlier
  rcases started : ran (Interpreter.perform (runner.start backend)).run stage with
    ⟨failure | process, ready⟩
  · rw [started] at launched
    rw [ran_drive_error runner backend.recorded launched, ran_drive_error runner backend started,
      journal, started]
    simp [startEvents]
  · rw [started] at launched
    rw [ran_drive_ok runner backend.recorded launched, ran_drive_ok runner backend started,
      journal, started]
    have followed := ran_runSequences_recorded runner backend process runner.plan.sequences ready
      (earlier ++ runner.startEvents backend stage)
    rw [ran_runSequences, ran_runSequences] at followed
    obtain ⟨results, last⟩ := Prod.mk.inj followed
    simp only [startEvents, List.append_assoc] at results last ⊢
    rw [results, last]

def destroyEvent (stage : Stage σ) : Event :=
  .destroy (ran (Interpreter.perform backend.destroy).run
    (ran (runner.drive backend).run stage).2).1

theorem ended_recorded (stage : Stage σ) (earlier : List Event) :
    ended backend.recorded (stage.recording earlier) =
      (ended backend stage).recording
        (earlier ++ [.destroy (ran (Interpreter.perform backend.destroy).run stage).1]) := rfl

def trace (stage : Stage σ) : List Event :=
  runner.startEvents backend stage ++
    (runner.journal backend stage).flatMap (SequenceVisit.events runner backend) ++
    [runner.destroyEvent backend stage]

theorem ran_run_recorded (epoch : Int) (stage : Stage σ) (earlier : List Event) :
    ran (runner.run backend.recorded epoch).run (stage.recording earlier) =
      let answer := ran (runner.run backend epoch).run stage
      (answer.1, answer.2.recording (earlier ++ runner.trace backend stage)) := by
  rw [ran_run, ran_run, ran_drive_recorded]
  simp only [ended_recorded, trace, destroyEvent, List.append_assoc]
  rfl

structure VisitLaw (visit : SequenceVisit σ) : Prop where
  checks : ∀ event ∈ visit.checkEvents runner backend, event.Checks visit.process
  readied : visit.readiness = .ok () →
    Readied visit.process visit.sequence.ensure (visit.checkEvents runner backend)
  unready : ∀ failure, visit.readiness = .error failure →
    visit.steps = [] ∧ visit.result.status = .failed
  stopped : ∀ before step after, visit.steps = before ++ step :: after → step.failed →
    after = [] ∧ visit.result.status = .failed

theorem visit_stopped {process : Nat} {sequence : PlannedSequence} {stage : Stage σ}
    {before after : List (StepVisit σ)} {step : StepVisit σ}
    (steps : (runner.visit backend process sequence stage).steps = before ++ step :: after)
    (failed : step.failed) :
    after = [] ∧ (runner.visit backend process sequence stage).result.status = .failed := by
  let visit := runner.visit backend process sequence stage
  have status : step.result.status = .failed := by simpa [StepVisit.failed] using failed
  have visited : visit.steps = runner.stepVisits backend sequence visit.ready visit.readiness := rfl
  have recorded := visit_recorded runner backend process sequence stage
  rcases answered : visit.readiness with failure | answer
  · rw [visited, answered] at steps
    simp [stepVisits] at steps
  · have short := visits_shortCircuited (runner.interpreter backend sequence) sequence.steps 0
      visit.ready
    rw [answered, stepVisits] at visited
    rw [← visited, steps] at short
    have last := short.eq_nil_of_failed status
    have results : visit.result.steps = visit.steps.map StepVisit.result := rfl
    exact ⟨last, recorded.failed_iff.mpr
      (.inr ⟨step.result, by rw [results, steps, last]; simp, status⟩)⟩

theorem visitLaw (process : Nat) (sequence : PlannedSequence) (stage : Stage σ) :
    VisitLaw runner backend (runner.visit backend process sequence stage) := by
  let visit := runner.visit backend process sequence stage
  obtain ⟨checks, readied⟩ :=
    (perform_records (awaitSequence_records runner backend sequence process)).issued_law
      { stage with artifacts := [] }
  have visited : visit.steps = runner.stepVisits backend sequence visit.ready visit.readiness := rfl
  constructor
  · exact checks
  · exact readied
  · intro failure unready
    have recorded := visit_recorded runner backend process sequence stage
    exact ⟨by rw [visited, unready]; rfl, recorded.failed_iff.mpr (.inl ⟨failure, unready⟩)⟩
  · intro before step after steps failed
    exact visit_stopped runner backend steps failed

theorem VisitLaw.inner {visit : SequenceVisit σ} (law : VisitLaw runner backend visit) :
    ∀ event ∈ visit.events runner backend, event.Inner := by
  intro event member
  rcases List.mem_append.mp member with check | step
  · exact (law.checks event check).inner
  · obtain ⟨visit, _, inside⟩ := List.mem_flatMap.mp step
    exact (runStep_records _ visit.step visit.index).issued_law visit.before event inside

theorem visitLaw_of_mem_visits {process : Nat} {sequences : List PlannedSequence}
    {stage : Stage σ} {visit : SequenceVisit σ}
    (member : visit ∈ runner.visits backend process sequences stage) :
    VisitLaw runner backend visit ∧ visit.process = process := by
  induction sequences generalizing stage with
  | nil => simp [visits] at member
  | cons sequence rest ih =>
      have first := visitLaw runner backend process sequence stage
      simp only [visits] at member
      split at member
      · rw [List.mem_singleton.mp member]
        exact ⟨first, rfl⟩
      · rcases List.mem_cons.mp member with rfl | later
        · exact ⟨first, rfl⟩
        · exact ih later

theorem journal_of_started {process : Nat} {stage launched : Stage σ}
    (started : ran (Interpreter.perform (runner.start backend)).run stage =
      (.ok process, launched)) :
    runner.journal backend stage =
      runner.visits backend process runner.plan.sequences launched := by
  rw [journal, started]

theorem journal_of_unstarted {failure : Failure} {stage launched : Stage σ}
    (unstarted : ran (Interpreter.perform (runner.start backend)).run stage =
      (.error failure, launched)) : runner.journal backend stage = [] := by
  rw [journal, unstarted]

theorem visitLaw_of_mem_journal {stage : Stage σ} {visit : SequenceVisit σ}
    (member : visit ∈ runner.journal backend stage) :
    VisitLaw runner backend visit ∧
      ∃ launched, ran (Interpreter.perform (runner.start backend)).run stage =
        (.ok visit.process, launched) := by
  rcases started : ran (Interpreter.perform (runner.start backend)).run stage with
    ⟨failure | process, launched⟩
  · simp [journal_of_unstarted runner backend started] at member
  · rw [journal_of_started runner backend started] at member
    obtain ⟨law, rfl⟩ := visitLaw_of_mem_visits runner backend member
    exact ⟨law, launched, rfl⟩

theorem journal_eq_nil_of_failed {stage : Stage σ} {earlier later : List (SequenceVisit σ)}
    {visit : SequenceVisit σ} (visits : runner.journal backend stage = earlier ++ visit :: later)
    (failed : visit.result.status = .failed) : later = [] := by
  rcases started : ran (Interpreter.perform (runner.start backend)).run stage with
    ⟨failure | process, launched⟩
  · rw [journal_of_unstarted runner backend started] at visits
    simp at visits
  · have short :=
      sequenceVisits_shortCircuited runner backend process runner.plan.sequences launched
    rw [← journal_of_started runner backend started, visits] at short
    exact short.eq_nil_of_failed failed

/-- The law that the trace of a run keeps: it begins with the only launch and ends with the only
destroy, steps issue operations only after a check that found the process ready, and nothing but the
end follows a start, a check or a step that failed. -/
structure TraceLaw (stage : Stage σ) : Prop where
  enclosed : ∃ answer inner ended,
    runner.trace backend stage =
      .launch runner.plan.scenario.launch.command runner.plan.scenario.launch.args
        runner.plan.scenario.launch.cwd answer :: inner ++ [.destroy ended] ∧
      ∀ event ∈ inner, event.Inner
  divided : runner.trace backend stage =
    runner.startEvents backend stage ++
      (runner.journal backend stage).flatMap (fun visit =>
        visit.checkEvents runner backend ++
          visit.steps.flatMap (StepVisit.events (runner.interpreter backend visit.sequence))) ++
      [runner.destroyEvent backend stage]
  ready : ∀ visit ∈ runner.journal backend stage, visit.steps ≠ [] →
    (∃ launched, ran (Interpreter.perform (runner.start backend)).run stage =
      (.ok visit.process, launched)) ∧
    Readied visit.process visit.sequence.ensure (visit.checkEvents runner backend)
  unstarted : ∀ failure launched,
    ran (Interpreter.perform (runner.start backend)).run stage = (.error failure, launched) →
    runner.trace backend stage =
      runner.startEvents backend stage ++ [runner.destroyEvent backend stage]
  unready : ∀ before visit after failure,
    runner.journal backend stage = before ++ visit :: after →
    visit.readiness = .error failure →
    runner.trace backend stage =
      runner.startEvents backend stage ++ before.flatMap (SequenceVisit.events runner backend) ++
        visit.checkEvents runner backend ++ [runner.destroyEvent backend stage]
  failed : ∀ before visit after first step rest,
    runner.journal backend stage = before ++ visit :: after →
    visit.steps = first ++ step :: rest → step.failed →
    runner.trace backend stage =
      runner.startEvents backend stage ++ before.flatMap (SequenceVisit.events runner backend) ++
        visit.checkEvents runner backend ++
        first.flatMap (StepVisit.events (runner.interpreter backend visit.sequence)) ++
        step.events (runner.interpreter backend visit.sequence) ++
        [runner.destroyEvent backend stage]

theorem trace_enclosed (stage : Stage σ) :
    ∃ answer inner ended,
      runner.trace backend stage =
        .launch runner.plan.scenario.launch.command runner.plan.scenario.launch.args
          runner.plan.scenario.launch.cwd answer :: inner ++ [.destroy ended] ∧
        ∀ event ∈ inner, event.Inner := by
  obtain ⟨answer, looks, started, inner⟩ :=
    (perform_records (start_records runner backend)).issued_law stage
  refine ⟨answer, looks ++ (runner.journal backend stage).flatMap
    (SequenceVisit.events runner backend),
    (ran (Interpreter.perform backend.destroy).run (ran (runner.drive backend).run stage).2).1,
    ?_, ?_⟩
  · rw [trace, startEvents, started, List.cons_append]
    rfl
  · intro event member
    rcases List.mem_append.mp member with early | late
    · exact inner event early
    · obtain ⟨visit, visited, inside⟩ := List.mem_flatMap.mp late
      exact (visitLaw_of_mem_journal runner backend visited).1.inner runner backend event inside

theorem trace_of_failed_visit {stage : Stage σ} {before after : List (SequenceVisit σ)}
    {visit : SequenceVisit σ} (visits : runner.journal backend stage = before ++ visit :: after)
    (failed : visit.result.status = .failed) :
    runner.trace backend stage =
      runner.startEvents backend stage ++ before.flatMap (SequenceVisit.events runner backend) ++
        visit.events runner backend ++ [runner.destroyEvent backend stage] := by
  have last := journal_eq_nil_of_failed runner backend visits failed
  rw [trace, visits, last]
  simp

theorem traceLaw (stage : Stage σ) : TraceLaw runner backend stage where
  enclosed := trace_enclosed runner backend stage
  divided := rfl
  ready visit member stepped := by
    obtain ⟨law, launched⟩ := visitLaw_of_mem_journal runner backend member
    refine ⟨launched, law.readied ?_⟩
    rcases answered : visit.readiness with failure | answer
    · exact absurd (law.unready failure answered).1 stepped
    · rfl
  unstarted failure launched failed := by
    rw [trace, journal_of_unstarted runner backend failed]
    simp
  unready before visit after failure visits unready := by
    have member : visit ∈ runner.journal backend stage := by simp [visits]
    have law := (visitLaw_of_mem_journal runner backend member).1
    obtain ⟨none, status⟩ := law.unready failure unready
    rw [trace_of_failed_visit runner backend visits status]
    simp [SequenceVisit.events, SequenceVisit.stepEvents, none]
  failed before visit after first step rest visits steps failed := by
    have member : visit ∈ runner.journal backend stage := by simp [visits]
    have law := (visitLaw_of_mem_journal runner backend member).1
    obtain ⟨last, status⟩ := law.stopped first step rest steps failed
    rw [trace_of_failed_visit runner backend visits status, SequenceVisit.events,
      SequenceVisit.stepEvents, steps, last]
    simp

/-- A run does the same whether it is recorded or not, and its trace keeps the law. -/
theorem run_traced (epoch : Int) (stage : Stage σ) :
    ran (runner.run backend.recorded epoch).run (stage.recording []) =
      ((ran (runner.run backend epoch).run stage).1,
        (ran (runner.run backend epoch).run stage).2.recording (runner.trace backend stage)) ∧
    TraceLaw runner backend stage :=
  ⟨ran_run_recorded runner backend epoch stage [], traceLaw runner backend stage⟩

end ScenarioRunner

end TerminalScript
