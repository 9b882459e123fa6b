import TerminalScript.Backend.Scripted
import TerminalScript.Proofs.ReportRules
import TerminalScript.Proofs.Run.Journal

/-!
What a report tells of a plan. Both loops of a run stop at the first failure, so the sequences of a
report are the first of the plan, the steps of each are the first of its sequence, and only the last
of them can have failed. No status is ever "skipped".
-/

namespace TerminalScript

variable {σ : Type} {α β γ : Type}

/-- The results of a loop over some items that ends with the first to fail. -/
structure ShortCircuited (belongs : Nat → α → β → Prop) (status : β → RunStatus)
    (items : List α) (results : List β) : Prop where
  belong : ∀ index result, results[index]? = some result →
    ∃ item, items[index]? = some item ∧ belongs index item result
  passed : ∀ result ∈ results.dropLast, status result = .passed
  settled : ∀ result ∈ results, status result = .passed ∨ status result = .failed
  stopped : results.length < items.length →
    ∃ last, results.getLast? = some last ∧ status last = .failed

namespace ShortCircuited

variable {belongs : Nat → α → β → Prop} {status : β → RunStatus}

theorem nil : ShortCircuited belongs status [] [] where
  belong := by simp
  passed := by simp
  settled := by simp
  stopped := by simp

theorem fail {item : α} {result : β} (first : belongs 0 item result)
    (failed : status result = .failed) (rest : List α) :
    ShortCircuited belongs status (item :: rest) [result] where
  belong index found same := by
    cases index with
    | zero => exact ⟨item, rfl, by simp_all⟩
    | succ index => simp at same
  passed := by simp
  settled := by simp [failed]
  stopped _ := ⟨result, rfl, failed⟩

theorem cons {item : α} {result : β} {rest : List α} {results : List β}
    (first : belongs 0 item result) (passed : status result = .passed)
    (later : ShortCircuited (fun index => belongs (index + 1)) status rest results) :
    ShortCircuited belongs status (item :: rest) (result :: results) where
  belong index found same := by
    cases index with
    | zero => exact ⟨item, rfl, by simp_all⟩
    | succ index => exact later.belong index found (by simpa using same)
  passed other member := by
    cases results with
    | nil => simp at member
    | cons next results =>
        rw [List.dropLast_cons_of_ne_nil (by simp), List.mem_cons] at member
        rcases member with same | member
        · rw [same, passed]
        · exact later.passed other member
  settled other member := by
    rcases List.mem_cons.mp member with same | member
    · exact .inl (by rw [same, passed])
    · exact later.settled other member
  stopped shorter := by
    obtain ⟨last, found, failed⟩ := later.stopped (by simpa using shorter)
    refine ⟨last, ?_, failed⟩
    rw [List.getLast?_cons, found]
    rfl

theorem map {belongs' : Nat → α → γ → Prop} {status' : γ → RunStatus} {change : β → γ}
    {items : List α} {results : List β} (short : ShortCircuited belongs status items results)
    (same : ∀ result, status' (change result) = status result)
    (belong : ∀ index item result, results[index]? = some result → belongs index item result →
      belongs' index item (change result)) :
    ShortCircuited belongs' status' items (results.map change) where
  belong index found lookup := by
    rw [List.getElem?_map, Option.map_eq_some_iff] at lookup
    obtain ⟨result, there, rfl⟩ := lookup
    obtain ⟨item, here, holds⟩ := short.belong index result there
    exact ⟨item, here, belong index item result there holds⟩
  passed found member := by
    rw [← List.map_dropLast] at member
    obtain ⟨result, inside, rfl⟩ := List.mem_map.mp member
    rw [same, short.passed result inside]
  settled found member := by
    obtain ⟨result, inside, rfl⟩ := List.mem_map.mp member
    rw [same]
    exact short.settled result inside
  stopped shorter := by
    obtain ⟨last, found, failed⟩ := short.stopped (by simpa using shorter)
    exact ⟨change last, by simp [found], by rw [same, failed]⟩

theorem length_le {items : List α} {results : List β}
    (short : ShortCircuited belongs status items results) : results.length ≤ items.length := by
  rcases results.eq_nil_or_concat with rfl | ⟨earlier, last, rfl⟩
  · simp
  · rw [List.concat_eq_append] at short ⊢
    -- The last result stands at the position of some item.
    obtain ⟨item, found, _⟩ := short.belong earlier.length last (by simp)
    have bound : earlier.length < items.length := (List.getElem?_eq_some_iff.mp found).1
    simpa using Nat.succ_le_of_lt bound

theorem eq_nil_of_failed {items : List α} {earlier later : List β} {result : β}
    (short : ShortCircuited belongs status items (earlier ++ result :: later))
    (failed : status result = .failed) : later = [] := by
  cases later with
  | nil => rfl
  | cons next later =>
      have passed := short.passed result (by simp)
      rw [failed] at passed
      contradiction

theorem exists_failed_iff {items : List α} {results : List β}
    (short : ShortCircuited belongs status items results) :
    (∃ result ∈ results, status result = .failed) ↔
      ∃ last, results.getLast? = some last ∧ status last = .failed := by
  constructor
  · rintro ⟨result, member, failed⟩
    rcases results.eq_nil_or_concat with rfl | ⟨earlier, last, rfl⟩
    · simp at member
    · rw [List.concat_eq_append] at short member ⊢
      rcases List.mem_append.mp member with early | late
      · have passed := short.passed result (by simpa using early)
        rw [failed] at passed
        contradiction
      · rw [List.mem_singleton.mp late] at failed
        exact ⟨last, by simp, failed⟩
  · rintro ⟨last, found, failed⟩
    exact ⟨last, List.mem_of_getLast? found, failed⟩

theorem none_failed_iff {items : List α} {results : List β}
    (short : ShortCircuited belongs status items results) :
    (∀ result ∈ results, status result ≠ .failed) ↔
      results.length = items.length ∧ ∀ result ∈ results, status result = .passed := by
  constructor
  · intro none
    constructor
    · apply Nat.le_antisymm short.length_le
      apply Nat.le_of_not_lt
      intro shorter
      obtain ⟨last, found, failed⟩ := short.stopped shorter
      exact none last (List.mem_of_getLast? found) failed
    · intro result member
      exact (short.settled result member).resolve_right (none result member)
  · rintro ⟨_, passed⟩ result member failed
    rw [passed result member] at failed
    contradiction

end ShortCircuited

structure StepRecorded (step : Step) (result : StepResult) : Prop where
  id : result.id = step.common.id
  stepType : result.stepType = step.typeName
  settled : result.status = .passed ∨ result.status = .failed
  error : result.error.isSome ↔ result.status = .failed

theorem runStep_recorded (interpreter : Interpreter σ) (step : Step) (index : Nat)
    (stage : Stage σ) : StepRecorded step (ran (interpreter.runStep step index) stage).1 := by
  rw [ran_runStep]
  rcases ran (interpreter.execute step index).run stage with ⟨failure | answer, after⟩
  · exact ⟨rfl, rfl, .inr rfl, by simp [StepResult.ofOutcome]⟩
  · exact ⟨rfl, rfl, .inl rfl, by simp [StepResult.ofOutcome]⟩

theorem visits_shortCircuited (interpreter : Interpreter σ) (steps : List Step) (index : Nat)
    (stage : Stage σ) :
    ShortCircuited (fun _ step visit => visit.step = step ∧ StepRecorded step visit.result)
      (fun visit => visit.result.status) steps (interpreter.visits index steps stage) := by
  induction steps generalizing index stage with
  | nil => exact .nil
  | cons step rest ih =>
      have first : StepRecorded step (StepVisit.make interpreter step index stage).result :=
        runStep_recorded interpreter step index stage
      simp only [Interpreter.visits]
      split
      · rename_i failed
        exact .fail ⟨rfl, first⟩ (by simpa [StepVisit.failed] using failed) rest
      · rename_i passed
        have status := first.settled.resolve_right (by simpa [StepVisit.failed] using passed)
        exact .cons ⟨rfl, first⟩ status (ih _ _)

structure SequenceRecorded (sequence : PlannedSequence) (check : Outcome Unit)
    (result : SequenceResult) : Prop where
  name : result.name = sequence.name
  steps : check = .ok () →
    ShortCircuited (fun _ => StepRecorded) StepResult.status sequence.steps result.steps
  unready : ∀ failure, check = .error failure → result.steps = []
  settled : result.status = .passed ∨ result.status = .failed
  passed_iff : result.status = .passed ↔
    check = .ok () ∧ result.steps.length = sequence.steps.length ∧
      ∀ step ∈ result.steps, step.status = .passed
  failed_iff : result.status = .failed ↔
    (∃ failure, check = .error failure) ∨
      ∃ last, result.steps.getLast? = some last ∧ last.status = .failed

theorem statusOf_eq_failed_iff (visits : List (StepVisit σ)) :
    StepVisit.statusOf visits = .failed ↔
      ∃ result ∈ visits.map StepVisit.result, result.status = .failed := by
  rw [StepVisit.statusOf]
  constructor
  · intro status
    obtain ⟨visit, member, failed⟩ : ∃ visit ∈ visits, visit.failed := by simpa using status
    exact ⟨visit.result, List.mem_map_of_mem member, by simpa [StepVisit.failed] using failed⟩
  · rintro ⟨result, member, failed⟩
    obtain ⟨visit, inside, rfl⟩ := List.mem_map.mp member
    rw [if_pos]
    exact List.any_eq_true.mpr ⟨visit, inside, by simpa [StepVisit.failed] using failed⟩

theorem statusOf_eq_passed_iff (visits : List (StepVisit σ)) :
    StepVisit.statusOf visits = .passed ↔
      ∀ result ∈ visits.map StepVisit.result, result.status ≠ .failed := by
  simp [StepVisit.statusOf, StepVisit.failed]

theorem sequenceRecorded_of_ready {sequence : PlannedSequence} {visits : List (StepVisit σ)}
    {result : SequenceResult} (name : result.name = sequence.name)
    (steps : result.steps = visits.map StepVisit.result)
    (status : result.status = StepVisit.statusOf visits)
    (short : ShortCircuited (fun _ => StepRecorded) StepResult.status sequence.steps result.steps) :
    SequenceRecorded sequence (.ok ()) result where
  name := name
  steps _ := short
  unready := by simp
  settled := by
    rw [status, StepVisit.statusOf]
    split <;> simp
  passed_iff := by
    rw [status, statusOf_eq_passed_iff, ← steps, short.none_failed_iff]
    simp
  failed_iff := by
    rw [status, statusOf_eq_failed_iff, ← steps, short.exists_failed_iff]
    simp

theorem sequenceRecorded_of_unready {sequence : PlannedSequence} {failure : Failure}
    {result : SequenceResult} (name : result.name = sequence.name) (steps : result.steps = [])
    (status : result.status = .failed) : SequenceRecorded sequence (.error failure) result where
  name := name
  steps := by simp
  unready _ _ := steps
  settled := .inr status
  passed_iff := by simp [status]
  failed_iff := by simp [status]

theorem visit_recorded (runner : ScenarioRunner) (backend : Backend σ) (process : Nat)
    (sequence : PlannedSequence) (stage : Stage σ) :
    SequenceRecorded sequence (runner.visit backend process sequence stage).readiness
      (runner.visit backend process sequence stage).result := by
  simp only [ScenarioRunner.visit]
  rcases ran (Interpreter.perform (runner.awaitSequence backend sequence process)).run
    { stage with artifacts := [] } with ⟨readiness, ready⟩
  cases readiness with
  | error failure => exact sequenceRecorded_of_unready rfl rfl rfl
  | ok answer =>
      have short :=
        visits_shortCircuited (runner.interpreter backend sequence) sequence.steps 0 ready
      exact sequenceRecorded_of_ready rfl rfl rfl
        (short.map (fun _ => rfl) fun _ _ _ _ recorded => recorded.2)

theorem sequenceVisits_shortCircuited (runner : ScenarioRunner) (backend : Backend σ)
    (process : Nat) (sequences : List PlannedSequence) (stage : Stage σ) :
    ShortCircuited
      (fun _ sequence visit => SequenceRecorded sequence visit.readiness visit.result)
      (fun visit => visit.result.status) sequences
      (runner.visits backend process sequences stage) := by
  induction sequences generalizing stage with
  | nil => exact .nil
  | cons sequence rest ih =>
      have first := visit_recorded runner backend process sequence stage
      simp only [ScenarioRunner.visits]
      split
      · rename_i failed
        exact .fail first (by simpa [SequenceVisit.failed] using failed) rest
      · rename_i passed
        have status := first.settled.resolve_right (by simpa [SequenceVisit.failed] using passed)
        exact .cons first status (ih _)

structure RunRecorded (planned : List PlannedSequence) (checks : List (Outcome Unit))
    (report : RunReport) : Prop where
  nonempty : report.sequences ≠ []
  checked : checks.length = report.sequences.length
  sequences : ShortCircuited
    (fun index sequence result =>
      ∃ check, checks[index]? = some check ∧ SequenceRecorded sequence check result)
    SequenceResult.status planned report.sequences
  settled : report.status = .passed ∨ report.status = .failed
  failed_iff : report.status = .failed ↔
    ∃ last, report.sequences.getLast? = some last ∧ last.status = .failed

theorem statusOf_passed_or_failed (results : List SequenceResult) :
    statusOf results = .passed ∨ statusOf results = .failed := by
  unfold statusOf
  split <;> simp

theorem statusOf_eq_failed (results : List SequenceResult) :
    statusOf results = .failed ↔ ∃ result ∈ results, result.status = .failed := by
  simp [statusOf]

theorem buildReport_ok {scenario : String} {started finished : Int}
    {results : List SequenceResult} {report : RunReport}
    (built : buildReport scenario started finished results = .ok report) :
    report.sequences = results ∧ report.status = statusOf results ∧ results ≠ [] := by
  rw [buildReport, check_bind_eq_ok, mapError_eq_ok, RunReport.check_eq_ok] at built
  obtain ⟨⟨_, _, nonempty, _⟩, same⟩ := built
  cases same
  exact ⟨rfl, rfl, nonempty⟩

theorem started_of_run_ok {runner : ScenarioRunner} {backend : Backend σ} {epoch : Int}
    {stage last : Stage σ} {report : RunReport}
    (finished : ran (runner.run backend epoch).run stage = (.ok report, last)) :
    ∃ process launched,
      ran (Interpreter.perform (runner.start backend)).run stage = (.ok process, launched) ∧
      report.sequences = (runner.visits backend process runner.plan.sequences launched).map
        SequenceVisit.result ∧
      report.status = statusOf report.sequences ∧ report.sequences ≠ [] := by
  rw [ScenarioRunner.ran_run] at finished
  rcases started : ran (Interpreter.perform (runner.start backend)).run stage with
    ⟨failure | process, launched⟩
  · rw [runner.ran_drive_error backend started] at finished
    cases finished
  · rw [runner.ran_drive_ok backend started] at finished
    obtain ⟨sequences, status, nonempty⟩ := buildReport_ok (congrArg Prod.fst finished)
    rw [← sequences] at status nonempty
    exact ⟨process, launched, rfl, sequences, status, nonempty⟩

/-- A report tells exactly of the first sequences of the plan, up to the first that failed, and of
the first steps of each, up to the first that failed. -/
theorem run_recorded {runner : ScenarioRunner} {backend : Backend σ} {epoch : Int}
    {stage last : Stage σ} {report : RunReport}
    (finished : ran (runner.run backend epoch).run stage = (.ok report, last)) :
    ∃ process launched,
      ran (Interpreter.perform (runner.start backend)).run stage = (.ok process, launched) ∧
      RunRecorded runner.plan.sequences
        ((runner.visits backend process runner.plan.sequences launched).map
          SequenceVisit.readiness) report := by
  obtain ⟨process, launched, started, results, status, nonempty⟩ := started_of_run_ok finished
  have short := sequenceVisits_shortCircuited runner backend process runner.plan.sequences launched
  have recorded : ShortCircuited
      (fun index sequence result =>
        ∃ check, ((runner.visits backend process runner.plan.sequences launched).map
          SequenceVisit.readiness)[index]? = some check ∧ SequenceRecorded sequence check result)
      SequenceResult.status runner.plan.sequences report.sequences := by
    rw [results]
    apply short.map (fun _ => rfl)
    intro index sequence visit found recorded
    exact ⟨visit.readiness, by simp [found], recorded⟩
  refine ⟨process, launched, started, ?_⟩
  constructor
  · exact nonempty
  · simp [results]
  · exact recorded
  · rw [status]
    exact statusOf_passed_or_failed report.sequences
  · rw [status, statusOf_eq_failed]
    exact recorded.exists_failed_iff

def tour : ScenarioRunner where
  plan :=
    { scenario :=
        { name := "tour"
          launch :=
            { command := "shell", backend := .pty, startupTimeoutMs := some 50,
              readyMatcher := some (.ofText "Welcome") }
          defaults := { waitTimeoutMs := some 40, pollMs := some 10 }
          sequenceOrder := ["arrive", "look", "leave"] }
      ready := some ⟨.literal "Welcome".toList, Matcher.describe (.ofText "Welcome")⟩
      sequences :=
        [{ name := "arrive", ensure := some (.ofText "Welcome"), steps := [.line "hello"] },
          { name := "look", ensure := some (.ofText "Hall"),
            steps := [.line "map", .ofKind (.scroll .down none), .line "legend"] },
          { name := "leave", ensure := none, steps := [.line "exit"] }] }
  timing := { waitTimeout := 40, poll := 10 }
  captures := ⟨"tour", none, none⟩

def opening : Stage Scripted.State where
  backend := { events := [{ time := 20, screen := some "Welcome" }] }
  files := .standard

def guided : Scripted.Script where
  responder := some (Scripted.Responder.answer ⟨[("hello", some "Hall")], none⟩)

/-- The second sequence fails in its second step where the first has led to the hall, and without a
step where it has not. -/
theorem run_recorded_of_tour :
    let tells (script : Scripted.Script) (steps : Nat) : Prop :=
      ∃ report last process launched,
        ran (tour.run (Scripted.backend script) 0).run opening = (.ok report, last) ∧
        report.sequences.map (fun result => (result.status, result.steps.length)) =
          [(.passed, 1), (.failed, steps)] ∧
        RunRecorded tour.plan.sequences
          ((tour.visits (Scripted.backend script) process tour.plan.sequences launched).map
            SequenceVisit.readiness) report
    tells guided 2 ∧ tells {} 0 := by
  intro tells
  have told : ∀ {script steps},
      ((ran (tour.run (Scripted.backend script) 0).run opening).1.toOption.map fun report =>
        report.sequences.map fun result => (result.status, result.steps.length)) =
          some [(.passed, 1), (.failed, steps)] →
      tells script steps := by
    intro script steps results
    rcases finished : ran (tour.run (Scripted.backend script) 0).run opening with
      ⟨failure | report, last⟩
    · rw [finished] at results
      cases results
    · rw [finished] at results
      obtain ⟨process, launched, _, recorded⟩ := run_recorded finished
      exact ⟨report, last, process, launched, finished, Option.some.inj results, recorded⟩
  exact ⟨told (by decide +kernel), told (by decide +kernel)⟩

end TerminalScript
