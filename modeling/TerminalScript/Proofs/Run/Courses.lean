import TerminalScript.Proofs.Run.Journal
import TerminalScript.Proofs.Run.Waits

/-!
The course of a whole run on the scripted backend, in which every wait is a loop without a bound. If
nothing is polled at intervals of nothing, the course is what the run computes: it comes to an end,
and to no other.
-/

namespace TerminalScript

namespace Course

variable {S α β : Type}

def bind (first : Course S α) (next : α → Course S β) : Course S β :=
  fun state answer last => ∃ value middle, first state value middle ∧ next value middle answer last

def attempt (first : Course S (Outcome α)) (next : α → Course S (Outcome β)) :
    Course S (Outcome β) :=
  first.bind fun
    | .ok value => next value
    | .error failure => of (pure (.error failure))

def staged {σ : Type} (course : Course σ α) : Course (Stage σ) α :=
  fun stage answer last => ∃ after, course stage.backend answer after ∧
    last = { stage with backend := after }

theorem of_bind (program : StateM S α) (next : α → StateM S β) :
    of (program >>= next) = (of program).bind fun value => of (next value) := by
  funext state answer last
  apply propext
  simp only [of, bind, ran_bind]
  constructor
  · intro same
    exact ⟨_, _, rfl, same⟩
  · rintro ⟨value, middle, first, same⟩
    rwa [first]

theorem of_run_bind (program : ExceptT Failure (StateM S) α)
    (next : α → ExceptT Failure (StateM S) β) :
    of (program >>= next).run = (of program.run).attempt fun value => of (next value).run := by
  rw [ExceptT.run_bind, of_bind, attempt]
  congr 1
  funext answer
  cases answer <;> rfl

theorem of_perform {σ : Type} (operation : Operation σ α) :
    of (Interpreter.perform operation).run = staged (of operation.run) := by
  funext stage answer last
  apply propext
  simp only [of, staged, ran_perform, Prod.ext_iff]
  constructor
  · rintro ⟨same, rfl⟩
    exact ⟨_, ⟨same, rfl⟩, rfl⟩
  · rintro ⟨after, ⟨same, rfl⟩, rfl⟩
    exact ⟨same, rfl⟩

end Course

namespace Scripted

variable (script : Script)

def runningCourse (process timeout : Nat) : Course State (Outcome Unit) :=
  (Wait.polling State.time State.sleep 100 ((backend script).isRunning process)
    (.matchTimeout (.running process) timeout)).course timeout

theorem runningCourse_eq (process timeout : Nat) :
    runningCourse script process timeout =
      .of ((backend script).awaitRunning process timeout).run :=
  Wait.course_polling (steady_of_still fun _ => rfl) (by decide) timeout

def matchCourse (matcher : CompiledMatcher) (surface : Surface) (absent : Bool)
    (timeout poll : Nat) : Course State (Outcome Unit) :=
  let look := do
    let text ← surface.read (backend script)
    pure (matcher.isMatch text != absent)
  let awaited :=
    if absent then Awaited.absent matcher.description else .present matcher.description
  (Wait.polling State.time State.sleep poll look (.matchTimeout awaited timeout)).course timeout

theorem matchCourse_eq (matcher : CompiledMatcher) (surface : Surface) (absent : Bool)
    (timeout : Nat) {poll : Nat} (positive : poll ≠ 0) :
    matchCourse script matcher surface absent timeout poll =
      .of ((backend script).awaitMatch matcher surface absent timeout poll).run := by
  apply Wait.course_polling (steady_of_still fun state => ?_) positive
  cases surface <;> rfl

def compiledCourse (matcher : Matcher) (surface : Surface) (absent : Bool) (timeout poll : Nat) :
    Course State (Outcome Unit) :=
  (Course.of (pure (CompiledMatcher.compile matcher))).attempt fun compiled =>
    matchCourse script compiled surface absent timeout poll

theorem compiledCourse_eq (matcher : Matcher) (surface : Surface) (absent : Bool)
    (timeout : Nat) {poll : Nat} (positive : poll ≠ 0) :
    compiledCourse script matcher surface absent timeout poll =
      .of (do
        let compiled ← ExceptT.mk (pure (CompiledMatcher.compile matcher))
        (backend script).awaitMatch compiled surface absent timeout poll : Operation _ _).run := by
  rw [Course.of_run_bind, compiledCourse]
  simp only [matchCourse_eq script _ surface absent timeout positive]
  rfl

def digest : Operation State String := do
  let text ← (backend script).captureScreen
  pure (Digest.sha256Hex (Text.encode text))

theorem sampling_steady (stable : Nat) (timedOut : Failure) :
    (Wait.sampling State.time State.sleep 5 (digest script) stable timedOut).Steady where
  still _ := rfl
  exact _ _ := time_sleep _ _

def unchangedCourse (stable timeout : Nat) : Course State (Outcome Unit) :=
  Wait.stableCourse State.time State.sleep 5 (digest script) stable timeout

theorem unchangedCourse_eq (stable timeout : Nat) :
    unchangedCourse script stable timeout =
      .of ((backend script).waitForStable stable timeout).run :=
  Wait.stableCourse_eq (sampling_steady script stable _) (by decide)

end Scripted

open Scripted (State Script runningCourse matchCourse compiledCourse)

namespace Interpreter

section

variable (script : Script) (interpreter : Interpreter State)

def executeCourse (step : Step) (index : Nat) : Course (Stage State) (Outcome Unit) :=
  let timing := interpreter.timing.forStep step.common
  let timeout := timing.waitTimeout.toNat
  let surface := Surface.ofScope (step.common.scope.getD .screen) timing.scrollbackLines.toNat
  match step.kind with
  | .waitFor matcher =>
      .staged (compiledCourse script matcher surface false timeout timing.poll.toNat)
  | .waitForNot matcher =>
      .staged (compiledCourse script matcher surface true timeout timing.poll.toNat)
  | .waitForExit => .staged ((Scripted.exitWait timeout).course timeout)
  | .waitForStable stableMs => .staged (Scripted.unchangedCourse script stableMs.toNat timeout)
  | _ => .of (interpreter.execute step index).run

def stepCourse (step : Step) (index : Nat) : Course (Stage State) StepResult :=
  fun stage result last => ∃ outcome,
    interpreter.executeCourse script step index stage outcome last ∧
      result = StepResult.ofOutcome step stage.backend.time last.backend.time outcome

def stepsCourse (index : Nat) : List Step → Course (Stage State) (List StepResult × RunStatus)
  | [] => .of (pure ([], .passed))
  | step :: rest =>
      (interpreter.stepCourse script step index).bind fun result =>
        if result.status = .failed then .of (pure ([result], .failed))
        else
          (stepsCourse (index + 1) rest).bind fun (results, status) =>
            .of (pure (result :: results, status))

end

variable {script : Script} {interpreter : Interpreter State}

theorem executeCourse_eq {step : Step} (index : Nat)
    (own : interpreter.backend = Scripted.backend script)
    (positive : (interpreter.timing.forStep step.common).poll.toNat ≠ 0) :
    interpreter.executeCourse script step index = .of (interpreter.execute step index).run := by
  unfold executeCourse execute
  cases step.kind with
  | waitFor matcher =>
      rw [Course.of_perform, waitFor, own]
      exact congrArg Course.staged (Scripted.compiledCourse_eq script matcher _ false _ positive)
  | waitForNot matcher =>
      rw [Course.of_perform, waitFor, own]
      exact congrArg Course.staged (Scripted.compiledCourse_eq script matcher _ true _ positive)
  | waitForExit =>
      rw [Course.of_perform, own]
      exact congrArg Course.staged (Scripted.exitWait_course _)
  | waitForStable stable =>
      rw [Course.of_perform, own]
      exact congrArg Course.staged (Scripted.unchangedCourse_eq script stable.toNat _)
  | _ => rfl

theorem stepCourse_eq {step : Step} (index : Nat)
    (own : interpreter.backend = Scripted.backend script)
    (positive : (interpreter.timing.forStep step.common).poll.toNat ≠ 0) :
    interpreter.stepCourse script step index = .of (interpreter.runStep step index) := by
  funext stage result last
  apply propext
  rw [stepCourse, executeCourse_eq index own positive, Course.of, ran_runStep, own]
  simp only [Course.of]
  constructor
  · rintro ⟨outcome, same, rfl⟩
    rw [same]
    rfl
  · intro same
    obtain ⟨rfl, rfl⟩ := Prod.mk.inj same
    exact ⟨_, rfl, rfl⟩

theorem stepsCourse_eq {steps : List Step} (index : Nat)
    (own : interpreter.backend = Scripted.backend script)
    (positive : ∀ step ∈ steps, (interpreter.timing.forStep step.common).poll.toNat ≠ 0) :
    interpreter.stepsCourse script index steps =
      .of (ScenarioRunner.runSteps interpreter index steps) := by
  induction steps generalizing index with
  | nil => rfl
  | cons step rest ih =>
      rw [stepsCourse, ScenarioRunner.runSteps, Course.of_bind,
        stepCourse_eq index own (positive step (by simp)),
        ih (index + 1) fun other member => positive other (List.mem_cons_of_mem _ member)]
      congr 1
      funext result
      split
      · rfl
      · rw [Course.of_bind]

end Interpreter

namespace ScenarioRunner

section

variable (runner : ScenarioRunner) (script : Script)

def startupCourse (process : Nat) : Course State (Outcome Unit) :=
  match runner.plan.scenario.launch.startupTimeoutMs with
  | some timeout => runningCourse script process timeout.toNat
  | none => .of (pure (.ok ()))

def readyCourse : Course State (Outcome Unit) :=
  match runner.plan.ready with
  | some ready =>
      let timeout :=
        runner.plan.scenario.launch.startupTimeoutMs.getD runner.timing.waitTimeout
      matchCourse script ready .screen false timeout.toNat runner.timing.poll.toNat
  | none => .of (pure (.ok ()))

def startCourse : Course State (Outcome Nat) :=
  let launch := runner.plan.scenario.launch
  (Course.of ((Scripted.backend script).launch launch.command launch.args launch.cwd).run).attempt
    fun process => (runner.startupCourse script process).attempt fun _ =>
      (runner.readyCourse script).attempt fun _ => .of (pure (.ok process))

def ensuredCourse : Option Matcher → Course State (Outcome Unit)
  | some matcher =>
      compiledCourse script matcher .screen false runner.timing.waitTimeout.toNat
        runner.timing.poll.toNat
  | none => .of (pure (.ok ()))

def checkCourse (sequence : PlannedSequence) (process : Nat) : Course State (Outcome Unit) :=
  (runningCourse script process runner.timing.waitTimeout.toNat).attempt fun _ =>
    runner.ensuredCourse script sequence.ensure

def sequenceCourse (sequence : PlannedSequence) (process : Nat) :
    Course (Stage State) SequenceResult :=
  (Course.of (modify fun stage => { stage with artifacts := [] })).bind fun _ =>
    (Course.of get).bind fun before =>
      (Course.staged (runner.checkCourse script sequence process)).bind fun readiness =>
        Course.bind
          (match readiness with
          | .error _ => .of (pure ([], RunStatus.failed))
          | .ok () =>
              (runner.interpreter (Scripted.backend script) sequence).stepsCourse script 0
                sequence.steps)
          fun (steps, status) =>
            (Course.of get).bind fun after =>
              .of (pure
                { name := sequence.name, status,
                  durationMs := (after.backend.time - before.backend.time).toUInt64, steps,
                  artifacts := after.artifacts })

def sequencesCourse (process : Nat) :
    List PlannedSequence → Course (Stage State) (List SequenceResult)
  | [] => .of (pure [])
  | sequence :: rest =>
      (runner.sequenceCourse script sequence process).bind fun result =>
        if result.status = .failed then .of (pure [result])
        else (sequencesCourse process rest).bind fun results => .of (pure (result :: results))

def driveCourse : Course (Stage State) (Outcome (List SequenceResult)) :=
  (Course.staged (runner.startCourse script)).attempt fun process =>
    (runner.sequencesCourse script process runner.plan.sequences).bind fun results =>
      .of (pure (.ok results))

def runCourse (epoch : Int) : Course (Stage State) (Outcome RunReport) :=
  fun stage outcome last => ∃ driven middle, runner.driveCourse script stage driven middle ∧
    last = ended (Scripted.backend script) middle ∧
    outcome = driven.bind (buildReport runner.plan.scenario.name (epoch + stage.backend.time)
      (epoch + last.backend.time))

structure Paced : Prop where
  own : runner.timing.poll.toNat ≠ 0
  steps : ∀ sequence ∈ runner.plan.sequences, ∀ step ∈ sequence.steps,
    (runner.timing.forStep step.common).poll.toNat ≠ 0

end

variable {runner : ScenarioRunner} {script : Script}

theorem startCourse_eq (positive : runner.timing.poll.toNat ≠ 0) :
    runner.startCourse script = .of (runner.start (Scripted.backend script)).run := by
  have startup (process : Nat) : runner.startupCourse script process =
      .of (runner.awaitStartup (Scripted.backend script) process).run := by
    unfold startupCourse awaitStartup
    cases runner.plan.scenario.launch.startupTimeoutMs with
    | none => rfl
    | some timeout => exact Scripted.runningCourse_eq script process timeout.toNat
  have ready : runner.readyCourse script =
      .of (runner.awaitReady (Scripted.backend script)).run := by
    unfold readyCourse awaitReady
    cases runner.plan.ready with
    | none => rfl
    | some ready => exact Scripted.matchCourse_eq script ready .screen false _ positive
  simp only [startCourse, start, Course.of_run_bind, startup, ready]
  rfl

theorem checkCourse_eq (positive : runner.timing.poll.toNat ≠ 0) (sequence : PlannedSequence)
    (process : Nat) :
    runner.checkCourse script sequence process =
      .of (runner.awaitSequence (Scripted.backend script) sequence process).run := by
  have ensured : runner.ensuredCourse script sequence.ensure =
      .of (runner.awaitEnsured (Scripted.backend script) sequence.ensure).run := by
    cases sequence.ensure with
    | none => rfl
    | some matcher => exact Scripted.compiledCourse_eq script matcher .screen false _ positive
  rw [checkCourse, awaitSequence, Course.of_run_bind, ensured, Scripted.runningCourse_eq]

theorem sequenceCourse_eq (paced : runner.Paced) {sequence : PlannedSequence}
    (member : sequence ∈ runner.plan.sequences) (process : Nat) :
    runner.sequenceCourse script sequence process =
      .of (runner.runSequence (Scripted.backend script) sequence process) := by
  rw [sequenceCourse, runSequence, Course.of_bind]
  congr 1
  funext _
  rw [Course.of_bind]
  congr 1
  funext before
  rw [Course.of_bind, Course.of_perform, checkCourse_eq paced.own]
  congr 1
  funext readiness
  cases readiness with
  | error failure =>
      dsimp only
      rw [Course.of_bind]
      congr 1
      funext answered
      exact (Course.of_bind _ _).symm
  | ok answer =>
      dsimp only
      rw [Course.of_bind, Interpreter.stepsCourse_eq 0 rfl (paced.steps sequence member)]
      congr 1
      funext answered
      exact (Course.of_bind _ _).symm

theorem sequencesCourse_eq (paced : runner.Paced) {sequences : List PlannedSequence}
    (within : sequences ⊆ runner.plan.sequences) (process : Nat) :
    runner.sequencesCourse script process sequences =
      .of (runner.runSequences (Scripted.backend script) process sequences) := by
  induction sequences with
  | nil => rfl
  | cons sequence rest ih =>
      obtain ⟨first, later⟩ := List.cons_subset.mp within
      rw [sequencesCourse, runSequences, Course.of_bind, sequenceCourse_eq paced first,
        ih later]
      congr 1
      funext result
      split
      · rfl
      · rw [Course.of_bind]

theorem driveCourse_eq (paced : runner.Paced) :
    runner.driveCourse script = .of (runner.drive (Scripted.backend script)).run := by
  rw [driveCourse, drive, Course.of_run_bind, Course.of_perform, startCourse_eq paced.own]
  congr 1
  funext process
  have lifted : (liftM (runner.runSequences (Scripted.backend script) process
      runner.plan.sequences) : Act State (List SequenceResult)).run =
      runner.runSequences (Scripted.backend script) process runner.plan.sequences >>=
        fun results => pure (.ok results) := rfl
  rw [sequencesCourse_eq paced (List.Subset.refl _), lifted, Course.of_bind]

/-- A run whose waits have no bound comes to an end, which is the one that is computed. -/
theorem runCourse_eq (paced : runner.Paced) (epoch : Int) :
    runner.runCourse script epoch = .of (runner.run (Scripted.backend script) epoch).run := by
  funext stage outcome last
  apply propext
  rw [runCourse, driveCourse_eq paced, Course.of, ran_run]
  simp only [Course.of]
  constructor
  · rintro ⟨driven, middle, same, rfl, rfl⟩
    rw [same]
    rfl
  · intro same
    obtain ⟨rfl, rfl⟩ := Prod.mk.inj same
    exact ⟨_, _, rfl, rfl, rfl⟩

end ScenarioRunner

end TerminalScript
