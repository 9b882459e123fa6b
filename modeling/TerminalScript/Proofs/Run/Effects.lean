import TerminalScript.Proofs.Run.Courses

/-!
What the operations of a run on the scripted backend take and what they give. An operation that
watches takes no longer than it may and gives no input; a step gives the input that it asks for,
whatever comes of it.
-/

namespace TerminalScript

namespace Scripted

structure Input where
  sentLines : List String
  sentText : List String
  sentKeys : List String
  pasted : List String
  cols : UInt16
  rows : UInt16
  deriving DecidableEq

def State.input (state : State) : Input where
  sentLines := state.sentLines
  sentText := state.sentText
  sentKeys := state.sentKeys
  pasted := state.pasted
  cols := state.cols
  rows := state.rows

theorem input_settle (time : Nat) (events : List Event) (state : State) :
    (State.settle time events state).input = state.input := by
  induction events generalizing state with
  | nil => rfl
  | cons event rest ih =>
      rw [State.settle]
      split
      · exact ih _
      · rfl

theorem input_sleep (duration : Nat) (state : State) :
    (state.sleep duration).input = state.input :=
  input_settle _ _ _

/-- A program takes no longer than so much time, and has an effect on the input that depends neither
on its answer nor on anything else. -/
structure Acts {S α : Type} (seen : S → State) (program : ExceptT Failure (StateM S) α)
    (limit : Nat) (effect : Input → Input) : Prop where
  elapsed : ∀ state, (seen (ran program.run state).2).time ≤ (seen state).time + limit
  input : ∀ state, (seen (ran program.run state).2).input = effect (seen state).input

abbrev Watches {S α : Type} (seen : S → State) (program : ExceptT Failure (StateM S) α)
    (limit : Nat) : Prop :=
  Acts seen program limit id

section Acts

variable {S α β : Type} {seen : S → State} {limit limit' : Nat} {effect : Input → Input}

theorem Acts.mono {program : ExceptT Failure (StateM S) α}
    (acts : Acts seen program limit effect) (within : limit ≤ limit') :
    Acts seen program limit' effect where
  elapsed state := Nat.le_trans (acts.elapsed state) (Nat.add_le_add_left within _)
  input := acts.input

theorem watches_of_still {program : ExceptT Failure (StateM S) α}
    (still : ∀ state, seen (ran program.run state).2 = seen state) : Watches seen program 0 where
  elapsed state := Nat.le_of_eq (congrArg State.time (still state))
  input state := congrArg State.input (still state)

theorem watches_pure (value : α) :
    Watches seen (pure value : ExceptT Failure (StateM S) α) 0 :=
  watches_of_still fun _ => rfl

theorem Acts.bind {first : ExceptT Failure (StateM S) α} {next : α → ExceptT Failure (StateM S) β}
    (acts : Acts seen first limit effect) (later : ∀ value, Watches seen (next value) limit') :
    Acts seen (first >>= next) (limit + limit') effect where
  elapsed state := by
    have early := acts.elapsed state
    rcases answered : ran first.run state with ⟨failure | value, after⟩
    · rw [answered] at early
      rw [ran_run_bind_error answered]
      exact Nat.le_trans early (by omega)
    · rw [answered] at early
      rw [ran_run_bind_ok answered]
      have late := (later value).elapsed after
      dsimp only at early
      omega
  input state := by
    have early := acts.input state
    rcases answered : ran first.run state with ⟨failure | value, after⟩
    · rw [answered] at early
      rw [ran_run_bind_error answered]
      exact early
    · rw [answered] at early
      rw [ran_run_bind_ok answered]
      exact ((later value).input after).trans early

theorem Acts.perform {operation : Operation State α} (acts : Acts id operation limit effect) :
    Acts Stage.backend (Interpreter.perform operation) limit effect where
  elapsed stage := acts.elapsed stage.backend
  input stage := acts.input stage.backend

end Acts

/-- A wait watches if its looks and its pauses do. Its states may hold more than the backend's. -/
theorem watches_of_ends {σ : Type} {wait : Wait σ} {operation : Operation State Unit}
    {timeout : Nat} (place : σ → State) (total : Nat → Nat) (steady : wait.Steady)
    (clock : ∀ state, wait.now state = (place state).time)
    (looks : ∀ state, (place (ran wait.look.run state).2).input = (place state).input)
    (sleeps : ∀ duration state, (place (wait.sleep duration state)).input = (place state).input)
    (enough : ∀ left, left ≠ 0 → wait.pause left + total (left - wait.pause left) ≤ total left)
    (ends : ∀ state, ∃ first last, place first = state ∧
      place last = (ran operation.run state).2 ∧
      wait.course timeout first (ran operation.run state).1 last) :
    Watches id operation (total timeout) where
  elapsed state := by
    obtain ⟨first, last, rfl, same, ends⟩ := ends state
    have elapsed := Wait.Ends.elapsed steady enough ends
    rw [Nat.add_sub_cancel_left, clock, clock, same] at elapsed
    exact elapsed
  input state := by
    obtain ⟨first, last, rfl, same, ends⟩ := ends state
    rw [id, ← same]
    exact Wait.Ends.kept (fun state => (place state).input) looks sleeps ends

theorem watches_await {interval timeout : Nat} {look : Operation State Bool} {timedOut : Failure}
    (still : ∀ state, (ran look.run state).2 = state) (positive : interval ≠ 0) :
    Watches id (Backend.await State.time State.sleep interval look timedOut timeout) timeout := by
  have steady : (Wait.polling State.time State.sleep interval look timedOut).Steady :=
    steady_of_still still
  apply watches_of_ends id id steady (fun _ => rfl)
  · exact fun state => congrArg State.input (still state)
  · exact input_sleep
  · intro left _
    simp only [Wait.polling, id]
    omega
  · intro state
    refine ⟨state, _, rfl, rfl, ?_⟩
    exact Wait.awaitUntil_ends steady positive timeout state (by simp [Wait.polling])

theorem watches_awaitExit (timeout : Nat) :
    Watches id (awaitExit timeout timeout) (10 * ((timeout + 9) / 10)) := by
  apply watches_of_ends id (fun left => 10 * ((left + 9) / 10)) (exitWait_steady timeout)
    (fun _ => rfl)
  · exact fun _ => rfl
  · exact input_sleep
  · intro left some
    simp only [exitWait]
    omega
  · intro state
    exact ⟨state, _, rfl, rfl, awaitExit_ends (by simp [exitWait])⟩

variable (script : Script)

theorem watches_waitForStable (stable timeout : Nat) :
    Watches id ((backend script).waitForStable stable timeout) timeout := by
  apply watches_of_ends Prod.fst id
    (sampling_steady script stable (.matchTimeout (.stable stable) timeout)) (fun _ => rfl)
  · exact fun _ => rfl
  · exact fun duration state => input_sleep duration state.1
  · intro left _
    simp only [Wait.sampling, Wait.polling, id]
    omega
  · intro state
    have course : unchangedCourse script stable timeout state
        (ran ((backend script).waitForStable stable timeout).run state).1
        (ran ((backend script).waitForStable stable timeout).run state).2 := by
      rw [unchangedCourse_eq]
      rfl
    obtain ⟨tracker, ends⟩ := course
    exact ⟨(state, {}), (_, tracker), rfl, rfl, ends⟩

theorem watches_awaitRunning (process timeout : Nat) :
    Watches id ((backend script).awaitRunning process timeout) timeout :=
  watches_await (fun _ => rfl) (by decide)

theorem watches_read (surface : Surface) : Watches id (surface.read (backend script)) 0 := by
  cases surface <;> exact watches_of_still fun _ => rfl

theorem watches_compile (matcher : Matcher) :
    Watches id (ExceptT.mk (pure (CompiledMatcher.compile matcher)) : Operation State _) 0 :=
  watches_of_still fun _ => rfl

theorem watches_awaitMatch (matcher : CompiledMatcher) (surface : Surface) (absent : Bool)
    (timeout : Nat) {poll : Nat} (positive : poll ≠ 0) :
    Watches id ((backend script).awaitMatch matcher surface absent timeout poll) timeout := by
  apply watches_await (fun state => ?_) positive
  cases surface <;> rfl

def Input.given (input : Input) (step : Step) : Input :=
  match step.kind with
  | .line text none _ => { input with sentLines := input.sentLines ++ [text] }
  | .line text (some keys) _ =>
      { input with sentText := input.sentText ++ [text], sentKeys := input.sentKeys ++ keys }
  | .sendKeys keys => { input with sentKeys := input.sentKeys ++ Interpreter.splitKeys keys }
  | .keys keys => { input with sentKeys := input.sentKeys ++ keys }
  | .paste text => { input with pasted := input.pasted ++ [text] }
  | .resize cols rows => { input with cols, rows }
  | _ => input

theorem time_submit (line : String) (state : State) :
    (state.submit script line).time = state.time := by
  unfold State.submit
  split <;> rfl

theorem input_submit (text : String) (state : State) (common : StepCommon)
    (post : Option UInt64) :
    (state.submit script text).input =
      state.input.given { common, kind := .line text none post } := by
  unfold State.submit
  split <;> rfl

end Scripted

def Timing.stepLimit (timing : Timing) (step : Step) : Nat :=
  let timeout := (timing.forStep step.common).waitTimeout.toNat
  match step.kind with
  | .line _ _ postTypeMs => (postTypeMs.getD timing.postType).toNat
  | .sleep ms => ms.toNat
  | .waitFor _ => timeout
  | .waitForNot _ => timeout
  | .waitForStable _ => timeout
  -- The pauses of ten milliseconds are not cut at the deadline.
  | .waitForExit => 10 * ((timeout + 9) / 10)
  | _ => 0

open Scripted (State Script Input Acts Watches watches_of_still watches_pure watches_compile
  watches_read)

variable {script : Script}

namespace Interpreter

variable {interpreter : Interpreter State}

theorem ran_sleep (duration : Nat) (stage : Stage State) :
    ran (interpreter.sleep duration).run stage =
      (.ok (), { stage with backend := interpreter.backend.sleep duration stage.backend }) := rfl

theorem watches_sleep (own : interpreter.backend = Scripted.backend script) (duration : Nat) :
    Watches Stage.backend (interpreter.sleep duration) duration where
  elapsed stage := by
    rw [ran_sleep, own]
    exact Nat.le_of_eq (Scripted.time_sleep duration stage.backend)
  input stage := by
    rw [ran_sleep, own]
    exact Scripted.input_sleep duration stage.backend

theorem acts_typeLine (own : interpreter.backend = Scripted.backend script) (text : String)
    (keys : Option (List String)) (post : Option UInt64) (common : StepCommon) :
    Acts id (interpreter.typeLine text keys) 0
      (·.given { common, kind := .line text keys post }) := by
  cases keys with
  | none =>
      rw [typeLine, own]
      exact ⟨fun state => Nat.le_of_eq (Scripted.time_submit script text state),
        fun state => Scripted.input_submit script text state common post⟩
  | some keys =>
      rw [typeLine, own]
      exact ⟨fun _ => Nat.le_refl _, fun _ => rfl⟩

theorem watches_waitFor (own : interpreter.backend = Scripted.backend script) (matcher : Matcher)
    (surface : Surface) (absent : Bool) {timing : Timing} (positive : timing.poll.toNat ≠ 0) :
    Watches id (interpreter.waitFor matcher surface absent timing) timing.waitTimeout.toNat := by
  rw [waitFor, own]
  exact ((watches_compile matcher).bind fun compiled =>
    Scripted.watches_awaitMatch script compiled surface absent _ positive).mono
      (Nat.le_of_eq (Nat.zero_add _))

theorem watches_expect (own : interpreter.backend = Scripted.backend script) (matcher : Matcher)
    (surface : Surface) (scope : Scope) :
    Watches id (interpreter.expect matcher surface scope) 0 := by
  rw [expect, own]
  refine (watches_compile matcher).bind fun compiled =>
    (watches_read script surface).bind fun text => watches_of_still fun state => ?_
  split <;> rfl

theorem watches_expectCount (own : interpreter.backend = Scripted.backend script)
    (matcher : Matcher) (equals atLeast atMost : Option UInt64) (surface : Surface) :
    Watches id (interpreter.expectCount matcher equals atLeast atMost surface) 0 := by
  rw [expectCount, own]
  exact (watches_compile matcher).bind fun compiled =>
    (watches_read script surface).bind fun text => watches_of_still fun _ => rfl

theorem watches_part (wanted : Bool) {capture : Operation State String}
    (watches : Watches id capture 0) : Watches id (part wanted capture) 0 := by
  cases wanted with
  | false => exact watches_pure none
  | true => exact watches.bind fun text => watches_pure (some text)

theorem watches_snapshot (own : interpreter.backend = Scripted.backend script) (scope : Scope)
    (lines : Nat) : Watches id (interpreter.snapshot scope lines) 0 := by
  rw [snapshot, own]
  exact (watches_part _ (watches_read script .screen)).bind fun screen =>
    (watches_part _ (watches_read script (.scrollback lines))).bind fun scrollback =>
      (watches_part _ (watches_read script .transcript)).bind fun transcript => watches_pure _

theorem watches_keepCapture (directory : Option String) (label : String) (format : CaptureFormat)
    (snapshot : Snapshot) :
    Watches Stage.backend (interpreter.keepCapture directory label format snapshot) 0 := by
  unfold keepCapture
  split
  · refine watches_of_still fun stage => ?_
    rw [ran_writeCapture]
    split <;> rfl
  · exact watches_pure ()

theorem acts_execute (own : interpreter.backend = Scripted.backend script) {step : Step}
    (positive : (interpreter.timing.forStep step.common).poll.toNat ≠ 0) (index : Nat) :
    Acts Stage.backend (interpreter.execute step index) (interpreter.timing.stepLimit step)
      (·.given step) := by
  obtain ⟨common, kind⟩ := step
  -- What gives input takes no time, but for the pause after a line; all the others only watch.
  cases kind with
  | line text keys post =>
      exact ((acts_typeLine own text keys post common).perform.bind fun _ =>
        watches_sleep own _).mono (Nat.le_of_eq (Nat.zero_add _))
  | sendKeys keys =>
      rw [execute, own]
      exact ⟨fun _ => Nat.le_refl _, fun _ => rfl⟩
  | keys keys =>
      rw [execute, own]
      exact ⟨fun _ => Nat.le_refl _, fun _ => rfl⟩
  | paste text =>
      rw [execute, own]
      exact ⟨fun _ => Nat.le_refl _, fun _ => rfl⟩
  | sleep ms => exact watches_sleep own ms.toNat
  | resize cols rows =>
      rw [execute, own]
      exact ⟨fun _ => Nat.le_refl _, fun _ => rfl⟩
  | waitFor matcher => exact (watches_waitFor own matcher _ false positive).perform
  | waitForNot matcher => exact (watches_waitFor own matcher _ true positive).perform
  | expect matcher => exact (watches_expect own matcher _ _).perform
  | expectCount matcher equals atLeast atMost =>
      exact (watches_expectCount own matcher equals atLeast atMost _).perform
  | waitForExit =>
      rw [execute, own]
      exact (Scripted.watches_awaitExit _).perform
  | capture name format =>
      exact (watches_snapshot own _ _).perform.bind fun snapshot =>
        watches_keepCapture _ _ _ snapshot
  | waitForStable stable =>
      rw [execute, own]
      exact (Scripted.watches_waitForStable script _ _).perform
  | call name args => exact watches_of_still fun _ => rfl
  | mouse action button x y delta modifiers => exact watches_of_still fun _ => rfl
  | scroll direction amount => exact watches_of_still fun _ => rfl

end Interpreter

def RunPlan.startLimit (plan : RunPlan) (timing : Timing) : Nat :=
  let startup := plan.scenario.launch.startupTimeoutMs
  (startup.getD 0).toNat +
    if plan.ready.isSome then (startup.getD timing.waitTimeout).toNat else 0

namespace ScenarioRunner

variable {runner : ScenarioRunner}

theorem watches_launch (command : String) (args : List String) (directory : Option String) :
    Watches id ((Scripted.backend script).launch command args directory) 0 := by
  have launches (state : State) :
      ran (Scripted.launch script command args).run state =
        if script.failLaunch then (.error (.processLifecycle (.launchRefused command)), state)
        else (.ok Scripted.processNumber,
          { state with launches := state.launches ++ [(command, args)], running := true }) := by
    unfold Scripted.launch
    split <;> rfl
  have moves (state : State) :
      (ran (Scripted.launch script command args).run state).2.time = state.time ∧
        (ran (Scripted.launch script command args).run state).2.input = state.input := by
    rw [launches]
    split <;> exact ⟨rfl, rfl⟩
  exact ⟨fun state => Nat.le_of_eq (moves state).1, fun state => (moves state).2⟩

theorem watches_start (positive : runner.timing.poll.toNat ≠ 0) :
    Watches id (runner.start (Scripted.backend script)) (runner.plan.startLimit runner.timing) := by
  have startup (process : Nat) : Watches id (runner.awaitStartup (Scripted.backend script) process)
      (runner.plan.scenario.launch.startupTimeoutMs.getD 0).toNat := by
    unfold awaitStartup
    cases runner.plan.scenario.launch.startupTimeoutMs with
    | none => exact watches_pure ()
    | some timeout => exact Scripted.watches_awaitRunning script process timeout.toNat
  have ready : Watches id (runner.awaitReady (Scripted.backend script))
      (if runner.plan.ready.isSome then
        (runner.plan.scenario.launch.startupTimeoutMs.getD runner.timing.waitTimeout).toNat
      else 0) := by
    unfold awaitReady
    cases runner.plan.ready with
    | none => exact watches_pure ()
    | some ready => exact Scripted.watches_awaitMatch script ready .screen false _ positive
  exact ((watches_launch _ _ _).bind fun process => (startup process).bind fun _ =>
    ready.bind fun _ => watches_pure process).mono (Nat.le_of_eq (Nat.zero_add _))

theorem watches_awaitSequence (positive : runner.timing.poll.toNat ≠ 0)
    (sequence : PlannedSequence) (process : Nat) :
    let timeout := runner.timing.waitTimeout.toNat
    Watches id (runner.awaitSequence (Scripted.backend script) sequence process)
      (timeout + if sequence.ensure.isSome then timeout else 0) := by
  refine (Scripted.watches_awaitRunning script process _).bind fun _ => ?_
  cases sequence.ensure with
  | none => exact watches_pure ()
  | some matcher =>
      exact ((watches_compile matcher).bind fun compiled =>
        Scripted.watches_awaitMatch script compiled .screen false _ positive).mono
          (Nat.le_of_eq (Nat.zero_add _))

end ScenarioRunner

end TerminalScript
