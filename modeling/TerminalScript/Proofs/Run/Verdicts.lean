import Mathlib.Data.List.TFAE
import TerminalScript.Proofs.Matcher.Counting
import TerminalScript.Proofs.Run.Journal
import TerminalScript.Proofs.Wait.Matching

/-!
Steps that ask a surface for the same in different ways: at once, by waiting for what is there or
for what is gone, or by a count. They agree as long as the surface does not change, and all fail if
there is nothing to ask for or nothing to read.
-/

namespace TerminalScript

variable {σ : Type}

inductive Backend.Idles (backend : Backend σ) (surface : Surface) (deadline : Nat) : σ → σ → Prop
  | here {state : σ} : Idles backend surface deadline state state
  | again {state last : σ} {pause : Nat} (slept : 0 < pause)
      (due : backend.now (ran (surface.read backend).run state).2 + pause ≤ deadline)
      (later : Idles backend surface deadline
        (backend.sleep pause (ran (surface.read backend).run state).2) last) :
      Idles backend surface deadline state last

def Backend.Keeps (backend : Backend σ) (surface : Surface) (text : String) (deadline : Nat)
    (state : σ) : Prop :=
  ∀ last, backend.Idles surface deadline state last →
    (ran (surface.read backend).run last).1 = .ok text

def Backend.Answers (backend : Backend σ) (matcher : Matcher) (surface : Surface) (state : σ) :
    Prop :=
  (∃ compiled, CompiledMatcher.compile matcher = .ok compiled) ∧
    ∃ text, (ran (surface.read backend).run state).1 = .ok text

inductive StepKind.Asks (matcher : Matcher) : StepKind → Prop
  | expect : Asks matcher (.expect matcher)
  | waitFor : Asks matcher (.waitFor matcher)
  | waitForNot : Asks matcher (.waitForNot matcher)
  | expectCount (equals atLeast atMost : Option UInt64) :
      Asks matcher (.expectCount matcher equals atLeast atMost)

section Waits

variable {backend : Backend σ} {surface : Surface} {text : String} {deadline : Nat} {state : σ}

theorem Backend.Keeps.first (keeps : backend.Keeps surface text deadline state) :
    (ran (surface.read backend).run state).1 = .ok text :=
  keeps state .here

theorem Backend.Keeps.again (keeps : backend.Keeps surface text deadline state) {pause : Nat}
    (slept : 0 < pause)
    (due : backend.now (ran (surface.read backend).run state).2 + pause ≤ deadline) :
    backend.Keeps surface text deadline
      (backend.sleep pause (ran (surface.read backend).run state).2) :=
  fun last later => keeps last (.again slept due later)

theorem Backend.pauseOf_due {interval bound time deadline : Nat}
    (left : min bound (deadline - time) ≠ 0) :
    time + Backend.pauseOf interval (min bound (deadline - time)) ≤ deadline := by
  unfold Backend.pauseOf
  omega

/-- On a surface that does not change, each look of a wait is as good as the first. -/
theorem answer_awaitUntil (matcher : CompiledMatcher) (absent : Bool) (poll : Nat)
    (timedOut : Failure) (bound : Nat) (keeps : backend.Keeps surface text deadline state) :
    (ran (Backend.awaitUntil backend.now backend.sleep poll
        (backend.finding surface poll matcher absent).look timedOut deadline bound).run state).1 =
      if matcher.isMatch text = absent then .error timedOut else .ok () := by
  -- Each pause is taken from the bound, and ends no later than the deadline.
  induction bound using Nat.strongRecOn generalizing state with
  | ind bound ih =>
      rw [Wait.ran_awaitUntil, ran_finding, keeps.first]
      by_cases unmet : matcher.isMatch text = absent
      · simp only [Except.map, unmet, bne_self_eq_false, if_true] at ih ⊢
        split
        · rfl
        · rename_i left
          have slept : 0 < Backend.pauseOf poll _ := Backend.pauseOf_pos left
          exact ih _ (Backend.sub_pauseOf_lt left) (keeps.again slept (Backend.pauseOf_due left))
      · simp [Except.map, bne_iff_ne.mpr unmet, unmet]

theorem answer_awaitMatch (matcher : CompiledMatcher) (absent : Bool) (timeout poll : Nat)
    (keeps : backend.Keeps surface text (backend.now state + timeout) state) :
    (ran (backend.awaitMatch matcher surface absent timeout poll).run state).1 =
      if matcher.isMatch text = absent then .error (.matchTimeout (matcher.awaited absent) timeout)
      else .ok () :=
  answer_awaitUntil matcher absent poll _ timeout keeps

theorem answer_awaitMatch_of_error (matcher : CompiledMatcher) (absent : Bool) (timeout poll : Nat)
    {failure : Failure} (unread : (ran (surface.read backend).run state).1 = .error failure) :
    (ran (backend.awaitMatch matcher surface absent timeout poll).run state).1 =
      .error failure := by
  have looked : ran (backend.awaitMatch matcher surface absent timeout poll).run state =
      ran (Backend.awaitUntil backend.now backend.sleep poll
        (backend.finding surface poll matcher absent).look _ _ timeout).run state := rfl
  rw [looked, Wait.ran_awaitUntil, ran_finding, unread]
  rfl

end Waits

namespace Interpreter

variable (interpreter : Interpreter σ) {matcher : Matcher} {compiled : CompiledMatcher}
  {surface : Surface} {text : String} {state : σ}

theorem ran_compiled {α : Type} (compiles : CompiledMatcher.compile matcher = .ok compiled)
    (next : CompiledMatcher → Operation σ α) (state : σ) :
    ran (ExceptT.mk (pure (CompiledMatcher.compile matcher)) >>= next).run state =
      ran (next compiled).run state := by
  rw [compiles]
  rfl

theorem expect_ok_iff (scope : Scope) (compiles : CompiledMatcher.compile matcher = .ok compiled)
    (read : (ran (surface.read interpreter.backend).run state).1 = .ok text) :
    (ran (interpreter.expect matcher surface scope).run state).1 = .ok () ↔
      compiled.isMatch text = true := by
  rw [expect, ran_compiled compiles, ran_run_bind_ok (Prod.ext read rfl)]
  by_cases found : compiled.isMatch text = true
  · rw [found]
    exact iff_of_true rfl rfl
  · rw [Bool.not_eq_true] at found
    rw [found]
    exact iff_of_false nofun nofun

theorem expectCount_ok_iff (equals atLeast atMost : Option UInt64)
    (compiles : CompiledMatcher.compile matcher = .ok compiled)
    (read : (ran (surface.read interpreter.backend).run state).1 = .ok text) :
    (ran (interpreter.expectCount matcher equals atLeast atMost surface).run state).1 = .ok () ↔
      (∀ expected ∈ equals, compiled.count text = expected.toNat) ∧
        (∀ least ∈ atLeast, least.toNat ≤ compiled.count text) ∧
        ∀ most ∈ atMost, compiled.count text ≤ most.toNat := by
  rw [expectCount, ran_compiled compiles, ran_run_bind_ok (Prod.ext read rfl)]
  exact checkCount_ok_iff _ _ _ _ _

theorem waitFor_ok_iff (absent : Bool) (timing : Timing)
    (compiles : CompiledMatcher.compile matcher = .ok compiled)
    (keeps : interpreter.backend.Keeps surface text
      (interpreter.backend.now state + timing.waitTimeout.toNat) state) :
    (ran (interpreter.waitFor matcher surface absent timing).run state).1 = .ok () ↔
      compiled.isMatch text ≠ absent := by
  rw [waitFor, ran_compiled compiles, answer_awaitMatch compiled absent _ _ keeps]
  by_cases unmet : compiled.isMatch text = absent <;> simp [unmet]

theorem compile_then_ne_ok {backend : Backend σ} {next : CompiledMatcher → Operation σ Unit}
    (reads : ∀ compiled failure, (ran (surface.read backend).run state).1 = .error failure →
      (ran (next compiled).run state).1 = .error failure)
    (useless : ¬backend.Answers matcher surface state) :
    (ran (ExceptT.mk (pure (CompiledMatcher.compile matcher)) >>= next).run state).1 ≠ .ok () := by
  cases compiles : CompiledMatcher.compile matcher with
  | error failure => nofun
  | ok compiled =>
      cases read : (ran (surface.read backend).run state).1 with
      | error failure =>
          change (ran (next compiled).run state).1 ≠ _
          rw [reads compiled failure read]
          nofun
      | ok text => exact absurd ⟨⟨compiled, compiles⟩, text, read⟩ useless

theorem execute_ne_ok_of_asks (common : StepCommon) (index : Nat) {stage : Stage σ}
    {kind : StepKind} (asks : kind.Asks matcher)
    (useless : ¬interpreter.backend.Answers matcher
      (Surface.ofScope (common.scope.getD .screen)
        (interpreter.timing.forStep common).scrollbackLines.toNat) stage.backend) :
    (ran (interpreter.execute { common, kind } index).run stage).1 ≠ .ok () := by
  cases asks with
  | expect =>
      refine compile_then_ne_ok (fun compiled failure unread => ?_) useless
      rw [ran_run_bind_error (Prod.ext unread rfl)]
  | waitFor =>
      refine compile_then_ne_ok (fun compiled failure unread => ?_) useless
      exact answer_awaitMatch_of_error compiled _ _ _ unread
  | waitForNot =>
      refine compile_then_ne_ok (fun compiled failure unread => ?_) useless
      exact answer_awaitMatch_of_error compiled _ _ _ unread
  | expectCount equals atLeast atMost =>
      refine compile_then_ne_ok (fun compiled failure unread => ?_) useless
      rw [ran_run_bind_error (Prod.ext unread rfl)]

theorem status_passed_iff (step : Step) (index : Nat) (stage : Stage σ) :
    (ran (interpreter.runStep step index) stage).1.status = .passed ↔
      (ran (interpreter.execute step index).run stage).1 = .ok () := by
  rw [ran_runStep]
  rcases ran (interpreter.execute step index).run stage with ⟨failure | answer, after⟩ <;>
    simp [StepResult.ofOutcome]

theorem status_failed_iff (step : Step) (index : Nat) (stage : Stage σ) :
    (ran (interpreter.runStep step index) stage).1.status = .failed ↔
      (ran (interpreter.execute step index).run stage).1 ≠ .ok () := by
  rw [ran_runStep]
  rcases ran (interpreter.execute step index).run stage with ⟨failure | answer, after⟩ <;>
    simp [StepResult.ofOutcome]

/-- Steps that ask a surface for the same come to one verdict while the surface keeps its text, which
is that of the matcher on the text. They all fail if there is nothing to ask for or to read. -/
theorem verdicts_agree (common : StepCommon) (matcher : Matcher) (index : Nat) (stage : Stage σ) :
    let timing := interpreter.timing.forStep common
    let surface := Surface.ofScope (common.scope.getD .screen) timing.scrollbackLines.toNat
    let deadline := interpreter.backend.now stage.backend + timing.waitTimeout.toNat
    let status kind := (ran (interpreter.runStep { common, kind } index) stage).1.status
    (∀ compiled text, CompiledMatcher.compile matcher = .ok compiled →
      interpreter.backend.Keeps surface text deadline stage.backend →
      List.TFAE [compiled.isMatch text = true,
        status (.expect matcher) = .passed,
        status (.waitFor matcher) = .passed,
        status (.waitForNot matcher) = .failed,
        status (.expectCount matcher none (some 1) none) = .passed,
        status (.expectCount matcher none none (some 0)) = .failed]) ∧
    (¬interpreter.backend.Answers matcher surface stage.backend →
      ∀ kind, kind.Asks matcher → status kind = .failed) := by
  intro timing surface deadline status
  constructor
  · intro compiled text compiles keeps
    have counted := compiled.isMatch_iff_count text
    refine List.tfae_of_forall (compiled.isMatch text = true) _ ?_
    simp only [List.forall_mem_cons, status, status_passed_iff, status_failed_iff]
    refine ⟨trivial, ?_, ?_, ?_, ?_, ?_, nofun⟩
    · exact interpreter.expect_ok_iff _ compiles keeps.first
    · have answer := interpreter.waitFor_ok_iff false timing compiles keeps
      exact answer.trans (by simp)
    · have answer := interpreter.waitFor_ok_iff true timing compiles keeps
      exact (not_congr answer).trans (by simp)
    · have answer := interpreter.expectCount_ok_iff none (some 1) none compiles keeps.first
      exact answer.trans (by simp [counted])
    · have answer := interpreter.expectCount_ok_iff none none (some 0) compiles keeps.first
      exact (not_congr answer).trans (by simp [counted, Nat.one_le_iff_ne_zero])
  · intro useless kind asks
    rw [status_failed_iff]
    exact interpreter.execute_ne_ok_of_asks common index asks useless

end Interpreter

namespace Scripted

variable {script : Script} {surface : Surface} {text : String} {deadline : Nat} {state last : State}

theorem sleep_of_pending {duration : Nat}
    (pending : ∀ event ∈ state.events.head?, state.time + duration < event.time) :
    state.sleep duration = { state with time := state.time + duration } := by
  obtain ⟨time, events⟩ := state
  cases events with
  | nil => rfl
  | cons event rest =>
      have later : time + duration < event.time := pending event rfl
      simp [State.sleep, State.settle, Nat.not_le.mpr later]

theorem idles_of_pending (pending : ∀ event ∈ state.events.head?, deadline < event.time)
    (idles : (backend script).Idles surface deadline state last) :
    ∃ time, last = { state with time } := by
  induction idles with
  | here => exact ⟨_, rfl⟩
  | @again state last pause slept due later ih =>
      have still : (ran (surface.read (backend script)).run state).2 = state := by
        cases surface <;> rfl
      rw [still] at due ih
      have slept : (backend script).sleep pause state = { state with time := state.time + pause } :=
        sleep_of_pending fun event first => Nat.lt_of_le_of_lt due (pending event first)
      rw [slept] at ih
      exact ih pending

/-- What is to change only after a deadline stays as it is until then. -/
theorem keeps_of_pending (pending : ∀ event ∈ state.events.head?, deadline < event.time)
    (read : (ran (surface.read (backend script)).run state).1 = .ok text) :
    (backend script).Keeps surface text deadline state := by
  intro last idles
  obtain ⟨time, rfl⟩ := idles_of_pending pending idles
  rw [← read]
  cases surface <;> rfl

end Scripted

namespace Interpreter

def patient : Interpreter Scripted.State where
  backend := Scripted.backend {}
  timing := { waitTimeout := 20, poll := 7 }
  captures := { scenario := "demo", directory := none, redactor := none }
  sequence := "main"

def brief : Scripted.State where
  events := [{ time := 21, screen := some "Bye" }]
  screen := "Ready>"

/-- A prompt that is gone just after the deadline of the step is there for all of them. -/
theorem verdicts_agree_of_brief :
    let status kind := (ran (patient.runStep { common := {}, kind } 0)
      { backend := brief, files := .standard }).1.status
    let matcher := Matcher.ofText "Ready>"
    status (.expect matcher) = .passed ∧ status (.waitFor matcher) = .passed ∧
      status (.waitForNot matcher) = .failed ∧
      status (.expectCount matcher none (some 1) none) = .passed ∧
      status (.expectCount matcher none none (some 0)) = .failed ∧
      status (.waitForNot {}) = .failed := by
  intro status matcher
  obtain ⟨agree, _⟩ := verdicts_agree patient {} matcher 0 { backend := brief, files := .standard }
  obtain ⟨_, fails⟩ := verdicts_agree patient {} {} 0 { backend := brief, files := .standard }
  have keeps : patient.backend.Keeps .screen "Ready>" 20 brief :=
    Scripted.keeps_of_pending (by decide) rfl
  have alike := agree prompt "Ready>" rfl keeps
  have found : prompt.isMatch "Ready>" = true := by decide
  have useless : ¬patient.backend.Answers {} .screen brief := fun ⟨⟨_, compiles⟩, _⟩ =>
    nomatch compiles
  exact ⟨(alike.out 0 1).mp found, (alike.out 0 2).mp found, (alike.out 0 3).mp found,
    (alike.out 0 4).mp found, (alike.out 0 5).mp found, fails useless _ .waitForNot⟩

end Interpreter

end TerminalScript
