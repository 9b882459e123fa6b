import Mathlib
import TerminalScript.Proofs.Run.Attempts
import TerminalScript.Proofs.Run.Effects

/-!
What a whole run on the scripted backend takes and what it gives: it adds up along the steps that
were executed and the sequences that were attempted, as the report tells of them.
-/

namespace TerminalScript

open Scripted (State Script Watches)

structure Moved (limit : Nat) (executed : List Step) (before after : Scripted.State) : Prop where
  elapsed : after.time ≤ before.time + limit
  input : after.input = executed.foldl Scripted.Input.given before.input

theorem Moved.refl (state : Scripted.State) : Moved 0 [] state state :=
  ⟨Nat.le_refl _, rfl⟩

theorem Moved.trans {limit limit' : Nat} {executed executed' : List Step}
    {first middle last : Scripted.State} (early : Moved limit executed first middle)
    (late : Moved limit' executed' middle last) :
    Moved (limit + limit') (executed ++ executed') first last where
  elapsed := by
    have begun := early.elapsed
    have ended := late.elapsed
    omega
  input := by rw [late.input, early.input, List.foldl_append]

theorem Scripted.Acts.moved {S α : Type} {seen : S → State}
    {program : ExceptT Failure (StateM S) α} {limit : Nat} (watches : Watches seen program limit)
    (state : S) : Moved limit [] (seen state) (seen (ran program.run state).2) :=
  ⟨watches.elapsed state, watches.input state⟩

variable {script : Script}

theorem Interpreter.visits_moved {interpreter : Interpreter State}
    (own : interpreter.backend = Scripted.backend script) {steps : List Step}
    (positive : ∀ step ∈ steps, (interpreter.timing.forStep step.common).poll.toNat ≠ 0)
    (index : Nat) (stage : Stage State) :
    let visits := interpreter.visits index steps stage
    let executed := visits.map StepVisit.step
    Moved (executed.map interpreter.timing.stepLimit).sum executed stage.backend
      (StepVisit.last stage visits).backend := by
  apply interpreter.visits_chain (fun executed before after =>
    Moved (executed.map interpreter.timing.stepLimit).sum executed before.backend after.backend)
  · exact fun stage => .refl stage.backend
  · intro step member index rest stage last later
    have acts := acts_execute own (positive step member) index
    have first : Moved (interpreter.timing.stepLimit step) [step] stage.backend
        (ran (interpreter.execute step index).run stage).2.backend :=
      ⟨acts.elapsed stage, acts.input stage⟩
    exact first.trans later

open Document in
theorem Scenario.check_poll {scenario : Scenario} (checked : scenario.check = .ok ()) :
    scenario.defaults.pollMs ≠ some 0 := by
  simp only [Scenario.check, inside_eq_ok, check_bind_eq_ok] at checked
  have defaults := checked.2.2.1
  simp only [ScenarioDefaults.check, ensureThat_eq_ok, Bool.and_eq_true, decide_eq_true_eq]
    at defaults
  exact defaults.1.2

open Document in
theorem Step.check_poll {step : Step} (checked : step.check = .ok ()) :
    step.common.pollMs ≠ some 0 := by
  simp only [Step.check, StepCommon.check, inside_eq_ok, check_bind_eq_ok, ensurePositive,
    ensureThat_eq_ok] at checked
  simpa using checked.1.2.2.2.2.1

theorem toNat_getD_ne_zero {asked : Option UInt64} {other : UInt64} (given : asked ≠ some 0)
    (positive : other.toNat ≠ 0) : (asked.getD other).toNat ≠ 0 := by
  cases asked with
  | none => exact positive
  | some poll =>
      intro none
      have zero : poll = 0 := UInt64.toNat_inj.mp none
      exact given (congrArg some zero)

def Attempt.limit (timing : Timing) (attempt : Attempt) : Nat :=
  let timeout := timing.waitTimeout.toNat
  timeout + (if attempt.sequence.ensure.isSome then timeout else 0) +
    (attempt.steps.map timing.stepLimit).sum

namespace RunPlan

def limit (plan : RunPlan) (outcome : Outcome RunReport) : Nat :=
  let timing := Timing.ofDefaults plan.scenario.defaults
  plan.startLimit timing +
    match outcome with
    | .error _ => 0
    | .ok report => ((plan.attempts report).map (Attempt.limit timing)).sum

def executed (plan : RunPlan) : Outcome RunReport → List Step
  | .error _ => []
  | .ok report => (plan.attempts report).flatMap Attempt.steps

end RunPlan

namespace ScenarioRunner

variable {runner : ScenarioRunner}

structure Prepared (runner : ScenarioRunner) (plan : RunPlan) : Prop where
  same : runner.plan = plan
  timing : runner.timing = Timing.ofDefaults plan.scenario.defaults
  sound : runner.plan.Sound
  paced : runner.Paced

theorem paced_of_checked (scenario : runner.plan.scenario.check = .ok ())
    (steps : ∀ sequence ∈ runner.plan.sequences, ∀ step ∈ sequence.steps, step.check = .ok ())
    (timing : runner.timing = Timing.ofDefaults runner.plan.scenario.defaults) : runner.Paced := by
  have own : runner.timing.poll.toNat ≠ 0 := by
    rw [timing]
    exact toNat_getD_ne_zero (Scenario.check_poll scenario) (by decide)
  exact ⟨own, fun sequence member step inside =>
    toNat_getD_ne_zero (Step.check_poll (steps sequence member step inside)) own⟩

theorem prepared {scenario : Scenario} {sequences : List Sequence} {files : List MacroFile}
    {selected : Option String} {plan : RunPlan}
    (checked : ∀ sequence ∈ sequences, sequence.check = .ok ())
    (built : RunPlan.build scenario sequences files selected = .ok plan)
    (made : new plan = .ok runner) (directory : Option String) :
    Prepared (runner.withCaptures directory) plan := by
  obtain ⟨captures, _, same⟩ := bind_eq_ok.mp made
  have known := RunPlan.built built
  have sound := known.sound checked
  have same_plan : (runner.withCaptures directory).plan = plan := by
    cases same
    cases directory <;> rfl
  have timing : (runner.withCaptures directory).timing =
      Timing.ofDefaults plan.scenario.defaults := by
    cases same
    cases directory <;> rfl
  have scenario_checked := known.checked
  rw [← same_plan] at sound scenario_checked
  exact ⟨same_plan, timing, sound,
    paced_of_checked scenario_checked sound.steps (same_plan.symm ▸ timing)⟩

theorem visit_moved (paced : runner.Paced) {sequence : PlannedSequence}
    (member : sequence ∈ runner.plan.sequences) (process : Nat) (stage : Stage State) :
    let visit := runner.visit (Scripted.backend script) process sequence stage
    Moved (visit.attempt.limit runner.timing) visit.attempt.steps stage.backend
      visit.after.backend := by
  intro visit
  have checked : Moved _ [] stage.backend visit.ready.backend :=
    (watches_awaitSequence paced.own sequence process).perform.moved
      { stage with artifacts := [] }
  refine checked.trans ?_
  have visited : visit.steps =
      runner.stepVisits (Scripted.backend script) sequence visit.ready visit.readiness := rfl
  have after : visit.after = StepVisit.last visit.ready visit.steps := rfl
  rw [after, SequenceVisit.attempt, visited]
  cases visit.readiness with
  | error failure => exact .refl visit.ready.backend
  | ok answer =>
      have own : (runner.interpreter (Scripted.backend script) sequence).backend =
          Scripted.backend script := rfl
      exact Interpreter.visits_moved own (paced.steps sequence member) 0 visit.ready

theorem visits_moved (script : Script) (paced : runner.Paced) (process : Nat)
    (stage : Stage State) :
    let visits := runner.visits (Scripted.backend script) process runner.plan.sequences stage
    let attempts := visits.map SequenceVisit.attempt
    Moved (attempts.map (Attempt.limit runner.timing)).sum (attempts.flatMap Attempt.steps)
      stage.backend (SequenceVisit.last stage visits).backend := by
  apply runner.visits_chain _ (fun attempts before after =>
    Moved (attempts.map (Attempt.limit runner.timing)).sum (attempts.flatMap Attempt.steps)
      before.backend after.backend)
  · exact fun stage => .refl stage.backend
  · intro sequence member rest stage last later
    exact (visit_moved paced member process stage).trans later

theorem run_moved {plan : RunPlan} (prepared : Prepared runner plan) (script : Script) (epoch : Int)
    (stage : Stage State) :
    let finished := ran (runner.run (Scripted.backend script) epoch).run stage
    Moved (plan.limit finished.1) (plan.executed finished.1) stage.backend finished.2.backend := by
  obtain ⟨rfl, timing, sound, paced⟩ := prepared
  have destroyed (stage : Stage State) :
      Moved 0 [] stage.backend (ended (Scripted.backend script) stage).backend :=
    ⟨Nat.le_refl _, rfl⟩
  have starts : Watches id (runner.start (Scripted.backend script))
      (runner.plan.startLimit runner.timing) := watches_start paced.own
  have launching : Moved _ [] stage.backend _ := starts.perform.moved stage
  rw [timing] at launching
  rcases started : ran (Interpreter.perform (runner.start (Scripted.backend script))).run stage with
    ⟨failure | process, launched⟩
  · rw [started] at launching
    rw [ran_run_of_unstarted started]
    exact launching.trans (destroyed launched)
  · rw [started] at launching
    obtain ⟨report, made, attempted⟩ := ran_run_of_started sound started epoch
    have visited := visits_moved script paced process launched
    dsimp only at visited
    rw [← attempted, timing] at visited
    rw [made]
    have moved := launching.trans (visited.trans (destroyed _))
    rw [List.append_nil] at moved
    exact moved

end ScenarioRunner

end TerminalScript
