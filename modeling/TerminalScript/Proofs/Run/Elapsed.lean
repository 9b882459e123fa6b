import TerminalScript.Proofs.Run.Progress

/-!
How long a run on the scripted backend goes on. Whatever the script and the events to come are, a
run of a plan that was built from checked documents comes to an end, within the bounds of its start,
of the sequences that it attempted and of the steps that it executed.
-/

namespace TerminalScript

open Scripted (State Script)

variable {scenario : Scenario} {sequences : List Sequence} {files : List MacroFile}
  {selected : Option String} {plan : RunPlan} {runner : ScenarioRunner}

/-- The waits of the course go on without a bound on their looks: there is exactly one way for the
whole run to end, it is the one that is evaluated, and it is in time. -/
theorem run_elapsed (checked : ∀ sequence ∈ sequences, sequence.check = .ok ())
    (built : RunPlan.build scenario sequences files selected = .ok plan)
    (made : ScenarioRunner.new plan = .ok runner) (directory : Option String) (script : Script)
    (epoch : Int) (stage : Stage State) :
    let runner := runner.withCaptures directory
    ∃ outcome last,
      (∀ outcome' last', runner.runCourse script epoch stage outcome' last' ↔
        outcome' = outcome ∧ last' = last) ∧
      ran (runner.run (Scripted.backend script) epoch).run stage = (outcome, last) ∧
      last.backend.time ≤ stage.backend.time + plan.limit outcome := by
  intro runner
  have prepared := ScenarioRunner.prepared checked built made directory
  have moved := ScenarioRunner.run_moved prepared script epoch stage
  have course : runner.runCourse script epoch =
      .of (runner.run (Scripted.backend script) epoch).run :=
    ScenarioRunner.runCourse_eq prepared.paced epoch
  refine ⟨_, _, fun outcome last => ?_, rfl, moved.elapsed⟩
  rw [course, Course.of, Prod.ext_iff]
  exact and_congr eq_comm eq_comm

def nap : ScenarioRunner where
  plan :=
    { scenario :=
        { name := "nap"
          launch := { command := "bed", backend := .pty, startupTimeoutMs := some 300 }
          sequenceOrder := ["rest"] }
      ready := none
      sequences :=
        [{ name := "rest", ensure := none,
           steps := [.line "doze", .ofKind (.sleep 5),
            { common := { timeoutMs := some 25 }, kind := .waitForExit }, .line "wake"] }] }
  timing := {}
  captures := ⟨"nap", none, none⟩

def napSequences : List Sequence :=
  nap.plan.sequences.map fun sequence => { name := sequence.name, steps := sequence.steps }

/-- A wait of 25 milliseconds for an exit that never comes takes 30, and the line after it is not
executed. -/
theorem run_elapsed_of_nap :
    (∀ sequence ∈ napSequences, sequence.check = .ok ()) ∧
    RunPlan.build nap.plan.scenario napSequences [] none = .ok nap.plan ∧
    ScenarioRunner.new nap.plan = .ok nap ∧
    ∃ outcome last, nap.runCourse {} 0 ⟨{}, .standard, []⟩ outcome last ∧
      last.backend.time = 35 ∧ nap.plan.limit outcome = 15335 ∧
      last.backend.time ≤ 0 + nap.plan.limit outcome := by
  have checked : ∀ sequence ∈ napSequences, sequence.check = .ok () := by
    intro sequence member
    rw [List.mem_singleton.mp member]
    rfl
  have built : RunPlan.build nap.plan.scenario napSequences [] none = .ok nap.plan := by cbv
  have made : ScenarioRunner.new nap.plan = .ok nap := rfl
  refine ⟨checked, built, made, ?_⟩
  obtain ⟨outcome, last, course, finished, within⟩ :=
    run_elapsed checked built made none {} 0 ⟨{}, .standard, []⟩
  have evaluated :
      let finished := ran (nap.run (Scripted.backend {}) 0).run ⟨{}, .standard, []⟩
      finished.2.backend.time = 35 ∧ nap.plan.limit finished.1 = 15335 := by
    decide +kernel
  change ran (nap.run (Scripted.backend {}) 0).run ⟨{}, .standard, []⟩ = (outcome, last) at finished
  dsimp only at evaluated
  rw [finished] at evaluated
  exact ⟨outcome, last, (course outcome last).mpr ⟨rfl, rfl⟩, evaluated.1, evaluated.2, within⟩

end TerminalScript
