import Mathlib
import TerminalScript.Proofs.Macro.Calls
import TerminalScript.Proofs.Macro.Filling
import TerminalScript.Proofs.Plan
import TerminalScript.Proofs.Run.ShortCircuit

/-!
No call is left where steps were expanded. A plan holds none, and so no step that a report tells of
is one.
-/

namespace TerminalScript

open Document

theorem Expands.uncalled {library : MacroLibrary} {chain : List String} {steps result : List Step}
    (expands : Expands library chain steps (.ok result)) :
    ∀ step ∈ result, step.kind.isCall = false := by
  generalize outcome : (Except.ok result : Outcome (List Step)) = answer at expands
  induction expands generalizing result with
  | nil chain =>
      cases outcome
      simp
  | undefined called missing rest => cases outcome
  | cycle called found known rest => cases outcome
  | call called found fresh within later ih_within ih_later =>
      -- The template was expanded before it was filled, and filling keeps the type of a step.
      obtain ⟨expanded, filled, kept, answered, fills, answered_later, rfl⟩ :=
        splice_eq_ok.mp outcome.symm
      intro step member
      rcases List.mem_append.mp member with first | second
      · obtain ⟨source, inside, fill⟩ := exists_of_mem_mapM fills first
        have plain := ih_within answered.symm source inside
        exact (StepKind.isCall_congr (Step.typeName_of_fill fill)).trans plain
      · exact ih_later answered_later.symm step second
  | other uncalled later ih =>
      obtain ⟨kept, answered, same⟩ := bind_eq_ok.mp outcome.symm
      cases same
      intro step member
      rcases List.mem_cons.mp member with rfl | second
      · exact StepKind.isCall_eq_false uncalled
      · exact ih answered.symm step second

variable {scenario : Scenario} {sequences : List Sequence} {files : List MacroFile}
  {selected : Option String} {plan : RunPlan}

theorem RunPlan.Built.uncalled (built : Built scenario sequences files selected plan) :
    ∀ sequence ∈ plan.sequences, ∀ step ∈ sequence.steps, step.kind.isCall = false := by
  intro sequence member
  obtain ⟨library, _, sources⟩ := built.library
  obtain ⟨source, _, _, _, expanded⟩ := sources sequence member
  have expands := expands_expand library source.steps
  rw [expanded] at expands
  exact expands.uncalled

theorem stepType_of_run_ok {σ : Type} {runner : ScenarioRunner} {backend : Backend σ} {epoch : Int}
    {stage last : Stage σ} {report : RunReport}
    (finished : ran (runner.run backend epoch).run stage = (.ok report, last)) :
    ∀ sequence ∈ report.sequences, ∀ result ∈ sequence.steps,
      ∃ planned ∈ runner.plan.sequences, ∃ step ∈ planned.steps,
        result.stepType = step.typeName := by
  obtain ⟨process, launched, _, results, _, _⟩ := started_of_run_ok finished
  have short := sequenceVisits_shortCircuited runner backend process runner.plan.sequences launched
  intro sequence member result inside
  rw [results] at member
  obtain ⟨visit, visited, rfl⟩ := List.mem_map.mp member
  obtain ⟨index, there⟩ := List.mem_iff_getElem?.mp visited
  obtain ⟨planned, at_index, recorded⟩ := short.belong index visit there
  refine ⟨planned, List.mem_of_getElem? at_index, ?_⟩
  rcases readiness : visit.readiness with failure | answer
  · rw [recorded.unready failure readiness] at inside
    cases inside
  · obtain ⟨position, here⟩ := List.mem_iff_getElem?.mp inside
    obtain ⟨step, at_position, step_recorded⟩ :=
      (recorded.steps readiness).belong position result here
    exact ⟨step, List.mem_of_getElem? at_position, step_recorded.stepType⟩

/-- No call is left in a plan, whatever the arguments of the calls hold, and so none is run. -/
theorem plan_expanded (checked : ∀ sequence ∈ sequences, sequence.check = .ok ())
    (built : RunPlan.build scenario sequences files selected = .ok plan) :
    (∀ sequence ∈ plan.sequences, ∀ step ∈ sequence.steps,
      step.check = .ok () ∧ step.kind.isCall = false) ∧
    ∀ (runner : ScenarioRunner) (σ : Type) (backend : Backend σ) (epoch : Int)
      (stage last : Stage σ) (report : RunReport), runner.plan = plan →
      ran (runner.run backend epoch).run stage = (.ok report, last) →
      ∀ sequence ∈ report.sequences, ∀ result ∈ sequence.steps, result.stepType ≠ "macro" := by
  have known := RunPlan.built built
  constructor
  · intro sequence member step inside
    exact ⟨(known.sound checked).steps sequence member step inside,
      known.uncalled sequence member step inside⟩
  · rintro runner σ backend epoch stage last report rfl finished sequence member result inside typed
    obtain ⟨planned, there, step, found, same⟩ :=
      stepType_of_run_ok finished sequence member result inside
    have plain := known.uncalled planned there step found
    rw [Bool.eq_false_iff, ne_eq, StepKind.isCall_iff_typeName] at plain
    exact plain (same.symm.trans typed)

def greeting : ScenarioRunner where
  plan :=
    { scenario :=
        { name := "greeting", launch := { command := "shell", backend := .pty },
          sequenceOrder := ["greet"] }
      ready := none
      sequences := [{ name := "greet", ensure := none, steps := [.line "macro"] }] }
  timing := {}
  captures := ⟨"greeting", none, none⟩

/-- An argument that is the name of the type of calls is only the text of a line. -/
theorem plan_expanded_of_greeting :
    let sequences : List Sequence :=
      [{ name := "greet", steps := [.call "hello" [("who", .text "macro")]] }]
    let files : List MacroFile := [{ macros := [("hello", [.line "${who}"])] }]
    RunPlan.build greeting.plan.scenario sequences files none = .ok greeting.plan ∧
    (∀ sequence ∈ greeting.plan.sequences, ∀ step ∈ sequence.steps,
      step.check = .ok () ∧ step.kind.isCall = false) ∧
    ∃ report last,
      ran (greeting.run (Scripted.backend {}) 0).run ⟨{}, .standard, []⟩ = (.ok report, last) ∧
      (report.sequences.map fun sequence => sequence.steps.length) = [1] ∧
      ∀ sequence ∈ report.sequences, ∀ result ∈ sequence.steps, result.stepType ≠ "macro" := by
  intro sequences files
  have built : RunPlan.build greeting.plan.scenario sequences files none = .ok greeting.plan := by
    cbv
  have checked : ∀ sequence ∈ sequences, sequence.check = .ok () := by
    intro sequence member
    rw [List.mem_singleton.mp member]
    rfl
  obtain ⟨plain, typed⟩ := plan_expanded checked built
  refine ⟨built, plain, ?_⟩
  have made :
      ((ran (greeting.run (Scripted.backend {}) 0).run ⟨{}, .standard, []⟩).1.toOption.map
        fun report => report.sequences.map fun sequence => sequence.steps.length) = some [1] := by
    decide +kernel
  rcases finished : ran (greeting.run (Scripted.backend {}) 0).run ⟨{}, .standard, []⟩ with
    ⟨failure | report, last⟩
  · rw [finished] at made
    cases made
  · rw [finished] at made
    exact ⟨report, last, rfl, Option.some.inj made,
      typed greeting _ _ 0 _ last report rfl finished⟩

end TerminalScript
