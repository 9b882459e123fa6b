import TerminalScript.Plan
import TerminalScript.Proofs.Macro.Expansion

/-!
What a plan takes from the documents that it is built from: its sequences are those of the order, by
name, and each of their steps keeps the rules of steps, whether it was written or filled.
-/

namespace TerminalScript

open Document

theorem checkSteps_eq_ok {place : Nat → Place} {steps : List Step} :
    checkSteps place steps = .ok () ↔ ∀ step ∈ steps, step.check = .ok () := by
  simp only [checkSteps, List.forM_eq_forM, forM_eq_ok, inside_eq_ok]
  constructor
  · intro checked step member
    obtain ⟨index, found⟩ := List.mem_iff_getElem?.mp member
    exact checked (step, 1 + index)
      (List.mem_iff_getElem?.mpr ⟨index, by simp [List.getElem?_zipIdx, found]⟩)
  · rintro checked ⟨step, number⟩ member
    exact checked step (List.fst_mem_of_mem_zipIdx member)

theorem Sequence.check_steps {sequence : Sequence} (checked : sequence.check = .ok ()) :
    ∀ step ∈ sequence.steps, step.check = .ok () := by
  simp only [Sequence.check, check_bind_eq_ok, inside_eq_ok] at checked
  obtain ⟨_, _, remaining⟩ := checked
  split at remaining
  · exact checkSteps_eq_ok.mp (check_bind_eq_ok.mp remaining).2
  · exact checkSteps_eq_ok.mp remaining

theorem Step.check_id {step : Step} (checked : step.check = .ok ()) :
    step.common.id ≠ some "" := by
  simp only [Step.check, StepCommon.check, inside_eq_ok, check_bind_eq_ok, ensureNonEmpty,
    ensureThat_eq_ok] at checked
  simpa using checked.1.1

theorem Scenario.check_names {scenario : Scenario} (checked : scenario.check = .ok ()) :
    scenario.name ≠ "" ∧ scenario.sequenceOrder ≠ [] ∧ "" ∉ scenario.sequenceOrder := by
  simp only [Scenario.check, inside_eq_ok, check_bind_eq_ok, ensureThat_eq_ok] at checked
  obtain ⟨name, _, _, _, order, entries⟩ := checked
  exact ⟨by simpa using name, by simpa using order, by simpa using entries⟩

theorem SequenceIndex.ofList_eq_ok {sequences : List Sequence} {index : SequenceIndex}
    (made : SequenceIndex.ofList sequences = .ok index) :
    index = sequences.map fun sequence => (sequence.name, sequence) := by
  obtain ⟨_, same⟩ := check_bind_eq_ok.mp made
  cases same
  rfl

namespace RunPlan

variable {scenario : Scenario} {sequences : List Sequence} {files : List MacroFile}
  {selected : Option String} {plan : RunPlan}

theorem find_eq_ok {name : String} {sequence : Sequence}
    (found : find (sequences.map fun sequence => (sequence.name, sequence)) name = .ok sequence) :
    sequence ∈ sequences ∧ sequence.name = name := by
  unfold find at found
  induction sequences with
  | nil => simp at found
  | cons first rest ih =>
      simp only [List.map_cons, List.lookup_cons] at found
      by_cases same : name = first.name
      · simp only [same, beq_self_eq_true, Except.ok.injEq] at found
        subst found
        exact ⟨by simp, same.symm⟩
      · have different : (name == first.name) = false := by simpa using same
        simp only [different] at found
        obtain ⟨member, named⟩ := ih found
        exact ⟨List.mem_cons_of_mem _ member, named⟩

theorem planSequence_eq_ok {library : MacroLibrary} {sequence : Sequence}
    {planned : PlannedSequence} (made : planSequence library sequence = .ok planned) :
    planned.name = sequence.name ∧ planned.ensure = sequence.ensure ∧
      expand library sequence.steps = .ok planned.steps := by
  obtain ⟨steps, expanded, same⟩ := bind_eq_ok.mp made
  cases same
  exact ⟨rfl, rfl, expanded⟩

structure Built (scenario : Scenario) (sequences : List Sequence) (files : List MacroFile)
    (selected : Option String) (plan : RunPlan) : Prop where
  library : ∃ library, MacroLibrary.merge files = .ok library ∧
    ∀ planned ∈ plan.sequences, ∃ sequence ∈ sequences, planned.name = sequence.name ∧
      planned.ensure = sequence.ensure ∧ expand library sequence.steps = .ok planned.steps
  order : plan.sequences.map PlannedSequence.name = plan.scenario.sequenceOrder
  selected : select (sequences.map fun sequence => (sequence.name, sequence)) scenario selected =
    .ok plan.scenario
  checked : plan.scenario.check = .ok ()
  ready : plan.scenario.launch.readyMatcher.mapM CompiledMatcher.compile = .ok plan.ready

theorem built (build_ok : build scenario sequences files selected = .ok plan) :
    Built scenario sequences files selected plan := by
  obtain ⟨library, merged, build_ok⟩ := bind_eq_ok.mp build_ok
  obtain ⟨index, indexed, build_ok⟩ := bind_eq_ok.mp build_ok
  obtain ⟨chosen, selected_ok, build_ok⟩ := bind_eq_ok.mp build_ok
  obtain ⟨checked, build_ok⟩ := check_bind_eq_ok.mp build_ok
  obtain ⟨ordered, found, build_ok⟩ := bind_eq_ok.mp build_ok
  obtain ⟨planned, expanded, build_ok⟩ := bind_eq_ok.mp build_ok
  obtain ⟨ready, compiled, same⟩ := bind_eq_ok.mp build_ok
  cases same
  rw [SequenceIndex.ofList_eq_ok indexed] at selected_ok found
  have names : planned.map PlannedSequence.name = chosen.sequenceOrder := by
    rw [map_of_mapM_eq_ok Sequence.name PlannedSequence.name expanded
        fun _ _ made => (planSequence_eq_ok made).1,
      map_of_mapM_eq_ok id Sequence.name found fun _ _ there => (find_eq_ok there).2, List.map_id]
  refine ⟨⟨library, merged, ?_⟩, names, selected_ok, mapError_eq_ok.mp checked, compiled⟩
  intro sequence member
  obtain ⟨source, inside, made⟩ := exists_of_mem_mapM expanded member
  obtain ⟨name, _, there⟩ := exists_of_mem_mapM found inside
  exact ⟨source, (find_eq_ok there).1, planSequence_eq_ok made⟩

structure Sound (plan : RunPlan) : Prop where
  scenario : plan.scenario.name ≠ ""
  nonempty : plan.sequences ≠ []
  names : ∀ sequence ∈ plan.sequences, sequence.name ≠ ""
  steps : ∀ sequence ∈ plan.sequences, ∀ step ∈ sequence.steps, step.check = .ok ()

/-- A plan is sound if the sequences that it is built from were checked. The scenario is checked
when the plan is built, and filled steps are checked when they are filled. -/
theorem Built.sound (built : Built scenario sequences files selected plan)
    (checked : ∀ sequence ∈ sequences, sequence.check = .ok ()) : Sound plan := by
  obtain ⟨named, nonempty, entries⟩ := Scenario.check_names built.checked
  constructor
  · exact named
  · intro none
    have order := built.order
    rw [none] at order
    exact nonempty order.symm
  · intro sequence member empty
    rw [← built.order, List.mem_map] at entries
    exact entries ⟨sequence, member, empty⟩
  · intro sequence member step inside
    obtain ⟨library, _, sources⟩ := built.library
    obtain ⟨source, there, _, _, expanded⟩ := sources sequence member
    have expands := expands_expandWithin library [] source.steps
    rw [← expand, expanded] at expands
    rcases expands.origin step inside with ⟨written, _⟩ | ⟨name, arguments, template, filled⟩
    · exact Sequence.check_steps (checked source there) step written
    · exact Step.check_of_fill filled

end RunPlan

end TerminalScript
