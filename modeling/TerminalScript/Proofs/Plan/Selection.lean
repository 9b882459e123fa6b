import Mathlib
import TerminalScript.Proofs.Plan

/-!
Plans of single sequences. What makes a sequence impossible to plan is its own, or common to all
plans from the same documents, so a scenario can be planned exactly if each sequence of its order
can be planned alone, and its plan is made of theirs.
-/

namespace TerminalScript

variable {α β : Type}

theorem exists_forall₂_iff {related : α → β → Prop} {items : List α} :
    (∃ results, List.Forall₂ related items results) ↔
      ∀ item ∈ items, ∃ result, related item result := by
  induction items with
  | nil => simp
  | cons item rest ih =>
      rw [List.forall_mem_cons, ← ih]
      constructor
      · rintro ⟨results, related⟩
        cases related with
        | cons first others => exact ⟨⟨_, first⟩, _, others⟩
      · rintro ⟨⟨result, first⟩, results, others⟩
        exact ⟨result :: results, .cons first others⟩

def Scenario.only (scenario : Scenario) (name : String) : Scenario :=
  { scenario with sequenceOrder := [name] }

theorem Scenario.check_only {scenario : Scenario} (checked : scenario.check = .ok ())
    {name : String} (member : name ∈ scenario.sequenceOrder) :
    (scenario.only name).check = .ok () := by
  have named : "" ≠ name := fun empty => (check_names checked).2.2 (empty ▸ member)
  simp only [check, inside_eq_ok, check_bind_eq_ok, ensureThat_eq_ok] at checked ⊢
  obtain ⟨kept, launch, defaults, artifacts, _, _⟩ := checked
  exact ⟨kept, launch, defaults, artifacts, rfl, by simpa [only] using named⟩

namespace RunPlan

variable {scenario : Scenario} {sequences : List Sequence} {files : List MacroFile}
  {selected : Option String} {plan whole : RunPlan} {library : MacroLibrary}
  {index : SequenceIndex} {name : String}

def Planned (library : MacroLibrary) (index : SequenceIndex) (name : String)
    (planned : PlannedSequence) : Prop :=
  ∃ sequence, find index name = .ok sequence ∧ planSequence library sequence = .ok planned

theorem planned_iff {names : List String} {results : List PlannedSequence} :
    (∃ ordered, names.mapM (find index) = .ok ordered ∧
      ordered.mapM (planSequence library) = .ok results) ↔
      List.Forall₂ (Planned library index) names results := by
  simp only [mapM_eq_ok]
  constructor
  · rintro ⟨ordered, found, made⟩
    induction found generalizing results with
    | nil =>
        cases made
        exact .nil
    | cons here _ ih =>
        cases made with
        | cons first later => exact .cons ⟨_, here, first⟩ (ih later)
  · intro planned
    induction planned with
    | nil => exact ⟨[], .nil, .nil⟩
    | cons first _ ih =>
        obtain ⟨sequence, here, made⟩ := first
        obtain ⟨ordered, found, others⟩ := ih
        exact ⟨sequence :: ordered, .cons here found, .cons made others⟩

theorem build_eq_ok :
    build scenario sequences files selected = .ok plan ↔
      ∃ library index, MacroLibrary.merge files = .ok library ∧
        SequenceIndex.ofList sequences = .ok index ∧
        select index scenario selected = .ok plan.scenario ∧ plan.scenario.check = .ok () ∧
        List.Forall₂ (Planned library index) plan.scenario.sequenceOrder plan.sequences ∧
        plan.scenario.launch.readyMatcher.mapM CompiledMatcher.compile = .ok plan.ready := by
  constructor
  · intro built
    obtain ⟨library, merged, built⟩ := bind_eq_ok.mp built
    obtain ⟨index, indexed, built⟩ := bind_eq_ok.mp built
    obtain ⟨chosen, selection, built⟩ := bind_eq_ok.mp built
    obtain ⟨checked, built⟩ := check_bind_eq_ok.mp built
    obtain ⟨ordered, found, built⟩ := bind_eq_ok.mp built
    obtain ⟨planned, expanded, built⟩ := bind_eq_ok.mp built
    obtain ⟨ready, compiled, same⟩ := bind_eq_ok.mp built
    cases same
    exact ⟨library, index, merged, indexed, selection, mapError_eq_ok.mp checked,
      planned_iff.mp ⟨ordered, found, expanded⟩, compiled⟩
  · rintro ⟨library, index, merged, indexed, selection, checked, planned, compiled⟩
    obtain ⟨ordered, found, expanded⟩ := planned_iff.mpr planned
    refine bind_eq_ok.mpr ⟨library, merged, bind_eq_ok.mpr ⟨index, indexed, ?_⟩⟩
    refine bind_eq_ok.mpr ⟨plan.scenario, selection, ?_⟩
    refine check_bind_eq_ok.mpr ⟨mapError_eq_ok.mpr checked, ?_⟩
    exact bind_eq_ok.mpr ⟨ordered, found, bind_eq_ok.mpr ⟨plan.sequences, expanded,
      bind_eq_ok.mpr ⟨plan.ready, compiled, rfl⟩⟩⟩

theorem select_some_eq_ok {chosen : Scenario} :
    select index scenario (some name) = .ok chosen ↔
      (∃ sequence, find index name = .ok sequence) ∧ chosen = scenario.only name := by
  simp only [select, find]
  cases index.lookup name with
  | none => simp
  | some sequence => simp [Scenario.only, eq_comm]

structure Single (scenario : Scenario) (sequences : List Sequence) (files : List MacroFile)
    (ready : Option CompiledMatcher) (name : String) (single : RunPlan) : Prop where
  built : build scenario sequences files (some name) = .ok single
  scenario : single.scenario = scenario.only name
  ready : single.ready = ready
  alone : single.sequences.length = 1

theorem single_of_planned (checked : scenario.check = .ok ())
    (merged : MacroLibrary.merge files = .ok library)
    (indexed : SequenceIndex.ofList sequences = .ok index) {ready : Option CompiledMatcher}
    (compiled : scenario.launch.readyMatcher.mapM CompiledMatcher.compile = .ok ready)
    (member : name ∈ scenario.sequenceOrder) {planned : PlannedSequence}
    (made : Planned library index name planned) :
    Single scenario sequences files ready name
      { scenario := scenario.only name, ready, sequences := [planned] } where
  built := by
    obtain ⟨sequence, found, _⟩ := id made
    exact build_eq_ok.mpr ⟨library, index, merged, indexed,
      select_some_eq_ok.mpr ⟨⟨sequence, found⟩, rfl⟩, Scenario.check_only checked member,
      .cons made .nil, compiled⟩
  scenario := rfl
  ready := rfl
  alone := rfl

theorem exists_planned_of_build (merged : MacroLibrary.merge files = .ok library)
    (indexed : SequenceIndex.ofList sequences = .ok index)
    (built : build scenario sequences files (some name) = .ok plan) :
    (∃ planned, Planned library index name planned) ∧
      scenario.launch.readyMatcher.mapM CompiledMatcher.compile = .ok plan.ready := by
  obtain ⟨own, known, merged', indexed', selection, _, planned, compiled⟩ := build_eq_ok.mp built
  cases merged.symm.trans merged'
  cases indexed.symm.trans indexed'
  rw [(select_some_eq_ok.mp selection).2] at planned compiled
  exact ⟨exists_forall₂_iff.mp ⟨_, planned⟩ name List.mem_cons_self, compiled⟩

theorem exists_build_of_singles (checked : scenario.check = .ok ())
    (singles : ∀ name ∈ scenario.sequenceOrder,
      ∃ single, build scenario sequences files (some name) = .ok single) :
    ∃ whole, build scenario sequences files none = .ok whole := by
  -- The order holds some name, and the plan for it tells what all the plans have in common.
  obtain ⟨first, member⟩ := List.exists_mem_of_ne_nil _ (Scenario.check_names checked).2.1
  obtain ⟨single, built⟩ := singles first member
  obtain ⟨library, index, merged, indexed, _⟩ := build_eq_ok.mp built
  obtain ⟨_, compiled⟩ := exists_planned_of_build merged indexed built
  have each : ∀ name ∈ scenario.sequenceOrder, ∃ planned, Planned library index name planned := by
    intro name inside
    obtain ⟨other, built'⟩ := singles name inside
    exact (exists_planned_of_build merged indexed built').1
  obtain ⟨planned, all⟩ := exists_forall₂_iff.mpr each
  exact ⟨⟨scenario, single.ready, planned⟩,
    build_eq_ok.mpr ⟨library, index, merged, indexed, rfl, checked, all, compiled⟩⟩

theorem exists_singles_of_build (built : build scenario sequences files none = .ok whole) :
    whole.scenario = scenario ∧ ∃ singles,
      List.Forall₂ (Single scenario sequences files whole.ready) scenario.sequenceOrder singles ∧
      whole.sequences = singles.flatMap RunPlan.sequences := by
  obtain ⟨library, index, merged, indexed, selection, checked, planned, compiled⟩ :=
    build_eq_ok.mp built
  cases selection
  have single : ∀ name ∈ whole.scenario.sequenceOrder, ∀ sequence,
      Planned library index name sequence →
      Single whole.scenario sequences files whole.ready name
        { scenario := whole.scenario.only name, ready := whole.ready, sequences := [sequence] } :=
    fun name member sequence made => single_of_planned checked merged indexed compiled member made
  refine ⟨rfl, ?_⟩
  generalize whole.scenario.sequenceOrder = names at planned single
  generalize whole.sequences = results at planned
  induction planned with
  | nil => exact ⟨[], .nil, rfl⟩
  | @cons name sequence _ _ made _ ih =>
      obtain ⟨singles, related, same⟩ :=
        ih fun other member => single other (List.mem_cons_of_mem _ member)
      have first := single name (by simp) sequence made
      exact ⟨_ :: singles, .cons first related, by simp [same]⟩

/-- A scenario can be planned exactly if each sequence of its order can be planned alone. Its plan
joins the plans of these sequences, which differ from it in nothing else but the order. -/
theorem build_joins_singles (checked : scenario.check = .ok ()) (sequences : List Sequence)
    (files : List MacroFile) :
    ((∃ whole, build scenario sequences files none = .ok whole) ↔
      ∀ name ∈ scenario.sequenceOrder,
        ∃ single, build scenario sequences files (some name) = .ok single) ∧
    ∀ whole, build scenario sequences files none = .ok whole →
      whole.scenario = scenario ∧ ∃ singles,
        List.Forall₂ (Single scenario sequences files whole.ready) scenario.sequenceOrder
          singles ∧
        whole.sequences = singles.flatMap RunPlan.sequences := by
  refine ⟨⟨?_, exists_build_of_singles checked⟩, fun _ => exists_singles_of_build⟩
  rintro ⟨whole, built⟩ name member
  obtain ⟨_, singles, related, _⟩ := exists_singles_of_build built
  obtain ⟨single, alone⟩ := exists_forall₂_iff.mp ⟨singles, related⟩ name member
  exact ⟨single, alone.built⟩

/-- A scenario with a readiness matcher that runs one sequence twice, which is expanded and has a
matcher of its own. A sequence that cannot be planned is not in its order. -/
theorem build_joins_singles_of_return :
    let scenario : Scenario :=
      { name := "return"
        launch :=
          { command := "shell", backend := .pty, readyMatcher := some (.ofText "Welcome") }
        sequenceOrder := ["greet", "look", "greet"] }
    let sequences : List Sequence :=
      [{ name := "look", steps := [.line "map"] },
        { name := "stray", steps := [.call "missing" []] },
        { name := "greet", ensure := some (.ofText "Hall"),
          steps := [.call "hello" [], .line "me"] }]
    let files : List MacroFile := [{ macros := [("hello", [.line "hello"])] }]
    let greet : PlannedSequence :=
      { name := "greet", ensure := some (.ofText "Hall"), steps := [.line "hello", .line "me"] }
    let look : PlannedSequence := { name := "look", ensure := none, steps := [.line "map"] }
    scenario.check = .ok () ∧
    ∃ whole, build scenario sequences files none = .ok whole ∧
      whole.sequences = [greet, look, greet] ∧
      whole.ready = some ⟨.literal "Welcome".toList, Matcher.describe (.ofText "Welcome")⟩ ∧
      whole.scenario = scenario ∧ ∃ singles,
        List.Forall₂ (Single scenario sequences files whole.ready) ["greet", "look", "greet"]
          singles ∧
        whole.sequences = singles.flatMap RunPlan.sequences := by
  intro scenario sequences files greet look
  have checked : scenario.check = .ok () := rfl
  let planned : RunPlan :=
    { scenario
      ready := some ⟨.literal "Welcome".toList, Matcher.describe (.ofText "Welcome")⟩
      sequences := [greet, look, greet] }
  have built : build scenario sequences files none = .ok planned := by cbv
  exact ⟨checked, planned, built, rfl, rfl,
    (build_joins_singles checked sequences files).2 planned built⟩

end RunPlan

end TerminalScript
