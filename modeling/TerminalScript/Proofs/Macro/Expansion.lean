import TerminalScript.Macro.Expansion
import TerminalScript.Proofs.Outcomes

/-!
The rules by which steps expand, as a relation whose derivations are finite. Every list of steps
has exactly one outcome by the rules, and it is what the function computes.
-/

namespace TerminalScript

open Json Document

variable {library : MacroLibrary} {chain : List String} {steps : List Step}

def splice (name : String) (arguments : Placeholder.Arguments)
    (inner others : Outcome (List Step)) : Outcome (List Step) := do
  let filled ← (← inner).mapM (Step.fill name arguments)
  let others ← others
  pure (filled ++ others)

theorem splice_eq_ok {name : String} {arguments : Placeholder.Arguments}
    {inner others : Outcome (List Step)} {result : List Step} :
    splice name arguments inner others = .ok result ↔
      ∃ expanded filled later, inner = .ok expanded ∧
        expanded.mapM (Step.fill name arguments) = .ok filled ∧ others = .ok later ∧
        result = filled ++ later := by
  constructor
  · intro spliced
    obtain ⟨expanded, answered, remaining⟩ := bind_eq_ok.mp spliced
    obtain ⟨filled, fills, finished⟩ := bind_eq_ok.mp remaining
    obtain ⟨later, kept, same⟩ := bind_eq_ok.mp finished
    exact ⟨expanded, filled, later, answered, fills, kept, (Except.ok.inj same).symm⟩
  · rintro ⟨expanded, filled, later, rfl, fills, rfl, rfl⟩
    exact bind_eq_ok.mpr ⟨expanded, rfl, bind_eq_ok.mpr ⟨filled, fills, rfl⟩⟩

theorem splice_eq_error {name : String} {arguments : Placeholder.Arguments}
    {inner others : Outcome (List Step)} {failure : Failure}
    (failed : splice name arguments inner others = .error failure) :
    inner = .error failure ∨ others = .error failure ∨
      ∃ expanded step, inner = .ok expanded ∧ step ∈ expanded ∧
        Step.fill name arguments step = .error failure := by
  rcases bind_eq_error.mp failed with within | ⟨expanded, answered, remaining⟩
  · exact .inl within
  rcases bind_eq_error.mp remaining with filling | ⟨filled, _, finished⟩
  · obtain ⟨step, member, broken⟩ := exists_of_mapM_eq_error filling
    exact .inr (.inr ⟨expanded, step, answered, member, broken⟩)
  rcases bind_eq_error.mp finished with later | ⟨_, _, impossible⟩
  · exact .inr (.inl later)
  · cases impossible

inductive Expands (library : MacroLibrary) :
    List String → List Step → Outcome (List Step) → Prop
  | nil (chain : List String) : Expands library chain [] (.ok [])
  | undefined {chain : List String} {step : Step} {name : String}
      {arguments : Option (List (String × Value))} (called : step.kind = .call name arguments)
      (missing : library.lookup name = none) (rest : List Step) :
      Expands library chain (step :: rest) (.error (.macroNotFound name))
  | cycle {chain : List String} {step : Step} {name : String}
      {arguments : Option (List (String × Value))} {template : List Step}
      (called : step.kind = .call name arguments) (found : library.lookup name = some template)
      (known : name ∈ chain) (rest : List Step) :
      Expands library chain (step :: rest) (.error (.macroCycle (chain ++ [name])))
  | call {chain : List String} {step : Step} {name : String}
      {arguments : Option (List (String × Value))} {template rest : List Step}
      {inner others : Outcome (List Step)} (called : step.kind = .call name arguments)
      (found : library.lookup name = some template) (fresh : name ∉ chain)
      (within : Expands library (chain ++ [name]) template inner)
      (later : Expands library chain rest others) :
      Expands library chain (step :: rest) (splice name (arguments.getD []) inner others)
  | other {chain : List String} {step : Step} {rest : List Step}
      {others : Outcome (List Step)} (uncalled : ∀ name arguments, step.kind ≠ .call name arguments)
      (later : Expands library chain rest others) :
      Expands library chain (step :: rest) (do
        let others ← others
        pure (step :: others))

theorem expands_expandWithin (library : MacroLibrary) (chain : List String) (steps : List Step) :
    Expands library chain steps (expandWithin library chain steps) := by
  fun_induction expandWithin library chain steps with
  | case1 chain => exact .nil chain
  | case2 chain step rest name arguments called missing => exact .undefined called missing rest
  | case3 chain step rest name arguments called template found known =>
      exact .cycle called found known rest
  | case4 chain step rest name arguments called template found fresh within later =>
      exact .call called found fresh within later
  | case5 chain step rest uncalled later =>
      exact .other (fun name arguments called => uncalled name arguments called) later

theorem Expands.eq_expandWithin {outcome : Outcome (List Step)}
    (expands : Expands library chain steps outcome) :
    outcome = expandWithin library chain steps := by
  induction expands with
  | nil chain => rw [expandWithin]
  | undefined called missing rest =>
      rw [expandWithin]
      simp only [called]
      split
      · rfl
      · simp_all
  | cycle called found known rest =>
      rw [expandWithin]
      simp only [called]
      split
      · simp_all
      · rw [dif_pos known]
  | call called found fresh within later ih_within ih_later =>
      rw [expandWithin]
      simp only [called]
      split
      · simp_all
      · rename_i other found'
        have same := Option.some.inj (found.symm.trans found')
        subst same
        rw [dif_neg fresh, ← ih_within, ← ih_later]
        rfl
  | other uncalled later ih =>
      rw [expandWithin]
      split
      · rename_i name arguments called
        exact absurd called (uncalled name arguments)
      · rw [← ih]

theorem expands_iff {outcome : Outcome (List Step)} :
    Expands library chain steps outcome ↔ outcome = expandWithin library chain steps := by
  constructor
  · exact Expands.eq_expandWithin
  · rintro rfl
    exact expands_expandWithin library chain steps

theorem Step.check_of_fill {name : String} {arguments : Placeholder.Arguments}
    {template step : Step} (filled : Step.fill name arguments template = .ok step) :
    step.check = .ok () := by
  simp only [Step.fill, mapError_eq_ok, inside_eq_ok] at filled
  obtain ⟨read, _, checked⟩ := bind_eq_ok.mp filled
  obtain ⟨kept, same⟩ := check_bind_eq_ok.mp checked
  cases same
  exact kept

theorem Step.fill_eq_error {name : String} {arguments : Placeholder.Arguments} {template : Step}
    {failure : Failure} (failed : Step.fill name arguments template = .error failure) :
    ∃ violation, failure = .schema violation := by
  obtain ⟨violation, _, same⟩ := mapError_eq_error.mp failed
  exact ⟨violation, same.symm⟩

theorem StepKind.isCall_eq_true_iff {kind : StepKind} :
    kind.isCall = true ↔ ∃ name arguments, kind = .call name arguments := by
  cases kind <;> simp [isCall]

theorem StepKind.isCall_eq_false {kind : StepKind}
    (uncalled : ∀ name arguments, kind ≠ .call name arguments) : kind.isCall = false := by
  rw [← Bool.not_eq_true, isCall_eq_true_iff]
  rintro ⟨name, arguments, called⟩
  exact uncalled name arguments called

theorem expandWithin_of_uncalled (plain : ∀ step ∈ steps, step.kind.isCall = false) :
    expandWithin library chain steps = .ok steps := by
  induction steps with
  | nil => rw [expandWithin]
  | cons step rest ih =>
      have uncalled : ∀ name arguments, step.kind ≠ .call name arguments := by
        intro name arguments called
        have call := StepKind.isCall_eq_true_iff.mpr ⟨name, arguments, called⟩
        rw [plain step (by simp)] at call
        contradiction
      have expands : Expands library chain (step :: rest) (.ok (step :: rest)) := by
        have later := expands_iff.mpr
          (ih fun other member => plain other (List.mem_cons_of_mem _ member)).symm
        exact .other uncalled later
      exact (expands_iff.mp expands).symm

theorem Expands.origin {result : List Step} (expands : Expands library chain steps (.ok result)) :
    ∀ step ∈ result, step ∈ steps ∧ step.kind.isCall = false ∨
      ∃ name arguments template, Step.fill name arguments template = .ok step := by
  generalize outcome : (Except.ok result : Outcome (List Step)) = answer at expands
  induction expands generalizing result with
  | nil chain =>
      cases outcome
      simp
  | undefined called missing rest => cases outcome
  | cycle called found known rest => cases outcome
  | @call chain step name arguments template rest inner others called found fresh within later
      ih_within ih_later =>
      obtain ⟨expanded, filled, kept, _, fills, expanded_later, rfl⟩ :=
        splice_eq_ok.mp outcome.symm
      intro found_step member
      rcases List.mem_append.mp member with first | second
      · obtain ⟨source, _, fill⟩ := exists_of_mem_mapM fills first
        exact .inr ⟨name, arguments.getD [], source, fill⟩
      · rcases ih_later expanded_later.symm found_step second with ⟨inside, plain⟩ | filled_step
        · exact .inl ⟨List.mem_cons_of_mem _ inside, plain⟩
        · exact .inr filled_step
  | @other chain step rest others uncalled later ih =>
      obtain ⟨kept, expanded, same⟩ := bind_eq_ok.mp outcome.symm
      cases same
      have plain := StepKind.isCall_eq_false uncalled
      intro found_step member
      rcases List.mem_cons.mp member with rfl | second
      · exact .inl ⟨by simp, plain⟩
      · rcases ih expanded.symm found_step second with ⟨inside, plain⟩ | filled_step
        · exact .inl ⟨List.mem_cons_of_mem _ inside, plain⟩
        · exact .inr filled_step

end TerminalScript
