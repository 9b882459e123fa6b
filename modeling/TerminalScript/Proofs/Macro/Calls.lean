import TerminalScript.Proofs.Macro.Expansion

/-!
The calls that are reached from steps, through the templates of the macros that are called. An
expansion fails if a macro without a template or a cycle is reached, it names a macro that was
reached or the calls that lead round a cycle, and apart from that only a step that was filled can
make it fail.
-/

namespace TerminalScript

variable {library : MacroLibrary} {chain : List String} {steps template rest : List Step}
  {step : Step} {name other : String}

def Calls (steps : List Step) (name : String) : Prop :=
  ∃ step ∈ steps, ∃ arguments, step.kind = .call name arguments

theorem Calls.cons (called : Calls rest name) : Calls (step :: rest) name := by
  obtain ⟨found, member, arguments, kind⟩ := called
  exact ⟨found, List.mem_cons_of_mem _ member, arguments, kind⟩

inductive Reaches (library : MacroLibrary) : List Step → String → Prop
  | here {steps : List Step} {name : String} (called : Calls steps name) :
      Reaches library steps name
  | inside {steps template : List Step} {name other : String} (called : Calls steps other)
      (found : library.lookup other = some template) (below : Reaches library template name) :
      Reaches library steps name

theorem Reaches.cons (reached : Reaches library rest name) :
    Reaches library (step :: rest) name := by
  cases reached with
  | here called => exact .here called.cons
  | inside called found below => exact .inside called.cons found below

def ReachesUndefined (library : MacroLibrary) (steps : List Step) : Prop :=
  ∃ name, Reaches library steps name ∧ library.lookup name = none

def ReachesCycle (library : MacroLibrary) (steps : List Step) : Prop :=
  ∃ name template, Reaches library steps name ∧ library.lookup name = some template ∧
    Reaches library template name

/-- Calls that lead to a macro: the first of the names is called in the steps, each next one in the
template of the one before, and the macro in the template of the last. -/
inductive CallPath (library : MacroLibrary) : List Step → List String → String → Prop
  | last {steps : List Step} {name : String} (called : Calls steps name) :
      CallPath library steps [] name
  | next {steps template : List Step} {name other : String} {names : List String}
      (called : Calls steps other) (found : library.lookup other = some template)
      (path : CallPath library template names name) : CallPath library steps (other :: names) name

theorem CallPath.cons {names : List String} (path : CallPath library rest names name) :
    CallPath library (step :: rest) names name := by
  cases path with
  | last called => exact .last called.cons
  | next called found path => exact .next called.cons found path

theorem CallPath.reaches {names : List String} (path : CallPath library steps names name) :
    Reaches library steps name := by
  induction path with
  | last called => exact .here called
  | next called found _ ih => exact .inside called found ih

theorem CallPath.reachesCycle {names : List String} (path : CallPath library steps names name)
    (again : name ∈ names) : ReachesCycle library steps := by
  refine ⟨name, ?_⟩
  induction path with
  | last called => simp at again
  | @next steps template name other names called found path ih =>
      by_cases same : name = other
      · subst same
        exact ⟨template, .here called, found, path.reaches⟩
      · have later := (List.mem_cons.mp again).resolve_left same
        obtain ⟨own, reached, lookup, round⟩ := ih later
        exact ⟨own, .inside called found reached, lookup, round⟩

theorem Expands.of_calls {result : List Step} (expands : Expands library chain steps (.ok result))
    (called : Calls steps name) :
    name ∉ chain ∧ ∃ template inner, library.lookup name = some template ∧
      Expands library (chain ++ [name]) template (.ok inner) := by
  obtain ⟨step, member, arguments, kind⟩ := called
  generalize outcome : (Except.ok result : Outcome (List Step)) = answer at expands
  induction expands generalizing result with
  | nil chain => simp at member
  | undefined called missing rest => cases outcome
  | cycle called found known rest => cases outcome
  | @call chain first other others template rest inner answers called found fresh within later
      ih_within ih_later =>
      obtain ⟨expanded, filled, kept, answered, _, answered_later, _⟩ :=
        splice_eq_ok.mp outcome.symm
      rcases List.mem_cons.mp member with rfl | inside
      · rw [called] at kind
        cases kind
        exact ⟨fresh, template, expanded, found, answered ▸ within⟩
      · exact ih_later inside answered_later.symm
  | @other chain first rest others uncalled later ih =>
      obtain ⟨kept, answered, _⟩ := bind_eq_ok.mp outcome.symm
      rcases List.mem_cons.mp member with rfl | inside
      · exact absurd kind (uncalled name arguments)
      · exact ih inside answered.symm

theorem Expands.of_reaches (reached : Reaches library steps name) {result : List Step}
    (expands : Expands library chain steps (.ok result)) :
    name ∉ chain ∧ ∃ longer template inner, library.lookup name = some template ∧
      Expands library (longer ++ [name]) template (.ok inner) := by
  induction reached generalizing chain result with
  | here called =>
      obtain ⟨fresh, template, inner, found, within⟩ := expands.of_calls called
      exact ⟨fresh, chain, template, inner, found, within⟩
  | @inside steps template name other called found below ih =>
      obtain ⟨_, own, inner, same, within⟩ := expands.of_calls called
      cases found.symm.trans same
      obtain ⟨fresh, deeper⟩ := ih within
      -- The chain only grows on the way down, so what is fresh below is fresh here.
      exact ⟨fun known => fresh (List.mem_append_left _ known), deeper⟩

theorem Expands.not_reachesUndefined {result : List Step}
    (expands : Expands library chain steps (.ok result)) : ¬ReachesUndefined library steps := by
  rintro ⟨name, reached, missing⟩
  obtain ⟨_, _, template, _, found, _⟩ := expands.of_reaches reached
  rw [missing] at found
  cases found

theorem Expands.not_reachesCycle {result : List Step}
    (expands : Expands library chain steps (.ok result)) : ¬ReachesCycle library steps := by
  rintro ⟨name, template, reached, found, again⟩
  obtain ⟨_, longer, own, inner, same, within⟩ := expands.of_reaches reached
  cases found.symm.trans same
  -- The chain above a template ends with the macro's own name.
  exact (within.of_reaches again).1 (by simp)

/-- A step of an expanded template, filled with the arguments of a call that is reached, breaks a
rule. -/
inductive FillingFault (library : MacroLibrary) :
    List String → List Step → Document.Violation → Prop
  | here {chain : List String} {steps template inner : List Step} {step source : Step}
      {name : String} {arguments : Option Placeholder.Arguments} {violation : Document.Violation}
      (member : step ∈ steps) (called : step.kind = .call name arguments)
      (found : library.lookup name = some template)
      (expands : Expands library (chain ++ [name]) template (.ok inner)) (inside : source ∈ inner)
      (broken : Step.fill name (arguments.getD []) source = .error (.schema violation)) :
      FillingFault library chain steps violation
  | inside {chain : List String} {steps template : List Step} {name : String}
      {violation : Document.Violation} (called : Calls steps name)
      (found : library.lookup name = some template)
      (below : FillingFault library (chain ++ [name]) template violation) :
      FillingFault library chain steps violation

theorem FillingFault.cons {violation : Document.Violation}
    (fault : FillingFault library chain rest violation) :
    FillingFault library chain (step :: rest) violation := by
  cases fault with
  | here member called found expands inside broken =>
      exact .here (List.mem_cons_of_mem _ member) called found expands inside broken
  | inside called found below => exact .inside called.cons found below

inductive ExpansionFault (library : MacroLibrary) (chain : List String) (steps : List Step) :
    Failure → Prop
  | undefined {name : String} (reached : Reaches library steps name)
      (missing : library.lookup name = none) :
      ExpansionFault library chain steps (.macroNotFound name)
  | cycle {names : List String} {name : String} (path : CallPath library steps names name)
      (distinct : chain.Nodup → (chain ++ names).Nodup) (again : name ∈ chain ++ names) :
      ExpansionFault library chain steps (.macroCycle (chain ++ names ++ [name]))
  | filling {violation : Document.Violation}
      (fault : FillingFault library chain steps violation) :
      ExpansionFault library chain steps (.schema violation)

theorem ExpansionFault.cons {failure : Failure}
    (fault : ExpansionFault library chain rest failure) :
    ExpansionFault library chain (step :: rest) failure := by
  cases fault with
  | undefined reached missing => exact .undefined reached.cons missing
  | cycle path distinct again => exact .cycle path.cons distinct again
  | filling fault => exact .filling fault.cons

theorem ExpansionFault.within {failure : Failure} (called : Calls steps name)
    (found : library.lookup name = some template) (fresh : name ∉ chain)
    (fault : ExpansionFault library (chain ++ [name]) template failure) :
    ExpansionFault library chain steps failure := by
  cases fault with
  | undefined reached missing => exact .undefined (.inside called found reached) missing
  | @cycle names other path distinct again =>
      have shifted : chain ++ [name] ++ names = chain ++ name :: names := by simp
      rw [shifted] at distinct again ⊢
      refine .cycle (.next called found path) (fun unique => distinct ?_) again
      rw [List.nodup_append]
      refine ⟨unique, by simp, ?_⟩
      rintro known member last single rfl
      rw [List.mem_singleton.mp single] at member
      exact fresh member
  | filling fault => exact .filling (.inside called found fault)

theorem Expands.fault {failure : Failure} (expands : Expands library chain steps (.error failure)) :
    ExpansionFault library chain steps failure := by
  generalize outcome : (Except.error failure : Outcome (List Step)) = answer at expands
  induction expands with
  | nil chain => cases outcome
  | @undefined chain step name arguments called missing rest =>
      cases outcome
      exact .undefined (.here ⟨step, by simp, arguments, called⟩) missing
  | @cycle chain step name arguments template called found known rest =>
      cases outcome
      have path : CallPath library (step :: rest) [] name :=
        .last ⟨step, by simp, arguments, called⟩
      have fault : ExpansionFault library chain (step :: rest)
          (.macroCycle (chain ++ [] ++ [name])) := .cycle path (by simp) (by simpa using known)
      simpa using fault
  | @call chain step name arguments template rest inner others called found fresh within later
      ih_within ih_later =>
      have calls : Calls (step :: rest) name := ⟨step, by simp, arguments, called⟩
      rcases splice_eq_error outcome.symm with
        failed | failed | ⟨expanded, source, answered, inside, broken⟩
      · exact .within calls found fresh (ih_within failed.symm)
      · exact (ih_later failed.symm).cons
      · obtain ⟨violation, rfl⟩ := Step.fill_eq_error broken
        exact .filling (.here (by simp) called found (answered ▸ within) inside broken)
  | other uncalled later ih =>
      rcases bind_eq_error.mp outcome.symm with failed | ⟨kept, _, impossible⟩
      · exact (ih failed.symm).cons
      · cases impossible

theorem expands_expand (library : MacroLibrary) (steps : List Step) :
    Expands library [] steps (expand library steps) :=
  expands_expandWithin library [] steps

theorem expand_fails (unexpandable : ReachesUndefined library steps ∨ ReachesCycle library steps) :
    ∃ failure, expand library steps = .error failure := by
  have expands := expands_expand library steps
  rcases outcome : expand library steps with failure | result
  · exact ⟨failure, rfl⟩
  · rw [outcome] at expands
    rcases unexpandable with undefined | cycle
    · exact absurd undefined expands.not_reachesUndefined
    · exact absurd cycle expands.not_reachesCycle

theorem expand_fault {failure : Failure} (failed : expand library steps = .error failure) :
    ExpansionFault library [] steps failure := by
  have expands := expands_expand library steps
  rw [failed] at expands
  exact expands.fault

theorem expand_macroNotFound (failed : expand library steps = .error (.macroNotFound name)) :
    Reaches library steps name ∧ library.lookup name = none := by
  cases expand_fault failed with
  | undefined reached missing => exact ⟨reached, missing⟩

theorem expand_macroCycle (failed : expand library steps = .error (.macroCycle chain)) :
    ∃ names last, chain = names ++ [last] ∧ CallPath library steps names last ∧ names.Nodup ∧
      last ∈ names := by
  cases expand_fault failed with
  | @cycle names last path distinct again =>
      exact ⟨names, last, by simp, path, by simpa using distinct, by simpa using again⟩

theorem expand_schema (defined : ¬ReachesUndefined library steps)
    (acyclic : ¬ReachesCycle library steps) {failure : Failure}
    (failed : expand library steps = .error failure) :
    ∃ violation, failure = .schema violation ∧ FillingFault library [] steps violation := by
  cases expand_fault failed with
  | @undefined name reached missing => exact absurd ⟨name, reached, missing⟩ defined
  | cycle path _ again => exact absurd (path.reachesCycle (by simpa using again)) acyclic
  | @filling violation fault => exact ⟨violation, rfl, fault⟩

/-- An expansion ends, it fails if it must, and its failure tells what is wrong. -/
theorem expands_iff_eq_expand (library : MacroLibrary) (steps : List Step) :
    (∀ outcome, Expands library [] steps outcome ↔ outcome = expand library steps) ∧
    (ReachesUndefined library steps ∨ ReachesCycle library steps →
      ∃ failure, expand library steps = .error failure) ∧
    (∀ name, expand library steps = .error (.macroNotFound name) →
      Reaches library steps name ∧ library.lookup name = none) ∧
    (∀ chain, expand library steps = .error (.macroCycle chain) →
      ∃ names last, chain = names ++ [last] ∧ CallPath library steps names last ∧
        names.Nodup ∧ last ∈ names) ∧
    (¬ReachesUndefined library steps → ¬ReachesCycle library steps →
      ∀ failure, expand library steps = .error failure →
        ∃ violation, failure = .schema violation ∧
          FillingFault library [] steps violation) :=
  ⟨fun _ => expands_iff, expand_fails, fun _ => expand_macroNotFound,
    fun _ => expand_macroCycle, fun defined acyclic _ => expand_schema defined acyclic⟩

/-- Two ways to the same macro are no cycle. -/
example :
    (expand [("both", [.call "left" [], .call "right" []]), ("left", [.call "shared" []]),
      ("right", [.call "shared" []]), ("shared", [.line "hello"])] [.call "both" []]).toOption.map
        (List.map Step.typeName) = some ["line", "line"] := by
  cbv

end TerminalScript
