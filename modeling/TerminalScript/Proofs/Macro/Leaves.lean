import Mathlib
import TerminalScript.Proofs.Macro.Expansion
import TerminalScript.Proofs.Macro.Filling

/-!
Expansion, step by step. The calls that steps make form a tree, with the steps that are no calls as
its leaves, and an expansion gives the leaves from left to right. Each is filled once for every call
above it, from the innermost outwards; what the arguments are changes neither how many steps there
are nor their types.
-/

namespace TerminalScript

open Json Document

inductive CallTree
  | leaf (step : Step)
  | call (name : String) (arguments : Placeholder.Arguments) (below : List CallTree)

inductive Unfolds (library : MacroLibrary) : List Step → List CallTree → Prop
  | nil : Unfolds library [] []
  | leaf {step : Step} {rest : List Step} {trees : List CallTree}
      (uncalled : ∀ name arguments, step.kind ≠ .call name arguments)
      (later : Unfolds library rest trees) : Unfolds library (step :: rest) (.leaf step :: trees)
  | call {step : Step} {name : String} {arguments : Option Placeholder.Arguments}
      {template rest : List Step} {below trees : List CallTree}
      (called : step.kind = .call name arguments) (found : library.lookup name = some template)
      (within : Unfolds library template below) (later : Unfolds library rest trees) :
      Unfolds library (step :: rest) (.call name (arguments.getD []) below :: trees)

/-- A step that is no call, with the arguments of the calls above it, the innermost call first. -/
structure Leaf where
  step : Step
  calls : List Placeholder.Arguments

namespace Leaf

def below (arguments : Placeholder.Arguments) (leaf : Leaf) : Leaf :=
  { leaf with calls := leaf.calls ++ [arguments] }

def filled (leaf : Leaf) : Checked Step :=
  leaf.calls.foldlM
    (fun step arguments => Step.ofJson (Placeholder.substitute arguments step.toJson)) leaf.step

end Leaf

namespace CallTree

mutual

def leaves : CallTree → List Leaf
  | .leaf step => [⟨step, []⟩]
  | .call _ arguments below => (leavesOf below).map (Leaf.below arguments)

def leavesOf : List CallTree → List Leaf
  | [] => []
  | tree :: rest => tree.leaves ++ leavesOf rest

end

end CallTree

open CallTree (leaves leavesOf)

variable {library other : MacroLibrary} {chain : List String} {steps : List Step}
  {trees : List CallTree}

theorem Unfolds.unique {others : List CallTree} (first : Unfolds library steps trees)
    (second : Unfolds library steps others) : trees = others := by
  induction first generalizing others with
  | nil =>
      cases second
      rfl
  | leaf uncalled _ ih =>
      cases second with
      | leaf _ later => rw [ih later]
      | call called => exact absurd called (uncalled _ _)
  | call called found _ _ ih_within ih_later =>
      cases second with
      | leaf uncalled _ => exact absurd called (uncalled _ _)
      | call again same within later =>
          cases called.symm.trans again
          cases found.symm.trans same
          rw [ih_within within, ih_later later]

theorem Step.fill_eq_ok_iff_ofJson {name : String} {arguments : Placeholder.Arguments}
    {template step : Step} : fill name arguments template = .ok step ↔
      ofJson (Placeholder.substitute arguments template.toJson) = .ok step := by
  rw [fill, mapError_eq_ok, inside_eq_ok]

theorem Leaf.filled_below {arguments : Placeholder.Arguments} {leaf : Leaf} {inner step : Step}
    {name : String} (within : leaf.filled = .ok inner)
    (fills : Step.fill name arguments inner = .ok step) :
    (leaf.below arguments).filled = .ok step := by
  rw [Step.fill_eq_ok_iff_ofJson] at fills
  rw [filled, below, List.foldlM_append]
  refine bind_eq_ok.mpr ⟨inner, within, ?_⟩
  rw [List.foldlM_cons]
  exact bind_eq_ok.mpr ⟨step, fills, rfl⟩

theorem Leaf.filled_all_below {arguments : Placeholder.Arguments} {name : String}
    {inner : List Leaf} {expanded steps : List Step}
    (within : List.Forall₂ (fun leaf step => leaf.filled = .ok step) inner expanded)
    (fills : List.Forall₂ (fun step filled => Step.fill name arguments step = .ok filled)
      expanded steps) :
    List.Forall₂ (fun leaf step => leaf.filled = .ok step) (inner.map (below arguments)) steps := by
  induction within generalizing steps with
  | nil =>
      cases fills
      exact .nil
  | cons here _ ih =>
      cases fills with
      | cons fill fills => exact .cons (filled_below here fill) (ih fills)

/-- What steps expand to, leaf by leaf. -/
theorem Expands.leaves {result : List Step} (expands : Expands library chain steps (.ok result)) :
    ∃ trees, Unfolds library steps trees ∧
      List.Forall₂ (fun leaf step => leaf.filled = .ok step) (leavesOf trees) result := by
  generalize outcome : (Except.ok result : Outcome (List Step)) = answer at expands
  induction expands generalizing result with
  | nil chain =>
      cases outcome
      exact ⟨[], .nil, .nil⟩
  | undefined called missing rest => cases outcome
  | cycle called found known rest => cases outcome
  | call called found fresh within later ih_within ih_later =>
      obtain ⟨expanded, filled, kept, answered, fills, answered_later, rfl⟩ :=
        splice_eq_ok.mp outcome.symm
      obtain ⟨below, unfolds, inner⟩ := ih_within answered.symm
      obtain ⟨trees, unfolds_later, others⟩ := ih_later answered_later.symm
      refine ⟨.call _ _ below :: trees, .call called found unfolds unfolds_later, ?_⟩
      rw [leavesOf, CallTree.leaves]
      exact List.rel_append (Leaf.filled_all_below inner (mapM_eq_ok.mp fills)) others
  | other uncalled later ih =>
      obtain ⟨kept, answered, same⟩ := bind_eq_ok.mp outcome.symm
      cases same
      obtain ⟨trees, unfolds, others⟩ := ih answered.symm
      exact ⟨.leaf _ :: trees, .leaf uncalled unfolds, .cons rfl others⟩

theorem Step.typeName_of_refill {calls : List Placeholder.Arguments} {template step : Step}
    (filled : calls.foldlM
      (fun step arguments => ofJson (Placeholder.substitute arguments step.toJson)) template =
        .ok step) : step.typeName = template.typeName := by
  induction calls generalizing template with
  | nil =>
      cases filled
      rfl
  | cons arguments rest ih =>
      obtain ⟨middle, first, later⟩ := bind_eq_ok.mp filled
      have fills : fill "" arguments template = .ok middle := fill_eq_ok_iff_ofJson.mpr first
      rw [ih later, typeName_of_fill fills]

theorem typeNames_of_filled {leaves : List Leaf} {result : List Step}
    (filled : List.Forall₂ (fun leaf step => Leaf.filled leaf = .ok step) leaves result) :
    result.map Step.typeName = leaves.map fun leaf => leaf.step.typeName :=
  map_of_mapM_eq_ok _ _ (mapM_eq_ok.mpr filled) fun _ _ => Step.typeName_of_refill

def Step.callee? (step : Step) : Option String :=
  match step.kind with
  | .call name _ => some name
  | _ => none

/-- What a step is, apart from its fields and from the arguments of a call. -/
def Step.outline (step : Step) : String × Option String :=
  (step.typeName, step.callee?)

def MacroLibrary.outline (library : MacroLibrary) : List (String × List (String × Option String)) :=
  library.map fun entry => (entry.1, entry.2.map Step.outline)

theorem Step.callee?_eq_none {step : Step} :
    step.callee? = none ↔ ∀ name arguments, step.kind ≠ .call name arguments := by
  unfold callee?
  split
  · rename_i name arguments called
    simp [called]
  · rename_i uncalled
    simpa using uncalled

theorem Step.callee?_eq_some {step : Step} {name : String} :
    step.callee? = some name ↔ ∃ arguments, step.kind = .call name arguments := by
  unfold callee?
  split
  · rename_i own arguments called
    simp [called]
  · rename_i uncalled
    simpa using uncalled name

theorem MacroLibrary.lookup_outline (library : MacroLibrary) (name : String) :
    library.outline.lookup name = (library.lookup name).map (List.map Step.outline) := by
  induction library with
  | nil => rfl
  | cons entry rest ih =>
      rw [outline, List.map_cons, List.lookup_cons, List.lookup_cons]
      split
      · rfl
      · exact ih

/-- The leaves of steps with the same outlines have the same types. -/
theorem Unfolds.typeNames_congr {steps' : List Step} {trees' : List CallTree}
    (first : Unfolds library steps trees) (second : Unfolds other steps' trees')
    (same_library : other.outline = library.outline)
    (same_steps : steps'.map Step.outline = steps.map Step.outline) :
    ((leavesOf trees').map fun leaf => leaf.step.typeName) =
      (leavesOf trees).map fun leaf => leaf.step.typeName := by
  have below_types (arguments : Placeholder.Arguments) (leaves : List Leaf) :
      ((leaves.map (Leaf.below arguments)).map fun leaf => leaf.step.typeName) =
        leaves.map fun leaf => leaf.step.typeName := by
    rw [List.map_map]
    rfl
  induction first generalizing steps' trees' with
  | nil =>
      rw [List.map_nil, List.map_eq_nil_iff] at same_steps
      subst same_steps
      cases second
      rfl
  | @leaf step rest trees uncalled _ ih =>
      obtain ⟨step', rest', rfl, same, same_rest⟩ := List.map_eq_cons_iff.mp same_steps
      obtain ⟨same_type, same_callee⟩ := Prod.mk.inj same
      rw [Step.callee?_eq_none.mpr uncalled, Step.callee?_eq_none] at same_callee
      cases second with
      | leaf _ later => simp only [leavesOf, leaves, List.map_append, List.map_cons, List.map_nil,
          same_type, ih later same_rest]
      | call called => exact absurd called (same_callee _ _)
  | @call step name arguments template rest below trees called found _ _ ih_within ih_later =>
      obtain ⟨step', rest', rfl, same, same_rest⟩ := List.map_eq_cons_iff.mp same_steps
      have same_callee : step'.callee? = some name :=
        (Prod.mk.inj same).2.trans (Step.callee?_eq_some.mpr ⟨arguments, called⟩)
      obtain ⟨arguments', called'⟩ := Step.callee?_eq_some.mp same_callee
      cases second with
      | leaf uncalled _ => exact absurd called' (uncalled _ _)
      | @call _ _ _ template' _ below' _ again found' within later =>
          cases called'.symm.trans again
          have same_template : template'.map Step.outline = template.map Step.outline := by
            have looked := congrArg (List.lookup name) same_library
            rw [MacroLibrary.lookup_outline, MacroLibrary.lookup_outline, found, found'] at looked
            exact Option.some.inj looked
          simp only [leavesOf, leaves, List.map_append, below_types,
            ih_within within same_template, ih_later later same_rest]

/-- An expansion gives the leaves of the calls, each filled for every call above it, and steps with
the same outlines expand to steps of the same types. -/
theorem expand_leaves {result : List Step} (expanded : expand library steps = .ok result) :
    (∃ trees, (∀ found, Unfolds library steps found ↔ found = trees) ∧
      (leavesOf trees).mapM Leaf.filled = .ok result ∧
      result.map Step.typeName = (leavesOf trees).map fun leaf => leaf.step.typeName) ∧
    ∀ (other : MacroLibrary) (steps' result' : List Step),
      expand other steps' = .ok result' → other.outline = library.outline →
      steps'.map Step.outline = steps.map Step.outline →
      result'.map Step.typeName = result.map Step.typeName := by
  obtain ⟨trees, unfolds, filled⟩ := (expands_iff.mpr expanded.symm).leaves
  have types := typeNames_of_filled filled
  refine ⟨⟨trees, fun found => ⟨fun also => also.unique unfolds, ?_⟩, mapM_eq_ok.mpr filled, types⟩,
    ?_⟩
  · rintro rfl
    exact unfolds
  · intro other steps' result' expanded' same_library same_steps
    obtain ⟨trees', unfolds', filled'⟩ := (expands_iff.mpr expanded'.symm).leaves
    rw [types, typeNames_of_filled filled',
      unfolds.typeNames_congr unfolds' same_library same_steps]

/-- A letter whose middle line is that of another macro: its placeholder is filled by the inner call
first, with the text of another placeholder, and then by the outer one. -/
theorem expand_leaves_of_letter :
    let inner := [("word", Value.text "${word}")]
    let outer := [("word", Value.text "hi")]
    let library := [("line", [Step.line "inner ${word}"]),
      ("letter", [.line "before", .call "line" inner, .line "after"])]
    let result := [Step.line "before", .line "inner hi", .line "after"]
    expand library [.call "letter" outer] = .ok result ∧
      (∃ trees, Unfolds library [.call "letter" outer] trees ∧
        leavesOf trees = [⟨.line "before", [outer]⟩, ⟨.line "inner ${word}", [inner, outer]⟩,
          ⟨.line "after", [outer]⟩] ∧
        (leavesOf trees).mapM Leaf.filled = .ok result) ∧
      ∀ outer' result', expand library [.call "letter" outer'] = .ok result' →
        result'.map Step.typeName = ["line", "line", "line"] := by
  intro inner outer library result
  have expanded : expand library [.call "letter" outer] = .ok result := by cbv
  obtain ⟨⟨trees, unique, filled, _⟩, types⟩ := expand_leaves expanded
  have plain (text : String) {rest : List Step} {trees : List CallTree}
      (later : Unfolds library rest trees) :
      Unfolds library (.line text :: rest) (.leaf (.line text) :: trees) :=
    .leaf (by rintro name arguments ⟨⟩) later
  have called (name : String) (arguments : Placeholder.Arguments) :
      (Step.call name arguments).kind = .call name (some arguments) := rfl
  have line : library.lookup "line" = some [.line "inner ${word}"] := rfl
  have letter : library.lookup "letter" =
      some [.line "before", .call "line" inner, .line "after"] := rfl
  have below := plain "before"
    (.call (called "line" inner) line (plain "inner ${word}" .nil) (plain "after" .nil))
  have unfolds := Unfolds.call (called "letter" outer) letter below .nil
  obtain rfl := (unique _).mp unfolds
  exact ⟨expanded, ⟨_, unfolds, rfl, filled⟩, fun outer' result' again => types _ _ _ again rfl rfl⟩

end TerminalScript
