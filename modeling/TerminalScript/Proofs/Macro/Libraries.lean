import TerminalScript.Proofs.Macro.Calls
import TerminalScript.Proofs.Plan.Names

/-!
Expansions in different libraries. The macros that are reached settle an expansion: a library with
the same templates for them gives the same steps or the same failure, whatever else it holds. Only
a macro that was missing can make a difference when it is added.
-/

namespace TerminalScript

open Json Document

variable {library wider other : MacroLibrary} {chain : List String} {steps : List Step}

def MacroLibrary.Extends (wider library : MacroLibrary) : Prop :=
  ∀ name template, library.lookup name = some template → wider.lookup name = some template

/-- What comes after a call counts only once the call itself is expanded and filled. -/
theorem splice_congr {name : String} {arguments : Placeholder.Arguments}
    {inner others others' : Outcome (List Step)}
    (same : ∀ expanded filled, inner = .ok expanded →
      expanded.mapM (Step.fill name arguments) = .ok filled → others = others') :
    splice name arguments inner others = splice name arguments inner others' := by
  rcases inner with failure | expanded
  · rfl
  rcases fills : expanded.mapM (Step.fill name arguments) with failure | filled
  · simp only [splice, bind, Except.bind, fills]
  · rw [same expanded filled rfl fills]

theorem expandWithin_call {step : Step} {name : String}
    {arguments : Option Placeholder.Arguments} {template rest : List Step}
    (called : step.kind = .call name arguments) (found : library.lookup name = some template)
    (fresh : name ∉ chain) :
    expandWithin library chain (step :: rest) = splice name (arguments.getD [])
      (expandWithin library (chain ++ [name]) template) (expandWithin library chain rest) :=
  (Expands.eq_expandWithin (.call called found fresh (expands_expandWithin _ _ _)
    (expands_expandWithin _ _ _))).symm

/-- An expansion takes place alike in another library that keeps the templates that are reached,
and lacks what was missing if that is what the expansion fails for. -/
theorem Expands.transfer {outcome : Outcome (List Step)}
    (expands : Expands library chain steps outcome)
    (kept : ∀ name template, Reaches library steps name →
      library.lookup name = some template → other.lookup name = some template)
    (lacking : ∀ missing, outcome = .error (.macroNotFound missing) → ∀ name,
      Reaches library steps name → library.lookup name = none → other.lookup name = none) :
    expandWithin other chain steps = outcome := by
  induction expands with
  | nil chain => rw [expandWithin]
  | @undefined chain step name arguments called missing rest =>
      have reached : Reaches library (step :: rest) name := .here ⟨step, by simp, _, called⟩
      exact (Expands.eq_expandWithin
        (.undefined called (lacking name rfl name reached missing) rest)).symm
  | @cycle chain step name arguments template called found known rest =>
      have reached : Reaches library (step :: rest) name := .here ⟨step, by simp, _, called⟩
      exact (Expands.eq_expandWithin
        (.cycle called (kept name template reached found) known rest)).symm
  | @call chain step name arguments template rest inner others called found fresh within later
      ih_within ih_later =>
      have calls : Calls (step :: rest) name := ⟨step, by simp, _, called⟩
      have within_same : expandWithin other (chain ++ [name]) template = inner := by
        refine ih_within (fun below _ reached => kept below _ (.inside calls found reached)) ?_
        rintro missing rfl below reached
        exact lacking missing rfl below (.inside calls found reached)
      rw [expandWithin_call called (kept name template (.here calls) found) fresh, within_same]
      refine splice_congr fun expanded filled answered fills => ?_
      refine ih_later (fun after _ reached => kept after _ reached.cons) ?_
      rintro missing rfl after reached
      refine lacking missing ?_ after reached.cons
      simp only [splice, answered, bind, Except.bind, fills]
  | @other chain step rest others uncalled later ih =>
      have later_same : expandWithin other chain rest = others := by
        refine ih (fun after _ reached => kept after _ reached.cons) ?_
        rintro missing rfl after reached
        exact lacking missing rfl after reached.cons
      rw [← later_same]
      exact (Expands.eq_expandWithin (.other uncalled (expands_expandWithin _ _ _))).symm

theorem expand_congr
    (agree : ∀ name, Reaches library steps name → other.lookup name = library.lookup name) :
    expand other steps = expand library steps :=
  (expands_expand library steps).transfer
    (fun name _ reached found => (agree name reached).trans found)
    fun _ _ name reached missing => (agree name reached).trans missing

theorem MacroLibrary.extends_of_subset {files loaded : List MacroFile}
    (more : files ⊆ loaded) (merged : merge files = .ok library)
    (merged_all : merge loaded = .ok wider) : wider.Extends library := by
  intro name template found
  obtain ⟨file, member, inside⟩ := (lookup_merge merged name template).mp found
  exact (lookup_merge merged_all name template).mpr ⟨file, more member, inside⟩

theorem expand_of_extends (extended : wider.Extends library)
    (defined : ∀ name, expand library steps ≠ .error (.macroNotFound name)) :
    expand wider steps = expand library steps :=
  (expands_expand library steps).transfer (fun name template _ => extended name template)
    fun missing failed => absurd failed (defined missing)

/-- Unless a macro is missing, an expansion has the same steps or the same failure in a library that
holds more, as when more files are loaded. It never depends on macros that are not reached. -/
theorem expand_kept (library : MacroLibrary) (steps : List Step) :
    ((∀ name, expand library steps ≠ .error (.macroNotFound name)) →
      (∀ wider : MacroLibrary, wider.Extends library →
        expand wider steps = expand library steps) ∧
      ∀ files loaded wider, MacroLibrary.merge files = .ok library → files ⊆ loaded →
        MacroLibrary.merge loaded = .ok wider → expand wider steps = expand library steps) ∧
    ∀ other : MacroLibrary,
      (∀ name, Reaches library steps name → other.lookup name = library.lookup name) →
      expand other steps = expand library steps := by
  refine ⟨fun defined => ⟨fun wider extended => expand_of_extends extended defined, ?_⟩,
    fun other => expand_congr⟩
  intro files loaded wider merged more merged_all
  exact expand_of_extends (MacroLibrary.extends_of_subset more merged merged_all) defined

/-- A cycle is told alike when more files are loaded, be they of macros that the cycle does not
reach. -/
theorem expand_kept_of_round :
    let round : MacroFile :=
      { macros := [("back", [.line "b", .call "there" []]), ("there", [.call "back" []])] }
    let others : MacroFile := { macros := [("apart", [.call "missing" []]), ("zoom", [])] }
    let steps : List Step := [.line "a", .call "back" []]
    let library : MacroLibrary := round.macros
    let wider : MacroLibrary := [("apart", [.call "missing" []]),
      ("back", [.line "b", .call "there" []]), ("there", [.call "back" []]), ("zoom", [])]
    MacroLibrary.merge [round] = .ok library ∧ MacroLibrary.merge [others, round] = .ok wider ∧
    expand library steps = .error (.macroCycle ["back", "there", "back"]) ∧
    expand wider steps = .error (.macroCycle ["back", "there", "back"]) := by
  intro round others steps library wider
  have merged : MacroLibrary.merge [round] = .ok library := rfl
  have merged_all : MacroLibrary.merge [others, round] = .ok wider := rfl
  have failed : expand library steps = .error (.macroCycle ["back", "there", "back"]) := by cbv
  have defined : ∀ name, expand library steps ≠ .error (.macroNotFound name) := by
    intro name missing
    rw [failed] at missing
    cases missing
  exact ⟨merged, merged_all, failed, (((expand_kept library steps).1 defined).2 _ _ _ merged
    (by simp) merged_all).trans failed⟩

end TerminalScript
