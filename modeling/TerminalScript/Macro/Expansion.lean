import TerminalScript.Macro.Placeholder
import TerminalScript.Names

/-!
Macros: steps that stand for lists of steps. A call is expanded depth first: its template is
expanded, then each step that results is filled with the arguments of the call and checked again.
-/

namespace TerminalScript

open Json Document

/-- Templates by name, sorted, each name once. -/
abbrev MacroLibrary := List (String × List Step)

namespace MacroLibrary

/-- The name is not in the library yet. -/
def insert (name : String) (steps : List Step) : MacroLibrary → MacroLibrary
  | [] => [(name, steps)]
  | (other, kept) :: rest =>
      if name < other then (name, steps) :: (other, kept) :: rest
      else (other, kept) :: insert name steps rest

structure Merging where
  library : MacroLibrary := []
  repeated : List String := []

def Merging.add (merging : Merging) (entry : String × List Step) : Merging :=
  if (merging.library.lookup entry.1).isSome then
    { merging with repeated := insertName entry.1 merging.repeated }
  else { merging with library := merging.library.insert entry.1 entry.2 }

def Merging.addFile (merging : Merging) (file : MacroFile) : Merging :=
  file.macros.foldl Merging.add merging

def merge (files : List MacroFile) : Outcome MacroLibrary :=
  let merged := files.foldl Merging.addFile {}
  match merged.repeated with
  | [] => .ok merged.library
  | repeated => .error (.duplicateName "macros" repeated)

end MacroLibrary

namespace Step

def fill (name : String) (arguments : Placeholder.Arguments) (step : Step) : Outcome Step :=
  (inside (.expansion name) (ofJson (Placeholder.substitute arguments step.toJson))).mapError
    Failure.schema

end Step

def MacroLibrary.uncalled (library : MacroLibrary) (chain : List String) : Nat :=
  (library.filter fun entry => entry.1 ∉ chain).length

theorem MacroLibrary.uncalled_append_lt {library : MacroLibrary} {chain : List String}
    {name : String} {template : List Step} (found : library.lookup name = some template)
    (fresh : name ∉ chain) : library.uncalled (chain ++ [name]) < library.uncalled chain := by
  obtain ⟨_, _, same, _⟩ := List.lookup_eq_some_iff.mp found
  have member : (name, template) ∈ library := by simp [same]
  have narrowed : library.filter (fun entry => entry.1 ∉ chain ++ [name]) =
      (library.filter fun entry => entry.1 ∉ chain).filter fun entry => entry.1 ≠ name := by
    rw [List.filter_filter]
    apply List.filter_congr
    intro entry _
    simp only [List.mem_append, List.mem_singleton, not_or, ne_eq, Bool.decide_and, Bool.and_comm]
  unfold uncalled
  rw [narrowed]
  apply List.length_filter_lt_length_iff_exists.mpr
  exact ⟨(name, template), by simp [member, fresh], by simp⟩

def expandWithin (library : MacroLibrary) (chain : List String) :
    List Step → Outcome (List Step)
  | [] => .ok []
  | step :: rest =>
      match step.kind with
      | .call name arguments =>
          match _found : library.lookup name with
          | none => .error (.macroNotFound name)
          | some template =>
              if _known : name ∈ chain then .error (.macroCycle (chain ++ [name]))
              else do
                let inner ← expandWithin library (chain ++ [name]) template
                let filled ← inner.mapM (Step.fill name (arguments.getD []))
                let others ← expandWithin library chain rest
                pure (filled ++ others)
      | _ => do
          let others ← expandWithin library chain rest
          pure (step :: others)
termination_by steps => (library.uncalled chain, steps.length)
decreasing_by
  · exact Prod.Lex.left _ _ (MacroLibrary.uncalled_append_lt _found _known)
  all_goals exact Prod.Lex.right _ (by simp)

def expand (library : MacroLibrary) (steps : List Step) : Outcome (List Step) :=
  expandWithin library [] steps

end TerminalScript
