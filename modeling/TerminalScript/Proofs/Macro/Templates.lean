import Mathlib
import TerminalScript.Proofs.Macro.Expansion
import TerminalScript.Proofs.Plan
import TerminalScript.Proofs.Step.Filling

/-!
Templates as they are written and as they are kept. A template is read when its file is, before any
argument is known, so it must be a step as it stands. If it is one, a call gives the step that the
filled template is.
-/

namespace TerminalScript

open Json Document Placeholder

def templateFile (name : String) (template : Value) : Value :=
  .object [("macros", .object [(name, .array [template])]), ("schemaVersion", .text "v1")]

namespace MacroFile

theorem check_eq_ok {file : MacroFile} : file.check = .ok () ↔
    ∀ entry ∈ file.macros, entry.1 ≠ "" ∧ ∀ step ∈ entry.2, step.check = .ok () := by
  rw [check, List.forM_eq_forM, forM_eq_ok]
  refine forall₂_congr fun entry _ => ?_
  rw [check_bind_eq_ok, ensureThat_eq_ok, checkSteps_eq_ok, decide_eq_true_eq]

theorem readMacros_single {name : String} {template : Value} {macros : List (String × List Step)} :
    readMacros (.object [(name, .array [template])]) = .ok macros ↔
      ∃ typed, Step.read template = .ok typed ∧ macros = [(name, [typed])] := by
  constructor
  · intro read
    cases mapM_eq_ok.mp read with
    | cons first rest =>
        cases rest
        obtain ⟨steps, listed, ⟨⟩⟩ := bind_eq_ok.mp first
        cases mapM_eq_ok.mp listed with
        | cons own rest =>
            cases rest
            exact ⟨_, own, rfl⟩
  · rintro ⟨typed, read, rfl⟩
    have listed : list Step.read (.array [template]) = .ok [typed] :=
      mapM_eq_ok.mpr (.cons read .nil)
    exact mapM_eq_ok.mpr (.cons (bind_eq_ok.mpr ⟨[typed], listed, rfl⟩) .nil)

theorem ofJson_templateFile {name : String} (named : name ≠ "") {template : Value}
    {file : MacroFile} :
    ofJson (templateFile name template) = .ok file ↔
      ∃ typed, Step.ofJson template = .ok typed ∧ file = { macros := [(name, [typed])] } := by
  have checked : ∀ typed : Step, check { macros := [(name, [typed])] } = .ok () ↔
      typed.check = .ok () := by
    intro typed
    rw [check_eq_ok]
    simp [named]
  rw [ofJson, readDocument_eq_ok]
  constructor
  · rintro ⟨read, rules⟩
    obtain ⟨_, macros, built, listed, rfl⟩ :=
      Record.build_seq_eq_ok.mp (Record.readFields_eq_ok.mp read).built
    obtain ⟨⟨⟩, _, rfl⟩ := Record.build_map_eq_ok.mp built
    obtain ⟨typed, typed_read, rfl⟩ := readMacros_single.mp listed
    exact ⟨typed, Step.ofJson_eq_ok.mpr ⟨typed_read, (checked typed).mp rules⟩, rfl⟩
  · rintro ⟨typed, accepted, rfl⟩
    obtain ⟨typed_read, rules⟩ := Step.ofJson_eq_ok.mp accepted
    refine ⟨Record.readFields_eq_ok.mpr (.seq (.map mk (SchemaVersion.codec.reads_required ?_))
      (Record.reads_required ?_ (readMacros_single.mpr ⟨typed, typed_read, rfl⟩))),
      (checked typed).mpr rules⟩
    · simp [Holds, SchemaVersion.name, eq_comm]
    · simp [Holds, eq_comm]

end MacroFile

theorem MacroLibrary.merge_single (name : String) (template : List Step) :
    merge [{ macros := [(name, template)] }] = .ok [(name, template)] :=
  rfl

theorem expand_single {name : String} {arguments : Arguments} {typed step : Step}
    (plain : typed.kind.isCall = false) (filled : Step.fill name arguments typed = .ok step) :
    expand [(name, [typed])] [.call name arguments] = .ok [step] := by
  let library : MacroLibrary := [(name, [typed])]
  have found : library.lookup name = some [typed] := by simp [library]
  have within : Expands library ([] ++ [name]) [typed] (.ok [typed]) :=
    expands_iff.mpr (expandWithin_of_uncalled (by simpa using plain)).symm
  have called : (Step.call name arguments).kind = .call name (some arguments) := rfl
  have expands := Expands.call called found List.not_mem_nil within (.nil [])
  rw [expand, ← expands_iff.mp expands]
  refine splice_eq_ok.mpr ⟨[typed], [step], [], rfl, ?_, rfl, rfl⟩
  exact mapM_eq_ok.mpr (.cons filled .nil)

/-- A template that is a step once it is filled is accepted exactly if it is a step as it stands,
and a call of it then gives the step that the filled template is. -/
theorem template_accepted_iff_typed {name : String} {template : Value} {arguments : Arguments}
    {step : Step} (named : name ≠ "")
    (filled : Step.ofJson (substitute arguments template) = .ok step)
    (plain : step.kind.isCall = false) :
    ((∃ file, MacroFile.ofJson (templateFile name template) = .ok file) ↔
      ∃ typed, Step.ofJson template = .ok typed) ∧
    ∀ file, MacroFile.ofJson (templateFile name template) = .ok file →
      ∃ library, MacroLibrary.merge [file] = .ok library ∧
        expand library [.call name arguments] = .ok [step] := by
  constructor
  · constructor
    · rintro ⟨file, accepted⟩
      obtain ⟨typed, typed_read, _⟩ := (MacroFile.ofJson_templateFile named).mp accepted
      exact ⟨typed, typed_read⟩
    · rintro ⟨typed, typed_read⟩
      exact ⟨_, (MacroFile.ofJson_templateFile named).mpr ⟨typed, typed_read, rfl⟩⟩
  · intro file accepted
    obtain ⟨typed, typed_read, rfl⟩ := (MacroFile.ofJson_templateFile named).mp accepted
    obtain ⟨read, _⟩ := Step.ofJson_eq_ok.mp typed_read
    obtain ⟨again, rules⟩ := Step.ofJson_eq_ok.mp filled
    cases template with
    | object written =>
        have fill : Step.fill name arguments typed = .ok step :=
          Step.fill_eq_ok.mpr ⟨Step.refilled read again plain, rules⟩
        have uncalled : typed.kind.isCall = false :=
          (StepKind.isCall_congr (Step.typeName_of_fill fill)).symm.trans plain
        exact ⟨_, MacroLibrary.merge_single name [typed], expand_single uncalled fill⟩
    | _ => cases read

/-- A placeholder in place of a number is filled, but the file that holds it is refused. -/
theorem resize_template_refused :
    let template := Value.object
      [("cols", .text "${cols}"), ("rows", .text "${rows}"), ("type", .text "resize")]
    let arguments := [("cols", Value.ofNat 100), ("rows", .ofNat 30)]
    Step.ofJson (substitute arguments template) = .ok (.ofKind (.resize 100 30)) ∧
      ∀ file, MacroFile.ofJson (templateFile "size" template) ≠ .ok file := by
  intro template arguments
  constructor
  · cbv
  · intro file accepted
    obtain ⟨typed, read, _⟩ := (MacroFile.ofJson_templateFile (by decide)).mp accepted
    have refused : (Step.ofJson template).toOption.isSome = false := by cbv
    rw [read] at refused
    cases refused

theorem template_accepted_iff_typed_of_line :
    let template := Value.object [("text", .text "hello ${who}"), ("type", .text "line")]
    let arguments := [("who", Value.text "bob")]
    Step.ofJson (substitute arguments template) = .ok (.line "hello bob") ∧
      ∃ file library, MacroFile.ofJson (templateFile "greet" template) = .ok file ∧
        MacroLibrary.merge [file] = .ok library ∧
        expand library [.call "greet" arguments] = .ok [.line "hello bob"] := by
  intro template arguments
  have filled : Step.ofJson (substitute arguments template) = .ok (.line "hello bob") := by cbv
  have typed : Step.ofJson template = .ok (.line "hello ${who}") := by cbv
  have named : "greet" ≠ "" := by decide
  obtain ⟨accepted, expanded⟩ := template_accepted_iff_typed named filled rfl
  obtain ⟨file, read⟩ := accepted.mpr ⟨_, typed⟩
  obtain ⟨library, merged, result⟩ := expanded file read
  exact ⟨filled, file, library, read, merged, result⟩

end TerminalScript
