import TerminalScript.Macro.Expansion
import TerminalScript.Proofs.Document.RoundTrip
import TerminalScript.Proofs.Macro.Placeholder

/-!
What filling a template does to the type of a step. A type holds no placeholder and is read back as
it was, so a step that was no call is none after it was filled.
-/

namespace TerminalScript

open Json Document

namespace StepKind

theorem typeName_plain (kind : StepKind) : '$' ∉ kind.typeName.toList := by
  cases kind <;> simp [typeName]

theorem isCall_iff_typeName {kind : StepKind} : kind.isCall = true ↔ kind.typeName = "macro" := by
  cases kind <;> simp [isCall, typeName]

theorem isCall_congr {kind other : StepKind} (same : kind.typeName = other.typeName) :
    kind.isCall = other.isCall := by
  rw [Bool.eq_iff_iff, isCall_iff_typeName, isCall_iff_typeName, same]

end StepKind

namespace Step

theorem typeName_of_readFields {fields : List (String × Value)} {step : Step} {name : String}
    (tagged : Holds fields "type" (some (.text name))) (read : readFields fields = .ok step) :
    step.typeName = name := by
  obtain ⟨tag, reader, held, found, read⟩ :=
    StepKind.readFields_eq_ok.mp (readFields_eq_ok.mp read).2
  have kept := (holds_filter (fun name => !StepCommon.record.names.contains name)
    (by decide)).mpr tagged
  rw [kept.lookup] at held
  cases held
  obtain ⟨own, known, same | ⟨number, ⟨⟩⟩⟩ := StepKind.readerOf_eq_ok found
  cases same
  exact StepKind.typeName_of_reader known read

theorem fill_eq_ok {name : String} {arguments : Placeholder.Arguments} {template step : Step} :
    fill name arguments template = .ok step ↔
      readFields (Placeholder.substituteFields arguments (sortFields template.fields)) = .ok step ∧
        step.check = .ok () := by
  rw [fill, mapError_eq_ok, inside_eq_ok, ofJson_eq_ok]
  rfl

theorem holds_filled {arguments : Placeholder.Arguments} {step : Step} {name : String}
    {held : Option Value} (holds : Holds step.fields name held) :
    Holds (Placeholder.substituteFields arguments (sortFields step.fields)) name
      (held.map (Placeholder.substitute arguments)) := by
  have sorted : Holds (sortFields step.fields) name held :=
    (holds_congr fun _ => (sortFields_perm step.fields_distinct).mem_iff).mpr holds
  exact Placeholder.holds_substituteFields sorted

theorem holds_filled_type {arguments : Placeholder.Arguments} (step : Step) :
    Holds (Placeholder.substituteFields arguments (sortFields step.fields)) "type"
      (some (.text step.typeName)) := by
  have filled : Holds (Placeholder.substituteFields arguments (sortFields step.fields)) "type"
      ((some (.text step.typeName)).map (Placeholder.substitute arguments)) :=
    holds_filled step.holds_type
  rwa [Option.map_some, typeName, Placeholder.substitute_of_plain step.kind.typeName_plain]
    at filled

theorem typeName_of_fill {name : String} {arguments : Placeholder.Arguments}
    {template step : Step} (filled : fill name arguments template = .ok step) :
    step.typeName = template.typeName :=
  typeName_of_readFields (holds_filled_type template) (fill_eq_ok.mp filled).1

end Step

end TerminalScript
