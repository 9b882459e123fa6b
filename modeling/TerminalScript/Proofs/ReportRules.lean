import TerminalScript.Report
import TerminalScript.Proofs.Outcomes

/-!
The rules that a report keeps, as conditions on its fields.
-/

namespace TerminalScript

theorem StepResult.check_eq_ok {result : StepResult} :
    result.check = .ok () ↔
      result.stepType ≠ "" ∧ result.id ≠ some "" ∧ result.error ≠ some "" := by
  simp [StepResult.check]

theorem SequenceResult.check_eq_ok {result : SequenceResult} :
    result.check = .ok () ↔
      result.name ≠ "" ∧ "" ∉ result.artifacts ∧
        ∀ step ∈ result.steps, step.check = .ok () := by
  simp [SequenceResult.check, forM_eq_ok]

theorem RunReport.check_eq_ok {report : RunReport} :
    report.check = .ok () ↔
      report.scenario ≠ "" ∧ (report.startedAt ≠ "" ∧ report.finishedAt ≠ "") ∧
        report.sequences ≠ [] ∧ ∀ sequence ∈ report.sequences, sequence.check = .ok () := by
  simp [RunReport.check, forM_eq_ok]

end TerminalScript
