import TerminalScript.Capture
import TerminalScript.Step.Basic
import TerminalScript.Timestamp

/-!
Texts that a report shows and that are never empty, whatever they are made of: the message of a
failure, a time, the type of a step and the path of a capture's file.
-/

namespace TerminalScript

theorem Failure.message_ne_empty (failure : Failure) : failure.message ≠ "" := by
  cases failure <;> unfold message <;> simp

theorem timestamp_ne_empty (milliseconds : Int) : timestamp milliseconds ≠ "" := by
  simp only [timestamp, ne_eq, String.append_eq_empty_iff]
  rintro ⟨_, ending⟩
  exact absurd ending (by decide)

theorem StepKind.typeName_ne_empty (kind : StepKind) : kind.typeName ≠ "" := by
  cases kind <;> simp [typeName]

theorem Path.join_ne_empty {name : String} (nonempty : name ≠ "") (directory : String) :
    Path.join directory name ≠ "" := by
  unfold join
  split
  · exact nonempty
  · split <;> simp [nonempty]

theorem CaptureWriter.fileName_ne_empty (writer : CaptureWriter) (sequence label : String)
    (format : CaptureFormat) : writer.fileName sequence label format ≠ "" := by
  simp [fileName]

end TerminalScript
