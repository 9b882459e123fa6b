import TerminalScript.Proofs.Files.Growth
import TerminalScript.Proofs.NonEmpty

/-!
The files of captures. Whatever a capture is called, its file is an entry of the directory it is
written to, since names are sanitized before they are joined.
-/

namespace TerminalScript

theorem sanitizeChar_ne_slash (c : Char) : sanitizeChar c ≠ '/' := by
  intro same
  by_cases kept : (c.isAlphanum || c = '-' || c = '_' || c = '.') = true
  · rw [sanitizeChar, if_pos kept] at same
    subst same
    exact absurd kept (by decide)
  · rw [sanitizeChar, if_neg kept] at same
    exact absurd same (by decide)

theorem toList_sanitize (name : String) :
    (sanitize name).toList = name.toList.map sanitizeChar := by
  simp [sanitize]

theorem slash_notMem_sanitize (name : String) : '/' ∉ (sanitize name).toList := by
  rw [toList_sanitize, List.mem_map]
  rintro ⟨c, _, same⟩
  exact sanitizeChar_ne_slash c same

namespace CaptureWriter

variable (writer : CaptureWriter) (sequence label : String) (format : CaptureFormat)

theorem toList_fileName : (writer.fileName sequence label format).toList =
    (sanitize writer.scenario).toList ++ '-' :: ((sanitize sequence).toList ++
      '-' :: (sanitize label).toList) ++ '.' :: format.extension.toList := by
  simp [fileName]

theorem fileName_plain : Path.Plain (writer.fileName sequence label format) := by
  have chars := writer.toList_fileName sequence label format
  have dashed : '-' ∈ (writer.fileName sequence label format).toList := by simp [chars]
  constructor
  · exact writer.fileName_ne_empty sequence label format
  · have ending : '/' ∉ format.extension.toList := by cases format <;> decide
    simp [chars, slash_notMem_sanitize, ending]
  · intro here
    exact absurd dashed (by rw [here]; decide)
  · intro above
    exact absurd dashed (by rw [above]; decide)

variable {writer sequence label format}

theorem write_eq_ok {directory path : String} {snapshot : Snapshot} {files written : Files}
    (done : writer.write directory sequence label format snapshot files = .ok (path, written)) :
    Path.join directory (writer.fileName sequence label format) = path ∧
      ∃ made, files.createDirectories directory = .ok made ∧
        made.write path (Text.encode (writer.content format snapshot)) = .ok written := by
  obtain ⟨made, created, done⟩ := bind_eq_ok.mp done
  obtain ⟨stored, put, done⟩ := bind_eq_ok.mp done
  obtain ⟨rfl, rfl⟩ := Prod.mk.inj (Except.ok.inj done)
  exact ⟨rfl, made, created, put⟩

theorem readText_written {directory path : String} {snapshot : Snapshot} {files written : Files}
    (done : writer.write directory sequence label format snapshot files = .ok (path, written)) :
    written.readText path = .ok (writer.content format snapshot) := by
  obtain ⟨-, made, -, put⟩ := write_eq_ok done
  exact Files.readText_write put

theorem write_grew {directory path : String} {snapshot : Snapshot} {files written : Files}
    (done : writer.write directory sequence label format snapshot files = .ok (path, written)) :
    ∃ place, written.locate path = .ok place ∧ files.Grew written [place] := by
  obtain ⟨-, made, created, put⟩ := write_eq_ok done
  obtain ⟨place, located, grew⟩ := Files.write_grew put
  exact ⟨place, grew.locate located, (Files.createDirectories_grew created).trans grew⟩

end CaptureWriter

end TerminalScript
