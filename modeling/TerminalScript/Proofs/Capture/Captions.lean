import Mathlib.Data.List.Basic
import TerminalScript.Proofs.Capture.Files

/-!
When two captures go to one file. The name of a capture's file keeps of the names in it only what is
left when they are sanitized and joined with a separator that they may contain, so different
captures can have one path, and then the later one is written over the earlier. All that share a
path are told here; a capture with another path leaves the file of the first as it is.
-/

namespace TerminalScript

/-- Names that are written alike: they differ only in characters that are replaced. -/
def Alike (name other : String) : Prop :=
  List.Forall₂ (fun c d => c = d ∨ sanitizeChar c = '_' ∧ sanitizeChar d = '_')
    name.toList other.toList

theorem sanitizeChar_of_kept {c : Char} (kept : sanitizeChar c ≠ '_') : sanitizeChar c = c := by
  unfold sanitizeChar at kept ⊢
  split
  · rfl
  · rename_i replaced
    exact absurd (if_neg replaced) kept

theorem sanitizeChar_eq {c d : Char} :
    sanitizeChar c = sanitizeChar d ↔ c = d ∨ sanitizeChar c = '_' ∧ sanitizeChar d = '_' := by
  constructor
  · intro same
    by_cases replaced : sanitizeChar c = '_'
    · exact .inr ⟨replaced, same ▸ replaced⟩
    · left
      rw [← sanitizeChar_of_kept replaced, same, sanitizeChar_of_kept (same ▸ replaced)]
  · rintro (rfl | ⟨replaced, replaced'⟩)
    · rfl
    · rw [replaced, replaced']

theorem sanitize_eq {name other : String} : sanitize name = sanitize other ↔ Alike name other := by
  rw [← String.toList_inj, toList_sanitize, toList_sanitize, ← List.forall₂_eq_eq_eq,
    List.forall₂_map_left_iff, List.forall₂_map_right_iff]
  simp only [sanitizeChar_eq]
  rfl

theorem sanitizeChar_eq_dash {c : Char} : sanitizeChar c = '-' ↔ c = '-' := by
  constructor
  · intro same
    have kept : sanitizeChar c ≠ '_' := by
      rw [same]
      decide
    rw [← same, sanitizeChar_of_kept kept]
  · rintro rfl
    rfl

theorem count_dash_sanitize (name : String) :
    (sanitize name).toList.count '-' = name.toList.count '-' := by
  rw [toList_sanitize, List.count_eq_countP, List.count_eq_countP, List.countP_map]
  refine List.countP_congr fun c _ => ?_
  simp [sanitizeChar_eq_dash]

/-- Where as many separators come before it, a separator is at the same place. -/
theorem split_unique {separator : Char} {front back front' back' : List Char}
    (same : front ++ separator :: back = front' ++ separator :: back')
    (counts : front.count separator = front'.count separator) : front = front' ∧ back = back' := by
  induction front generalizing front' with
  | nil =>
      cases front' with
      | nil => exact ⟨rfl, (List.cons.inj same).2⟩
      | cons c front' =>
          obtain ⟨rfl, _⟩ := List.cons.inj same
          simp at counts
  | cons c front ih =>
      cases front' with
      | nil =>
          obtain ⟨rfl, _⟩ := List.cons.inj same
          simp at counts
      | cons d front' =>
          obtain ⟨rfl, rest⟩ := List.cons.inj same
          obtain ⟨rfl, rfl⟩ := ih rest (by simpa [List.count_cons] using counts)
          exact ⟨rfl, rfl⟩

structure Caption where
  sequence : String
  label : String
  format : CaptureFormat
  deriving Inhabited, DecidableEq

namespace Caption

def stem (caption : Caption) : String :=
  sanitize caption.sequence ++ "-" ++ sanitize caption.label

theorem toList_stem (caption : Caption) : caption.stem.toList =
    (sanitize caption.sequence).toList ++ '-' :: (sanitize caption.label).toList := by
  simp [stem]

theorem stem_eq_of_alike {first second : Caption} (sequence : Alike first.sequence second.sequence)
    (label : Alike first.label second.label) : first.stem = second.stem := by
  rw [stem, stem, sanitize_eq.mpr sequence, sanitize_eq.mpr label]

/-- Where the sequences have as many separators, stems tell the names in them. -/
theorem stem_eq_iff {first second : Caption}
    (counts : first.sequence.toList.count '-' = second.sequence.toList.count '-') :
    first.stem = second.stem ↔
      Alike first.sequence second.sequence ∧ Alike first.label second.label := by
  refine ⟨fun same => ?_, fun alike => stem_eq_of_alike alike.1 alike.2⟩
  have chars := congrArg String.toList same
  rw [toList_stem, toList_stem] at chars
  rw [← count_dash_sanitize, ← count_dash_sanitize second.sequence] at counts
  obtain ⟨sequence, label⟩ := split_unique chars counts
  exact ⟨sanitize_eq.mp (String.toList_injective sequence),
    sanitize_eq.mp (String.toList_injective label)⟩

end Caption

namespace CaptureWriter

variable (writer : CaptureWriter) (directory : String)

def pathOf (caption : Caption) : String :=
  Path.join directory (writer.fileName caption.sequence caption.label caption.format)

theorem fileName_eq_iff {first second : Caption} :
    writer.fileName first.sequence first.label first.format =
        writer.fileName second.sequence second.label second.format ↔
      first.format = second.format ∧ first.stem = second.stem := by
  have chars (caption : Caption) :
      (writer.fileName caption.sequence caption.label caption.format).toList =
        (sanitize writer.scenario).toList ++ '-' :: caption.stem.toList ++
          '.' :: caption.format.extension.toList := by
    rw [toList_fileName, Caption.toList_stem]
  constructor
  · intro same
    have both := congrArg String.toList same
    rw [chars, chars] at both
    -- The last character of the extension tells the format.
    have ending := congrArg List.getLast? both
    rw [List.getLast?_append_cons, List.getLast?_append_cons] at ending
    have format : first.format = second.format := by
      cases one : first.format <;> cases two : second.format <;>
        simp [one, two, CaptureFormat.extension] at ending ⊢
    rw [format] at both
    obtain ⟨fronts, _⟩ := List.append_inj' both rfl
    have stems := (List.cons.inj (List.append_cancel_left fronts)).2
    exact ⟨format, String.toList_injective stems⟩
  · rintro ⟨format, stem⟩
    apply String.toList_injective
    rw [chars, chars, format, stem]

theorem pathOf_eq_iff {first second : Caption} :
    writer.pathOf directory first = writer.pathOf directory second ↔
      first.format = second.format ∧ first.stem = second.stem := by
  rw [← writer.fileName_eq_iff]
  constructor
  · exact Path.join_injective directory (writer.fileName_plain _ _ _) (writer.fileName_plain _ _ _)
  · intro same
    rw [pathOf, same, pathOf]

/-- A capture with another path leaves the files of the others as they are. -/
theorem readText_of_write {first second : Caption} {snapshot : Snapshot} {files later : Files}
    {path text : String} (apart : writer.pathOf directory first ≠ writer.pathOf directory second)
    (done : writer.write directory second.sequence second.label second.format snapshot files =
      .ok (path, later))
    (read : files.readText (writer.pathOf directory first) = .ok text) :
    later.readText (writer.pathOf directory first) = .ok text := by
  obtain ⟨own, -⟩ := write_eq_ok done
  obtain ⟨place, located, grew⟩ := write_grew done
  obtain ⟨content, stored, -⟩ := bind_eq_ok.mp read
  obtain ⟨-, kept, located', -⟩ := Files.read_eq_ok.mp stored
  refine grew.readText located' ?_ read
  -- Two names in one directory lead to two places in it.
  obtain ⟨base, reached, inside⟩ := Files.locate_join (writer.fileName_plain _ _ _)
    (grew.locate located')
  obtain ⟨base', reached', inside'⟩ := Files.locate_join (writer.fileName_plain _ _ _)
    (own.symm ▸ located)
  obtain rfl := Except.ok.inj (reached.symm.trans reached')
  rw [List.mem_singleton, inside, inside']
  intro same
  exact apart (congrArg (Path.join directory) (List.singleton_inj.mp (List.append_cancel_left same)))

/-- Captures share a path exactly if they have one format and their names leave the same stem. Where
the sequences have as many separators, that is only if the names differ in nothing but characters
that are replaced. A capture is written over those that share its path, and over no other. -/
theorem captures_apart (first second : Caption) :
    (writer.pathOf directory first = writer.pathOf directory second ↔
      first.format = second.format ∧ first.stem = second.stem) ∧
    (first.sequence.toList.count '-' = second.sequence.toList.count '-' →
      (writer.pathOf directory first = writer.pathOf directory second ↔
        first.format = second.format ∧ Alike first.sequence second.sequence ∧
          Alike first.label second.label)) ∧
    ∀ (snapshot : Snapshot) (files later : Files) (path text : String),
      writer.write directory second.sequence second.label second.format snapshot files =
        .ok (path, later) →
      path = writer.pathOf directory second ∧
      later.readText path = .ok (writer.content second.format snapshot) ∧
      (writer.pathOf directory first ≠ writer.pathOf directory second →
        files.readText (writer.pathOf directory first) = .ok text →
        later.readText (writer.pathOf directory first) = .ok text) := by
  refine ⟨writer.pathOf_eq_iff directory, ?_, ?_⟩
  · intro counts
    rw [writer.pathOf_eq_iff directory, Caption.stem_eq_iff counts]
  · intro snapshot files later path text done
    exact ⟨(write_eq_ok done).1.symm, readText_written done,
      fun apart => writer.readText_of_write directory apart done⟩

def unredacted : CaptureWriter := ⟨"demo", none, none⟩

theorem captures_apart_of_labels :
    ∃ before later,
      unredacted.write "caps" "login" "first" .text { screen := some "one" } .standard =
        .ok ("caps/demo-login-first.txt", before) ∧
      unredacted.write "caps" "login" "second" .text { screen := some "two" } before =
        .ok ("caps/demo-login-second.txt", later) ∧
      later.readText "caps/demo-login-first.txt" = .ok "one" := by
  let first : Caption := ⟨"login", "first", .text⟩
  let second : Caption := ⟨"login", "second", .text⟩
  have wrote : ((unredacted.write "caps" "login" "first" .text { screen := some "one" }
      .standard).bind fun (path, before) =>
        (unredacted.write "caps" "login" "second" .text { screen := some "two" } before).map
          fun (path', _) => (path, path')) =
      .ok ("caps/demo-login-first.txt", "caps/demo-login-second.txt") := by decide +kernel
  obtain ⟨⟨path, before⟩, one, wrote⟩ := bind_eq_ok.mp wrote
  obtain ⟨⟨path', later⟩, two, named⟩ := map_eq_ok.mp wrote
  obtain ⟨rfl, rfl⟩ := Prod.mk.inj named
  obtain ⟨-, alike, writes⟩ := unredacted.captures_apart "caps" first second
  have apart : unredacted.pathOf "caps" first ≠ unredacted.pathOf "caps" second := by
    rw [Ne, alike rfl]
    rintro ⟨-, -, label⟩
    exact absurd label.length_eq (by decide)
  have content : unredacted.content .text { screen := some "one" } = "one" := by decide +kernel
  have own : unredacted.pathOf "caps" first = "caps/demo-login-first.txt" := by decide +kernel
  have read := readText_written one
  rw [content, ← own] at read
  have kept := (writes _ _ _ _ _ two).2.2 apart read
  rw [own] at kept
  exact ⟨before, later, one, two, kept⟩

/-- The file of a capture is lost to another whose label differs in a character that is replaced, or
whose names have the separator at another place. -/
theorem captures_collide :
    (∃ before later,
      unredacted.write "caps" "login" "a b" .text { screen := some "one" } .standard =
        .ok ("caps/demo-login-a_b.txt", before) ∧
      unredacted.write "caps" "login" "a_b" .text { screen := some "two" } before =
        .ok ("caps/demo-login-a_b.txt", later) ∧
      later.readText "caps/demo-login-a_b.txt" = .ok "two") ∧
    unredacted.pathOf "caps" ⟨"sign", "in-now", .text⟩ =
      unredacted.pathOf "caps" ⟨"sign-in", "now", .text⟩ := by
  have wrote : ((unredacted.write "caps" "login" "a b" .text { screen := some "one" }
      .standard).bind fun (path, before) =>
        (unredacted.write "caps" "login" "a_b" .text { screen := some "two" } before).map
          fun (path', _) => (path, path')) =
      .ok ("caps/demo-login-a_b.txt", "caps/demo-login-a_b.txt") := by decide +kernel
  obtain ⟨⟨path, before⟩, one, wrote⟩ := bind_eq_ok.mp wrote
  obtain ⟨⟨path', later⟩, two, named⟩ := map_eq_ok.mp wrote
  obtain ⟨rfl, rfl⟩ := Prod.mk.inj named
  have content : unredacted.content .text { screen := some "two" } = "two" := by decide +kernel
  exact ⟨⟨before, later, one, two, content ▸ readText_written two⟩, by decide +kernel⟩

end CaptureWriter

end TerminalScript
