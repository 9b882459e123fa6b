import TerminalScript.Files.Path

/-!
The names of a path. A plain name that is joined to a directory is one more name after those of the
directory, so it leads to an entry of that directory and to nothing else.
-/

namespace TerminalScript.Path

structure Plain (name : String) : Prop where
  nonempty : name ≠ ""
  unseparated : '/' ∉ name.toList
  notHere : name ≠ "."
  notAbove : name ≠ ".."

theorem cut_append (separator : Char) (part front back : List Char) :
    cut separator part (front ++ separator :: back) =
      cut separator part front ++ cut separator [] back := by
  induction front generalizing part with
  | nil => simp [cut]
  | cons c front ih =>
      rw [List.cons_append, cut, cut, ih, ih]
      split <;> simp

theorem cut_of_notMem {separator : Char} (part : List Char) {chars : List Char}
    (absent : separator ∉ chars) : cut separator part chars = [part.reverse ++ chars] := by
  induction chars generalizing part with
  | nil => simp [cut]
  | cons c chars ih =>
      simp only [List.mem_cons, not_or] at absent
      rw [cut, if_neg (Ne.symm absent.1), ih _ absent.2]
      simp

variable {name : String}

theorem names_of_plain (plain : Plain name) : names name = [name] := by
  have filled : name.toList ≠ [] := by simpa using plain.nonempty
  rw [names, cut_of_notMem [] plain.unseparated]
  simp [filled]

theorem names_append (front : String) (plain : Plain name) :
    names (front ++ "/" ++ name) = names front ++ [name] := by
  have own := names_of_plain plain
  have chars : (front ++ "/" ++ name).toList = front.toList ++ '/' :: name.toList := by simp
  rw [names] at own
  rw [names, chars, cut_append, List.filter_append, List.map_append, own, names]

theorem names_separated (front : String) : names (front ++ "/") = names front := by
  have chars : (front ++ "/").toList = front.toList ++ '/' :: [] := by simp
  rw [names, chars, cut_append, List.filter_append, List.map_append, names]
  simp [cut]

theorem isAbsolute_of_plain (plain : Plain name) : isAbsolute name = false := by
  rw [isAbsolute, decide_eq_false_iff_not]
  intro first
  exact plain.unseparated (List.mem_of_head? first)

/-- A directory that ends with a separator is written without it. -/
theorem exists_front {directory : String} (slashed : endsWithSlash directory = true) :
    ∃ front : String, directory = front ++ "/" := by
  rw [endsWithSlash, decide_eq_true_eq] at slashed
  obtain ⟨front, same⟩ := List.getLast?_eq_some_iff.mp slashed
  exact ⟨String.ofList front, String.toList_injective (by simp [same])⟩

theorem names_join (directory : String) (plain : Plain name) :
    names (join directory name) = names directory ++ [name] := by
  rw [join, if_neg (by simp [isAbsolute_of_plain plain])]
  split
  · rename_i ended
    rcases ended with rfl | slashed
    · rw [String.empty_append, names_of_plain plain]
      rfl
    · obtain ⟨front, rfl⟩ := exists_front slashed
      rw [names_append front plain, names_separated]
  · exact names_append directory plain

theorem isAbsolute_join (directory : String) (plain : Plain name) :
    isAbsolute (join directory name) = isAbsolute directory := by
  rw [join, if_neg (by simp [isAbsolute_of_plain plain])]
  by_cases empty : directory = ""
  · rw [if_pos (.inl empty), empty, String.empty_append, isAbsolute_of_plain plain]
    rfl
  · have filled : directory.toList ≠ [] := by simpa using empty
    obtain ⟨first, rest, same⟩ := List.exists_cons_of_ne_nil filled
    split <;> simp [isAbsolute, same]

/-- Names of entries of one directory are told apart by their paths. -/
theorem join_injective (directory : String) {other : String} (plain : Plain name)
    (plain' : Plain other) (same : join directory name = join directory other) : name = other := by
  have both := names_join directory plain
  rw [same, names_join directory plain'] at both
  exact (List.singleton_inj.mp (List.append_cancel_left both)).symm

end TerminalScript.Path
