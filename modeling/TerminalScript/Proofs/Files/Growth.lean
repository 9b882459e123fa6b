import TerminalScript.Proofs.Files
import TerminalScript.Proofs.Files.Names

/-!
How a tree of files grows while captures are written: some places get a file, other places may get a
directory where nothing was, and all else stays. A path that led somewhere leads there afterwards.
-/

namespace TerminalScript.Files

structure Grew (before after : Files) (places : List Location) : Prop where
  current : after.current = before.current
  directories : ∀ place, before.entry? place = some .directory →
    after.entry? place = some .directory
  stored : ∀ place ∈ places, ∃ content, after.entry? place = some (.file content)
  others : ∀ place ∉ places, after.entry? place = before.entry? place ∨
    before.entry? place = none ∧ after.entry? place = some .directory

variable {files before middle after : Files} {location : Location} {path : String}

theorem Grew.refl (files : Files) : Grew files files [] where
  current := rfl
  directories _ held := held
  stored := by simp
  others _ _ := .inl rfl

theorem Grew.trans {first later : List Location} (grew : Grew before middle first)
    (grew' : Grew middle after later) : Grew before after (first ++ later) where
  current := grew'.current.trans grew.current
  directories place held := grew'.directories place (grew.directories place held)
  stored place member := by
    by_cases again : place ∈ later
    · exact grew'.stored place again
    · obtain ⟨content, held⟩ := grew.stored place ((List.mem_append.mp member).resolve_right again)
      rcases grew'.others place again with same | ⟨absent, _⟩
      · exact ⟨content, same.trans held⟩
      · simp [held] at absent
  others place outside := by
    simp only [List.mem_append, not_or] at outside
    rcases grew.others place outside.1 with same | ⟨absent, made⟩
    · rw [← same]
      exact grew'.others place outside.2
    · exact .inr ⟨absent, grew'.directories place made⟩

theorem grew_directory (absent : files.entry? location = none) :
    Grew files (files.put location .directory) [] where
  current := rfl
  directories place held := directory_put .directory (by simp [absent]) held
  stored := by simp
  others place _ := by
    by_cases same : place = location
    · rw [same]
      exact .inr ⟨absent, held_put_self files location .directory⟩
    · exact .inl (held_put_of_ne files .directory same)

theorem grew_file (free : files.entry? location ≠ some .directory) (content : List UInt8) :
    Grew files (files.put location (.file content)) [location] where
  current := rfl
  directories place held := directory_put (.file content) free held
  stored place member := by
    rw [List.mem_singleton.mp member]
    exact ⟨content, held_put_self files location (.file content)⟩
  others place outside :=
    .inl (held_put_of_ne files (.file content) (by simpa using outside))

theorem makeDirectory_grew (made : files.makeDirectory path = .ok after) :
    Grew files after [] := by
  obtain ⟨location, _, made⟩ := bind_eq_ok.mp made
  cases held : files.entry? location with
  | none =>
      rw [held] at made
      exact Except.ok.inj made ▸ grew_directory held
  | some entry =>
      rw [held] at made
      cases made

theorem makeDirectories_grew (files : Files) (path : String) (fuel : Nat) :
    Grew files (files.makeDirectories path fuel).2 [] := by
  induction fuel generalizing path with
  | zero => exact .refl files
  | succ fuel ih =>
      rw [makeDirectories]
      split
      · exact .refl files
      split
      · exact makeDirectory_grew ‹_›
      · split
        · exact .refl files
        rename_i parent _
        have above := ih parent
        split
        · rename_i error made same
          rwa [same] at above
        · rename_i made same
          rw [same] at above
          split
          · exact above.trans (makeDirectory_grew ‹_›)
          · exact above
      · exact .refl files

theorem createDirectories_grew (made : files.createDirectories path = .ok after) :
    Grew files after [] := by
  obtain ⟨_, _, rfl⟩ := map_eq_ok.mp made
  exact makeDirectories_grew files path _

theorem write_grew {content : List UInt8} (done : files.write path content = .ok after) :
    ∃ location, files.locate path = .ok location ∧ Grew files after [location] := by
  obtain ⟨location, located, free, _, rfl⟩ := write_eq_ok done
  exact ⟨location, located, grew_file free content⟩

def reach (files : Files) (path : String) : Except FileError Location :=
  files.walk (if Path.isAbsolute path then [] else files.current) (Path.names path)

variable {places : List Location}

theorem Grew.locate (grew : Grew before after places)
    (located : before.locate path = .ok location) : after.locate path = .ok location :=
  locate_of_directories located grew.current grew.directories

/-- A file that nothing was stored over is read as before. -/
theorem Grew.readText {text : String} (grew : Grew before after places)
    (located : before.locate path = .ok location) (kept : location ∉ places)
    (read : before.readText path = .ok text) : after.readText path = .ok text := by
  obtain ⟨content, read, decoded⟩ := bind_eq_ok.mp read
  refine bind_eq_ok.mpr ⟨content, ?_, decoded⟩
  obtain ⟨unslashed, place, located', held⟩ := read_eq_ok.mp read
  obtain rfl := Except.ok.inj (located'.symm.trans located)
  rcases grew.others place kept with same | ⟨absent, _⟩
  · exact read_of_file (grew.locate located) (same.trans held) unslashed
  · simp [held] at absent

/-- A plain name that is joined to a directory leads into what the directory leads to. -/
theorem locate_join {directory name : String} (plain : Path.Plain name)
    (located : files.locate (Path.join directory name) = .ok location) :
    ∃ base, files.reach directory = .ok base ∧ location = base ++ [name] := by
  obtain ⟨_, _, _, base, walked, settled⟩ := locate_eq_ok.mp located
  rw [Path.names_join directory plain] at walked settled
  rw [List.dropLast_concat, Path.isAbsolute_join directory plain] at walked
  refine ⟨base, walked, ?_⟩
  rw [settle, List.getLast?_concat] at settled
  simp only [plain.notHere, plain.notAbove, if_false] at settled
  split at settled
  · cases settled
  · exact (Except.ok.inj settled).symm

end TerminalScript.Files
