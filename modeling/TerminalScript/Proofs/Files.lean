import TerminalScript.Files.Basic
import TerminalScript.Proofs.Outcomes
import TerminalScript.Proofs.Text.Utf8

/-!
What is written to a file is read back from it: a file that is put into the tree is in no way to any
place, and a way through the directories of a tree stays open where they stay.
-/

namespace TerminalScript.Files

variable {files written : Files} {location : Location} {path : String}

theorem held_put_self (files : Files) (location : Location) (entry : FileEntry) :
    entry? (files.put location entry) location = some entry := by
  have absent : (files.entries.filter (·.1 ≠ location)).lookup location = none := by
    rw [List.lookup_eq_none_iff]
    rintro ⟨place, held⟩ member
    have apart : place ≠ location := of_decide_eq_true (List.mem_filter.mp member).2
    exact bne_iff_ne.mpr apart.symm
  unfold entry? put
  rw [List.lookup_append, absent]
  simp

theorem lookup_filter_ne {entries : List (Location × FileEntry)} {other : Location}
    (apart : other ≠ location) :
    (entries.filter (·.1 ≠ location)).lookup other = entries.lookup other := by
  induction entries with
  | nil => rfl
  | cons first rest ih =>
      obtain ⟨place, held⟩ := first
      by_cases same : place = location
      · rw [List.filter_cons_of_neg (by simpa using same), List.lookup_cons, same,
          beq_eq_false_iff_ne.mpr apart]
        exact ih
      · rw [List.filter_cons_of_pos (by simpa using same), List.lookup_cons, List.lookup_cons, ih]

theorem held_put_of_ne (files : Files) {other : Location} (entry : FileEntry)
    (apart : other ≠ location) : entry? (files.put location entry) other = files.entry? other := by
  have last : [(location, entry)].lookup other = none := by
    rw [List.lookup_cons, beq_eq_false_iff_ne.mpr apart]
    rfl
  unfold entry? put
  rw [List.lookup_append, last, Option.or_none]
  exact lookup_filter_ne apart

theorem directory_put (entry : FileEntry) (free : files.entry? location ≠ some .directory)
    {place : Location} (held : files.entry? place = some .directory) :
    entry? (files.put location entry) place = some .directory := by
  have apart : place ≠ location := by
    rintro rfl
    exact free held
  rw [held_put_of_ne files entry apart, held]

/-- A way goes through directories only, so it stays where they stay. -/
theorem walk_of_directories {later : Files}
    (kept : ∀ place, files.entry? place = some .directory → later.entry? place = some .directory)
    {start place : Location} {names : List String} (walked : files.walk start names = .ok place) :
    later.walk start names = .ok place := by
  induction names generalizing start with
  | nil => exact walked
  | cons name rest ih =>
      rw [walk] at walked ⊢
      split at walked
      · rename_i here
        rw [if_pos here]
        exact ih walked
      rename_i away
      rw [if_neg away]
      split at walked
      · rename_i up
        rw [if_pos up]
        exact ih walked
      rename_i down
      rw [if_neg down]
      split at walked
      · cases walked
      rename_i short
      rw [if_neg short]
      cases found : files.entry? (start ++ [name]) with
      | none => simp [found] at walked
      | some held =>
          cases held with
          | file content => simp [found] at walked
          | directory =>
              simp only [found] at walked
              simp only [kept _ found]
              exact ih walked

def settle (names : List String) (directory : Location) : Except FileError Location :=
  match names.getLast? with
  | none => pure directory
  | some name =>
      if name = "." then pure directory
      else if name = ".." then pure directory.dropLast
      else if name.utf8ByteSize > nameLimit then throw .nameTooLong
      else pure (directory ++ [name])

theorem locate_eq_ok {place : Location} :
    files.locate path = .ok place ↔
      path ≠ "" ∧ Char.ofNat 0 ∉ path.toList ∧ path.utf8ByteSize ≤ pathLimit ∧
        ∃ directory,
          files.walk (if Path.isAbsolute path then [] else files.current)
              (Path.names path).dropLast = .ok directory ∧
            settle (Path.names path) directory = .ok place := by
  rw [← bind_eq_ok]
  by_cases named : path = ""
  · simp [locate, named, throw, throwThe, MonadExceptOf.throw, bind, Except.bind]
  by_cases nul : Char.ofNat 0 ∈ path.toList
  · simp [locate, named, nul, throw, throwThe, MonadExceptOf.throw, bind, Except.bind]
  by_cases long : path.utf8ByteSize ≤ pathLimit
  · have fits : ¬path.utf8ByteSize > pathLimit := Nat.not_lt.mpr long
    simp [locate, named, nul, long, fits]
    rfl
  · have exceeds : path.utf8ByteSize > pathLimit := Nat.not_le.mp long
    simp [locate, named, nul, long, exceeds, throw, throwThe, MonadExceptOf.throw, bind,
      Except.bind]

theorem locate_of_directories {later : Files} {place : Location}
    (located : files.locate path = .ok place) (current : later.current = files.current)
    (kept : ∀ place, files.entry? place = some .directory →
      later.entry? place = some .directory) : later.locate path = .ok place := by
  obtain ⟨named, plain, short, directory, walked, settled⟩ := locate_eq_ok.mp located
  have led := walk_of_directories kept walked
  rw [← current] at led
  exact locate_eq_ok.mpr ⟨named, plain, short, directory, led, settled⟩

theorem write_eq_ok {content : List UInt8} (done : files.write path content = .ok written) :
    ∃ location, files.locate path = .ok location ∧ files.entry? location ≠ some .directory ∧
      Path.endsWithSlash path = false ∧ files.put location (.file content) = written := by
  obtain ⟨location, located, done⟩ := bind_eq_ok.mp done
  refine ⟨location, located, ?_⟩
  cases held : files.entry? location with
  | none =>
      simp only [held] at done
      cases slashed : Path.endsWithSlash path with
      | true => simp [slashed, throw, throwThe, MonadExceptOf.throw, bind, Except.bind] at done
      | false =>
          rw [slashed] at done
          exact ⟨by simp, rfl, Except.ok.inj done⟩
  | some entry =>
      cases entry with
      | directory =>
          simp only [held] at done
          cases done
      | file content =>
          simp only [held] at done
          cases slashed : Path.endsWithSlash path with
          | true => simp [slashed, throw, throwThe, MonadExceptOf.throw, bind, Except.bind] at done
          | false =>
              rw [slashed] at done
              exact ⟨by simp, rfl, Except.ok.inj done⟩

theorem read_of_file {content : List UInt8} (located : files.locate path = .ok location)
    (held : files.entry? location = some (.file content))
    (unslashed : Path.endsWithSlash path = false) : files.read path = .ok content := by
  refine bind_eq_ok.mpr ⟨location, located, ?_⟩
  rw [held]
  simp [unslashed, pure, Except.pure]

theorem read_eq_ok {content : List UInt8} :
    files.read path = .ok content ↔
      Path.endsWithSlash path = false ∧
        ∃ location, files.locate path = .ok location ∧
          files.entry? location = some (.file content) := by
  constructor
  · intro done
    obtain ⟨location, located, done⟩ := bind_eq_ok.mp done
    cases held : files.entry? location with
    | none =>
        rw [held] at done
        cases done
    | some entry =>
        rw [held] at done
        cases entry with
        | directory => cases done
        | file stored =>
            cases slashed : Path.endsWithSlash path with
            | true => simp [slashed, throw, throwThe, MonadExceptOf.throw, bind, Except.bind] at done
            | false =>
                rw [slashed] at done
                exact ⟨rfl, location, located, Except.ok.inj done ▸ held⟩
  · rintro ⟨unslashed, location, located, held⟩
    exact read_of_file located held unslashed

theorem readText_write {text : String} (done : files.write path (Text.encode text) = .ok written) :
    written.readText path = .ok text := by
  obtain ⟨location, located, free, unslashed, rfl⟩ := write_eq_ok done
  refine bind_eq_ok.mpr ⟨Text.encode text, ?_, ?_⟩
  · have led : locate (files.put location (.file (Text.encode text))) path = .ok location :=
      locate_of_directories located rfl fun _ => directory_put _ free
    exact read_of_file led (held_put_self files location _) unslashed
  · rw [Text.decode?_encode]
    rfl

end TerminalScript.Files
