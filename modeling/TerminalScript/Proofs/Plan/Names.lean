import Mathlib.Data.List.Nodup
import Mathlib.Data.String.Basic
import Mathlib.Order.Basic
import TerminalScript.Proofs.Document.Fields
import TerminalScript.Proofs.Plan

/-!
Names that are given more than once. Documents are taken together only if no name is given twice,
and then each name finds what was given with it; otherwise the failure tells every name that is
given twice, each of them once and in order.
-/

namespace TerminalScript

theorem mem_insertName {name other : String} {names : List String} :
    name ∈ insertName other names ↔ name = other ∨ name ∈ names := by
  induction names with
  | nil => simp [insertName]
  | cons first rest ih =>
      rw [insertName]
      split
      · exact List.mem_cons
      · split
        · rename_i same
          simp [same]
        · rw [List.mem_cons, ih, List.mem_cons]
          exact or_left_comm

theorem insertName_ascending {name : String} {names : List String}
    (ascending : names.Pairwise (· < ·)) : (insertName name names).Pairwise (· < ·) := by
  induction names with
  | nil => exact List.pairwise_singleton _ _
  | cons first rest ih =>
      obtain ⟨below, later⟩ := List.pairwise_cons.mp ascending
      rw [insertName]
      split
      · rename_i before
        refine List.pairwise_cons.mpr ⟨fun other member => ?_, ascending⟩
        rcases List.mem_cons.mp member with rfl | inside
        · exact before
        · exact String.lt_trans before (below other inside)
      · rename_i notBefore
        split
        · exact ascending
        · rename_i different
          have after : first < name :=
            lt_of_le_of_ne (String.not_lt.mp notBefore) (Ne.symm different)
          refine List.pairwise_cons.mpr ⟨fun other member => ?_, ih later⟩
          rcases mem_insertName.mp member with rfl | inside
          · exact after
          · exact below other inside

structure NameRoll.Tells (names : List String) (roll : NameRoll) : Prop where
  seen : ∀ name, name ∈ roll.seen ↔ name ∈ names
  repeated : ∀ name, name ∈ roll.repeated ↔ 1 < names.count name
  ascending : roll.seen.Pairwise (· < ·) ∧ roll.repeated.Pairwise (· < ·)

namespace NameRoll

variable {names : List String} {roll : NameRoll} {name : String}

theorem count_entered (names : List String) (name other : String) :
    (names ++ [name]).count other = names.count other + if name = other then 1 else 0 := by
  rw [List.count_append, List.count_singleton]
  simp

theorem Tells.again (tells : roll.Tells names) (known : name ∈ roll.seen) :
    Tells (names ++ [name]) { roll with repeated := insertName name roll.repeated } where
  seen other := by
    rw [tells.seen, List.mem_append, List.mem_singleton]
    constructor
    · exact Or.inl
    · rintro (member | rfl)
      · exact member
      · exact (tells.seen other).mp known
  repeated other := by
    have before : 0 < names.count name := List.count_pos_iff.mpr ((tells.seen name).mp known)
    rw [mem_insertName, tells.repeated, count_entered]
    by_cases same : name = other
    · subst same
      rw [if_pos rfl]
      exact iff_of_true (.inl rfl) (by omega)
    · rw [if_neg same, Nat.add_zero]
      exact or_iff_right (Ne.symm same)
  ascending := ⟨tells.ascending.1, insertName_ascending tells.ascending.2⟩

theorem Tells.fresh (tells : roll.Tells names) (unknown : name ∉ roll.seen) :
    Tells (names ++ [name]) { roll with seen := insertName name roll.seen } where
  seen other := by
    rw [mem_insertName, tells.seen, List.mem_append, List.mem_singleton, or_comm]
  repeated other := by
    have none : names.count name = 0 := by
      rw [List.count_eq_zero, ← tells.seen]
      exact unknown
    rw [tells.repeated, count_entered]
    by_cases same : name = other
    · subst same
      rw [if_pos rfl]
      omega
    · rw [if_neg same, Nat.add_zero]
  ascending := ⟨insertName_ascending tells.ascending.1, tells.ascending.2⟩

theorem Tells.enter (tells : roll.Tells names) (name : String) :
    (roll.enter name).Tells (names ++ [name]) := by
  rw [NameRoll.enter]
  split
  · exact tells.again ‹_›
  · exact tells.fresh ‹_›

theorem Tells.foldl {before : List String} {roll : NameRoll} (tells : roll.Tells before)
    (names : List String) : (names.foldl NameRoll.enter roll).Tells (before ++ names) := by
  induction names generalizing before roll with
  | nil => simpa using tells
  | cons name rest ih =>
      rw [List.foldl_cons, List.append_cons]
      exact ih (tells.enter name)

theorem tells_foldl (names : List String) : (names.foldl NameRoll.enter {}).Tells names := by
  have empty : NameRoll.Tells [] {} := ⟨by simp, by simp, .nil, .nil⟩
  exact empty.foldl names

end NameRoll

theorem ensureUnique_eq_ok {names : List String} {kind : String} :
    ensureUnique names kind = .ok () ↔ names.Nodup := by
  have told := (NameRoll.tells_foldl names).repeated
  rw [List.nodup_iff_count_le_one, ensureUnique]
  cases repeated : (names.foldl NameRoll.enter {}).repeated with
  | nil => simpa [repeated] using told
  | cons first rest =>
      have often : 1 < names.count first := (told first).mp (by simp [repeated])
      refine iff_of_false (by simp) fun once => ?_
      exact Nat.not_lt_of_le (once first) often

/-- A failure tells all the names that stand more than once, and no other. -/
theorem ensureUnique_eq_error {names : List String} {kind : String} {failure : Failure}
    (failed : ensureUnique names kind = .error failure) :
    ∃ repeated, failure = .duplicateName kind repeated ∧ repeated.Pairwise (· < ·) ∧
      ∀ name, name ∈ repeated ↔ 1 < names.count name := by
  have tells := NameRoll.tells_foldl names
  refine ⟨(names.foldl NameRoll.enter {}).repeated, ?_, tells.ascending.2, tells.repeated⟩
  rw [ensureUnique] at failed
  split at failed
  · cases failed
  · exact (Except.error.inj failed).symm

def MacroFile.names (file : MacroFile) : List String :=
  file.macros.map Prod.fst

def DefinedTwice (files : List MacroFile) (name : String) : Prop :=
  ∃ first second, [first, second].Sublist files ∧ name ∈ first.names ∧ name ∈ second.names

theorem definedTwice_cons {file : MacroFile} {files : List MacroFile} {name : String} :
    DefinedTwice (file :: files) name ↔
      (name ∈ file.names ∧ ∃ other ∈ files, name ∈ other.names) ∨ DefinedTwice files name := by
  constructor
  · rintro ⟨first, second, sublist, inFirst, inSecond⟩
    rcases List.cons_sublist_cons'.mp sublist with later | ⟨rfl, later⟩
    · exact .inr ⟨first, second, later, inFirst, inSecond⟩
    · exact .inl ⟨inFirst, second, List.singleton_sublist.mp later, inSecond⟩
  · rintro (⟨inFirst, other, member, inOther⟩ | ⟨first, second, sublist, inFirst, inSecond⟩)
    · exact ⟨file, other, (List.singleton_sublist.mpr member).cons_cons file, inFirst, inOther⟩
    · exact ⟨first, second, sublist.cons file, inFirst, inSecond⟩

theorem one_lt_count_iff_definedTwice {files : List MacroFile}
    (distinct : ∀ file ∈ files, file.names.Nodup) (name : String) :
    1 < (files.flatMap MacroFile.names).count name ↔ DefinedTwice files name := by
  induction files with
  | nil => simp [DefinedTwice]
  | cons file files ih =>
      obtain ⟨own, others⟩ := List.forall_mem_cons.mp distinct
      have here : 0 < file.names.count name ↔ name ∈ file.names := List.count_pos_iff
      have elsewhere : 0 < (files.flatMap MacroFile.names).count name ↔
          ∃ other ∈ files, name ∈ other.names := List.count_pos_iff.trans List.mem_flatMap
      have once : file.names.count name ≤ 1 := List.nodup_iff_count_le_one.mp own name
      rw [definedTwice_cons, ← ih others, ← here, ← elsewhere, List.flatMap_cons,
        List.count_append]
      omega

theorem nodup_names_iff {files : List MacroFile} (distinct : ∀ file ∈ files, file.names.Nodup) :
    (files.flatMap MacroFile.names).Nodup ↔ ∀ name, ¬DefinedTwice files name := by
  rw [List.nodup_iff_count_le_one]
  refine forall_congr' fun name => ?_
  rw [← one_lt_count_iff_definedTwice distinct, Nat.not_lt]

namespace MacroLibrary

theorem lookup_isSome_iff {library : MacroLibrary} {name : String} :
    (library.lookup name).isSome = true ↔ name ∈ library.map Prod.fst := by
  induction library with
  | nil => simp
  | cons entry rest ih =>
      obtain ⟨other, kept⟩ := entry
      rw [List.lookup_cons, List.map_cons, List.mem_cons, ← ih]
      by_cases same : name = other
      · simp [same]
      · simp [same, beq_eq_false_iff_ne.mpr same]

theorem names_insert {name : String} {library : MacroLibrary}
    (fresh : name ∉ library.map Prod.fst) (template : List Step) :
    (insert name template library).map Prod.fst = insertName name (library.map Prod.fst) := by
  induction library with
  | nil => rfl
  | cons entry rest ih =>
      obtain ⟨other, kept⟩ := entry
      rw [List.map_cons, List.mem_cons, not_or] at fresh
      rw [insert, List.map_cons, insertName]
      split
      · rfl
      · rw [if_neg fresh.1, List.map_cons, ih fresh.2]

theorem lookup_insert {name : String} {library : MacroLibrary}
    (fresh : name ∉ library.map Prod.fst) (template : List Step) (other : String) :
    (insert name template library).lookup other =
      (library.lookup other).or ([(name, template)].lookup other) := by
  induction library with
  | nil => rfl
  | cons entry rest ih =>
      obtain ⟨first, kept⟩ := entry
      rw [List.map_cons, List.mem_cons, not_or] at fresh
      rw [insert]
      split
      · by_cases same : other = name
        · subst same
          have apart : (other == first) = false := beq_eq_false_iff_ne.mpr fresh.1
          have absent : rest.lookup other = none := by
            rw [← Option.not_isSome_iff_eq_none, lookup_isSome_iff]
            exact fresh.2
          simp [List.lookup_cons, apart, absent]
        · simp [List.lookup_cons, beq_eq_false_iff_ne.mpr same]
      · by_cases same : other = first
        · simp [List.lookup_cons, same]
        · simp [List.lookup_cons, beq_eq_false_iff_ne.mpr same, ih fresh.2]

namespace Merging

def roll (merging : Merging) : NameRoll where
  seen := merging.library.map Prod.fst
  repeated := merging.repeated

theorem roll_add (merging : Merging) (entry : String × List Step) :
    (merging.add entry).roll = merging.roll.enter entry.1 := by
  rw [add, NameRoll.enter]
  by_cases known : entry.1 ∈ merging.library.map Prod.fst
  · rw [if_pos (lookup_isSome_iff.mpr known), if_pos (show entry.1 ∈ merging.roll.seen from known)]
    rfl
  · rw [if_neg (mt lookup_isSome_iff.mp known),
      if_neg (show entry.1 ∉ merging.roll.seen from known)]
    simp only [roll, names_insert known]

theorem roll_foldl (entries : List (String × List Step)) (merging : Merging) :
    (entries.foldl add merging).roll = (entries.map Prod.fst).foldl NameRoll.enter merging.roll := by
  induction entries generalizing merging with
  | nil => rfl
  | cons entry rest ih => rw [List.foldl_cons, ih, roll_add, List.map_cons, List.foldl_cons]

theorem lookup_add (merging : Merging) (entry : String × List Step) (name : String) :
    (merging.add entry).library.lookup name =
      (merging.library.lookup name).or ([entry].lookup name) := by
  rw [add]
  split
  · rename_i known
    by_cases same : name = entry.1
    · obtain ⟨kept, found⟩ := Option.isSome_iff_exists.mp known
      rw [same, found, Option.some_or]
    · rw [List.lookup_cons, beq_eq_false_iff_ne.mpr same, List.lookup_nil, Option.or_none]
  · rename_i fresh
    exact lookup_insert (mt lookup_isSome_iff.mpr fresh) entry.2 name

/-- The template of a name is the first that has come with it, how often it may come. -/
theorem lookup_foldl (entries : List (String × List Step)) (merging : Merging) (name : String) :
    (entries.foldl add merging).library.lookup name =
      (merging.library.lookup name).or (entries.lookup name) := by
  induction entries generalizing merging with
  | nil => simp
  | cons entry rest ih =>
      have split : (entry :: rest).lookup name =
          ([entry].lookup name).or (rest.lookup name) := by
        rw [← List.lookup_append, List.singleton_append]
      rw [List.foldl_cons, ih, lookup_add, split, Option.or_assoc]

theorem foldl_addFile (files : List MacroFile) (merging : Merging) :
    files.foldl addFile merging = (files.flatMap MacroFile.macros).foldl add merging := by
  rw [List.foldl_flatMap]
  rfl

end Merging

theorem flatMap_names (files : List MacroFile) :
    files.flatMap MacroFile.names = (files.flatMap MacroFile.macros).map Prod.fst :=
  List.map_flatMap.symm

def merged (files : List MacroFile) : Merging :=
  (files.flatMap MacroFile.macros).foldl Merging.add {}

theorem tells_merged (files : List MacroFile) :
    (merged files).roll.Tells (files.flatMap MacroFile.names) := by
  rw [merged, Merging.roll_foldl, flatMap_names]
  exact NameRoll.tells_foldl _

theorem merge_eq (files : List MacroFile) :
    merge files = (ensureUnique (files.flatMap MacroFile.names) "macros").map
      fun _ => (merged files).library := by
  have rolls : (merged files).repeated =
      ((files.flatMap MacroFile.names).foldl NameRoll.enter {}).repeated := by
    rw [flatMap_names]
    exact congrArg NameRoll.repeated (Merging.roll_foldl _ {})
  rw [merge, Merging.foldl_addFile, ensureUnique, ← rolls, ← merged]
  cases (merged files).repeated <;> rfl

theorem merge_eq_ok {files : List MacroFile} {library : MacroLibrary}
    (made : merge files = .ok library) :
    (files.flatMap MacroFile.names).Nodup ∧ (library.map Prod.fst).Pairwise (· < ·) ∧
      ∀ name, library.lookup name = (files.flatMap MacroFile.macros).lookup name := by
  rw [merge_eq] at made
  obtain ⟨_, unique, rfl⟩ := map_eq_ok.mp made
  refine ⟨ensureUnique_eq_ok.mp unique, (tells_merged files).ascending.1, fun name => ?_⟩
  exact Merging.lookup_foldl _ {} name

theorem lookup_merge {files : List MacroFile} {library : MacroLibrary}
    (merged : merge files = .ok library) (name : String) (template : List Step) :
    library.lookup name = some template ↔ ∃ file ∈ files, (name, template) ∈ file.macros := by
  obtain ⟨distinct, _, lookups⟩ := merge_eq_ok merged
  rw [flatMap_names] at distinct
  rw [lookups, Json.lookup_eq_some_iff_mem distinct, List.mem_flatMap]

theorem merge_eq_error {files : List MacroFile} {failure : Failure}
    (failed : merge files = .error failure) :
    ∃ repeated, failure = .duplicateName "macros" repeated ∧ repeated.Pairwise (· < ·) ∧
      ∀ name, name ∈ repeated ↔ 1 < (files.flatMap MacroFile.names).count name := by
  rw [merge_eq, map_eq_error] at failed
  exact ensureUnique_eq_error failed

theorem exists_merge_eq_ok_iff {files : List MacroFile} :
    (∃ library, merge files = .ok library) ↔ (files.flatMap MacroFile.names).Nodup := by
  constructor
  · rintro ⟨library, made⟩
    exact (merge_eq_ok made).1
  · intro distinct
    exact ⟨_, merge_eq files ▸ map_eq_ok.mpr ⟨(), ensureUnique_eq_ok.mpr distinct, rfl⟩⟩

end MacroLibrary

namespace SequenceIndex

theorem lookup_ofList {sequences : List Sequence} {index : SequenceIndex}
    (made : ofList sequences = .ok index) (name : String) (sequence : Sequence) :
    index.lookup name = some sequence ↔ sequence ∈ sequences ∧ sequence.name = name := by
  have distinct := ensureUnique_eq_ok.mp (check_bind_eq_ok.mp made).1
  rw [ofList_eq_ok made, Json.lookup_eq_some_iff_mem (by rwa [List.map_map]), List.mem_map]
  constructor
  · rintro ⟨found, member, same⟩
    cases same
    exact ⟨member, rfl⟩
  · rintro ⟨member, rfl⟩
    exact ⟨sequence, member, rfl⟩

theorem ofList_eq_error {sequences : List Sequence} {failure : Failure}
    (failed : ofList sequences = .error failure) :
    ∃ repeated, failure = .duplicateName "sequences" repeated ∧ repeated.Pairwise (· < ·) ∧
      ∀ name, name ∈ repeated ↔ 1 < (sequences.map Sequence.name).count name := by
  rcases bind_eq_error.mp failed with refused | ⟨_, _, impossible⟩
  · exact ensureUnique_eq_error refused
  · cases impossible

theorem exists_ofList_eq_ok_iff {sequences : List Sequence} :
    (∃ index, ofList sequences = .ok index) ↔ (sequences.map Sequence.name).Nodup := by
  constructor
  · rintro ⟨index, made⟩
    exact ensureUnique_eq_ok.mp (check_bind_eq_ok.mp made).1
  · exact fun distinct => ⟨_, check_bind_eq_ok.mpr ⟨ensureUnique_eq_ok.mpr distinct, rfl⟩⟩

end SequenceIndex

/-- Files of macros, and sequences, are taken together if no name is given twice, each name then
finds its own template or sequence, and otherwise the names that are given twice are told. -/
theorem names_unique_or_told {files : List MacroFile} (distinct : ∀ file ∈ files, file.names.Nodup)
    (sequences : List Sequence) :
    ((∃ library, MacroLibrary.merge files = .ok library) ↔ ∀ name, ¬DefinedTwice files name) ∧
    (∀ library, MacroLibrary.merge files = .ok library →
      (library.map Prod.fst).Pairwise (· < ·) ∧ ∀ name template,
        library.lookup name = some template ↔ ∃ file ∈ files, (name, template) ∈ file.macros) ∧
    ((∃ name, DefinedTwice files name) → ∃ repeated,
      MacroLibrary.merge files = .error (.duplicateName "macros" repeated) ∧
      repeated.Pairwise (· < ·) ∧ ∀ name, name ∈ repeated ↔ DefinedTwice files name) ∧
    ((∃ index, SequenceIndex.ofList sequences = .ok index) ↔
      (sequences.map Sequence.name).Nodup) ∧
    (∀ index, SequenceIndex.ofList sequences = .ok index → ∀ name sequence,
      index.lookup name = some sequence ↔ sequence ∈ sequences ∧ sequence.name = name) ∧
    (¬(sequences.map Sequence.name).Nodup → ∃ repeated,
      SequenceIndex.ofList sequences = .error (.duplicateName "sequences" repeated) ∧
      repeated.Pairwise (· < ·) ∧
      ∀ name, name ∈ repeated ↔ 1 < (sequences.map Sequence.name).count name) := by
  have merges := MacroLibrary.exists_merge_eq_ok_iff.trans (nodup_names_iff distinct)
  have indexes : (∃ index, SequenceIndex.ofList sequences = .ok index) ↔ _ :=
    SequenceIndex.exists_ofList_eq_ok_iff
  refine ⟨merges, fun library merged => ?_, fun ⟨given, twice⟩ => ?_, indexes,
    fun index made => SequenceIndex.lookup_ofList made, fun unfit => ?_⟩
  · exact ⟨(MacroLibrary.merge_eq_ok merged).2.1, MacroLibrary.lookup_merge merged⟩
  · rcases merged : MacroLibrary.merge files with failure | library
    · obtain ⟨repeated, rfl, ascending, told⟩ := MacroLibrary.merge_eq_error merged
      exact ⟨repeated, rfl, ascending, fun name =>
        (told name).trans (one_lt_count_iff_definedTwice distinct name)⟩
    · exact absurd twice (merges.mp ⟨library, merged⟩ given)
  · rcases made : SequenceIndex.ofList sequences with failure | index
    · obtain ⟨repeated, rfl, ascending, told⟩ := SequenceIndex.ofList_eq_error made
      exact ⟨repeated, rfl, ascending, told⟩
    · exact absurd (indexes.mp ⟨index, made⟩) unfit

/-- Three files share one name and two of them another, and three sequences share a name; two files
of other names are put together in order. -/
theorem names_unique_or_told_of_greetings :
    let files : List MacroFile :=
      [{ macros := [("leave", [.line "exit"]), ("open", [.line "hello"])] },
        { macros := [("open", [])] },
        { macros := [("ask", []), ("leave", []), ("open", [.call "ask" []])] }]
    let apart : List MacroFile :=
      [{ macros := [("leave", [.line "exit"])] }, { macros := [("ask", [])] }]
    let library : MacroLibrary := [("ask", []), ("leave", [.line "exit"])]
    let sequences : List Sequence :=
      [{ name := "main", steps := [] }, { name := "end", steps := [] },
        { name := "main", steps := [.line "hello"] }, { name := "main", steps := [] }]
    (∀ file ∈ files, file.names.Nodup) ∧ DefinedTwice files "open" ∧
    (∃ repeated, MacroLibrary.merge files = .error (.duplicateName "macros" repeated) ∧
      repeated.Pairwise (· < ·) ∧ ∀ name, name ∈ repeated ↔ DefinedTwice files name) ∧
    MacroLibrary.merge files = .error (.duplicateName "macros" ["leave", "open"]) ∧
    SequenceIndex.ofList sequences = .error (.duplicateName "sequences" ["main"]) ∧
    (∀ file ∈ apart, file.names.Nodup) ∧ MacroLibrary.merge apart = .ok library ∧
    ∀ name template, library.lookup name = some template ↔
      ∃ file ∈ apart, (name, template) ∈ file.macros := by
  intro files apart library sequences
  have distinct : ∀ file ∈ files, file.names.Nodup := by decide
  have distinct' : ∀ file ∈ apart, file.names.Nodup := by decide
  have twice : DefinedTwice files "open" :=
    ⟨_, _, .cons_cons _ (.cons_cons _ (.cons _ .slnil)), by decide, by decide⟩
  have merged : MacroLibrary.merge apart = .ok library := rfl
  exact ⟨distinct, twice, (names_unique_or_told distinct sequences).2.2.1 ⟨_, twice⟩, rfl, rfl,
    distinct', merged, ((names_unique_or_told distinct' sequences).2.1 _ merged).2⟩

end TerminalScript
