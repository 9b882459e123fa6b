import Mathlib
import TerminalScript.Proofs.Plan.Names

/-!
The order in which documents are given. Names that are repeated are told in their own order, macros
are kept in the order of their names and sequences are found by name, so a plan, or the failure in
its place, is the same for every arrangement of the sequences and the macro files.
-/

namespace TerminalScript

theorem ensureUnique_congr {names others : List String} (rearranged : names.Perm others)
    (kind : String) : ensureUnique names kind = ensureUnique others kind := by
  have tells := NameRoll.tells_foldl names
  have told := NameRoll.tells_foldl others
  have same : (names.foldl NameRoll.enter {}).repeated =
      (others.foldl NameRoll.enter {}).repeated := by
    refine tells.ascending.2.eq_of_mem_iff told.ascending.2 fun name => ?_
    rw [tells.repeated, told.repeated, rearranged.count_eq]
  rw [ensureUnique, same, ensureUnique]

theorem lookup_congr {α : Type} {entries others : List (String × α)}
    (distinct : (entries.map Prod.fst).Nodup) (rearranged : entries.Perm others) (name : String) :
    entries.lookup name = others.lookup name := by
  have also : (others.map Prod.fst).Nodup := (rearranged.map Prod.fst).nodup_iff.mp distinct
  apply Option.ext
  intro value
  rw [Json.lookup_eq_some_iff_mem distinct, Json.lookup_eq_some_iff_mem also, rearranged.mem_iff]

namespace MacroLibrary

/-- A library in order is known by what it has for each name. -/
theorem eq_of_lookup {library other : MacroLibrary}
    (ascending : (library.map Prod.fst).Pairwise (· < ·))
    (ascending' : (other.map Prod.fst).Pairwise (· < ·))
    (same : ∀ name, library.lookup name = other.lookup name) : library = other := by
  refine (List.pairwise_map.mp ascending).eq_of_mem_iff (List.pairwise_map.mp ascending') ?_
  rintro ⟨name, template⟩
  rw [← Json.lookup_eq_some_iff_mem (ascending.imp ne_of_lt), same,
    Json.lookup_eq_some_iff_mem (ascending'.imp ne_of_lt)]

theorem merge_congr {files others : List MacroFile} (rearranged : files.Perm others) :
    merge files = merge others := by
  have unique := ensureUnique_congr (rearranged.flatMap_right MacroFile.names) "macros"
  rcases made : merge files with failure | library
  · rw [merge_eq, map_eq_error, unique] at made
    rw [merge_eq, map_eq_error.mpr made]
  · have distinct := (merge_eq_ok made).1
    rw [(rearranged.flatMap_right MacroFile.names).nodup_iff] at distinct
    obtain ⟨other, made'⟩ := exists_merge_eq_ok_iff.mpr distinct
    rw [made']
    refine congrArg Except.ok ?_
    obtain ⟨distinct, ascending, lookups⟩ := merge_eq_ok made
    obtain ⟨_, ascending', lookups'⟩ := merge_eq_ok made'
    refine eq_of_lookup ascending ascending' fun name => ?_
    rw [flatMap_names] at distinct
    rw [lookups, lookups']
    exact lookup_congr distinct (rearranged.flatMap_right MacroFile.macros) name

end MacroLibrary

theorem SequenceIndex.ofList_congr {sequences others : List Sequence}
    (rearranged : sequences.Perm others) :
    (∃ failure, ofList sequences = .error failure ∧ ofList others = .error failure) ∨
      ∃ index index', ofList sequences = .ok index ∧ ofList others = .ok index' ∧
        ∀ name, index.lookup name = index'.lookup name := by
  simp only [ofList]
  rw [ensureUnique_congr (rearranged.map Sequence.name)]
  rcases unique : ensureUnique (others.map Sequence.name) "sequences" with failure | answer
  · exact .inl ⟨failure, rfl, rfl⟩
  · refine .inr ⟨_, _, rfl, rfl, lookup_congr ?_ (rearranged.map _)⟩
    have distinct := (rearranged.map Sequence.name).nodup_iff.mpr (ensureUnique_eq_ok.mp unique)
    rwa [List.map_map]

namespace RunPlan

variable {index index' : SequenceIndex}

theorem find_congr (same : ∀ name, index.lookup name = index'.lookup name) :
    find index = find index' := by
  funext name
  rw [find, same, find]

theorem select_congr (same : ∀ name, index.lookup name = index'.lookup name)
    (scenario : Scenario) (selected : Option String) :
    select index scenario selected = select index' scenario selected := by
  cases selected with
  | none => rfl
  | some name => rw [select, same, select]

/-- A plan is built alike, or fails alike, from documents in any order. -/
theorem build_rearranged {sequences sequences' : List Sequence} {files files' : List MacroFile}
    (sequences_rearranged : sequences.Perm sequences') (files_rearranged : files.Perm files')
    (scenario : Scenario) (selected : Option String) :
    build scenario sequences files selected = build scenario sequences' files' selected := by
  unfold build
  rw [MacroLibrary.merge_congr files_rearranged]
  refine bind_congr fun library => ?_
  rcases SequenceIndex.ofList_congr sequences_rearranged with
    ⟨failure, failed, failed'⟩ | ⟨index, index', indexed, indexed', same⟩
  · rw [failed, failed']
  · rw [indexed, indexed']
    change (select index scenario selected >>= _) = (select index' scenario selected >>= _)
    rw [select_congr same, find_congr same]

theorem build_rearranged_of_visit :
    let scenario : Scenario :=
      { name := "visit", launch := { command := "shell", backend := .pty },
        sequenceOrder := ["greet", "leave"] }
    let greet : Sequence := { name := "greet", steps := [.call "hello" []] }
    let leave : Sequence := { name := "leave", steps := [.call "hello" [], .line "exit"] }
    let hello : MacroFile := { macros := [("hello", [.line "hello"])] }
    let others : MacroFile := { macros := [("bye", []), ("hello", [])] }
    let bye : MacroFile := { macros := [("bye", [])] }
    [greet, leave].Perm [leave, greet] ∧ [hello, bye].Perm [bye, hello] ∧
    [bye, hello, others].Perm [others, hello, bye] ∧
    build scenario [greet, leave] [hello, bye] none =
      build scenario [leave, greet] [bye, hello] none ∧
    (build scenario [greet, leave] [hello, bye] none).toOption.map
      (fun plan => plan.sequences.map fun sequence => sequence.steps.length) = some [1, 2] ∧
    build scenario [greet, leave] [bye, hello, others] none =
      build scenario [leave, greet] [others, hello, bye] none ∧
    build scenario [greet, leave] [bye, hello, others] none =
      .error (.duplicateName "macros" ["bye", "hello"]) := by
  intro scenario greet leave hello others bye
  have swapped : [greet, leave].Perm [leave, greet] := .swap _ _ _
  have few : [hello, bye].Perm [bye, hello] := .swap _ _ _
  have many : [bye, hello, others].Perm [others, hello, bye] :=
    (List.reverse_perm [bye, hello, others]).symm
  refine ⟨swapped, few, many, build_rearranged swapped few scenario none, ?_,
    build_rearranged swapped many scenario none, ?_⟩
  · cbv
  · cbv

end RunPlan

end TerminalScript
