import TerminalScript.Macro.Placeholder
import TerminalScript.Proofs.Document.Fields

/-!
Filling values. A text without a dollar sign has no placeholders and stays as it is; an object keeps
its names, and holds under each of them what it held, filled.
-/

namespace TerminalScript.Placeholder

open Json

variable {arguments : Arguments} {fields : List (String × Value)} {name : String}
  {held : Option Value}

theorem pieces_of_plain {chars : List Char} (plain : '$' ∉ chars) :
    pieces chars = chars.map .char := by
  induction chars with
  | nil => rw [pieces, List.map_nil]
  | cons first rest ih =>
      rw [List.mem_cons, not_or] at plain
      rw [pieces, if_neg (Ne.symm plain.1), ih plain.2, List.map_cons]

theorem substitute_of_plain {text : String} (plain : '$' ∉ text.toList) :
    substitute arguments (.text text) = .text text := by
  have unchanged : ∀ chars : List Char,
      (chars.map Piece.char).flatMap (Piece.chars arguments) = chars := by
    intro chars
    rw [List.flatMap_map]
    exact List.flatMap_singleton' chars
  rw [substitute, substituteText, pieces_of_plain plain]
  split
  · rename_i found
    split at found
    · rename_i alone
      cases chars : text.toList <;> simp [chars] at alone
    · cases found
  · rw [unchanged, String.ofList_toList]

theorem substituteItems_eq_map (items : List Value) :
    substituteItems arguments items = items.map (substitute arguments) := by
  induction items with
  | nil => rfl
  | cons item rest ih => rw [substituteItems, ih, List.map_cons]

theorem substituteFields_eq_map (fields : List (String × Value)) :
    substituteFields arguments fields =
      fields.map fun field => (field.1, substitute arguments field.2) := by
  induction fields with
  | nil => rfl
  | cons field rest ih => rw [substituteFields, ih, List.map_cons]

theorem holds_substituteFields (holds : Holds fields name held) :
    Holds (substituteFields arguments fields) name (held.map (substitute arguments)) := by
  intro value
  rw [substituteFields_eq_map, List.mem_map, Option.map_eq_some_iff]
  constructor
  · rintro ⟨⟨other, found⟩, member, same⟩
    cases same
    exact ⟨found, (holds found).mp member, rfl⟩
  · rintro ⟨found, here, rfl⟩
    exact ⟨(name, found), (holds found).mpr here, rfl⟩

theorem lookup_substituteFields (fields : List (String × Value)) (name : String) :
    (substituteFields arguments fields).lookup name =
      (fields.lookup name).map (substitute arguments) := by
  induction fields with
  | nil => rfl
  | cons field rest ih =>
      rw [substituteFields, List.lookup_cons, List.lookup_cons]
      split
      · rfl
      · exact ih

theorem substituteFields_filter (wanted : String → Bool) (fields : List (String × Value)) :
    substituteFields arguments (fields.filter fun field => wanted field.1) =
      (substituteFields arguments fields).filter fun field => wanted field.1 := by
  rw [substituteFields_eq_map, substituteFields_eq_map, List.filter_map]
  rfl

end TerminalScript.Placeholder
