import TerminalScript.Json.Value
import Mathlib.Data.List.Forall2
import Mathlib.Data.List.Nodup
import Mathlib.Data.List.Perm.Basic

/-!
Fields by name. What is held under a name does not depend on the order of the fields, so an object
holds what was written into it, sorted or not, and whatever stands beside it under other names.
-/

namespace TerminalScript.Json

variable {fields written : List (String × Value)} {name : String} {value : Value}
  {held : Option Value}

def Holds (fields : List (String × Value)) (name : String) (held : Option Value) : Prop :=
  ∀ value, (name, value) ∈ fields ↔ held = some value

theorem Holds.lookup (holds : Holds fields name held) : fields.lookup name = held := by
  rcases found : fields.lookup name with - | value
  · rw [List.lookup_eq_none_iff] at found
    cases held with
    | none => rfl
    | some value =>
        have member := (holds value).mpr rfl
        simpa using found _ member
  · obtain ⟨before, after, same, _⟩ := List.lookup_eq_some_iff.mp found
    have member : (name, value) ∈ fields := by simp [same]
    exact ((holds value).mp member).symm

theorem lookup_eq_some_iff_mem {α : Type} {fields : List (String × α)} {value : α}
    (distinct : (fields.map Prod.fst).Nodup) :
    fields.lookup name = some value ↔ (name, value) ∈ fields := by
  induction fields with
  | nil => simp
  | cons field rest ih =>
      obtain ⟨other, kept⟩ := field
      rw [List.map_cons, List.nodup_cons] at distinct
      rw [List.lookup_cons, List.mem_cons]
      by_cases same : name = other
      · subst same
        have absent : (name, value) ∉ rest := fun member =>
          distinct.1 (List.mem_map.mpr ⟨_, member, rfl⟩)
        simp [absent, eq_comm]
      · have different : (name == other) = false := by simpa using same
        simp [same, different, ih distinct.2]

theorem holds_of_lookup (distinct : (fields.map Prod.fst).Nodup) :
    Holds fields name (fields.lookup name) :=
  fun _ => (lookup_eq_some_iff_mem distinct).symm

theorem holds_congr (same : ∀ value, (name, value) ∈ written ↔ (name, value) ∈ fields) :
    Holds written name held ↔ Holds fields name held :=
  forall_congr' fun value => by rw [same value]

theorem holds_filter (wanted : String → Bool) (kept : wanted name = true) :
    Holds (fields.filter fun field => wanted field.1) name held ↔ Holds fields name held :=
  holds_congr fun value => by simp [kept]

theorem holds_append_left {others : List (String × Value)} (absent : name ∉ others.map Prod.fst) :
    Holds (fields ++ others) name held ↔ Holds fields name held := by
  refine holds_congr fun value => ?_
  have outside : (name, value) ∉ others := fun member =>
    absent (List.mem_map.mpr ⟨_, member, rfl⟩)
  rw [List.mem_append, or_iff_left outside]

theorem holds_append_right {others : List (String × Value)} (absent : name ∉ others.map Prod.fst) :
    Holds (others ++ fields) name held ↔ Holds fields name held :=
  (holds_congr fun _ => List.perm_append_comm.mem_iff).trans (holds_append_left absent)

def Agree (names : List String) (fields others : List (String × Value)) : Prop :=
  ∀ name ∈ names, ∀ held, Holds others name held → Holds fields name held

theorem insertField_perm (fresh : name ∉ fields.map Prod.fst) :
    (insertField name value fields).Perm ((name, value) :: fields) := by
  induction fields with
  | nil => rfl
  | cons field rest ih =>
      obtain ⟨other, kept⟩ := field
      rw [List.map_cons, List.mem_cons, not_or] at fresh
      obtain ⟨different, fresh⟩ := fresh
      rw [insertField, if_neg different]
      split
      · rfl
      · exact ((ih fresh).cons _).trans (List.Perm.swap _ _ _)

theorem sortFields_perm (distinct : (fields.map Prod.fst).Nodup) :
    (sortFields fields).Perm fields := by
  -- Fields are inserted one by one into those that are sorted already.
  suffices inserted : ∀ sorted : List (String × Value),
      ((sorted ++ fields).map Prod.fst).Nodup →
      (fields.foldl (fun sorted field => insertField field.1 field.2 sorted) sorted).Perm
        (sorted ++ fields) from inserted [] distinct
  clear distinct
  induction fields with
  | nil => simp
  | cons field rest ih =>
      intro sorted distinct
      have moved : (sorted ++ field :: rest).Perm (field :: (sorted ++ rest)) := List.perm_middle
      have fresh : field.1 ∉ sorted.map Prod.fst := by
        have first := (List.nodup_cons.mp ((moved.map Prod.fst).nodup_iff.mp distinct)).1
        rw [List.map_append, List.mem_append, not_or] at first
        exact first.1
      have placed : (insertField field.1 field.2 sorted ++ rest).Perm (sorted ++ field :: rest) :=
        ((insertField_perm fresh).append_right rest).trans moved.symm
      rw [List.foldl_cons]
      exact (ih _ ((placed.map Prod.fst).nodup_iff.mpr distinct)).trans placed

theorem mem_of_mem_insertField {field : String × Value}
    (member : field ∈ insertField name value fields) : field = (name, value) ∨ field ∈ fields := by
  induction fields with
  | nil => simpa [insertField] using member
  | cons first rest ih =>
      rw [insertField] at member
      split at member
      · exact List.mem_cons.mp member
      · split at member
        · exact (List.mem_cons.mp member).imp_right (List.mem_cons_of_mem _)
        · rcases List.mem_cons.mp member with rfl | later
          · exact .inr List.mem_cons_self
          · exact (ih later).imp_right (List.mem_cons_of_mem _)

theorem mem_of_mem_sortFields {field : String × Value} (member : field ∈ sortFields fields) :
    field ∈ fields := by
  suffices inserted : ∀ sorted : List (String × Value),
      field ∈ fields.foldl (fun sorted field => insertField field.1 field.2 sorted) sorted →
      field ∈ sorted ∨ field ∈ fields from (inserted [] member).resolve_left List.not_mem_nil
  clear member
  induction fields with
  | nil => exact fun _ => .inl
  | cons first rest ih =>
      intro sorted member
      rcases ih _ member with earlier | later
      · rcases mem_of_mem_insertField earlier with rfl | old
        · exact .inr List.mem_cons_self
        · exact .inl old
      · exact .inr (List.mem_cons_of_mem _ later)

section Optional

variable {α : Type} {encode : α → Value} {given : Option α}

@[simp] theorem mem_optionalField {other : String} :
    (name, value) ∈ optionalField other encode given ↔
      name = other ∧ given.map encode = some value := by
  cases given <;> simp [optionalField, eq_comm]

theorem optionalField_names :
    ((optionalField name encode given).map Prod.fst).Sublist [name] := by
  cases given <;> simp [optionalField]

theorem unlessEmpty_eq {items : List α} (name : String) (encode : List α → Value) :
    (if items.isEmpty then [] else [(name, encode items)]) =
      optionalField name encode (if items.isEmpty then none else some items) := by
  cases items <;> rfl

theorem optionalField_append_names {names : List String}
    (later : (fields.map Prod.fst).Sublist names) :
    ((optionalField name encode given ++ fields).map Prod.fst).Sublist (name :: names) := by
  rw [List.map_append]
  exact optionalField_names.append later

theorem field_cons_names {names : List String} (later : (fields.map Prod.fst).Sublist names) :
    (((name, value) :: fields).map Prod.fst).Sublist (name :: names) :=
  later.cons_cons name

end Optional

/-- Fields written out as an object. A field whose name is in `forms` may have any value of the form
given there, the others keep theirs, and beside them stand fields whose names are not known. -/
def Widened (known : List String) (forms : List (String × (Value → Prop))) :
    Value → Value → Prop
  | .object fields, .object written => ∃ kept extra,
      List.Forall₂ (fun field other => other.1 = field.1 ∧
        ((forms.lookup field.1).getD (· = field.2)) other.2) fields kept ∧
      (∀ field ∈ extra, field.1 ∉ known) ∧ written.Perm (kept ++ extra)
  | _, _ => False

def Shows (known : List String) (forms : List (String × (Value → Prop)))
    (fields written : List (String × Value)) : Prop :=
  ∀ name ∈ known, ∀ held, Holds fields name held → ∃ other, Holds written name other ∧
    Option.Rel (fun value other => ((forms.lookup name).getD (· = value)) other) held other

variable {known : List String} {forms : List (String × (Value → Prop))}

theorem lookup_related {kept : List (String × Value)} (relates : String → Value → Value → Prop)
    (related : List.Forall₂ (fun field other => other.1 = field.1 ∧
      relates field.1 field.2 other.2) fields kept) :
    Option.Rel (relates name) (fields.lookup name) (kept.lookup name) := by
  induction related with
  | nil => exact .none
  | @cons field written rest others first _ ih =>
      obtain ⟨own, value⟩ := field
      obtain ⟨other, kept⟩ := written
      obtain ⟨same, relates_first⟩ := first
      dsimp only at same relates_first
      subst same
      rw [List.lookup_cons, List.lookup_cons]
      by_cases here : name = other
      · subst here
        simpa using Option.Rel.some relates_first
      · have different : (name == other) = false := by simpa using here
        simpa [different] using ih

namespace Widened

theorem of_perm {others : List (String × Value)} (same : fields.Perm others)
    (wide : Widened known forms (.object others) value) :
    Widened known forms (.object fields) value := by
  cases value with
  | object written =>
      obtain ⟨kept, extra, related, fresh, perm⟩ := wide
      obtain ⟨moved, relates, there⟩ := List.perm_comp_forall₂ same related
      exact ⟨moved, extra, relates, fresh, perm.trans (there.symm.append_right extra)⟩
  | _ => exact wide.elim

theorem object (distinct : (fields.map Prod.fst).Nodup)
    (wide : Widened known forms (.object fields) value) :
    ∃ written, value = .object written ∧ Shows known forms fields written := by
  cases value with
  | object written =>
      refine ⟨written, rfl, ?_⟩
      obtain ⟨kept, extra, related, fresh, same⟩ := wide
      have names : fields.map Prod.fst = kept.map Prod.fst := by
        rw [← List.forall₂_eq_eq_eq, List.forall₂_map_left_iff, List.forall₂_map_right_iff]
        exact related.imp fun _ _ relates => relates.1.symm
      rw [names] at distinct
      intro name inside held holds
      have shown : Holds written name (kept.lookup name) := by
        refine (holds_congr fun value => ?_).mpr (holds_of_lookup distinct)
        have outside : (name, value) ∉ extra := fun member => fresh _ member inside
        rw [same.mem_iff, List.mem_append, or_iff_left outside]
      refine ⟨kept.lookup name, shown, ?_⟩
      rw [← holds.lookup]
      exact lookup_related (fun name value => (forms.lookup name).getD (· = value)) related
  | _ => exact wide.elim

theorem ofFields (distinct : (fields.map Prod.fst).Nodup)
    (wide : Widened known forms (.ofFields fields) value) :
    ∃ written, value = .object written ∧ Shows known forms fields written :=
  object distinct (of_perm (sortFields_perm distinct).symm wide)

theorem refl_object (own : ∀ form ∈ forms, ∀ value, (form.1, value) ∈ fields → form.2 value) :
    Widened known forms (.object fields) (.object fields) := by
  refine ⟨fields, [], ?_, by simp, by simp⟩
  rw [List.forall₂_same]
  intro field member
  refine ⟨rfl, ?_⟩
  rcases found : forms.lookup field.1 with - | form
  · rfl
  · obtain ⟨before, after, same, _⟩ := List.lookup_eq_some_iff.mp found
    have inside : (field.1, form) ∈ forms := by simp [same]
    exact own _ inside field.2 member

theorem refl_ofFields (own : ∀ form ∈ forms, ∀ value, (form.1, value) ∈ fields → form.2 value) :
    Widened known forms (.ofFields fields) (.ofFields fields) :=
  refl_object fun form inside value member => own form inside value (mem_of_mem_sortFields member)

end Widened

namespace Shows

theorem holds (shows : Shows known forms fields written) (inside : name ∈ known)
    (plain : forms.lookup name = none) (holds : Holds fields name held) :
    Holds written name held := by
  obtain ⟨other, shown, related⟩ := shows name inside held holds
  rw [plain] at related
  cases related with
  | none => exact shown
  | some same =>
      cases same
      exact shown

theorem holds_form {form : Value → Prop} (shows : Shows known forms fields written)
    (inside : name ∈ known) (formed : forms.lookup name = some form)
    (holds : Holds fields name held) :
    ∃ other, Holds written name other ∧ Option.Rel (fun _ other => form other) held other := by
  obtain ⟨other, shown, related⟩ := shows name inside held holds
  rw [formed] at related
  exact ⟨other, shown, related⟩

theorem agree (shows : Shows known [] fields written) : Agree known written fields :=
  fun _ inside _ => shows.holds inside rfl

end Shows

def Given {α : Type} (form : α → Value → Prop) (given : Option α) (value : Value) : Prop :=
  ∃ item ∈ given, form item value

def Listed {α : Type} (form : α → Value → Prop) (items : List α) : Value → Prop
  | .array written => List.Forall₂ form items written
  | _ => False

def Mapped {α : Type} (form : α → Value → Prop) (entries : List (String × α)) : Value → Prop
  | .object written =>
      List.Forall₂ (fun entry field => field.1 = entry.1 ∧ form entry.2 field.2) entries written
  | _ => False

end TerminalScript.Json
