import TerminalScript.Failure
import Mathlib.Data.List.Forall2

/-!
Computations that may fail, and checks of rules: when a chain of them succeeds, and which of its
parts a failure comes from.
-/

namespace TerminalScript

open Document

variable {ε δ α β : Type}

theorem isOk_eq_true {checked : Except ε α} :
    checked.isOk = true ↔ ∃ value, checked = .ok value := by
  cases checked <;> simp [Except.isOk, Except.toBool]

theorem bind_eq_ok {first : Except ε α} {next : α → Except ε β} {value : β} :
    first >>= next = .ok value ↔ ∃ middle, first = .ok middle ∧ next middle = .ok value := by
  cases first with
  | error failure => simp [bind, Except.bind]
  | ok middle => simp [bind, Except.bind]

@[simp] theorem check_bind_eq_ok {first : Except ε Unit} {next : Unit → Except ε β} {value : β} :
    first >>= next = .ok value ↔ first = .ok () ∧ next () = .ok value := by
  cases first <;> simp [bind, Except.bind]

theorem bind_eq_error {first : Except ε α} {next : α → Except ε β} {failure : ε} :
    first >>= next = .error failure ↔
      first = .error failure ∨ ∃ middle, first = .ok middle ∧ next middle = .error failure := by
  cases first with
  | error other => simp [bind, Except.bind]
  | ok middle => simp [bind, Except.bind]

@[simp] theorem mapError_eq_ok {change : ε → δ} {checked : Except ε α} {value : α} :
    checked.mapError change = .ok value ↔ checked = .ok value := by
  cases checked <;> simp [Except.mapError]

@[simp] theorem mapError_eq_error {change : ε → δ} {checked : Except ε α} {failure : δ} :
    checked.mapError change = .error failure ↔
      ∃ cause, checked = .error cause ∧ change cause = failure := by
  cases checked <;> simp [Except.mapError]

theorem map_eq_ok {change : α → β} {checked : Except ε α} {value : β} :
    checked.map change = .ok value ↔ ∃ found, checked = .ok found ∧ change found = value := by
  cases checked <;> simp [Except.map]

theorem map_eq_error {change : α → β} {checked : Except ε α} {failure : ε} :
    checked.map change = .error failure ↔ checked = .error failure := by
  cases checked <;> simp [Except.map]

theorem forM_eq_ok {items : List α} {check : α → Except ε Unit} :
    forM items check = .ok () ↔ ∀ item ∈ items, check item = .ok () := by
  induction items with
  | nil => simp [pure, Except.pure]
  | cons item rest ih =>
      rw [List.forM_cons, check_bind_eq_ok, List.forall_mem_cons, ← ih]

theorem mapM_eq_ok {items : List α} {change : α → Except ε β} {results : List β} :
    items.mapM change = .ok results ↔
      List.Forall₂ (fun item result => change item = .ok result) items results := by
  induction items generalizing results with
  | nil => simp [pure, Except.pure, eq_comm]
  | cons item rest ih =>
      rw [List.mapM_cons, bind_eq_ok]
      constructor
      · rintro ⟨result, first, later⟩
        obtain ⟨others, found, same⟩ := bind_eq_ok.mp later
        cases same
        exact .cons first (ih.mp found)
      · intro related
        cases related with
        | cons first later => exact ⟨_, first, bind_eq_ok.mpr ⟨_, ih.mpr later, rfl⟩⟩

theorem exists_of_mem_mapM {items : List α} {change : α → Except ε β} {results : List β}
    (mapped : items.mapM change = .ok results) {result : β} (member : result ∈ results) :
    ∃ item ∈ items, change item = .ok result := by
  rw [mapM_eq_ok] at mapped
  induction mapped with
  | nil => simp at member
  | @cons item first rest others related _ ih =>
      rcases List.mem_cons.mp member with rfl | inside
      · exact ⟨item, by simp, related⟩
      · obtain ⟨found, there, holds⟩ := ih inside
        exact ⟨found, List.mem_cons_of_mem _ there, holds⟩

theorem map_of_mapM_eq_ok {items : List α} {change : α → Except ε β} {results : List β}
    (before : α → δ) (after : β → δ) (mapped : items.mapM change = .ok results)
    (kept : ∀ item result, change item = .ok result → after result = before item) :
    results.map after = items.map before := by
  rw [mapM_eq_ok] at mapped
  induction mapped with
  | nil => rfl
  | cons related _ ih => rw [List.map_cons, List.map_cons, kept _ _ related, ih]

theorem exists_of_mapM_eq_error {items : List α} {change : α → Except ε β} {failure : ε}
    (failed : items.mapM change = .error failure) :
    ∃ item ∈ items, change item = .error failure := by
  induction items with
  | nil => simp [pure, Except.pure] at failed
  | cons item rest ih =>
      rw [List.mapM_cons] at failed
      rcases bind_eq_error.mp failed with first | ⟨result, _, later⟩
      · exact ⟨item, by simp, first⟩
      · rcases bind_eq_error.mp later with other | ⟨others, _, impossible⟩
        · obtain ⟨found, member, here⟩ := ih other
          exact ⟨found, List.mem_cons_of_mem _ member, here⟩
        · cases impossible

@[simp] theorem ensureThat_eq_ok {condition : Bool} {rule : Rule} :
    ensureThat condition rule = .ok () ↔ condition = true := by
  cases condition <;> simp [ensureThat]

@[simp] theorem inside_eq_ok {place : Place} {checked : Checked α} {value : α} :
    inside place checked = .ok value ↔ checked = .ok value :=
  mapError_eq_ok

end TerminalScript
