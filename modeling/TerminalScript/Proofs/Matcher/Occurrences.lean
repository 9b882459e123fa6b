import Mathlib.Data.Set.Pairwise.Basic
import Mathlib.Order.Bounds.Defs
import Mathlib.Order.Interval.Finset.Nat
import TerminalScript.Proofs.Matcher.Counting

/-!
How often a literal can be found in a text at once. Of all ways to choose occurrences that do not
overlap, the one that takes them from left to right takes the most: an occurrence that begins before
the first one has ended can be given up for it, and no other choice has two of those.
-/

namespace TerminalScript

variable {literal text : List Char} {places : Finset Nat}

theorem drop_length_cons (filled : literal ≠ []) (c : Char) (rest : List Char) :
    (c :: rest).drop literal.length = rest.drop (literal.length - 1) := by
  cases literal with
  | nil => exact absurd rfl filled
  | cons d more => rfl

/-- Places at which a literal occurs, so that no two occurrences share a character. -/
structure Occurrences (literal text : List Char) (places : Finset Nat) : Prop where
  occurs : ∀ place ∈ places, literal <+: text.drop place
  apart : (places : Set Nat).PairwiseDisjoint fun place =>
    Finset.Ico place (place + literal.length)

theorem disjoint_occurrences_iff (filled : literal ≠ []) {first second : Nat} :
    Disjoint (Finset.Ico first (first + literal.length))
      (Finset.Ico second (second + literal.length)) ↔
        first + literal.length ≤ second ∨ second + literal.length ≤ first := by
  have long : 0 < literal.length := List.length_pos_iff.mpr filled
  simp only [Finset.disjoint_left, Finset.mem_Ico]
  constructor
  · intro disjoint
    by_contra overlapping
    exact disjoint (a := max first second) (by omega) (by omega)
  · intro ordered place inFirst inSecond
    omega

theorem Occurrences.ordered (chosen : Occurrences literal text places) (filled : literal ≠ [])
    {first second : Nat} (inFirst : first ∈ places) (inSecond : second ∈ places)
    (before : first < second) : first + literal.length ≤ second := by
  have disjoint := chosen.apart inFirst inSecond (Nat.ne_of_lt before)
  have either := (disjoint_occurrences_iff filled).mp disjoint
  omega

theorem occurrences_of_ordered (filled : literal ≠ [])
    (occurs : ∀ place ∈ places, literal <+: text.drop place)
    (ordered : ∀ first ∈ places, ∀ second ∈ places, first < second →
      first + literal.length ≤ second) : Occurrences literal text places := by
  refine ⟨occurs, fun first inFirst second inSecond different => ?_⟩
  rw [Function.onFun, disjoint_occurrences_iff filled]
  rcases Nat.lt_or_gt_of_ne different with before | after
  · exact .inl (ordered first inFirst second inSecond before)
  · exact .inr (ordered second inSecond first inFirst after)

def placesAfter (start : Nat) (places : Finset Nat) : Finset Nat :=
  (places.filter (start ≤ ·)).image (· - start)

theorem mem_placesAfter {start place : Nat} :
    place ∈ placesAfter start places ↔ start + place ∈ places := by
  simp only [placesAfter, Finset.mem_image, Finset.mem_filter]
  constructor
  · rintro ⟨whole, ⟨member, after⟩, rfl⟩
    rwa [Nat.add_sub_cancel' after]
  · exact fun member => ⟨start + place, ⟨member, Nat.le_add_right _ _⟩, by omega⟩

theorem card_placesAfter (start : Nat) (places : Finset Nat) :
    (placesAfter start places).card = (places.filter (start ≤ ·)).card := by
  refine Finset.card_image_of_injOn fun first inFirst second inSecond same => ?_
  have after := (Finset.mem_filter.mp inFirst).2
  have after' := (Finset.mem_filter.mp inSecond).2
  omega

theorem Occurrences.after (chosen : Occurrences literal text places) (filled : literal ≠ [])
    (start : Nat) : Occurrences literal (text.drop start) (placesAfter start places) := by
  refine occurrences_of_ordered filled (fun place member => ?_)
    fun first inFirst second inSecond before => ?_
  · rw [List.drop_drop]
    exact chosen.occurs _ (mem_placesAfter.mp member)
  · have later := chosen.ordered filled (mem_placesAfter.mp inFirst) (mem_placesAfter.mp inSecond)
      (by omega)
    omega

/-- At most one of the chosen occurrences begins before another place that is no further than the
literal is long. -/
theorem Occurrences.card_le (chosen : Occurrences literal text places) (filled : literal ≠ [])
    {start : Nat} (near : start ≤ literal.length) :
    places.card ≤ 1 + (placesAfter start places).card := by
  have early : (places.filter (¬start ≤ ·)).card ≤ 1 := by
    refine Finset.card_le_one.mpr fun first inFirst second inSecond => ?_
    obtain ⟨member, before⟩ := Finset.mem_filter.mp inFirst
    obtain ⟨member', before'⟩ := Finset.mem_filter.mp inSecond
    rcases Nat.lt_trichotomy first second with less | same | greater
    · have far := chosen.ordered filled member member' less
      omega
    · exact same
    · have far := chosen.ordered filled member' member greater
      omega
  have split := Finset.card_filter_add_card_filter_not (s := places) (start ≤ ·)
  rw [card_placesAfter]
  omega

/-- No choice is larger than what is counted from left to right. -/
theorem Occurrences.card_le_count (filled : literal ≠ [])
    (chosen : Occurrences literal text places) : places.card ≤ countOccurrences literal text := by
  fun_induction countOccurrences literal text generalizing places with
  | case1 empty => exact absurd (List.isEmpty_iff.mp empty) filled
  | case2 nonempty =>
      rw [Nat.le_zero, Finset.card_eq_zero, Finset.eq_empty_iff_forall_notMem]
      intro place member
      exact filled (List.prefix_nil.mp (List.drop_nil ▸ chosen.occurs place member))
  | case3 c rest found ih =>
      have later := chosen.after filled literal.length
      rw [drop_length_cons filled] at later
      have most := chosen.card_le filled (Nat.le_refl literal.length)
      exact Nat.le_trans most (Nat.add_le_add_left (ih later) 1)
  | case4 c rest missed ih =>
      have none : places.filter (1 ≤ ·) = places := by
        refine Finset.filter_true_of_mem fun place member => ?_
        rw [Nat.one_le_iff_ne_zero]
        rintro rfl
        exact missed (List.isPrefixOf_iff_prefix.mpr (chosen.occurs 0 member))
      have later := ih (chosen.after filled 1)
      rwa [card_placesAfter, none] at later

/-- Occurrences after a place, seen from the start of the text. -/
theorem Occurrences.moved {start : Nat} (filled : literal ≠ [])
    (chosen : Occurrences literal (text.drop start) places) :
    Occurrences literal text (places.image (start + ·)) := by
  refine occurrences_of_ordered filled (fun place member => ?_)
    fun first inFirst second inSecond before => ?_
  · obtain ⟨later, inside, rfl⟩ := Finset.mem_image.mp member
    have occurs := chosen.occurs later inside
    rwa [List.drop_drop] at occurs
  · obtain ⟨earlier, inside, rfl⟩ := Finset.mem_image.mp inFirst
    obtain ⟨later, inside', rfl⟩ := Finset.mem_image.mp inSecond
    have far := chosen.ordered filled inside inside' (by omega)
    omega

theorem card_moved (start : Nat) (places : Finset Nat) :
    (places.image (start + ·)).card = places.card :=
  Finset.card_image_of_injective places fun _ _ => Nat.add_left_cancel

/-- An occurrence at the start goes with any that come after it. -/
theorem Occurrences.with_first (filled : literal ≠ []) (found : literal <+: text)
    (chosen : Occurrences literal (text.drop literal.length) places) :
    Occurrences literal text (insert 0 (places.image (literal.length + ·))) := by
  have moved := chosen.moved filled
  refine occurrences_of_ordered filled (fun place member => ?_)
    fun one inOne other inOther before => ?_
  · rcases Finset.mem_insert.mp member with rfl | inside
    · exact found
    · exact moved.occurs place inside
  · rcases Finset.mem_insert.mp inOther with rfl | inside
    · exact absurd before (Nat.not_lt_zero one)
    rcases Finset.mem_insert.mp inOne with rfl | inside'
    · obtain ⟨place, _, rfl⟩ := Finset.mem_image.mp inside
      omega
    · exact moved.ordered filled inside' inside before

theorem card_with_first (filled : literal ≠ []) (places : Finset Nat) :
    (insert 0 (places.image (literal.length + ·))).card = 1 + places.card := by
  have long : 0 < literal.length := List.length_pos_iff.mpr filled
  have first : 0 ∉ places.image (literal.length + ·) := by
    intro member
    obtain ⟨place, _, zero⟩ := Finset.mem_image.mp member
    omega
  rw [Finset.card_insert_of_notMem first, card_moved, Nat.add_comm]

/-- What is counted from left to right are occurrences that do not overlap. -/
theorem exists_occurrences (filled : literal ≠ []) (text : List Char) :
    ∃ places, Occurrences literal text places ∧ places.card = countOccurrences literal text := by
  fun_induction countOccurrences literal text with
  | case1 empty => exact absurd (List.isEmpty_iff.mp empty) filled
  | case2 nonempty => exact ⟨∅, ⟨by simp, by simp⟩, rfl⟩
  | case3 c rest found ih =>
      obtain ⟨places, chosen, same⟩ := ih
      rw [← drop_length_cons filled c] at chosen
      have first := chosen.with_first filled (List.isPrefixOf_iff_prefix.mp found)
      exact ⟨_, first, by rw [card_with_first filled, same]⟩
  | case4 c rest missed ih =>
      obtain ⟨places, chosen, same⟩ := ih
      have later : Occurrences literal ((c :: rest).drop 1) places := chosen
      exact ⟨_, later.moved filled, by rw [card_moved, same]⟩

theorem countOccurrences_isGreatest (filled : literal ≠ []) (text : List Char) :
    IsGreatest {count | ∃ places, Occurrences literal text places ∧ places.card = count}
      (countOccurrences literal text) := by
  refine ⟨exists_occurrences filled text, ?_⟩
  rintro _ ⟨places, chosen, rfl⟩
  exact chosen.card_le_count filled

end TerminalScript
