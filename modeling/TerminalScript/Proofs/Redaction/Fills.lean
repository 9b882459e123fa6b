import TerminalScript.Pattern.Basic
import TerminalScript.Proofs.Pattern.Spans

/-!
Writing something in place of some spans of a text: what was in none of the spans is left, and what
is in them is gone.
-/

namespace TerminalScript

open Pattern (Span Ordered)

def Inside (spans : List Span) (place : Nat) : Prop :=
  ∃ span ∈ spans, span.start ≤ place ∧ place < span.stop

theorem inside_cons {span : Span} {rest : List Span} {place : Nat} :
    Inside (span :: rest) place ↔ (span.start ≤ place ∧ place < span.stop) ∨ Inside rest place := by
  simp [Inside]

theorem not_inside_of_ordered {limit place earlier : Nat} {spans : List Span}
    (ordered : Ordered limit place spans) (before : earlier < place) : ¬Inside spans earlier := by
  induction spans generalizing place with
  | nil => simp [Inside]
  | cons span rest ih =>
      obtain ⟨first, own, later⟩ := ordered
      rw [inside_cons, not_or]
      exact ⟨by omega, ih later (by omega)⟩

structure Fill (α : Type) extends Pattern.Span where
  content : List α
  deriving Inhabited, DecidableEq

namespace Fill

variable {α β : Type}

def spans (fills : List (Fill α)) : List Span :=
  fills.map toSpan

def apply : Nat → List α → List (Fill α) → List α
  | _, left, [] => left
  | place, left, fill :: rest =>
      left.take (fill.start - place) ++
        (fill.content ++ apply fill.stop (left.drop (fill.stop - place)) rest)

def all (content : List α) (spans : List Span) : List (Fill α) :=
  spans.map fun span => ⟨span, content⟩

@[simp] theorem spans_all (content : List α) (found : List Span) :
    spans (all content found) = found := by
  simp [spans, all, Function.comp_def]

theorem map_apply_all (change : α → β) (content : List α) (place : Nat) (left : List α)
    (found : List Span) :
    (apply place left (all content found)).map change =
      apply place (left.map change) (all (content.map change) found) := by
  induction found generalizing place left with
  | nil => rfl
  | cons span rest ih =>
      have later := ih span.stop (left.drop (span.stop - place))
      simp only [all] at later
      simp [all, apply, later]

/-- After filling there is what was filled in, and what was in none of the spans. -/
theorem mem_apply {left : List α} {limit place : Nat} {fills : List (Fill α)}
    (ordered : Ordered limit place (spans fills)) {item : α} :
    item ∈ apply place left fills ↔
      (∃ fill ∈ fills, item ∈ fill.content) ∨
        ∃ offset, left[offset]? = some item ∧ ¬Inside (spans fills) (place + offset) := by
  induction fills generalizing place left with
  | nil => simp [apply, spans, Inside, List.mem_iff_getElem?]
  | cons fill rest ih =>
      obtain ⟨first, own, later⟩ := ordered
      have both : spans (fill :: rest) = fill.toSpan :: spans rest := rfl
      rw [apply, List.mem_append, List.mem_append, ih later, List.mem_iff_getElem?, both]
      simp only [List.getElem?_take, List.getElem?_drop, inside_cons, not_or, List.mem_cons,
        exists_eq_or_imp]
      constructor
      · rintro (⟨offset, held⟩ | filled | others | ⟨offset, held, outside⟩)
        · by_cases early : offset < fill.start - place
          · rw [if_pos early] at held
            exact .inr ⟨offset, held, by omega, not_inside_of_ordered later (by omega)⟩
          · simp [early] at held
        · exact .inl (.inl filled)
        · exact .inl (.inr others)
        · refine .inr ⟨fill.stop - place + offset, held, by omega, ?_⟩
          rwa [show place + (fill.stop - place + offset) = fill.stop + offset by omega]
      · rintro ((filled | others) | ⟨offset, held, apart, outside⟩)
        · exact .inr (.inl filled)
        · exact .inr (.inr (.inl others))
        · by_cases early : place + offset < fill.start
          · left
            exact ⟨offset, by rw [if_pos (by omega), held]⟩
          · refine .inr (.inr (.inr ⟨place + offset - fill.stop, ?_, ?_⟩))
            · rw [← held]
              congr 1
              omega
            · rwa [show fill.stop + (place + offset - fill.stop) = place + offset by omega]

end Fill

theorem replaceSpans_eq_apply {mark text : List Char} {place : Nat} {spans : List Span}
    (ordered : Ordered text.length place spans) :
    replaceSpans mark text.toArray place spans =
      Fill.apply place (text.drop place) (Fill.all mark spans) := by
  induction spans generalizing place with
  | nil => simp [replaceSpans, Fill.all, Fill.apply, List.take_of_length_le]
  | cons span rest ih =>
      obtain ⟨first, own, later⟩ := ordered
      have past : place + (span.stop - place) = span.stop := by omega
      rw [replaceSpans, ih later]
      simp [Fill.all, Fill.apply, List.drop_drop, past]

end TerminalScript
