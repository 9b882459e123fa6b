import Mathlib
import TerminalScript.Proofs.Redaction.Cells

/-!
What redaction replaces. A redacted text is the text with marks and pieces of them in place of some
spans of it. The spans take in what each pattern finds in what the patterns before it have left, so
a match in the text itself is replaced as a whole if none of it is left by then or if it is found
again. A match that another pattern has torn may be missed, and then part of it stays in the text.
-/

namespace TerminalScript

open Pattern (Span Ordered)

namespace Fill

def between (start stop : Nat) (content : List Char) : List (Fill Char) :=
  if start = stop ∧ content = [] then [] else [⟨⟨start, stop⟩, content⟩]

def ofCells (size : Nat) : Nat → List Char → List Cell → List (Fill Char)
  | place, pending, [] => between place size pending
  | place, pending, ⟨c, none⟩ :: rest => ofCells size place (pending ++ [c]) rest
  | place, pending, ⟨_, some origin⟩ :: rest =>
      between place origin pending ++ ofCells size (origin + 1) [] rest

variable {text : List Char} {size start place stop : Nat} {cells : List Cell}
  {chars pending : List Char} {rest : List (Fill Char)}

theorem ordered_between (first : start ≤ place) (own : place ≤ stop)
    (ordered : Ordered size stop (spans rest)) :
    Ordered size start (spans (between place stop chars ++ rest)) := by
  unfold between
  split
  · exact ordered.mono (Nat.le_trans first own)
  · exact ⟨first, own, ordered⟩

theorem inside_between :
    Inside (spans (between start stop chars ++ rest)) place ↔
      (start ≤ place ∧ place < stop) ∨ Inside (spans rest) place := by
  unfold between
  split
  · rename_i idle
    obtain ⟨rfl, -⟩ := idle
    simp only [List.nil_append, iff_or_self]
    omega
  · exact inside_cons

theorem apply_between (first : start ≤ place) (own : place ≤ stop) :
    apply start (text.drop start) (between place stop chars ++ rest) =
      if place = stop ∧ chars = [] then apply start (text.drop start) rest
      else (text.drop start).take (place - start) ++
        (chars ++ apply stop (text.drop stop) rest) := by
  unfold between
  split
  · rfl
  · rw [List.singleton_append, apply, List.drop_drop, Nat.add_sub_cancel' (Nat.le_trans first own)]

theorem take_past {c : Char} (first : start ≤ place) (held : text[place]? = some c) :
    (text.drop start).take (place + 1 - start) =
      (text.drop start).take (place - start) ++ [c] := by
  rw [Nat.sub_add_comm first, List.take_add_one, List.getElem?_drop, Nat.add_sub_cancel' first,
    held]
  rfl

theorem apply_ofCells (first : start ≤ place) (traced : Cell.Traced text place pending cells) :
    apply start (text.drop start) (ofCells text.length place pending cells) =
      (text.drop start).take (place - start) ++ (pending ++ cells.map Cell.char) := by
  induction cells generalizing start place pending with
  | nil =>
      rw [ofCells, ← List.append_nil (between _ _ _), apply_between first traced.le]
      split
      · rename_i idle
        obtain ⟨rfl, rfl⟩ := idle
        simp [apply, List.take_of_length_le]
      · simp [apply]
  | cons cell rest ih =>
      obtain ⟨c, _ | origin⟩ := cell
      · rw [ofCells, ih first traced.2]
        simp
      · obtain ⟨follows, held, later⟩ := traced
        rw [ofCells, apply_between first follows.le]
        split
        · rename_i idle
          obtain ⟨rfl, rfl⟩ := idle
          rw [ih (Nat.le_succ_of_le first) later, take_past first held]
          simp
        · rw [ih (Nat.le_succ origin) later, take_past (Nat.le_refl origin) held]
          simp

theorem ordered_ofCells (first : start ≤ place) (traced : Cell.Traced text place pending cells) :
    Ordered text.length start (spans (ofCells text.length place pending cells)) := by
  induction cells generalizing start place pending with
  | nil =>
      rw [ofCells, ← List.append_nil (between _ _ _)]
      exact ordered_between first traced.le (Nat.le_refl text.length)
  | cons cell rest ih =>
      obtain ⟨c, _ | origin⟩ := cell
      · exact ih first traced.2
      · obtain ⟨follows, -, later⟩ := traced
        exact ordered_between first follows.le (ih (Nat.le_succ origin) later)

/-- The spans take in just the places whose characters are missing. -/
theorem inside_ofCells (traced : Cell.Traced text place pending cells) {missing : Nat} :
    Inside (spans (ofCells text.length place pending cells)) missing ↔
      place ≤ missing ∧ missing < text.length ∧ ¬Cell.Keeps cells missing := by
  induction cells generalizing place pending with
  | nil =>
      rw [ofCells, ← List.append_nil (between _ _ _), inside_between]
      simp [Inside, spans, Cell.Keeps]
  | cons cell rest ih =>
      obtain ⟨c, _ | origin⟩ := cell
      · rw [ofCells, ih traced.2, Cell.keeps_cons]
        simp
      · obtain ⟨follows, held, later⟩ := traced
        have inside := follows.le
        have ends := (List.getElem?_eq_some_iff.mp held).1
        rw [ofCells, inside_between, ih later, Cell.keeps_cons, Option.some_inj]
        by_cases kept : Cell.Keeps rest missing
        · have bounds := later.bounds kept
          simp only [kept, or_true, not_true_eq_false, and_false, or_false, iff_false]
          omega
        · simp only [kept, or_false, not_false_eq_true, and_true]
          omega

theorem content_between (follows : Cell.Follows chars place stop)
    (made : ∀ c ∈ chars, c ∈ redactedMark.toList) :
    ∀ fill ∈ between place stop chars,
      redactedMark.toList <:+: fill.content ∧ ∀ c ∈ fill.content, c ∈ redactedMark.toList := by
  intro fill member
  unfold between at member
  split at member
  · simp at member
  · rename_i needed
    rw [List.mem_singleton.mp member]
    rcases follows with idle | ⟨-, marked⟩
    · exact absurd idle needed
    · exact ⟨marked, made⟩

/-- What is written in place of a span has a whole mark in it, and no character but those of
marks. -/
theorem content_ofCells (traced : Cell.Traced text place pending cells)
    (made : ∀ c ∈ pending, c ∈ redactedMark.toList) :
    ∀ fill ∈ ofCells text.length place pending cells,
      redactedMark.toList <:+: fill.content ∧ ∀ c ∈ fill.content, c ∈ redactedMark.toList := by
  induction cells generalizing place pending with
  | nil => exact content_between traced made
  | cons cell rest ih =>
      obtain ⟨c, _ | origin⟩ := cell
      · refine ih traced.2 fun d member => ?_
        rcases List.mem_append.mp member with earlier | last
        · exact made d earlier
        · rw [List.mem_singleton.mp last]
          exact traced.1
      · obtain ⟨follows, -, later⟩ := traced
        intro fill member
        rcases List.mem_append.mp member with first | others
        · exact content_between follows made fill first
        · exact ih later (by simp) fill others

end Fill

def MadeOfMarks (chars : List Char) : Prop :=
  ∃ pieces : List (List Char), chars = pieces.flatten ∧ redactedMark.toList ∈ pieces ∧
    ∀ piece ∈ pieces, piece <:+: redactedMark.toList

theorem madeOfMarks_of_mem {chars : List Char} (marked : redactedMark.toList <:+: chars)
    (made : ∀ c ∈ chars, c ∈ redactedMark.toList) : MadeOfMarks chars := by
  obtain ⟨front, back, rfl⟩ := marked
  refine ⟨front.map ([·]) ++ redactedMark.toList :: back.map ([·]), ?_, by simp, ?_⟩
  · simp [← List.flatMap_def]
  · have single {c : Char} (inside : c ∈ redactedMark.toList) : [c] <:+: redactedMark.toList := by
      obtain ⟨before, after, whole⟩ := List.append_of_mem inside
      exact ⟨before, after, by simp [whole]⟩
    intro piece member
    simp only [List.mem_append, List.mem_cons, List.mem_map] at member made
    rcases member with ⟨c, inside, rfl⟩ | rfl | ⟨c, inside, rfl⟩
    · exact single (made c (.inl (.inl inside)))
    · exact List.infix_rfl
    · exact single (made c (.inr inside))

namespace Redactor

/-- A match in a text that the patterns before have not torn: nothing of it is left, or what is found
in what they have left has it as it was. -/
def Untorn (before : List Pattern) (pattern : Pattern) (text : String) (span : Span) : Prop :=
  (∀ place, span.start ≤ place → place < span.stop → ¬Cell.Keeps (Cell.left before text) place) ∨
    ∃ again ∈ Cell.found pattern (Cell.left before text),
      ((Cell.ofText 0 text.toList).take span.stop).drop span.start <:+:
        ((Cell.left before text).take again.stop).drop again.start

/-- A text is redacted by writing pieces of marks in place of spans that follow one another. They take
in what any pattern finds in what those before it have left, and so each match in the text itself
that was not torn by then. -/
theorem redact_fills_matches (redactor : Redactor) (text : String) :
    ∃ fills : List (Fill Char),
      Ordered text.toList.length 0 (Fill.spans fills) ∧
      (redactor.redact text).toList = Fill.apply 0 text.toList fills ∧
      (∀ fill ∈ fills, MadeOfMarks fill.content) ∧
      (∀ place, Inside (Fill.spans fills) place ↔ place < text.toList.length ∧
        ∃ before pattern after, redactor.patterns = before ++ pattern :: after ∧
          Cell.Strikes pattern (Cell.left before text) place) ∧
      ∀ before pattern after, redactor.patterns = before ++ pattern :: after →
        ∀ span ∈ pattern.spans text.toList.toArray, Untorn before pattern text span →
          ∀ place, span.start ≤ place → place < span.stop → Inside (Fill.spans fills) place := by
  let cells := Cell.left redactor.patterns text
  have traced : Cell.Traced text.toList 0 [] cells := Cell.left_traced redactor.patterns text
  have covers (place : Nat) :
      Inside (Fill.spans (Fill.ofCells text.toList.length 0 [] cells)) place ↔
        place < text.toList.length ∧
          ∃ before pattern after, redactor.patterns = before ++ pattern :: after ∧
            Cell.Strikes pattern (Cell.left before text) place := by
    rw [Fill.inside_ofCells traced]
    simp only [Nat.zero_le, true_and]
    exact and_congr_right fun inside => Cell.not_keeps_left inside
  refine ⟨Fill.ofCells text.toList.length 0 [] cells, ?_, ?_, ?_, covers, ?_⟩
  · exact Fill.ordered_ofCells (Nat.le_refl 0) traced
  · have applied : Fill.apply 0 (text.toList.drop 0) (Fill.ofCells text.toList.length 0 [] cells) =
        _ := Fill.apply_ofCells (Nat.le_refl 0) traced
    rw [List.drop_zero] at applied
    rw [applied, ← Cell.chars_left]
    simp [cells]
  · intro fill member
    obtain ⟨marked, made⟩ := Fill.content_ofCells traced (by simp) fill member
    exact madeOfMarks_of_mem marked made
  · intro before pattern after same span found untorn place first last
    have inside : place < text.toList.length := by
      have ends := (pattern.spans_ordered text.toList.toArray).stop_le found
      rw [List.size_toArray] at ends
      omega
    rcases untorn with gone | ⟨again, member, kept⟩
    · refine (covers place).mpr ⟨inside, ?_⟩
      obtain ⟨front, other, back, rfl, struck⟩ :=
        (Cell.not_keeps_left inside).mp (gone place first last)
      exact ⟨front, other, back ++ pattern :: after, by simp [same], struck⟩
    · exact (covers place).mpr
        ⟨inside, before, pattern, after, same, Cell.strikes_of_infix member kept first last inside⟩

theorem first_untorn (pattern : Pattern) {text : String} {span : Span}
    (found : span ∈ pattern.spans text.toList.toArray) : Untorn [] pattern text span := by
  refine .inr ⟨span, ?_, List.infix_rfl⟩
  rw [Cell.found, Cell.left, List.foldl_nil, Cell.chars_ofText]
  exact found

def ofPatterns (patterns : List String) : Redactor :=
  (Redactor.new patterns).toOption.getD ⟨[]⟩

def secrets : Redactor := ofPatterns ["syn_[A-Za-z0-9]+", "hunter2"]

/-- The second of these is found again behind the mark of the first. -/
theorem redact_fills_matches_of_secrets :
    secrets.redact "key syn_abc and hunter2" = "key [REDACTED] and [REDACTED]" ∧
      secrets.patterns.map (Pattern.spans · "key syn_abc and hunter2".toList.toArray) =
        [[⟨4, 11⟩], [⟨16, 23⟩]] ∧
      ∃ fills : List (Fill Char),
        Ordered "key syn_abc and hunter2".toList.length 0 (Fill.spans fills) ∧
        (secrets.redact "key syn_abc and hunter2").toList =
          Fill.apply 0 "key syn_abc and hunter2".toList fills ∧
        (∀ fill ∈ fills, MadeOfMarks fill.content) ∧
        (∀ place, 4 ≤ place → place < 11 → Inside (Fill.spans fills) place) ∧
        ∀ place, 16 ≤ place → place < 23 → Inside (Fill.spans fills) place := by
  have atFirst : secrets.patterns.map (Pattern.spans · "key syn_abc and hunter2".toList.toArray) =
      [[⟨4, 11⟩], [⟨16, 23⟩]] := by cbv
  have marked : secrets.patterns.map
      (Pattern.spans · "key [REDACTED] and hunter2".toList.toArray) = [[], [⟨19, 26⟩]] := by cbv
  refine ⟨by cbv, atFirst, ?_⟩
  have two : secrets.patterns.length = 2 := by
    rw [← List.length_map (Pattern.spans · _), atFirst]
    rfl
  obtain ⟨first, second, both⟩ := List.length_eq_two.mp two
  rw [both, List.map_cons, List.map_singleton] at atFirst marked
  obtain ⟨own, own'⟩ := List.cons_eq_cons.mp atFirst
  obtain ⟨-, again⟩ := List.cons_eq_cons.mp marked
  rw [List.singleton_inj] at own' again
  obtain ⟨fills, ordered, applied, made, -, covers⟩ :=
    secrets.redact_fills_matches "key syn_abc and hunter2"
  have leftOver : Cell.left [first] "key syn_abc and hunter2" =
      Fill.apply 0 (Cell.ofText 0 "key syn_abc and hunter2".toList)
        (Fill.all (Cell.ofMark redactedMark.toList) [⟨4, 11⟩]) := by
    rw [Cell.left, List.foldl_cons, List.foldl_nil, Cell.replaced, Cell.found, Cell.chars_ofText,
      own]
  have chars : (Cell.left [first] "key syn_abc and hunter2").map Cell.char =
      "key [REDACTED] and hunter2".toList := by
    rw [leftOver]
    decide
  refine ⟨fills, ordered, applied, made, ?_, ?_⟩
  · have member := own ▸ List.mem_singleton_self _
    exact covers [] first [second] both ⟨4, 11⟩ member (first_untorn first member)
  · refine covers [first] second [] both ⟨16, 23⟩ (own' ▸ List.mem_singleton_self _)
      (.inr ⟨⟨19, 26⟩, ?_, ?_⟩)
    · rw [Cell.found, chars, again]
      exact List.mem_singleton_self _
    · rw [leftOver]
      decide

/-- In a text that is replaced as a whole no character is left but those of marks. -/
theorem mem_mark_of_inside {text : List Char} {fills : List (Fill Char)}
    (ordered : Ordered text.length 0 (Fill.spans fills))
    (made : ∀ fill ∈ fills, ∀ c ∈ fill.content, c ∈ redactedMark.toList)
    (whole : ∀ place, place < text.length → Inside (Fill.spans fills) place) :
    ∀ c ∈ Fill.apply 0 text fills, c ∈ redactedMark.toList := by
  intro c member
  rcases (Fill.mem_apply ordered).mp member with ⟨fill, filled, inside⟩ | ⟨place, held, outside⟩
  · exact made fill filled c inside
  · rw [Nat.zero_add] at outside
    exact absurd (whole place (List.getElem?_eq_some_iff.mp held).1) outside

def entangled : Redactor := ofPatterns ["user=[a-z]+", "[a-z]+:[0-9]+"]

theorem redact_torn :
    entangled.redact "user=bob:1234" = "[REDACTED]:1234" ∧
      entangled.patterns.map (Pattern.spans · "user=bob:1234".toList.toArray) =
        [[⟨0, 8⟩], [⟨5, 13⟩]] ∧
      ¬∃ fills : List (Fill Char),
        Ordered "user=bob:1234".toList.length 0 (Fill.spans fills) ∧
        (entangled.redact "user=bob:1234").toList = Fill.apply 0 "user=bob:1234".toList fills ∧
        (∀ fill ∈ fills, ∀ c ∈ fill.content, c ∈ redactedMark.toList) ∧
        ∀ pattern ∈ entangled.patterns, ∀ span ∈ pattern.spans "user=bob:1234".toList.toArray,
          ∀ place, span.start ≤ place → place < span.stop → Inside (Fill.spans fills) place := by
  have shown : entangled.redact "user=bob:1234" = "[REDACTED]:1234" := by cbv
  have found : entangled.patterns.map (Pattern.spans · "user=bob:1234".toList.toArray) =
      [[⟨0, 8⟩], [⟨5, 13⟩]] := by cbv
  refine ⟨shown, found, ?_⟩
  rintro ⟨fills, ordered, applied, made, covers⟩
  have struck (span : Span) (member : span ∈ [(⟨0, 8⟩ : Span), ⟨5, 13⟩]) (place : Nat)
      (first : span.start ≤ place) (last : place < span.stop) :
      Inside (Fill.spans fills) place := by
    have among : span ∈ (entangled.patterns.map
        (Pattern.spans · "user=bob:1234".toList.toArray)).flatten := by
      rw [found]
      exact member
    obtain ⟨_, listed, inside⟩ := List.mem_flatten.mp among
    obtain ⟨pattern, kept, rfl⟩ := List.mem_map.mp listed
    exact covers pattern kept span inside place first last
  have whole : ∀ place, place < "user=bob:1234".toList.length →
      Inside (Fill.spans fills) place := by
    intro place inside
    by_cases early : place < 8
    · exact struck ⟨0, 8⟩ (by simp) place (Nat.zero_le place) early
    · exact struck ⟨5, 13⟩ (by simp) place (by simp only; omega) inside
  -- Between them the matches take in the whole text, and a colon is in no mark.
  have marks := mem_mark_of_inside ordered made whole
  rw [← applied, shown] at marks
  exact absurd (marks ':' (by decide)) (by decide)

end Redactor

end TerminalScript
