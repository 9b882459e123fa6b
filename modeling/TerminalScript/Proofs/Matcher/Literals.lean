import Mathlib
import TerminalScript.Proofs.Matcher.Occurrences
import TerminalScript.Proofs.Pattern.Reading

/-!
A matcher for a literal. It matches where the literal stands, however special its characters are in
an expression, and counts as many occurrences as there are without overlap. The expression of the
quoted literal matches as it does, and as often.
-/

namespace TerminalScript

section Counting

variable {literal text : List Char} {place : Nat}

theorem infix_iff_exists_drop : literal <:+: text ↔ ∃ place, literal <+: text.drop place := by
  rw [List.infix_iff_prefix_suffix]
  constructor
  · rintro ⟨rest, begins, ends⟩
    rw [List.suffix_iff_eq_drop] at ends
    exact ⟨_, ends ▸ begins⟩
  · rintro ⟨place, begins⟩
    exact ⟨_, begins, List.drop_suffix place text⟩

theorem countOccurrences_eq_zero (missed : ∀ place, ¬literal <+: text.drop place) :
    countOccurrences literal text = 0 := by
  rw [← Nat.lt_one_iff, ← Nat.not_le, ← occurs_iff_count, occurs_iff_isInfix, infix_iff_exists_drop]
  exact not_exists.mpr missed

/-- What comes before the first occurrence takes no part in the count. -/
theorem countOccurrences_of_first (filled : literal ≠ []) (found : literal <+: text.drop place)
    (first : ∀ earlier < place, ¬literal <+: text.drop earlier) :
    countOccurrences literal text =
      1 + countOccurrences literal (text.drop (place + literal.length)) := by
  induction place generalizing text with
  | zero =>
      cases text with
      | nil => exact absurd (List.prefix_nil.mp found) filled
      | cons c rest =>
          have here := List.isPrefixOf_iff_prefix.mpr found
          rw [List.drop_zero] at here
          rw [countOccurrences, if_pos here, Nat.zero_add, drop_length_cons filled]
  | succ place ih =>
      cases text with
      | nil => exact absurd (List.prefix_nil.mp found) filled
      | cons c rest =>
          have missed := first 0 (Nat.zero_lt_succ place)
          rw [List.drop_zero, ← List.isPrefixOf_iff_prefix] at missed
          have later := ih found fun earlier before => first (earlier + 1) (Nat.succ_lt_succ before)
          rw [countOccurrences, if_neg missed, later, Nat.succ_add place, List.drop_succ_cons]

end Counting

namespace Pattern

variable {program : Program} {literal : List Char} {text : Array Char} {place : Nat}

/-- The matches are the occurrences that are found from left to right. -/
theorem Spells.length_spansFrom (spells : Spells program literal) (filled : literal ≠ [])
    {fuel : Nat} {last : Option Nat} (inside : place ≤ text.size)
    (enough : text.size - place < fuel) :
    (spansFrom program text fuel place last).length =
      countOccurrences literal (text.toList.drop place) := by
  have long : 0 < literal.length := List.length_pos_iff.mpr filled
  induction fuel generalizing place last with
  | zero => exact absurd enough (Nat.not_lt_zero _)
  | succ fuel ih =>
      have first := spells.search?_first filled inside
      rw [spansFrom]
      cases found : search? program text place with
      | none =>
          rw [found] at first
          refine (countOccurrences_eq_zero fun later occurs => ?_).symm
          rw [List.drop_drop] at occurs
          exact first _ (Nat.le_add_right place later) occurs
      | some span =>
          rw [found] at first
          obtain ⟨low, stop, occurs, missed⟩ := first
          obtain ⟨before, start⟩ := Nat.exists_eq_add_of_le low
          have within := end_le_of_occurs filled occurs
          have rest : (spansFrom program text fuel span.stop (some span.stop)).length =
              countOccurrences literal (text.toList.drop span.stop) := ih (by omega) (by omega)
          have here : literal <+: (text.toList.drop place).drop before := by
            rwa [List.drop_drop, ← start]
          -- A match of a literal is not empty, so the next search begins further on.
          have count := countOccurrences_of_first filled here fun earlier sooner => by
            rw [List.drop_drop]
            exact missed _ (Nat.le_add_right place earlier) (by omega)
          rw [List.drop_drop, ← Nat.add_assoc, ← start, ← stop, ← rest] at count
          dsimp only
          rw [if_neg (by omega), List.length_cons, count, Nat.add_comm]

theorem Spells.count_eq {pattern : Pattern} (spells : Spells pattern.program literal)
    (filled : literal ≠ []) (text : String) :
    pattern.count text = countOccurrences literal text.toList := by
  rw [count, spans, spells.length_spansFrom filled (Nat.zero_le _) (by omega), List.drop_zero]

theorem Spells.isMatch_eq {pattern : Pattern} (spells : Spells pattern.program literal)
    (filled : literal ≠ []) (text : String) :
    pattern.isMatch text = occurs literal text.toList := by
  rw [Bool.eq_iff_iff, isMatch_iff_count, spells.count_eq filled, occurs_iff_count]

end Pattern

namespace CompiledMatcher

variable {text : String} {regex flags : Option String}

theorem compile_contains_of_long
    (long : Pattern.sizeLimit < Pattern.literalSize text) :
    compile ⟨some text, regex, flags⟩ = .error (.invalidRegex (.tooLarge Pattern.sizeLimit)) :=
  if_pos long

theorem compile_contains (short : Pattern.literalSize text ≤ Pattern.sizeLimit) :
    compile ⟨some text, regex, flags⟩ =
      .ok ⟨.literal text.toList, Matcher.describe ⟨some text, regex, flags⟩⟩ :=
  if_neg (Nat.not_lt.mpr short)

end CompiledMatcher

/-- A literal is found where it stands, and counted as often as it can be chosen without overlap. It
is too long for a matcher if its quoted text is for an expression; else the expression finds it in
the same places. How large a text is is an estimate, as `Pattern.literalSize` says; what holds on
either side of the limit does not depend on where it lies. -/
theorem literal_matches_as_quoted (text : String) (filled : text ≠ "") (regex flags : Option String) :
    let outcome := CompiledMatcher.compile ⟨some text, regex, flags⟩
    let quoted := Pattern.compile {} (String.ofList (Pattern.quote text.toList))
    (∀ compiled, outcome = .ok compiled → ∀ haystack : String,
      (compiled.isMatch haystack = true ↔ text.toList <:+: haystack.toList) ∧
      IsGreatest {count | ∃ places, Occurrences text.toList haystack.toList places ∧
        places.card = count} (compiled.count haystack)) ∧
    (Pattern.literalSize text ≤ Pattern.sizeLimit →
      ∃ compiled pattern, outcome = .ok compiled ∧ quoted = .ok pattern ∧
        ∀ haystack : String, compiled.isMatch haystack = pattern.isMatch haystack ∧
          compiled.count haystack = pattern.count haystack) ∧
    (Pattern.sizeLimit < Pattern.literalSize text →
      outcome = .error (.invalidRegex (.tooLarge Pattern.sizeLimit)) ∧
        quoted = .error (.tooLarge Pattern.sizeLimit)) := by
  intro outcome quoted
  have filled : text.toList ≠ [] := by simpa using filled
  refine ⟨fun compiled made haystack => ?_, fun short => ?_, fun long => ?_⟩
  · rcases Nat.lt_or_ge Pattern.sizeLimit (Pattern.literalSize text) with long | short
    · cases (CompiledMatcher.compile_contains_of_long long).symm.trans made
    · cases (CompiledMatcher.compile_contains short).symm.trans made
      exact ⟨occurs_iff_isInfix _ _, countOccurrences_isGreatest filled _⟩
  · obtain ⟨pattern, same, spells⟩ :=
      Pattern.compile_quote filled (by rwa [String.ofList_toList])
    exact ⟨_, pattern, CompiledMatcher.compile_contains short, same, fun haystack =>
      ⟨(spells.isMatch_eq filled haystack).symm, (spells.count_eq filled haystack).symm⟩⟩
  · exact ⟨CompiledMatcher.compile_contains_of_long long,
      Pattern.compile_quote_of_long filled (by rwa [String.ofList_toList])⟩

/-- A text whose characters are special, next to an expression and flags that mean nothing. It
stands in three places, two of which share a character. -/
theorem literal_matches_as_quoted_of_dots :
    let matcher : Matcher := ⟨some "a.a", some "(", some "?"⟩
    ∃ compiled pattern, CompiledMatcher.compile matcher = .ok compiled ∧
      Pattern.compile {} "a\\.a" = .ok pattern ∧
      compiled.isMatch "a.a.ab a.a" = true ∧ compiled.isMatch "aba" = false ∧
      (∀ places, Occurrences "a.a".toList "a.a.ab a.a".toList places → places.card ≤ 2) ∧
      compiled.count "a.a.ab a.a" = 2 ∧ pattern.count "a.a.ab a.a" = 2 := by
  intro matcher
  obtain ⟨settled, regular, _⟩ := literal_matches_as_quoted "a.a" (by decide) (some "(") (some "?")
  obtain ⟨compiled, pattern, made, quoted, alike⟩ := regular (by decide)
  have quoted : Pattern.compile {} "a\\.a" = .ok pattern := quoted
  have count : compiled.count "a.a.ab a.a" = 2 := by
    cases made
    cbv
  refine ⟨compiled, pattern, made, quoted, ?_, ?_, fun places chosen => ?_, count, ?_⟩
  · exact (settled compiled made _).1.mpr (by decide)
  · rw [Bool.eq_false_iff]
    exact mt (settled compiled made _).1.mp (by decide)
  · exact count ▸ (settled compiled made _).2.2 ⟨places, chosen, rfl⟩
  · rw [← (alike _).2, count]

end TerminalScript
