import Mathlib.Logic.Basic
import TerminalScript.Matcher.Compiled

/-!
Whether a matcher matches and how often it does. The two are found in different ways, and agree on
every text: what matches is counted at least once.
-/

namespace TerminalScript

theorem occurs_iff_isInfix (literal text : List Char) :
    occurs literal text = true ↔ literal <:+: text := by
  induction text with
  | nil => simp [occurs]
  | cons c rest ih =>
      rw [occurs, Bool.or_eq_true, List.isPrefixOf_iff_prefix, ih, List.infix_cons_iff]

theorem occurs_iff_count (literal text : List Char) :
    occurs literal text = true ↔ 1 ≤ countOccurrences literal text := by
  fun_induction countOccurrences literal text with
  | case1 empty => simp [occurs, empty]
  | case2 filled => simp [occurs, filled]
  | case3 c rest found ih =>
      rw [occurs, found]
      simp
  | case4 c rest missed ih =>
      rw [occurs, ← ih]
      simp [missed]

namespace Pattern

/-- The first match is counted, be it empty or not: there is none before it that it could touch. -/
theorem spansFrom_first (program : Program) (text : Array Char) (fuel place : Nat) :
    1 ≤ (spansFrom program text (fuel + 1) place none).length ↔
      (search? program text place).isSome = true := by
  rw [spansFrom]
  cases found : search? program text place with
  | none => simp
  | some span => simp

theorem isMatch_iff_count (pattern : Pattern) (text : String) :
    pattern.isMatch text = true ↔ 1 ≤ pattern.count text := by
  rw [isMatch, count, spans, spansFrom_first]

end Pattern

theorem CompiledMatcher.isMatch_iff_count (matcher : CompiledMatcher) (text : String) :
    matcher.isMatch text = true ↔ 1 ≤ matcher.count text := by
  obtain ⟨condition, description⟩ := matcher
  cases condition with
  | literal chars => exact occurs_iff_count chars text.toList
  | pattern compiled => exact compiled.isMatch_iff_count text

@[simp] theorem failBound_ne_ok (bound : CountBound) (description : String) (found : Nat) :
    failBound bound description found ≠ .ok () := by
  simp [failBound]

@[simp] theorem failBound_bind_ne_ok (bound : CountBound) (description : String) (found : Nat)
    (rest : Unit → Outcome Unit) : failBound bound description found >>= rest ≠ .ok () := by
  simp [failBound, bind, Except.bind]

/-- A count passes the check if it keeps to all the bounds that there are. -/
theorem checkCount_ok_iff (found : Nat) (equals atLeast atMost : Option UInt64)
    (description : String) :
    checkCount found equals atLeast atMost description = .ok () ↔
      (∀ expected ∈ equals, found = expected.toNat) ∧ (∀ least ∈ atLeast, least.toNat ≤ found) ∧
        ∀ most ∈ atMost, found ≤ most.toNat := by
  cases equals <;> cases atLeast <;> cases atMost <;>
    simp [checkCount, pure, Except.pure, ite_eq_iff]

end TerminalScript
