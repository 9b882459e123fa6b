import Mathlib.Data.List.DropRight
import TerminalScript.Proofs.Matcher.Counting
import TerminalScript.Proofs.Terminal.Session

/-!
The screen as the end of the scrollback. Blank lines at the end are left out of both, of the screen
for itself and of the scrollback once the screen stands under the history. Both end with the same
line unless all of the screen is blank, so what the screen shows is shown by as many lines of the
scrollback.
-/

namespace TerminalScript

namespace Terminal.Grid

structure Trimmed (lines shown : List (List Char)) : Prop where
  blanks : ∃ blanks, lines = shown ++ blanks ∧ ∀ line ∈ blanks, line = []
  last : shown.getLast? ≠ some []

variable (lines : List (List Char)) (grid : Grid)

theorem trimLines_eq : trimLines lines = lines.rdropWhile (·.isEmpty) := rfl

theorem trimLines_trimmed : Trimmed lines (trimLines lines) where
  blanks := by
    refine ⟨lines.rtakeWhile (·.isEmpty), List.rdropWhile_append_rtakeWhile.symm, ?_⟩
    intro line member
    simpa using List.mem_rtakeWhile_imp member
  last := by
    intro blank
    have nonempty : lines.rdropWhile (·.isEmpty) ≠ [] := by
      intro empty
      rw [trimLines_eq, empty] at blank
      cases blank
    rw [trimLines_eq, List.getLast?_eq_some_getLast nonempty, Option.some.injEq] at blank
    exact List.rdropWhile_last_not _ _ nonempty (by rw [blank]; rfl)

/-- Lines that are not all blank keep all that stands before them. -/
theorem trimLines_append (front : List (List Char)) (shown : trimLines lines ≠ []) :
    trimLines (front ++ lines) = front ++ trimLines lines := by
  have dropped : (lines.reverse.dropWhile (·.isEmpty)).isEmpty = false := by
    simpa [trimLines] using shown
  rw [trimLines, List.reverse_append, List.dropWhile_append, dropped]
  simp [trimLines]

theorem screenLines_suffix_allLines : grid.screenLines <:+ grid.allLines := by
  by_cases blank : grid.screenLines = []
  · exact blank ▸ List.nil_suffix
  · rw [allLines, rows, List.map_append]
    exact ⟨_, (trimLines_append _ _ blank).symm⟩

theorem length_screenLines_le : grid.screenLines.length ≤ grid.lines := by
  have shorter := (List.rdropWhile_prefix (·.isEmpty) (grid.screen.toList.map Row.text)).length_le
  rwa [List.length_map, Array.length_toList] at shorter

theorem lastLines_suffix (count : Nat) : grid.lastLines count <:+ grid.allLines :=
  List.drop_suffix _ _

theorem length_lastLines (count : Nat) :
    (grid.lastLines count).length = min count grid.allLines.length := by
  rw [lastLines, List.length_drop]
  omega

variable {lines grid}

/-- Of two ends of the scrollback the longer one ends with the other. -/
theorem suffix_lastLines {count : Nat} (ends : lines <:+ grid.allLines)
    (short : lines.length ≤ count) : lines <:+ grid.lastLines count := by
  refine List.suffix_of_suffix_length_le ends (grid.lastLines_suffix count) ?_
  rw [length_lastLines]
  exact Nat.le_min.mpr ⟨short, ends.length_le⟩

theorem toList_joinLines_cons (line : List Char) (shown : lines ≠ []) :
    (joinLines (line :: lines)).toList = line ++ '\n' :: (joinLines lines).toList := by
  cases lines with
  | nil => exact absurd rfl shown
  | cons first rest => simp [joinLines, Json.separated]

theorem joinLines_suffix {longer : List (List Char)} (ends : lines <:+ longer) :
    (joinLines lines).toList <:+ (joinLines longer).toList := by
  obtain ⟨front, rfl⟩ := ends
  by_cases blank : lines = []
  · exact blank ▸ List.nil_suffix
  · induction front with
    | nil => exact List.suffix_refl _
    | cons line front ih =>
        have shown : front ++ lines ≠ [] := List.append_ne_nil_of_right_ne_nil _ blank
        rw [List.cons_append, toList_joinLines_cons line shown]
        exact ih.trans ((List.suffix_cons _ _).trans (List.suffix_append _ _))

end Terminal.Grid

namespace Pty

open Terminal Terminal.Grid

/-- The scrollback is history and screen without the blank lines at their end, and a capture takes
as many of its last lines as it is asked for, so a shorter one ends a longer one. What is captured
of the screen ends every capture of at least as many lines as the screen has, and what is found on
the screen is found there too. -/
theorem scrollback_last_rows (options : BackendOptions) (refusal : Refusal) (machine : Machine)
    (state : State) (session : Session) (active : state.session = some session) :
    let grid := session.display.emulator.grid
    let screen := ran (backend options refusal machine).captureScreen.run state
    let scrollback count :=
      ran ((backend options refusal machine).captureScrollback count).run state
    Trimmed (grid.rows.map Row.text) grid.allLines ∧
    Trimmed (grid.screen.toList.map Row.text) grid.screenLines ∧
    screen = (.ok (joinLines grid.screenLines), state) ∧
    (∀ count, scrollback count = (.ok (joinLines (grid.lastLines count)), state) ∧
      grid.lastLines count <:+ grid.allLines ∧
      (grid.lastLines count).length = min count grid.allLines.length) ∧
    (∀ fewer more, fewer ≤ more → grid.lastLines fewer <:+ grid.lastLines more) ∧
    ∀ count, grid.lines ≤ count →
      grid.screenLines <:+ grid.lastLines count ∧
      (∀ text, text <:+: (joinLines grid.screenLines).toList →
        text <:+: (joinLines (grid.lastLines count)).toList) ∧
      ∀ matcher : CompiledMatcher, ∀ literal, matcher.condition = .literal literal →
        matcher.isMatch (joinLines grid.screenLines) = true →
        matcher.isMatch (joinLines (grid.lastLines count)) = true := by
  intro grid screen scrollback
  have captured : screen = (.ok (joinLines grid.screenLines), state) :=
    ran_run_bind_ok (ran_grid active) _
  refine ⟨trimLines_trimmed _, trimLines_trimmed _, captured, fun count => ?_, ?_, ?_⟩
  · exact ⟨ran_run_bind_ok (ran_grid active) _, grid.lastLines_suffix count,
      grid.length_lastLines count⟩
  · intro fewer more order
    refine suffix_lastLines (grid.lastLines_suffix fewer) ?_
    rw [length_lastLines]
    omega
  · intro count enough
    have ends : grid.screenLines <:+ grid.lastLines count :=
      suffix_lastLines grid.screenLines_suffix_allLines (grid.length_screenLines_le.trans enough)
    have inside := (joinLines_suffix ends).isInfix
    refine ⟨ends, fun text found => found.trans inside, ?_⟩
    intro matcher literal form found
    rw [CompiledMatcher.isMatch, form] at found ⊢
    exact (occurs_iff_isInfix _ _).mpr (((occurs_iff_isInfix _ _).mp found).trans inside)

def log : Session :=
  (Session.start { cols := 10, rows := 2 } 1000).print (Text.encode "one\r\n\r\n\r\ntwo")

theorem scrollback_last_rows_of_log :
    let state : State := { session := some log }
    let grid := log.display.emulator.grid
    state.session = some log ∧ grid.lines ≤ 3 ∧ grid.screenLines <:+ grid.lastLines 3 ∧
      grid.screenLines = [[], "two".toList] ∧
      grid.allLines = ["one".toList, [], [], "two".toList] ∧
      ran ((backend {} fun _ => none).captureScrollback 3).run state = (.ok "\n\ntwo", state) := by
  intro state grid
  have enough : grid.lines ≤ 3 := by decide +kernel
  obtain ⟨_, _, _, captured, _, within⟩ := scrollback_last_rows {} (fun _ => none) {} state log rfl
  have shown : joinLines (grid.lastLines 3) = "\n\ntwo" := by decide +kernel
  exact ⟨rfl, enough, (within 3 enough).1, by decide +kernel, by decide +kernel,
    shown ▸ (captured 3).1⟩

end Pty

end TerminalScript
