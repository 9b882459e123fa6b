import TerminalScript.Stability

/-!
What a tracker tells of samples. Samples with the same digest one after another form a run; the
tracker holds the digest of the run that goes on and the time of its first sample, so a change back
to what was there before begins a new run.
-/

namespace TerminalScript.StabilityTracker

def after (hashes : Nat → String) (times : Nat → Nat) : Nat → StabilityTracker
  | 0 => {}
  | count + 1 => ((after hashes times count).observeHash (hashes count) (times count)).2

def runStart (hashes : Nat → String) : Nat → Nat
  | 0 => 0
  | count + 1 => if hashes count = hashes (count + 1) then runStart hashes count else count + 1

variable {hashes : Nat → String} {times : Nat → Nat} {first index count : Nat}

theorem runStart_le (hashes : Nat → String) (count : Nat) : runStart hashes count ≤ count := by
  induction count with
  | zero => exact Nat.le_refl _
  | succ count ih =>
      rw [runStart]
      split <;> omega

theorem eq_of_runStart_le (later : runStart hashes count ≤ index) (within : index ≤ count) :
    hashes index = hashes count := by
  induction count with
  | zero => rw [Nat.le_zero.mp within]
  | succ count ih =>
      rw [runStart] at later
      by_cases last : index = count + 1
      · rw [last]
      · split at later
        · rename_i same
          exact (ih later (by omega)).trans same
        · omega

theorem runStart_le_of_eq (below : first ≤ count)
    (same : ∀ index, first ≤ index → index ≤ count → hashes index = hashes count) :
    runStart hashes count ≤ first := by
  induction count with
  | zero => exact Nat.zero_le _
  | succ count ih =>
      by_cases last : first = count + 1
      · exact last ▸ runStart_le _ _
      · have previous := same count (by omega) (Nat.le_succ _)
        rw [runStart, if_pos previous]
        exact ih (by omega) fun index later within =>
          (same index later (Nat.le_succ_of_le within)).trans previous.symm

theorem last_after (hashes : Nat → String) (times : Nat → Nat) (count : Nat) :
    (after hashes times (count + 1)).last =
      some (hashes count, times (runStart hashes count)) := by
  induction count with
  | zero => rfl
  | succ count ih =>
      rw [after, observeHash, ih, runStart]
      dsimp only
      split
      · rename_i same
        rw [ih, same]
      · rfl

/-- A sample is told how long ago its run began. -/
theorem unchanged_after (hashes : Nat → String) (times : Nat → Nat) (count : Nat) :
    ((after hashes times count).observeHash (hashes count) (times count)).1 =
      times count - times (runStart hashes count) := by
  cases count with
  | zero => simp [after, observeHash, runStart]
  | succ count =>
      rw [observeHash, last_after, runStart]
      dsimp only
      split
      · rfl
      · rw [Nat.sub_self]

end TerminalScript.StabilityTracker
