import TerminalScript.Backend.Tmux
import Mathlib.Data.Nat.Digits.Defs

/-!
Names of sessions. The last part of a name has always the same length and the part before it is the
number of the launch in digits, so names of different launches differ, whatever else is in them.
-/

namespace TerminalScript.Tmux

theorem eq_of_append_separator {first second tail other : List Char} {separator : Char}
    (same : first ++ separator :: tail = second ++ separator :: other)
    (plain : separator ∉ tail) (plain' : separator ∉ other) : tail = other := by
  rcases List.append_eq_append_iff.mp same with ⟨between, _, rest⟩ | ⟨between, _, rest⟩
  · cases between with
    | nil => exact (List.cons.inj rest).2
    | cons c between =>
        obtain ⟨_, rfl⟩ := List.cons.inj rest
        exact absurd (by simp) plain
  · cases between with
    | nil => exact (List.cons.inj rest).2.symm
    | cons c between =>
        obtain ⟨_, rfl⟩ := List.cons.inj rest
        exact absurd (by simp) plain'

theorem length_hexSuffix (number : Nat) : (hexSuffix number).toList.length = 8 := by
  have bounded : (Nat.toDigits 16 (number % UInt32.size)).length ≤ 8 :=
    Nat.toDigits_length 16 _ 8 (by decide) (Nat.mod_lt _ (by decide))
  rw [hexSuffix, String.toList_ofList, List.length_append, List.length_replicate]
  omega

/-- Names with the same stem are those of the same launch. -/
theorem launch_of_sessionName {stem : String} {clock launch random clock' launch' random' : Nat}
    (same : sessionName stem clock launch random = sessionName stem clock' launch' random') :
    launch = launch' := by
  have chars := congrArg String.toList same
  simp only [sessionName, String.toList_append, String.toList_ofList,
    Nat.toString_eq_ofList_toDigits] at chars
  obtain ⟨heads, _⟩ := List.append_inj' chars (by rw [length_hexSuffix, length_hexSuffix])
  obtain ⟨heads, _⟩ := List.append_inj' heads rfl
  rw [List.append_assoc _ "_".toList (Nat.toDigits 10 launch),
    List.append_assoc _ "_".toList (Nat.toDigits 10 launch')] at heads
  have digits : Nat.toDigits 10 launch = Nat.toDigits 10 launch' :=
    eq_of_append_separator heads Nat.underscore_not_in_toDigits Nat.underscore_not_in_toDigits
  calc
    launch = Nat.ofDigitChars 10 (Nat.toDigits 10 launch) 0 := Nat.ofDigitChars_ten_toDigits.symm
    _ = Nat.ofDigitChars 10 (Nat.toDigits 10 launch') 0 := by rw [digits]
    _ = launch' := Nat.ofDigitChars_ten_toDigits

end TerminalScript.Tmux
