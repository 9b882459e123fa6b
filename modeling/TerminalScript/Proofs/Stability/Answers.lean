import Mathlib.Data.List.Range
import TerminalScript.Proofs.Stability

/-!
What a tracker answers to a list of samples. Each answer is the time since the first sample of the
run that goes on, or nothing if the clock has been set back behind it. A sample that differs from
the one before it begins a run of its own, also if its digest was seen before that.
-/

namespace TerminalScript.StabilityTracker

def observeAll (tracker : StabilityTracker) : List (String × Nat) → List Nat
  | [] => []
  | (hash, time) :: rest =>
      let (unchanged, tracker) := tracker.observeHash hash time
      unchanged :: tracker.observeAll rest

def Changes (samples : List (String × Nat)) (place : Fin samples.length) : Prop :=
  ∀ before : Fin samples.length, before.val + 1 = place.val → samples[before].1 ≠ samples[place].1

/-- The run that has come to one sample begins with another: between them nothing changes, and the
run cannot have begun earlier. -/
structure BeginsRun (samples : List (String × Nat)) (first last : Fin samples.length) : Prop where
  within : first ≤ last
  same : ∀ place, first ≤ place → place ≤ last → samples[place].1 = samples[last].1
  changes : Changes samples first

def digests (samples : List (String × Nat)) (place : Nat) : String :=
  (samples.getD place default).1

def moments (samples : List (String × Nat)) (place : Nat) : Nat :=
  (samples.getD place default).2

variable {samples : List (String × Nat)} {first last : Fin samples.length}

theorem digests_eq (place : Fin samples.length) : digests samples place = samples[place].1 := by
  simp [digests]

theorem moments_eq (place : Fin samples.length) : moments samples place = samples[place].2 := by
  simp [moments]

theorem observeAll_after (hashes : Nat → String) (times : Nat → Nat) (samples : List (String × Nat))
    (count : Nat)
    (listed : ∀ place, (bound : place < samples.length) →
      samples[place] = (hashes (count + place), times (count + place))) :
    (after hashes times count).observeAll samples =
      (List.range' count samples.length).map fun place =>
        times place - times (runStart hashes place) := by
  induction samples generalizing count with
  | nil => rfl
  | cons sample rest ih =>
      have head : sample = (hashes count, times count) := listed 0 (Nat.succ_pos _)
      have tail := ih (count + 1) fun place bound => by
        have next := listed (place + 1) (Nat.succ_lt_succ bound)
        rw [List.getElem_cons_succ] at next
        rw [next, Nat.add_assoc, Nat.add_comm 1 place]
      subst head
      rw [List.length_cons, List.range'_succ, List.map_cons, ← tail, ← unchanged_after]
      rfl

theorem observeAll_eq (samples : List (String × Nat)) :
    observeAll {} samples = (List.range samples.length).map fun place =>
      moments samples place - moments samples (runStart (digests samples) place) := by
  rw [List.range_eq_range']
  refine observeAll_after (digests samples) (moments samples) samples 0 fun place bound => ?_
  simp [digests, moments, bound]

theorem BeginsRun.eq_runStart (run : BeginsRun samples first last) :
    first.val = runStart (digests samples) last := by
  have within : first.val ≤ last.val := run.within
  have least : runStart (digests samples) last ≤ first := by
    refine runStart_le_of_eq within fun index later before => ?_
    have bound : index < samples.length := Nat.lt_of_le_of_lt before last.isLt
    rw [digests_eq ⟨index, bound⟩, digests_eq last]
    exact run.same ⟨index, bound⟩ later before
  -- Otherwise the sample before the first is in the run as well.
  by_contra other
  have bound : first.val - 1 < samples.length := by omega
  have differs := run.changes ⟨first.val - 1, bound⟩ (by simp only; omega)
  rw [run.same first (Nat.le_refl _) run.within, ← digests_eq, ← digests_eq] at differs
  exact differs (eq_of_runStart_le (by simp only; omega) (by simp only; omega))

theorem beginsRun_of_eq (start : first.val = runStart (digests samples) last) :
    BeginsRun samples first last := by
  have within : first ≤ last := Fin.le_def.mpr (start ▸ runStart_le _ _)
  have same : ∀ place, first ≤ place → place ≤ last → samples[place].1 = samples[last].1 := by
    intro place later before
    rw [← digests_eq, ← digests_eq]
    exact eq_of_runStart_le (start ▸ later) before
  refine ⟨within, same, ?_⟩
  intro before next unchanged
  rw [same first (Nat.le_refl _) within, ← digests_eq, ← digests_eq] at unchanged
  have longer : runStart (digests samples) last ≤ before := by
    refine runStart_le_of_eq (by omega) fun index later within => ?_
    by_cases here : index = before
    · rw [here, unchanged]
    · exact eq_of_runStart_le (by omega) within
  omega

theorem Changes.beginsRun (changes : Changes samples last) : BeginsRun samples last last where
  within := Nat.le_refl _
  same place later before := by rw [Fin.le_antisymm before later]
  changes := changes

/-- There is an answer to each sample: the time since the first sample of its run, which there is
just one of, and zero if that was seen at a later time. It is zero at every change. -/
theorem observeAll_since_run_start (samples : List (String × Nat)) :
    (observeAll {} samples).length = samples.length ∧
    ∀ last : Fin samples.length, ∃ first unchanged,
      BeginsRun samples first last ∧ (∀ other, BeginsRun samples other last → other = first) ∧
      (observeAll {} samples)[last.val]? = some unchanged ∧
      (unchanged : Int) = max 0 ((samples[last].2 : Int) - samples[first].2) ∧
      (Changes samples last → unchanged = 0) := by
  rw [observeAll_eq]
  refine ⟨by simp, fun last => ?_⟩
  let first : Fin samples.length :=
    ⟨runStart (digests samples) last, Nat.lt_of_le_of_lt (runStart_le _ _) last.isLt⟩
  have only : ∀ other, BeginsRun samples other last → other = first := by
    intro other begins
    exact Fin.ext begins.eq_runStart
  refine ⟨first, samples[last].2 - samples[first].2, beginsRun_of_eq rfl, only, ?_, ?_, ?_⟩
  · have answered : moments samples last - moments samples first =
        samples[last].2 - samples[first].2 := by rw [moments_eq, moments_eq]
    simpa using answered
  · omega
  · intro changes
    rw [← only last changes.beginsRun, Nat.sub_self]

/-- The content changes back, and then the clock is set back. -/
example :
    observeAll {} [("a", 5), ("b", 7), ("b", 9), ("a", 12), ("a", 4), ("a", 15)] =
      [0, 0, 2, 0, 0, 3] := by
  decide

end TerminalScript.StabilityTracker
