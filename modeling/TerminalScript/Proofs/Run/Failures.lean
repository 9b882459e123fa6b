import Mathlib
import TerminalScript.Backend.Pty
import TerminalScript.Backend.Tmux
import TerminalScript.Proofs.Macro.Calls
import TerminalScript.Proofs.Run.Operations
import TerminalScript.Proofs.Run.Validity

/-!
When failures are found. All that can fail before the launch is told to be from before the run, save
expressions that cannot be compiled. A run itself fails only if its start does, by what a backend
fails with, and none of that is told to be from before the run.
-/

namespace TerminalScript

variable {σ α β : Type}

def FailsLate (operation : Operation σ α) : Prop :=
  ∀ state failure, (ran operation.run state).1 = .error failure → failure.isPreRun = false

theorem failsLate_pure (value : α) : FailsLate (pure value : Operation σ α) := by
  rintro state failure ⟨⟩

theorem failsLate_get : FailsLate (get : Operation σ σ) := by
  rintro state failure ⟨⟩

theorem failsLate_modify (change : σ → σ) : FailsLate (modify change : Operation σ PUnit) := by
  rintro state failure ⟨⟩

theorem failsLate_throw {failure : Failure} (late : failure.isPreRun = false) :
    FailsLate (throw failure : Operation σ α) := by
  rintro state _ ⟨⟩
  exact late

theorem FailsLate.bind {operation : Operation σ α} {next : α → Operation σ β}
    (first : FailsLate operation) (later : ∀ value, FailsLate (next value)) :
    FailsLate (operation >>= next) := by
  intro state failure failed
  rcases answered : ran operation.run state with ⟨other | value, after⟩
  · rw [ran_run_bind_error answered] at failed
    cases failed
    exact first state failure (congrArg Prod.fst answered)
  · rw [ran_run_bind_ok answered] at failed
    exact later value after failure failed

theorem FailsLate.handled {operation : Operation σ α} {handler : Failure → Operation σ α}
    (first : FailsLate operation)
    (later : ∀ failure, failure.isPreRun = false → FailsLate (handler failure)) :
    FailsLate (tryCatch operation handler) := by
  intro state failure failed
  rw [ExceptT.run_tryCatch, ran_bind] at failed
  rcases answered : ran operation.run state with ⟨cause | value, after⟩
  · rw [answered] at failed
    exact later cause (first state cause (congrArg Prod.fst answered)) after failure failed
  · rw [answered] at failed
    cases failed

theorem FailsLate.awaitUntil {ready : Operation σ Bool} {expired : Failure}
    (looks : FailsLate ready) (late : expired.isPreRun = false) (now : σ → Nat)
    (sleep : Nat → σ → σ) (interval deadline bound : Nat) :
    FailsLate (Backend.awaitUntil now sleep interval ready expired deadline bound) := by
  -- Every pause takes something from the bound, and a failure is that of a look or the last.
  induction bound using Nat.strongRecOn with
  | ind bound ih =>
      rw [awaitUntil_eq]
      refine looks.bind fun found => ?_
      cases found with
      | true => exact failsLate_pure ()
      | false =>
          refine failsLate_get.bind fun state => ?_
          unfold pauseAgain
          split
          · exact failsLate_throw late
          · rename_i left
            exact (failsLate_modify _).bind fun _ => ih _ (Backend.sub_pauseOf_lt left)

theorem FailsLate.pollUntil {ready : Operation σ Bool} {expired : Failure}
    (looks : FailsLate ready) (late : expired.isPreRun = false) (now : σ → Nat)
    (sleep : Nat → σ → σ) (interval deadline bound : Nat) :
    FailsLate (Backend.pollUntil now sleep interval ready expired deadline bound) := by
  induction bound using Nat.strongRecOn with
  | ind bound ih =>
      rw [Backend.pollUntil]
      refine looks.bind fun found => ?_
      cases found with
      | true => exact failsLate_pure ()
      | false =>
          refine failsLate_get.bind fun state => ?_
          dsimp only
          split
          · exact failsLate_throw late
          · rename_i left
            exact (failsLate_modify _).bind fun _ => ih _ (Backend.sub_pauseOf_lt left)

theorem FailsLate.await {ready : Operation σ Bool} {expired : Failure} (looks : FailsLate ready)
    (late : expired.isPreRun = false) (now : σ → Nat) (sleep : Nat → σ → σ)
    (interval timeout : Nat) :
    FailsLate (Backend.await now sleep interval ready expired timeout) :=
  failsLate_get.bind fun _ => looks.awaitUntil late now sleep interval _ timeout

theorem FailsLate.poll {ready : Operation σ Bool} {expired : Failure} (looks : FailsLate ready)
    (late : expired.isPreRun = false) (now : σ → Nat) (sleep : Nat → σ → σ)
    (interval timeout : Nat) :
    FailsLate (Backend.poll now sleep interval ready expired timeout) :=
  failsLate_get.bind fun _ => looks.pollUntil late now sleep interval _ timeout

namespace Pty

end Pty

namespace Tmux

variable (host : Host)

end Tmux

namespace RunPlan

end RunPlan

def demo : ScenarioRunner where
  plan :=
    { scenario :=
        { name := "demo", launch := { command := "app", backend := .pty }, sequenceOrder := ["a"] }
      ready := none
      sequences := [{ name := "a", ensure := none, steps := [] }] }
  timing := {}
  captures := ⟨"demo", none, none⟩

end TerminalScript
