import TerminalScript.Interpreter

/-!
Programs that act on a state: what they answer and what they leave. A program that may fail keeps
the state of its failure, so what comes after a failure is skipped and not undone.
-/

namespace TerminalScript

variable {S α β : Type}

def ran (program : StateM S α) (state : S) : α × S :=
  (program.run state).run

@[simp] theorem ran_pure (value : α) (state : S) :
    ran (pure value : StateM S α) state = (value, state) := rfl

@[simp] theorem ran_get (state : S) : ran (get : StateM S S) state = (state, state) := rfl

@[simp] theorem ran_modify (change : S → S) (state : S) :
    ran (modify change : StateM S PUnit) state = (⟨⟩, change state) := rfl

theorem ran_bind (program : StateM S α) (next : α → StateM S β) (state : S) :
    ran (program >>= next) state = ran (next (ran program state).1) (ran program state).2 := rfl

theorem ran_map (change : α → β) (program : StateM S α) (state : S) :
    ran (change <$> program) state = (change (ran program state).1, (ran program state).2) := rfl

theorem ran_run_bind (program : ExceptT Failure (StateM S) α)
    (next : α → ExceptT Failure (StateM S) β) (state : S) :
    ran (program >>= next).run state =
      match ran program.run state with
      | (.ok value, after) => ran (next value).run after
      | (.error failure, after) => (.error failure, after) := by
  rw [ExceptT.run_bind, ran_bind]
  rcases ran program.run state with ⟨answer, after⟩
  cases answer <;> rfl

theorem ran_run_bind_ok {program : ExceptT Failure (StateM S) α} {state after : S} {value : α}
    (answered : ran program.run state = (.ok value, after))
    (next : α → ExceptT Failure (StateM S) β) :
    ran (program >>= next).run state = ran (next value).run after := by
  rw [ran_run_bind, answered]

theorem ran_run_bind_error {program : ExceptT Failure (StateM S) α} {state after : S}
    {failure : Failure} (failed : ran program.run state = (.error failure, after))
    (next : α → ExceptT Failure (StateM S) β) :
    ran (program >>= next).run state = (.error failure, after) := by
  rw [ran_run_bind, failed]

theorem ran_perform {σ : Type} (operation : Operation σ α) (stage : Stage σ) :
    ran (Interpreter.perform operation).run stage =
      ((ran operation.run stage.backend).1,
        { stage with backend := (ran operation.run stage.backend).2 }) := rfl

theorem ran_writeCapture {σ : Type} (interpreter : Interpreter σ) (directory label : String)
    (format : CaptureFormat) (snapshot : Snapshot) (stage : Stage σ) :
    ran (interpreter.writeCapture directory label format snapshot).run stage =
      match interpreter.captures.write directory interpreter.sequence label format snapshot
          stage.files with
      | .ok (path, files) =>
          (.ok (), { stage with files, artifacts := stage.artifacts ++ [path] })
      | .error error =>
          (.error (.file error), { stage with files := stage.files.withDirectories directory }) := by
  have read : ran (get : Act σ (Stage σ)).run stage = (.ok stage, stage) := rfl
  rw [Interpreter.writeCapture, ran_run_bind_ok read]
  rcases interpreter.captures.write directory interpreter.sequence label format snapshot
    stage.files with error | written <;> rfl

end TerminalScript
