import TerminalScript.Backend.Pty
import TerminalScript.Proofs.Stateful

/-!
What the operations of a terminal backend do with the session there is: a look reads its grid and
changes nothing, and what is sent reaches its process as long as that has not exited and can be
written to.
-/

namespace TerminalScript.Pty

variable {state : State} {session : Session} {α : Type}

theorem ran_current (active : state.session = some session) :
    ran current.run state = (.ok session, state) := by
  obtain ⟨_, _, _⟩ := state
  cases active
  rfl

theorem ran_grid (active : state.session = some session) :
    ran grid.run state = (.ok session.display.emulator.grid, state) :=
  ran_run_bind_ok (ran_current active) _

def notStarted : Failure :=
  .processLifecycle (.notStarted "pty process")

theorem ran_current_of_none (apart : state.session = none) :
    ran current.run state = (.error notStarted, state) := by
  obtain ⟨_, _, _⟩ := state
  cases apart
  rfl

theorem ran_send (active : state.session = some session) (bytes : List UInt8) :
    ran (send bytes).run state =
      if session.exited then (.error (.processLifecycle (.exited session.process)), state)
      else if session.stopped then (.error (.processLifecycle .writerStopped), state)
      else
        (.ok (), state.modifySession fun session =>
          { session with received := session.received ++ bytes }) := by
  rw [send, ran_run_bind_ok (ran_current active)]
  cases session.exited <;> cases session.stopped <;> rfl

end TerminalScript.Pty
