import TerminalScript.Proofs.Multiplexer.Driving

/-!
What comes of each request. A launch opens a session of its own and closes it again if it fails,
destroying closes the session there is, and all else only uses it.
-/

namespace TerminalScript.Tmux

variable {host : Host} {options : BackendOptions} {state : State}

def launchName (host : Host) (options : BackendOptions) (number : Nat) : String :=
  sessionName options.sessionPrefix (host.clock number) number (host.draw number)

theorem ran_succeeds (host : Host) (args : List String) (state : State) :
    ran (succeeds host args).run state =
      (.ok (ran (call host args).run state).1.isOk, (ran (call host args).run state).2) := by
  rw [succeeds, ExceptT.run_tryCatch, ran_bind, ran_run_bind]
  rcases ran (call host args).run state with ⟨failure | output, after⟩ <;> rfl

theorem ran_destroy_of_none (apart : state.session = none) :
    ran (destroy host).run state = (.ok (), state) := by
  have read : ran (get : Operation State State).run state = (.ok state, state) := rfl
  rw [destroy, ran_run_bind_ok read, apart]
  rfl

theorem ran_destroy (host : Host) {session : String} (active : state.session = some session) :
    ∃ time, ran (destroy host).run state =
      (.ok (), { state with session := none, time, calls := state.calls ++ closingCalls session }) := by
  let freed : State := { state with session := none }
  have read : ran (get : Operation State State).run state = (.ok state, state) := rfl
  have cleared : ran (modify fun state => { state with session := none } :
      Operation State PUnit).run state = (.ok ⟨⟩, freed) := rfl
  have succeeded := ran_succeeds host (closing session) freed
  rw [destroy, ran_run_bind_ok read, active]
  dsimp only
  rw [ran_run_bind_ok cleared, ← closing, ran_run_bind_ok succeeded, closingCalls]
  rcases usable : argumentFault (closing session) with - | fault
  · rw [ran_call usable, if_pos rfl]
    exact ⟨_, rfl⟩
  · rw [ran_call_of_fault usable, if_neg (by simp)]
    exact ⟨state.time, by simp [freed]⟩

section

variable {command : String} {args : List String} {directory : Option String}

theorem ran_startSession_of_fault {session : String} {fault : FileError}
    (faulty : argumentFault (newSession options session command args directory) = some fault)
    (state : State) :
    ran (startSession host options session command args directory).run state =
      (.error (.file fault), state) :=
  ran_run_bind_error (ran_call_of_fault faulty state) _

/-- The session is opened first, and all else that is called to start it only uses it. -/
theorem startSession_calls (host : Host) {session : String}
    (usable : argumentFault (newSession options session command args directory) = none)
    (state : State) :
    let after := (ran (startSession host options session command args directory).run state).2
    after.session = state.session ∧ after.launched = state.launched ∧
      ∃ polls, after.calls =
          state.calls ++ newSession options session command args directory :: polls ∧
        ∀ call ∈ polls, Uses session call := by
  intro after
  let reply := host.reply state.calls (newSession options session command args directory)
  let opened : State :=
    { state with
      time := state.time + min reply.duration (callLimit * 1000)
      calls := state.calls ++ [newSession options session command args directory] }
  have ran_opening : ran (call host (newSession options session command args directory)).run state =
      (outcomeOf (newSession options session command args directory) reply, opened) :=
    ran_call usable state
  have issues : Issues (Uses session) opened after := by
    refine Leads.bind_from (congrArg Prod.snd ran_opening) fun _ =>
      (awaitSession_leads session).bind fun _ => (call_leads ⟨rfl, rfl⟩).bind fun output => ?_
    split
    · exact .of_pure _
    · exact .of_throw _
  obtain ⟨same_session, same_launched, polls, calls, uses⟩ := issues
  exact ⟨same_session, same_launched, polls, calls.trans (List.append_assoc _ _ _), uses⟩

theorem ran_launch (state : State) :
    let session := launchName host options state.launched
    ran (launch host options command args directory).run state =
      match ran (startSession host options session command args directory).run
        { state with session := some session, launched := state.launched + 1 } with
      | (.ok process, after) => (.ok process, after)
      | (.error failure, after) => (.error failure, (ran (destroy host).run after).2) := by
  intro session
  let begun : State := { state with session := some session, launched := state.launched + 1 }
  have read : ran (get : Operation State State).run state = (.ok state, state) := rfl
  have named : ran (modify fun state' : State =>
      { state' with session := some session, launched := state.launched + 1 } :
      Operation State PUnit).run state = (.ok ⟨⟩, begun) := rfl
  have started : ran (launch host options command args directory).run state =
      ran (tryCatch (startSession host options session command args directory) fun failure => do
        destroy host
        throw failure).run begun := by
    rw [launch, ran_run_bind_ok read]
    exact ran_run_bind_ok named _
  rw [started, ExceptT.run_tryCatch, ran_bind]
  rcases ran (startSession host options session command args directory).run _ with
    ⟨failure | process, after⟩
  · rcases active : after.session with - | other
    · dsimp only
      rw [ran_run_bind_ok (ran_destroy_of_none active), ran_destroy_of_none active]
      rfl
    · obtain ⟨time, destroyed⟩ := ran_destroy host active
      dsimp only
      rw [ran_run_bind_ok destroyed, destroyed]
      rfl
  · rfl

end

inductive Serves (host : Host) (options : BackendOptions) (before : State) :
    Request → Outcome Unit → State → Prop
  | launched {command : String} {args : List String} {directory : Option String}
      {polls : List (List String)} {after : State}
      (usable : argumentFault (newSession options (launchName host options before.launched)
        command args directory) = none)
      (session : after.session = some (launchName host options before.launched))
      (launched : after.launched = before.launched + 1)
      (calls : after.calls = before.calls ++
        newSession options (launchName host options before.launched) command args directory ::
          polls)
      (uses : ∀ call ∈ polls, Uses (launchName host options before.launched) call) :
      Serves host options before (.launch command args directory) (.ok ()) after
  | refused {command : String} {args : List String} {directory : Option String}
      {opening polls : List (List String)} {failure : Failure} {after : State}
      (opened : opening = [] ∨
        opening = [newSession options (launchName host options before.launched) command args
          directory] ∧
          argumentFault (newSession options (launchName host options before.launched) command args
            directory) = none)
      (session : after.session = none) (launched : after.launched = before.launched + 1)
      (calls : after.calls = before.calls ++
        (opening ++ polls ++ closingCalls (launchName host options before.launched)))
      (uses : ∀ call ∈ polls, Uses (launchName host options before.launched) call) :
      Serves host options before (.launch command args directory) (.error failure) after
  | missing {request : Request} (uses : request.usesProcess = true)
      (apart : before.session = none) :
      Serves host options before request (.error notStarted) before
  | driven {request : Request} {answer : Outcome Unit} {session : String} {after : State}
      (uses : request.usesProcess = true) (active : before.session = some session)
      (issues : Issues (Uses session) before after) :
      Serves host options before request answer after
  | idle (apart : before.session = none) : Serves host options before .destroy (.ok ()) before
  | destroyed {session : String} {after : State} (active : before.session = some session)
      (gone : after.session = none) (launched : after.launched = before.launched)
      (calls : after.calls = before.calls ++ closingCalls session) :
      Serves host options before .destroy (.ok ()) after
  | asked (process : Nat) (answer : Outcome Unit) :
      Serves host options before (.isRunning process) answer before
  | unsupported {failure : Failure} :
      Serves host options before .captureTranscript (.error failure) before

theorem serves_launch (command : String) (args : List String) (directory : Option String)
    (state : State) :
    Serves host options state (.launch command args directory)
      ((backend host options).answer state (.launch command args directory))
      ((backend host options).serve state (.launch command args directory)) := by
  let session := launchName host options state.launched
  let begun : State := { state with session := some session, launched := state.launched + 1 }
  have performed : ran ((backend host options).perform (.launch command args directory)).run state =
      ((ran (launch host options command args directory).run state).1.map fun _ => (),
        (ran (launch host options command args directory).run state).2) :=
    ran_discard _ state
  rw [Backend.answer, Backend.serve, performed, ran_launch]
  rcases usable : argumentFault (newSession options session command args directory) with - | fault
  · have started := startSession_calls host usable begun
    rcases outcome : ran (startSession host options session command args directory).run begun with
      ⟨failure | process, after⟩
    · rw [outcome] at started
      obtain ⟨active, launched, polls, calls, uses⟩ := started
      obtain ⟨_, destroyed⟩ := ran_destroy host active
      dsimp only at calls destroyed ⊢
      rw [destroyed]
      exact .refused (.inr ⟨rfl, usable⟩) rfl launched (by rw [calls, List.append_assoc]; rfl) uses
    · rw [outcome] at started
      obtain ⟨active, launched, polls, calls, uses⟩ := started
      exact .launched usable active launched calls uses
  · obtain ⟨_, destroyed⟩ : ∃ time, ran (destroy host).run begun = _ := ran_destroy host rfl
    rw [ran_startSession_of_fault usable]
    dsimp only
    rw [destroyed]
    refine .refused (.inl rfl) rfl rfl ?_ (List.forall_mem_nil _)
    rfl

/-- A probe makes no call and changes nothing, whatever comes of it. -/
theorem ran_isRunning (process : Nat) (state : State) :
    (ran (isRunning host process).run state).2 = state := by
  unfold isRunning
  cases host.probe process <;> rfl

theorem serves_perform (request : Request) (state : State) :
    Serves host options state request ((backend host options).answer state request)
      ((backend host options).serve state request) := by
  by_cases uses : request.usesProcess = true
  · have drives : Drives ((backend host options).perform request) := perform_drives uses
    rcases active : state.session with - | session
    · have missing := drives.missing state active
      rw [Backend.answer, Backend.serve, missing]
      exact .missing uses active
    · exact .driven uses active (drives.aims state session active)
  · cases request with
    | launch command args directory => exact serves_launch command args directory state
    | isRunning process =>
        have asked : ran ((backend host options).perform (.isRunning process)).run state =
            ((ran (isRunning host process).run state).1.map fun _ => (),
              (ran (isRunning host process).run state).2) := ran_discard _ state
        rw [Backend.answer, Backend.serve, asked, ran_isRunning]
        exact .asked process _
    | captureTranscript => exact .unsupported
    | destroy =>
        rcases active : state.session with - | session
        · have idle : ran ((backend host options).perform .destroy).run state = (.ok (), state) :=
            ran_destroy_of_none active
          rw [Backend.answer, Backend.serve, idle]
          exact .idle active
        · obtain ⟨time, destroyed⟩ := ran_destroy host active
          have ended : ran ((backend host options).perform .destroy).run state = _ := destroyed
          rw [Backend.answer, Backend.serve, ended]
          exact .destroyed active rfl rfl rfl
    | _ => exact absurd rfl uses

variable {request : Request} {session : String}

namespace Serves

variable {before after : State} {answer : Outcome Unit}

theorem launched_eq (served : Serves host options before request answer after) :
    after.launched = before.launched + if request.isLaunch then 1 else 0 := by
  cases served with
  | launched _ _ launched => exact launched
  | refused _ _ launched => exact launched
  | missing uses => simp [(Request.plain_of_usesProcess uses).1]
  | driven uses _ issues => simp [(Request.plain_of_usesProcess uses).1, issues.launched]
  | destroyed _ _ launched => exact launched
  | idle => rfl
  | asked => rfl
  | unsupported => rfl

/-- There is a session after a request if it was a launch that succeeded, or if there was one
before it and it was neither a launch nor the end of the session. -/
theorem session_iff (served : Serves host options before request answer after) :
    after.session = some session ↔
      (request.isLaunch = true ∧ answer = .ok () ∧
        session = launchName host options before.launched) ∨
      (request.isLaunch = false ∧ request ≠ .destroy ∧ before.session = some session) := by
  cases served with
  | launched _ active =>
      rw [active]
      simp [Request.isLaunch, eq_comm]
  | refused _ gone => simp [gone, Request.isLaunch]
  | missing uses apart => simp [apart]
  | driven uses active issues => simp [issues.session, Request.plain_of_usesProcess uses]
  | destroyed _ gone => simp [gone, Request.isLaunch]
  | idle apart => simp [apart, Request.isLaunch]
  | asked => simp [Request.isLaunch]
  | unsupported => simp [Request.isLaunch]

/-- A launch opens its session or uses it or closes it; other requests use or close the session
there is. -/
theorem calls_eq (served : Serves host options before request answer after) :
    ∃ issued, after.calls = before.calls ++ issued ∧ ∀ call ∈ issued,
      (request.isLaunch = true ∧
        mark? call = some (.opened (launchName host options before.launched))) ∨
      ∃ session, target? call = some session ∧
        if request.isLaunch then session = launchName host options before.launched
        else before.session = some session := by
  cases served with
  | launched _ _ _ calls uses =>
      refine ⟨_, calls, List.forall_mem_cons.mpr ⟨?_, ?_⟩⟩
      · exact .inl ⟨rfl, mark?_newSession ..⟩
      · exact fun call member => .inr ⟨_, (uses call member).target, rfl⟩
  | refused opened _ _ calls uses =>
      refine ⟨_, calls, List.forall_mem_append.mpr ⟨List.forall_mem_append.mpr ⟨?_, ?_⟩, ?_⟩⟩
      · rcases opened with rfl | ⟨rfl, _⟩
        · exact List.forall_mem_nil _
        · exact List.forall_mem_singleton.mpr (.inl ⟨rfl, mark?_newSession ..⟩)
      · exact fun call member => .inr ⟨_, (uses call member).target, rfl⟩
      · exact fun call member => .inr ⟨_, target?_of_mem_closingCalls member, rfl⟩
  | driven uses active issues =>
      obtain ⟨issued, calls, used⟩ := issues.calls
      refine ⟨issued, calls, fun call member => .inr ⟨_, (used call member).target, ?_⟩⟩
      rw [(Request.plain_of_usesProcess uses).1]
      exact active
  | destroyed active _ _ calls =>
      exact ⟨_, calls, fun call member => .inr ⟨_, target?_of_mem_closingCalls member, active⟩⟩
  | _ => exact ⟨[], (List.append_nil _).symm, List.forall_mem_nil _⟩

theorem story_eq_of_ne (served : Serves host options before request answer after)
    (other : request.isLaunch = true → session ≠ launchName host options before.launched) :
    story session after.calls = story session before.calls ++
      if request = .destroy ∧ before.session = some session then
        story session (closingCalls session) else [] := by
  cases served with
  | launched _ _ _ calls uses =>
      rw [calls, story_append, ← List.singleton_append, story_append, story_newSession,
        story_of_uses uses]
      simp [(other rfl).symm]
  | refused opened _ _ calls uses =>
      rw [calls, story_append, story_append, story_append, story_of_uses uses,
        story_closingCalls_of_ne (other rfl).symm]
      rcases opened with rfl | ⟨rfl, _⟩
      · simp [story]
      · simp [story_newSession, (other rfl).symm]
  | driven uses _ issues =>
      obtain ⟨issued, calls, used⟩ := issues.calls
      rw [calls, story_append, story_of_uses used]
      simp [Request.plain_of_usesProcess uses]
  | @destroyed active _ active_eq _ _ calls =>
      rw [calls, story_append, active_eq]
      by_cases same : active = session
      · simp [same]
      · simp [same, story_closingCalls_of_ne same]
  | missing uses => simp [Request.plain_of_usesProcess uses]
  | idle apart => simp [apart]
  | asked => simp
  | unsupported => simp

/-- The story of the session that a launch makes. -/
theorem story_launch (served : Serves host options before request answer after)
    (launch : request.isLaunch = true) (own : session = launchName host options before.launched) :
    (answer = .ok () ∧ argumentFault (closing session) = none ∧
      story session after.calls = story session before.calls ++ [.opened session]) ∨
    (answer ≠ .ok () ∧ ∃ marks ∈ [[], [.closed session], [.opened session, .closed session]],
      story session after.calls = story session before.calls ++ marks) := by
  subst own
  cases served with
  | launched usable _ _ calls uses =>
      refine .inl ⟨rfl, argumentFault_closing usable, ?_⟩
      rw [calls, story_append, ← List.singleton_append, story_append, story_newSession,
        story_of_uses uses, if_pos rfl, List.append_nil]
  | refused opened _ _ calls uses =>
      refine .inr ⟨by simp, ?_⟩
      rw [calls, story_append, story_append, story_append, story_of_uses uses]
      rcases opened with rfl | ⟨rfl, usable⟩
      · by_cases closable : argumentFault (closing (launchName host options before.launched)) = none
        · exact ⟨_, .tail _ (.head _), by rw [story_closingCalls closable]; rfl⟩
        · exact ⟨[], by simp, by simp [closingCalls, closable, story]⟩
      · refine ⟨_, .tail _ (.tail _ (.head _)), ?_⟩
        rw [story_newSession, story_closingCalls (argumentFault_closing usable), if_pos rfl]
        rfl
  | missing uses => simp [Request.plain_of_usesProcess uses] at launch
  | driven uses => simp [Request.plain_of_usesProcess uses] at launch
  | _ => cases launch

end Serves

end TerminalScript.Tmux
