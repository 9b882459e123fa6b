import TerminalScript.Proofs.Multiplexer.Sessions
import TerminalScript.Proofs.Wait.Polls

/-!
Waiting for the exit of the process in a session. Each look asks first for the session and then for
its panes, and the first look that does not find a pane alive decides. A failure to list the panes is
read by its text, but a failure to find the session is taken for the exit whatever its text says.
-/

namespace TerminalScript.Tmux

def asking (session : String) : List String :=
  ["has-session", "-t", session]

def listing (session : String) : List String :=
  ["list-panes", "-t", session, "-F", "#\x7bpane_dead\x7d"]

/-- What tmux tells in a look: it fails to find the session, or it fails to list the panes of the
session that it found, or it lists them. -/
inductive Told
  | unfound (failure : Failure)
  | unlisted (failure : Failure)
  | listed (panes : String)

namespace Told

def SaysGone : Told → Prop
  | unfound failure => isGone failure = true
  | unlisted failure => isGone failure = true
  | listed panes => allDead panes = true

def SaysAlive : Told → Prop
  | listed panes => allDead panes = false
  | _ => False

instance (told : Told) : Decidable told.SaysGone :=
  match told with
  | unfound failure => inferInstanceAs (Decidable (isGone failure = true))
  | unlisted failure => inferInstanceAs (Decidable (isGone failure = true))
  | listed panes => inferInstanceAs (Decidable (allDead panes = true))

instance (told : Told) : Decidable told.SaysAlive :=
  match told with
  | unfound _ => inferInstanceAs (Decidable False)
  | unlisted _ => inferInstanceAs (Decidable False)
  | listed panes => inferInstanceAs (Decidable (allDead panes = false))

def verdict : Told → Outcome Bool
  | unfound _ => .ok true
  | unlisted failure => if isGone failure then .ok true else .error failure
  | listed panes => .ok (allDead panes)

variable {told : Told}

theorem verdict_eq_false : told.verdict = .ok false ↔ told.SaysAlive := by
  cases told with
  | unfound failure => simp [verdict, SaysAlive]
  | unlisted failure => cases gone : isGone failure <;> simp [verdict, SaysAlive, gone]
  | listed panes => simp [verdict, SaysAlive]

theorem verdict_eq_true : told.verdict = .ok true ↔
    told.SaysGone ∨ ∃ failure, told = unfound failure ∧ isGone failure = false := by
  cases told with
  | unfound failure => cases gone : isGone failure <;> simp [verdict, SaysGone, gone]
  | unlisted failure => cases gone : isGone failure <;> simp [verdict, SaysGone, gone]
  | listed panes => simp [verdict, SaysGone]

end Told

variable (host : Host) (session : String)

def look (state : State) : Told × State :=
  match ran (call host (asking session)).run state with
  | (.error failure, found) => (.unfound failure, found)
  | (.ok _, found) =>
      match ran (call host (listing session)).run found with
      | (.error failure, last) => (.unlisted failure, last)
      | (.ok panes, last) => (.listed panes, last)

theorem ran_listing (state : State) :
    ran (tryCatch (do
          let output ← call host (listing session)
          pure (allDead output))
        fun failure => if isGone failure then pure true else throw failure :
        Operation State Bool).run state =
      match ran (call host (listing session)).run state with
      | (.error failure, last) => ((Told.unlisted failure).verdict, last)
      | (.ok panes, last) => ((Told.listed panes).verdict, last) := by
  rw [ExceptT.run_tryCatch, ran_bind, ran_run_bind]
  rcases ran (call host (listing session)).run state with ⟨failure | panes, last⟩
  · dsimp only [Told.verdict]
    cases isGone failure <;> rfl
  · rfl

theorem ran_paneExited (state : State) :
    ran (paneExited host session).run state =
      ((look host session state).1.verdict, (look host session state).2) := by
  have asked := ran_succeeds host (asking session) state
  rw [paneExited, ← asking, ← listing, look]
  rcases answered : ran (call host (asking session)).run state with ⟨failure | output, found⟩ <;>
    rw [answered] at asked
  · rw [ran_run_bind_ok asked]
    rfl
  · rw [ran_run_bind_ok asked]
    refine (ran_listing host session found).trans ?_
    dsimp only
    rcases ran (call host (listing session)).run found with ⟨failure | panes, last⟩ <;> rfl

theorem time_call (args : List String) (state : State) :
    state.time ≤ (ran (call host args).run state).2.time := by
  rcases usable : argumentFault args with - | fault
  · rw [ran_call usable]
    exact Nat.le_add_right _ _
  · exact Nat.le_of_eq (by rw [ran_call_of_fault usable])

theorem time_look (state : State) : state.time ≤ (look host session state).2.time := by
  have asked := time_call host (asking session) state
  rw [look]
  rcases answered : ran (call host (asking session)).run state with ⟨failure | output, found⟩ <;>
    rw [answered] at asked
  · exact asked
  · have listed := time_call host (listing session) found
    dsimp only
    rcases answered' : ran (call host (listing session)).run found with ⟨failure | panes, last⟩ <;>
      rw [answered'] at listed <;>
      exact Nat.le_trans asked listed

theorem paneExited_forward : Forward State.time sleep (paneExited host session) where
  looks state := by
    rw [ran_paneExited]
    exact time_look host session state
  exact _ _ := rfl

def lookAt (state : State) (count : Nat) : Told × State :=
  look host session (polledAt sleep 200 (paneExited host session) state count)

theorem ran_polled (state : State) (count : Nat) :
    ran (paneExited host session).run (polledAt sleep 200 (paneExited host session) state count) =
      ((lookAt host session state count).1.verdict, (lookAt host session state count).2) :=
  ran_paneExited host session _

/-- The answer of a wait is what its last look makes of what tmux told. -/
theorem answer_of_decides {told : Told} {late : Prop} {timedOut : Failure} {answer : Outcome Unit}
    (decides : Watch.Decides Watch.Found late timedOut told.verdict answer) :
    (answer = .ok () ↔ told.verdict = .ok true) ∧
      (∀ failure, told = .unlisted failure → isGone failure = false → answer = .error failure) ∧
      (told.verdict = .ok false → late ∧ answer = .error timedOut) := by
  have failing : ∀ failure, told = .unlisted failure → isGone failure = false →
      told.verdict = .error failure := by
    rintro failure rfl other
    rw [Told.verdict, other]
    rfl
  generalize told.verdict = verdict at decides failing
  cases decides with
  | found met => simp_all
  | failed => simp_all
  | expired unmet late => simp_all

/-- A wait for the exit of the process succeeds exactly if tmux says in the look that decides that
the target is gone, or fails to find the session for any other cause. So it is only wrong if it is
that question which fails for another cause: a failure to list the panes of the session is the
answer of the wait unless it says that the target is gone. -/
theorem exit_told (host : Host) (timeout : Nat) (state : State) :
    let answer := (ran (waitForExit host timeout).run state).1
    let deadline := state.time + timeout
    (state.session = none → answer = .error notStarted) ∧
    ∀ session, state.session = some session →
      let told count := (lookAt host session state count).1
      let time count := (lookAt host session state count).2.time
      ∃ count, (∀ earlier < count, (told earlier).SaysAlive ∧ time earlier < deadline) ∧
        (answer = .ok () ↔ (told count).SaysGone ∨
          ∃ failure, told count = .unfound failure ∧ isGone failure = false) ∧
        (∀ failure, told count = .unlisted failure → isGone failure = false →
          answer = .error failure) ∧
        ((told count).SaysAlive →
          deadline ≤ time count ∧ answer = .error (.matchTimeout .paneExit timeout)) := by
  intro answer deadline
  refine ⟨fun apart => congrArg Prod.fst ((waitForExit_drives timeout).missing state apart), ?_⟩
  intro session active told time
  have waited : ran (waitForExit host timeout).run state =
      ran (Backend.poll State.time sleep 200 (paneExited host session)
        (.matchTimeout .paneExit timeout) timeout).run state := by
    rw [waitForExit, ran_active, active]
  obtain ⟨count, undecided, _, decides⟩ :=
    poll_decides (paneExited_forward host session) (by decide : 200 ≠ 0)
      (.matchTimeout .paneExit timeout) timeout state
  simp only [ran_polled, ← waited] at undecided decides
  refine ⟨count, fun earlier before => ?_, ?_⟩
  · obtain ⟨looked, soon⟩ := undecided earlier before
    exact ⟨Told.verdict_eq_false.mp looked, soon⟩
  · rw [← Told.verdict_eq_true, ← Told.verdict_eq_false]
    exact answer_of_decides decides

def hostOf (script : Script) : Host where
  reply := Script.reply (("display-message", [{ stdout := "4242\n".toUTF8.toList }]) :: script)
  clock _ := 0
  draw _ := 0
  probe _ := .delivered

def leaving : Host :=
  hostOf [("list-panes", [{ stdout := "0\n".toUTF8.toList },
    { exit := 1, stderr := "can't find window: 0\n".toUTF8.toList }])]

theorem exit_told_of_leaving :
    let state := after leaving {} [.launch "app" [] none]
    let session := launchName leaving {} 0
    let told count := (lookAt leaving session state count).1
    state.session = some session ∧ (told 0).SaysAlive ∧ (told 1).SaysGone ∧
      (ran (waitForExit leaving 1000).run state).1 = .ok () := by
  intro state session told
  have active : state.session = some session := by decide +kernel
  have alive : (told 0).SaysAlive := by decide +kernel
  have gone : (told 1).SaysGone ∧ ¬(told 1).SaysAlive := by decide +kernel
  have early : ¬state.time + 1000 ≤ (lookAt leaving session state 0).2.time := by decide +kernel
  obtain ⟨count, before, success, _, late⟩ := (exit_told leaving 1000 state).2 session active
  obtain rfl : count = 1 := by
    rcases Nat.lt_trichotomy count 1 with first | same | later
    · obtain rfl : count = 0 := by omega
      exact absurd (late alive).1 early
    · exact same
    · exact absurd (before 1 later).1 gone.2
  exact ⟨active, alive, gone.1, success.mpr (.inl gone.1)⟩

def puzzled : Host :=
  hostOf [("has-session", [{}, { exit := 1, stderr := "unknown option -- q\n".toUTF8.toList }]),
    ("list-panes", [{ stdout := "0\n".toUTF8.toList }])]

/-- The wait succeeds though no look tells that the target is gone. -/
theorem exit_mistaken :
    let state := after puzzled {} [.launch "app" [] none]
    let session := launchName puzzled {} 0
    let told count := (lookAt puzzled session state count).1
    state.session = some session ∧ (ran (waitForExit puzzled 0).run state).1.isOk = true ∧
      ¬∃ count, (∀ earlier < count, (told earlier).SaysAlive) ∧ (told count).SaysGone := by
  intro state session told
  refine ⟨by decide +kernel, by decide +kernel, ?_⟩
  have first : ¬(told 0).SaysAlive ∧ ¬(told 0).SaysGone := by decide +kernel
  rintro ⟨_ | count, before, gone⟩
  · exact first.2 gone
  · exact first.1 (before 0 (Nat.succ_pos _))

end TerminalScript.Tmux
