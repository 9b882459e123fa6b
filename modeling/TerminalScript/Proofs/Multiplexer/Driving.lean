import TerminalScript.Proofs.Backend.Requests
import TerminalScript.Proofs.Multiplexer.Commands

/-!
What the operations on a session call. All of it is aimed at the session there is, however the calls
end; without a session they fail before anything is called.
-/

namespace TerminalScript.Tmux

structure Issues (allowed : List String → Prop) (before after : State) : Prop where
  session : after.session = before.session
  launched : after.launched = before.launched
  calls : ∃ issued, after.calls = before.calls ++ issued ∧ ∀ call ∈ issued, allowed call

instance (allowed : List String → Prop) : Std.Refl (Issues allowed) where
  refl _ := ⟨rfl, rfl, [], by simp, by simp⟩

instance (allowed : List String → Prop) : IsTrans State (Issues allowed) where
  trans _ _ _ := by
    rintro ⟨session, launched, first, calls, fits⟩ ⟨session', launched', second, calls', fits'⟩
    refine ⟨session'.trans session, launched'.trans launched, first ++ second, ?_, ?_⟩
    · rw [calls', calls, List.append_assoc]
    · exact List.forall_mem_append.mpr ⟨fits, fits'⟩

def Aims (before after : State) : Prop :=
  ∀ session, before.session = some session → Issues (Uses session) before after

instance : Std.Refl Aims where
  refl state _ _ := refl_of (Issues _) state

instance : IsTrans State Aims where
  trans _ _ _ first second session active :=
    trans_of (Issues _) (first session active)
      (second session ((first session active).session.trans active))

variable {host : Host} {options : BackendOptions} {state : State} {α : Type}

theorem sleep_issues {allowed : List String → Prop} (duration : Nat) (state : State) :
    Issues allowed state (sleep duration state) :=
  ⟨rfl, rfl, [], by simp [sleep], by simp⟩

theorem ran_call_of_fault {args : List String} {fault : FileError}
    (faulty : argumentFault args = some fault) (state : State) :
    ran (call host args).run state = (.error (.file fault), state) := by
  unfold call
  rw [faulty]
  rfl

theorem ran_call {args : List String} (usable : argumentFault args = none) (state : State) :
    ran (call host args).run state =
      (outcomeOf args (host.reply state.calls args),
        { state with
          time := state.time + min (host.reply state.calls args).duration (callLimit * 1000)
          calls := state.calls ++ [args] }) := by
  unfold call
  rw [usable]
  rfl

theorem call_leads {allowed : List String → Prop} {args : List String} (fits : allowed args) :
    Leads (Issues allowed) (call host args) := by
  intro state
  rcases usable : argumentFault args with - | fault
  · rw [ran_call usable]
    exact ⟨rfl, rfl, [args], rfl, by simpa using fits⟩
  · rw [ran_call_of_fault usable]
    exact refl_of (Issues allowed) state

theorem succeeds_leads {allowed : List String → Prop} {args : List String} (fits : allowed args) :
    Leads (Issues allowed) (succeeds host args) :=
  ((call_leads fits).bind fun _ => .of_pure true).handled fun _ => .of_pure false

theorem awaitSession_leads (session : String) :
    Leads (Issues (Uses session)) (awaitSession host session) :=
  .poll sleep_issues (succeeds_leads ⟨rfl, rfl⟩) _ _ _

theorem paneExited_leads (session : String) :
    Leads (Issues (Uses session)) (paneExited host session) := by
  refine (succeeds_leads ⟨rfl, rfl⟩).bind fun found => ?_
  cases found with
  | false => exact .of_pure true
  | true =>
      refine ((call_leads ⟨rfl, rfl⟩).bind fun output => .of_pure _).handled fun failure => ?_
      split
      · exact .of_pure true
      · exact .of_throw failure

def notStarted : Failure :=
  .processLifecycle (.notStarted "tmux session")

theorem ran_active (next : String → Operation State α) (state : State) :
    ran (active >>= next).run state =
      match state.session with
      | some session => ran (next session).run state
      | none => (.error notStarted, state) := by
  have answered : ran active.run state =
      match state.session with
      | some session => (.ok session, state)
      | none => (.error notStarted, state) := by
    obtain ⟨_, _, _ | session, _⟩ := state <;> rfl
  rw [ran_run_bind, answered]
  cases state.session <;> rfl

structure Drives (operation : Operation State α) : Prop where
  missing : ∀ state, state.session = none → ran operation.run state = (.error notStarted, state)
  aims : Leads Aims operation

theorem drives_active {next : String → Operation State α}
    (leads : ∀ session, Leads (Issues (Uses session)) (next session)) : Drives (active >>= next) where
  missing state apart := by rw [ran_active, apart]
  aims state session here := by
    rw [ran_active, here]
    exact leads session state

theorem Drives.bind {β : Type} {operation : Operation State α} {next : α → Operation State β}
    (first : Drives operation) (later : ∀ value, Leads Aims (next value)) :
    Drives (operation >>= next) where
  missing state apart := ran_run_bind_error (first.missing state apart) next
  aims := first.aims.bind later

theorem Drives.discarded {operation : Operation State α} (drives : Drives operation) :
    Drives (discard operation : Operation State Unit) where
  missing state apart := by
    rw [ran_discard, drives.missing state apart]
    rfl
  aims := drives.aims.discarded

theorem sendText_drives (text : String) : Drives (sendText host text) :=
  drives_active fun _ => (call_leads ⟨rfl, rfl⟩).bind fun _ => .of_pure ()

theorem sendKeys_drives (keys : List String) : Drives (sendKeys host keys) := by
  refine drives_active fun session => ?_
  induction keys with
  | nil => exact .of_pure ()
  | cons key rest ih =>
      rw [List.forM_eq_forM, List.forM_cons]
      exact ((call_leads ⟨rfl, rfl⟩).bind fun _ => .of_pure ()).bind fun _ => ih

theorem sendLine_drives (text : String) : Drives (sendLine host text) :=
  (sendText_drives text).bind fun _ => (sendKeys_drives ["Enter"]).aims

theorem paste_drives (text : String) : Drives (paste host text) :=
  drives_active fun _ => (call_leads ⟨rfl, rfl⟩).bind fun _ =>
    (call_leads ⟨rfl, rfl⟩).bind fun _ => .of_pure ()

theorem resize_drives (cols rows : UInt16) : Drives (resize host cols rows) :=
  drives_active fun _ => (call_leads ⟨rfl, rfl⟩).bind fun _ => .of_pure ()

theorem captureScreen_drives : Drives (captureScreen host) :=
  drives_active fun _ => call_leads ⟨rfl, rfl⟩

theorem captureScrollback_drives (lines : Nat) : Drives (captureScrollback host lines) :=
  drives_active fun _ => call_leads ⟨rfl, rfl⟩

theorem waitForExit_drives (timeout : Nat) : Drives (waitForExit host timeout) :=
  drives_active fun session => .poll sleep_issues (paneExited_leads session) _ _ _

theorem waitForStable_drives (stable timeout : Nat) :
    Drives ((backend host options).waitForStable stable timeout) where
  missing state apart := by
    have missing : ran (captureScreen host).run state = (.error notStarted, state) :=
      captureScreen_drives.missing state apart
    change ran (Backend.awaitStableUntil _ _ _ _ _ _ _ _ _).run state = _
    rw [Backend.awaitStableUntil, ran_run_bind_error (ran_run_bind_error missing _)]
  aims := .awaitStableText (fun duration state _ _ => sleep_issues duration state)
    captureScreen_drives.aims _ _ _

theorem perform_drives {request : Request} (uses : request.usesProcess = true) :
    Drives ((backend host options).perform request) := by
  cases request with
  | sendKeys keys => exact sendKeys_drives keys
  | sendText text => exact sendText_drives text
  | sendLine text => exact sendLine_drives text
  | paste text => exact paste_drives text
  | resize cols rows => exact resize_drives cols rows
  | captureScreen => exact captureScreen_drives.discarded
  | captureScrollback lines => exact (captureScrollback_drives lines).discarded
  | waitForExit timeout => exact waitForExit_drives timeout
  | waitForStable stable timeout => exact waitForStable_drives stable timeout
  | _ => cases uses

end TerminalScript.Tmux
