import TerminalScript.Proofs.Multiplexer.Names
import TerminalScript.Proofs.Multiplexer.Serving

/-!
The names that one backend draws for its sessions. Each has the number of its launch in it, and that
alone keeps them apart: the clock may show anything, the random number may repeat, and the stem may
look like the other parts of a name.
-/

namespace TerminalScript.Tmux

structure Reading where
  clock : Nat
  random : Nat

def Host.reading (host : Host) (number : Nat) : Reading where
  clock := host.clock number
  random := host.draw number

def State.drawName (stem : String) (reading : Reading) (state : State) : String × State :=
  (sessionName stem reading.clock state.launched reading.random,
    { state with launched := state.launched + 1 })

def State.drawNames (stem : String) (state : State) : List Reading → List String
  | [] => []
  | reading :: readings =>
      let (name, state) := state.drawName stem reading
      name :: state.drawNames stem readings

variable {host : Host} {options : BackendOptions} {stem : String}

/-- A launch draws one name and starts a session with it. -/
theorem ran_launch_drawn (command : String) (args : List String) (directory : Option String)
    (state : State) :
    let (session, drawn) := state.drawName options.sessionPrefix (host.reading state.launched)
    ran (launch host options command args directory).run state =
      match ran (startSession host options session command args directory).run
        { drawn with session := some session } with
      | (.ok process, after) => (.ok process, after)
      | (.error failure, after) => (.error failure, (ran (destroy host).run after).2) :=
  ran_launch state

theorem drawNames_cons (reading : Reading) (readings : List Reading) (state : State) :
    state.drawNames stem (reading :: readings) =
      sessionName stem reading.clock state.launched reading.random ::
        { state with launched := state.launched + 1 }.drawNames stem readings := rfl

theorem drawNames_congr (readings : List Reading) {state other : State}
    (same : state.launched = other.launched) :
    state.drawNames stem readings = other.drawNames stem readings := by
  induction readings generalizing state other with
  | nil => rfl
  | cons reading readings ih =>
      rw [drawNames_cons, drawNames_cons, same]
      exact congrArg _ (ih rfl)

theorem length_drawNames (readings : List Reading) (state : State) :
    (state.drawNames stem readings).length = readings.length := by
  induction readings generalizing state with
  | nil => rfl
  | cons reading readings ih => rw [drawNames_cons, List.length_cons, List.length_cons, ih]

theorem mem_drawNames {name : String} {readings : List Reading} {state : State}
    (member : name ∈ state.drawNames stem readings) :
    ∃ number, state.launched ≤ number ∧
      ∃ reading : Reading, name = sessionName stem reading.clock number reading.random := by
  induction readings generalizing state with
  | nil => simp [State.drawNames] at member
  | cons reading readings ih =>
      rw [drawNames_cons, List.mem_cons] at member
      rcases member with rfl | later
      · exact ⟨state.launched, Nat.le_refl _, reading, rfl⟩
      · obtain ⟨number, after, other, same⟩ := ih later
        exact ⟨number, Nat.le_of_succ_le after, other, same⟩

/-- A later name has a greater number in it. -/
theorem drawNames_nodup (readings : List Reading) (state : State) :
    (state.drawNames stem readings).Nodup := by
  induction readings generalizing state with
  | nil => exact List.nodup_nil
  | cons reading readings ih =>
      rw [drawNames_cons, List.nodup_cons]
      constructor
      · intro member
        obtain ⟨number, after, other, same⟩ := mem_drawNames member
        have equal : state.launched = number := launch_of_sessionName same
        dsimp only at after
        omega
      · exact ih _

def Mark.opened? : Mark → Option String
  | opened session => some session
  | closed _ => none

def openings (calls : List (List String)) : List String :=
  calls.filterMap fun call => (mark? call).bind Mark.opened?

theorem openings_append (first second : List (List String)) :
    openings (first ++ second) = openings first ++ openings second :=
  List.filterMap_append

theorem openings_of_uses {session : String} {calls : List (List String)}
    (uses : ∀ call ∈ calls, Uses session call) : openings calls = [] := by
  refine List.filterMap_eq_nil_iff.mpr fun call member => ?_
  rw [(uses call member).unmarked]
  rfl

theorem openings_newSession (session command : String) (args : List String)
    (directory : Option String) :
    openings [newSession options session command args directory] = [session] := by
  simp [openings, mark?_newSession, Mark.opened?]

theorem openings_closingCalls (session : String) : openings (closingCalls session) = [] := by
  unfold closingCalls
  split
  · simp [openings, mark?_closing, Mark.opened?]
  · rfl

/-- A request opens no session, or it is a launch and opens the one that it has drawn a name for. -/
theorem Serves.openings_eq {before after : State} {request : Request} {answer : Outcome Unit}
    (served : Serves host options before request answer after) :
    ∃ opened, openings after.calls = openings before.calls ++ opened ∧
      opened.Sublist (if request.isLaunch then [launchName host options before.launched] else []) := by
  cases served with
  | launched _ _ _ calls uses =>
      refine ⟨[launchName host options before.launched], ?_, List.Sublist.refl _⟩
      rw [calls, openings_append, ← List.singleton_append, openings_append, openings_newSession,
        openings_of_uses uses, List.append_nil]
  | refused opened _ _ calls uses =>
      rw [calls, openings_append, openings_append, openings_append, openings_of_uses uses,
        openings_closingCalls, List.append_nil, List.append_nil]
      refine ⟨_, rfl, ?_⟩
      rcases opened with rfl | ⟨rfl, _⟩
      · exact List.nil_sublist _
      · rw [openings_newSession]
        exact List.Sublist.refl _
  | driven _ _ issues =>
      obtain ⟨issued, calls, uses⟩ := issues.calls
      rw [calls, openings_append, openings_of_uses uses]
      exact ⟨[], rfl, List.nil_sublist _⟩
  | destroyed _ _ _ calls =>
      rw [calls, openings_append, openings_closingCalls]
      exact ⟨[], rfl, List.nil_sublist _⟩
  | _ => exact ⟨[], (List.append_nil _).symm, List.nil_sublist _⟩

/-- What requests open was drawn for it: a launch that opens nothing leaves its name out. -/
theorem openings_serveAll (requests : List Request) (state : State) :
    ∃ opened, openings ((backend host options).serveAll state requests).calls =
        openings state.calls ++ opened ∧
      opened.Sublist (state.drawNames options.sessionPrefix
        ((List.range' state.launched (requests.countP Request.isLaunch)).map host.reading)) := by
  induction requests generalizing state with
  | nil => exact ⟨[], (List.append_nil _).symm, List.nil_sublist _⟩
  | cons request requests ih =>
      have served : Serves host options state request _ _ := serves_perform request state
      obtain ⟨own, first, drawn⟩ := served.openings_eq
      obtain ⟨later, rest, drawn'⟩ := ih ((backend host options).serve state request)
      refine ⟨own ++ later, ?_, ?_⟩
      · rw [← List.append_assoc, ← first]
        exact rest
      · have counted := served.launched_eq
        by_cases launch : request.isLaunch = true
        · rw [if_pos launch] at drawn counted
          let drawing : State := { state with launched := state.launched + 1 }
          have same : _ = drawing.launched := counted
          rw [counted, drawNames_congr _ same] at drawn'
          rw [List.countP_cons_of_pos launch, List.range'_succ, List.map_cons, drawNames_cons]
          exact drawn.append drawn'
        · rw [if_neg launch] at drawn counted
          rw [counted, drawNames_congr _ counted] at drawn'
          rw [List.countP_cons_of_neg launch]
          obtain rfl : own = [] := List.sublist_nil.mp drawn
          exact drawn'

/-- All names that a backend draws are different, whatever it reads when it draws them. So no two
calls open sessions of the same name, whatever is requested. -/
theorem names_apart (host : Host) (options : BackendOptions) (stem : String)
    (readings : List Reading) (state : State) (requests : List Request) :
    (state.drawNames stem readings).length = readings.length ∧
    (state.drawNames stem readings).Nodup ∧
    ∃ opened, openings ((backend host options).serveAll state requests).calls =
        openings state.calls ++ opened ∧
      opened.Sublist (state.drawNames options.sessionPrefix
        ((List.range' state.launched (requests.countP Request.isLaunch)).map host.reading)) ∧
      opened.Nodup := by
  obtain ⟨opened, calls, drawn⟩ := @openings_serveAll host options requests state
  refine ⟨length_drawNames readings state, drawNames_nodup readings state, opened, calls, drawn, ?_⟩
  exact drawn.nodup (drawNames_nodup _ state)

end TerminalScript.Tmux
