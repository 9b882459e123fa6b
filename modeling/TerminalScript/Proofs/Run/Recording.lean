import TerminalScript.Runner
import TerminalScript.Proofs.Stateful

/-!
Recording the operations of a backend. A recorded backend does what the backend does and notes each
operation with its answer. A program on a recorded backend is shown to do what it does on the
backend itself, and to note events that keep a law.
-/

namespace TerminalScript

variable {σ S T α β : Type}

inductive Event
  | launch (command : String) (args : List String) (directory : Option String)
      (answer : Outcome Nat)
  | isRunning (process : Nat) (answer : Outcome Bool)
  | sendKeys (keys : List String) (answer : Outcome Unit)
  | sendText (text : String) (answer : Outcome Unit)
  | sendLine (text : String) (answer : Outcome Unit)
  | paste (text : String) (answer : Outcome Unit)
  | resize (cols rows : UInt16) (answer : Outcome Unit)
  | captureScreen (answer : Outcome String)
  | captureScrollback (lines : Nat) (answer : Outcome String)
  | captureTranscript (answer : Outcome String)
  | waitForExit (timeout : Nat) (answer : Outcome Unit)
  | waitForStable (stable timeout : Nat) (answer : Outcome Unit)
  | destroy (answer : Outcome Unit)

namespace Event

def isLaunch : Event → Bool
  | launch .. => true
  | _ => false

def isDestroy : Event → Bool
  | destroy .. => true
  | _ => false

def Inner (event : Event) : Prop :=
  event.isLaunch = false ∧ event.isDestroy = false

end Event

def noted (event : Outcome α → Event) (operation : Operation σ α) :
    Operation (σ × List Event) α :=
  ExceptT.mk fun (state, events) =>
    let (answer, after) := ran operation.run state
    (answer, (after, events ++ [event answer]))

def Backend.recorded (backend : Backend σ) : Backend (σ × List Event) where
  name := backend.name
  now state := backend.now state.1
  sleep duration state := (backend.sleep duration state.1, state.2)
  launch command args directory :=
    noted (.launch command args directory) (backend.launch command args directory)
  isRunning process := noted (.isRunning process) (backend.isRunning process)
  sendKeys keys := noted (.sendKeys keys) (backend.sendKeys keys)
  sendText text := noted (.sendText text) (backend.sendText text)
  sendLine text := noted (.sendLine text) (backend.sendLine text)
  paste text := noted (.paste text) (backend.paste text)
  resize cols rows := noted (.resize cols rows) (backend.resize cols rows)
  captureScreen := noted .captureScreen backend.captureScreen
  captureScrollback lines := noted (.captureScrollback lines) (backend.captureScrollback lines)
  captureTranscript := noted .captureTranscript backend.captureTranscript
  waitForExit timeout := noted (.waitForExit timeout) (backend.waitForExit timeout)
  waitForStable stable timeout :=
    noted (.waitForStable stable timeout) (backend.waitForStable stable timeout)
  destroy := noted .destroy backend.destroy

def Stage.recording (stage : Stage σ) (events : List Event) : Stage (σ × List Event) :=
  { backend := (stage.backend, events), files := stage.files, artifacts := stage.artifacts }

/-- A program on recorded states answers and changes what its counterpart does, and notes events
that depend on nothing noted before. -/
def Records (attach : S → List Event → T) (law : List Event → α → Prop)
    (recorded : StateM T α) (plain : StateM S α) : Prop :=
  ∀ state, ∃ events, law events (ran plain state).1 ∧ ∀ earlier,
    ran recorded (attach state earlier) =
      ((ran plain state).1, attach (ran plain state).2 (earlier ++ events))

def Only (allowed : Event → Prop) : List Event → α → Prop :=
  fun events _ => ∀ event ∈ events, allowed event

namespace Records

variable {attach : S → List Event → T}

theorem mono {law law' : List Event → α → Prop} {recorded : StateM T α} {plain : StateM S α}
    (records : Records attach law recorded plain)
    (implied : ∀ events answer, law events answer → law' events answer) :
    Records attach law' recorded plain := by
  intro state
  obtain ⟨events, kept, same⟩ := records state
  exact ⟨events, implied _ _ kept, same⟩

theorem done {law : List Event → α → Prop} {value : α} (kept : law [] value) :
    Records attach law (pure value) (pure value) := by
  intro state
  exact ⟨[], kept, fun earlier => by simp⟩

theorem bind {first : List Event → α → Prop} {law : List Event → β → Prop}
    {recorded : StateM T α} {plain : StateM S α} {next' : α → StateM T β} {next : α → StateM S β}
    (records : Records attach first recorded plain)
    (later : ∀ value early, first early value →
      Records attach (fun late answer => law (early ++ late) answer) (next' value) (next value)) :
    Records attach law (recorded >>= next') (plain >>= next) := by
  intro state
  obtain ⟨early, kept, same⟩ := records state
  obtain ⟨late, holds, follows⟩ := later _ early kept (ran plain state).2
  refine ⟨early ++ late, holds, fun earlier => ?_⟩
  rw [ran_bind, same, follows, ran_bind, List.append_assoc]

theorem run_bind {first : List Event → Outcome α → Prop} {law : List Event → Outcome β → Prop}
    {recorded : ExceptT Failure (StateM T) α} {plain : ExceptT Failure (StateM S) α}
    {next' : α → ExceptT Failure (StateM T) β} {next : α → ExceptT Failure (StateM S) β}
    (records : Records attach first recorded.run plain.run)
    (failed : ∀ failure early, first early (.error failure) → law early (.error failure))
    (later : ∀ value early, first early (.ok value) →
      Records attach (fun late answer => law (early ++ late) answer) (next' value).run
        (next value).run) :
    Records attach law (recorded >>= next').run (plain >>= next).run := by
  rw [ExceptT.run_bind, ExceptT.run_bind]
  apply records.bind
  intro answer early kept
  cases answer with
  | error failure => exact .done (by simpa using failed failure early kept)
  | ok value => exact later value early kept

theorem reading {law : List Event → β → Prop} (read' : T → α) (read : S → α)
    (next' : α → StateM T β) (next : α → StateM S β)
    (same : ∀ state earlier, read' (attach state earlier) = read state)
    (later : ∀ value, Records attach law (next' value) (next value)) :
    Records attach law (get >>= fun state => next' (read' state))
      (get >>= fun state => next (read state)) := by
  intro state
  obtain ⟨events, kept, follows⟩ := later (read state) state
  refine ⟨events, kept, fun earlier => ?_⟩
  rw [ran_bind, ran_get, same, follows, ran_bind, ran_get]

theorem run_reading {law : List Event → Outcome β → Prop} (read' : T → α) (read : S → α)
    (next' : α → ExceptT Failure (StateM T) β) (next : α → ExceptT Failure (StateM S) β)
    (same : ∀ state earlier, read' (attach state earlier) = read state)
    (later : ∀ value, Records attach law (next' value).run (next value).run) :
    Records attach law (get >>= fun state => next' (read' state)).run
      (get >>= fun state => next (read state)).run :=
  Records.reading read' read (fun value => (next' value).run) (fun value => (next value).run) same
    later

theorem throwing {law : List Event → Outcome α → Prop} {failure : Failure}
    (kept : law [] (.error failure)) :
    Records attach law (throw failure : ExceptT Failure (StateM T) α).run
      (throw failure : ExceptT Failure (StateM S) α).run :=
  .done kept

theorem only_done {allowed : Event → Prop} {value : α} :
    Records attach (Only allowed) (pure value) (pure value) :=
  .done (by simp [Only])

theorem only_bind {allowed : Event → Prop} {recorded : ExceptT Failure (StateM T) α}
    {plain : ExceptT Failure (StateM S) α} {next' : α → ExceptT Failure (StateM T) β}
    {next : α → ExceptT Failure (StateM S) β}
    (records : Records attach (Only allowed) recorded.run plain.run)
    (later : ∀ value, Records attach (Only allowed) (next' value).run (next value).run) :
    Records attach (Only allowed) (recorded >>= next').run (plain >>= next).run := by
  apply records.run_bind
  · exact fun _ _ kept => kept
  · intro value early kept
    apply (later value).mono
    intro late answer holds event member
    rcases List.mem_append.mp member with first | second
    · exact kept event first
    · exact holds event second

end Records

abbrev OperationRecords {σ : Type} (law : List Event → Outcome α → Prop)
    (recorded : Operation (σ × List Event) α) (plain : Operation σ α) : Prop :=
  Records Prod.mk law recorded.run plain.run

theorem noted_records (event : Outcome α → Event) (operation : Operation σ α) :
    OperationRecords (fun events answer => events = [event answer]) (noted event operation)
      operation := by
  intro state
  exact ⟨[event (ran operation.run state).1], rfl, fun earlier => rfl⟩

theorem noted_only {allowed : Event → Prop} {event : Outcome α → Event}
    (operation : Operation σ α) (fits : ∀ answer, allowed (event answer)) :
    OperationRecords (Only allowed) (noted event operation) operation := by
  apply (noted_records event operation).mono
  intro events answer same event' member
  rw [same, List.mem_singleton] at member
  rw [member]
  exact fits answer

theorem sleep_records (backend : Backend σ) (pause : Nat) :
    OperationRecords (fun events answer => events = [] ∧ answer = .ok ())
      (modify (backend.recorded.sleep pause)) (modify (backend.sleep pause)) := by
  intro state
  refine ⟨[], ⟨rfl, rfl⟩, fun earlier => ?_⟩
  rw [List.append_nil]
  rfl

end TerminalScript
