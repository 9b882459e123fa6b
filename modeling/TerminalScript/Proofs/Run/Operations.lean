import TerminalScript.Proofs.Run.Recording

/-!
The operations that the parts of a run issue: a wait looks until it has seen what it waits for, the
check before the steps of a sequence ends with such looks, a start begins with the launch, and no
step launches or destroys anything.
-/

namespace TerminalScript

variable {σ α : Type}

def pauseAgain (sleep : Nat → σ → σ) (interval : Nat) (expired : Failure)
    (again : Nat → Operation σ Unit) (remaining : Nat) : Operation σ Unit :=
  if remaining = 0 then throw expired
  else do
    modify (sleep (Backend.pauseOf interval remaining))
    again (Backend.pauseOf interval remaining)

theorem awaitUntil_eq (now : σ → Nat) (sleep : Nat → σ → σ) (interval : Nat)
    (ready : Operation σ Bool) (expired : Failure) (deadline bound : Nat) :
    Backend.awaitUntil now sleep interval ready expired deadline bound =
      ready >>= fun found =>
        if found then pure ()
        else
          get >>= fun state =>
            pauseAgain sleep interval expired
              (fun pause => Backend.awaitUntil now sleep interval ready expired deadline
                (bound - pause))
              (min bound (deadline - now state)) := by
  rw [Backend.awaitUntil]
  apply bind_congr
  intro found
  cases found <;> rfl

/-- The events of a wait: those of all its looks, and if the wait was not in vain, those of the last
look come last. -/
def Awaited.Told (look : List Event → Outcome Bool → Prop) (allowed : Event → Prop) :
    List Event → Outcome Unit → Prop :=
  fun events answer => (∀ event ∈ events, allowed event) ∧
    (answer = .ok () → ∃ earlier last, events = earlier ++ last ∧ look last (.ok true))

theorem Awaited.Told.append {look : List Event → Outcome Bool → Prop} {allowed : Event → Prop}
    {early late : List Event} {answer : Outcome Unit} (fits : ∀ event ∈ early, allowed event)
    (told : Told look allowed late answer) : Told look allowed (early ++ late) answer := by
  constructor
  · intro event member
    rcases List.mem_append.mp member with first | second
    · exact fits event first
    · exact told.1 event second
  · intro done
    obtain ⟨earlier, last, same, decided⟩ := told.2 done
    exact ⟨early ++ earlier, last, by rw [same, List.append_assoc], decided⟩

theorem pauseAgain_records {backend : Backend σ} {law : List Event → Outcome Unit → Prop}
    {interval remaining : Nat} {expired : Failure} {again' : Nat → Operation (σ × List Event) Unit}
    {again : Nat → Operation σ Unit} (failed : law [] (.error expired))
    (later : remaining ≠ 0 →
      OperationRecords law (again' (Backend.pauseOf interval remaining))
        (again (Backend.pauseOf interval remaining))) :
    OperationRecords law
      (pauseAgain backend.recorded.sleep interval expired again' remaining)
      (pauseAgain backend.sleep interval expired again remaining) := by
  unfold pauseAgain
  split
  · exact .throwing failed
  · rename_i left
    apply (sleep_records backend (Backend.pauseOf interval remaining)).run_bind
    · rintro failure early ⟨_, impossible⟩
      cases impossible
    · rintro ⟨⟩ early ⟨rfl, _⟩
      exact later left

theorem awaitUntil_records {backend : Backend σ} {look : List Event → Outcome Bool → Prop}
    {allowed : Event → Prop} {ready' : Operation (σ × List Event) Bool} {ready : Operation σ Bool}
    (looks : OperationRecords look ready' ready)
    (fits : ∀ events answer, look events answer → ∀ event ∈ events, allowed event)
    (interval : Nat) (expired : Failure) (deadline bound : Nat) :
    OperationRecords (Awaited.Told look allowed)
      (Backend.awaitUntil backend.recorded.now backend.recorded.sleep interval ready' expired
        deadline bound)
      (Backend.awaitUntil backend.now backend.sleep interval ready expired deadline bound) := by
  -- Every pause takes something from the bound, so the looks come to an end.
  induction bound using Nat.strongRecOn with
  | ind bound ih =>
      rw [awaitUntil_eq, awaitUntil_eq]
      apply looks.run_bind
      · intro failure early kept
        exact ⟨fits early _ kept, by simp⟩
      · intro found early kept
        have early_fits := fits early _ kept
        cases found with
        | true => exact .done ⟨by simpa using early_fits, fun _ => ⟨[], early, by simp, kept⟩⟩
        | false =>
            apply Records.run_reading backend.recorded.now backend.now
              (fun time => pauseAgain _ interval expired _ (min bound (deadline - time)))
              (fun time => pauseAgain _ interval expired _ (min bound (deadline - time)))
              (fun _ _ => rfl)
            intro time
            apply pauseAgain_records
            · exact ⟨by simpa using early_fits, by simp⟩
            · intro left
              exact (ih _ (Backend.sub_pauseOf_lt left)).mono fun _ _ told => told.append early_fits

theorem await_records {backend : Backend σ} {look : List Event → Outcome Bool → Prop}
    {allowed : Event → Prop} {ready' : Operation (σ × List Event) Bool} {ready : Operation σ Bool}
    (looks : OperationRecords look ready' ready)
    (fits : ∀ events answer, look events answer → ∀ event ∈ events, allowed event)
    (interval : Nat) (expired : Failure) (timeout : Nat) :
    OperationRecords (Awaited.Told look allowed)
      (Backend.await backend.recorded.now backend.recorded.sleep interval ready' expired timeout)
      (Backend.await backend.now backend.sleep interval ready expired timeout) :=
  Records.run_reading backend.recorded.now backend.now
    (fun time => Backend.awaitUntil _ _ interval ready' expired (time + timeout) timeout)
    (fun time => Backend.awaitUntil _ _ interval ready expired (time + timeout) timeout)
    (fun _ _ => rfl)
    (fun time => awaitUntil_records looks fits interval expired (time + timeout) timeout)

def AskedRunning (process : Nat) : List Event → Outcome Bool → Prop :=
  fun events answer => events = [.isRunning process answer]

def Looked (matcher : CompiledMatcher) : List Event → Outcome Bool → Prop :=
  fun events answer => ∃ screen, events = [.captureScreen screen] ∧
    ∀ found, answer = .ok found → ∃ text, screen = .ok text ∧ matcher.isMatch text = found

namespace Event

inductive Checks (process : Nat) : Event → Prop
  | asked (answer : Outcome Bool) : Checks process (.isRunning process answer)
  | looked (answer : Outcome String) : Checks process (.captureScreen answer)

theorem Checks.inner {process : Nat} {event : Event} (checks : event.Checks process) :
    event.Inner := by
  cases checks <;> exact ⟨rfl, rfl⟩

end Event

theorem awaitRunning_records (backend : Backend σ) (process timeout : Nat) :
    OperationRecords (Awaited.Told (AskedRunning process) (Event.Checks process))
      (backend.recorded.awaitRunning process timeout) (backend.awaitRunning process timeout) := by
  apply await_records (noted_records (.isRunning process) (backend.isRunning process))
  rintro events answer rfl event member
  rw [List.mem_singleton.mp member]
  exact .asked answer

theorem awaitScreen_records (backend : Backend σ) (matcher : CompiledMatcher)
    (process timeout poll : Nat) :
    OperationRecords (Awaited.Told (Looked matcher) (Event.Checks process))
      (backend.recorded.awaitMatch matcher .screen false timeout poll)
      (backend.awaitMatch matcher .screen false timeout poll) := by
  apply await_records
  · apply (noted_records .captureScreen backend.captureScreen).run_bind
    · rintro failure early rfl
      exact ⟨.error failure, rfl, by simp⟩
    · rintro text early rfl
      refine .done ⟨.ok text, rfl, ?_⟩
      rintro found ⟨⟩
      exact ⟨text, rfl, by simp⟩
  · rintro events answer ⟨screen, rfl, _⟩ event member
    rw [List.mem_singleton.mp member]
    exact .looked screen

def Seen : Option Matcher → List Event → Prop
  | none, events => events = []
  | some matcher, events => ∃ compiled looks text, CompiledMatcher.compile matcher = .ok compiled ∧
      events = looks ++ [.captureScreen (.ok text)] ∧ compiled.isMatch text = true

/-- The events of a successful check before the steps of a sequence: the process was found running,
and after that the screen was seen to show what the sequence asks for. -/
def Readied (process : Nat) (ensure : Option Matcher) (events : List Event) : Prop :=
  ∃ asked looked, events = asked ++ [.isRunning process (.ok true)] ++ looked ∧ Seen ensure looked

theorem compile_records (matcher : Matcher) :
    OperationRecords (fun events answer => events = [] ∧ answer = CompiledMatcher.compile matcher)
      (ExceptT.mk (pure (CompiledMatcher.compile matcher)) : Operation (σ × List Event) _)
      (ExceptT.mk (pure (CompiledMatcher.compile matcher)) : Operation σ _) :=
  .done ⟨rfl, rfl⟩

theorem awaitEnsured_records (runner : ScenarioRunner) (backend : Backend σ) (process : Nat)
    (ensure : Option Matcher) :
    OperationRecords
      (fun events answer => (∀ event ∈ events, event.Checks process) ∧
        (answer = .ok () → Seen ensure events))
      (runner.awaitEnsured backend.recorded ensure) (runner.awaitEnsured backend ensure) := by
  cases ensure with
  | none => exact .done ⟨by simp, fun _ => rfl⟩
  | some matcher =>
      apply (compile_records matcher).run_bind
      · rintro failure early ⟨rfl, _⟩
        exact ⟨by simp, by simp⟩
      · rintro compiled early ⟨rfl, compiles⟩
        apply (awaitScreen_records backend compiled process _ _).mono
        rintro events answer ⟨fits, told⟩
        refine ⟨fits, fun done => ?_⟩
        obtain ⟨looks, last, same, screen, rfl, found⟩ := told done
        obtain ⟨text, rfl, matched⟩ := found true rfl
        exact ⟨compiled, looks, text, compiles.symm, same, matched⟩

theorem awaitSequence_records (runner : ScenarioRunner) (backend : Backend σ)
    (sequence : PlannedSequence) (process : Nat) :
    OperationRecords
      (fun events answer => (∀ event ∈ events, event.Checks process) ∧
        (answer = .ok () → Readied process sequence.ensure events))
      (runner.awaitSequence backend.recorded sequence process)
      (runner.awaitSequence backend sequence process) := by
  unfold ScenarioRunner.awaitSequence
  apply (awaitRunning_records backend process _).run_bind
  · rintro failure early ⟨fits, _⟩
    exact ⟨fits, by simp⟩
  · rintro ⟨⟩ early ⟨fits, told⟩
    obtain ⟨asked, last, rfl, rfl⟩ := told rfl
    apply (awaitEnsured_records runner backend process sequence.ensure).mono
    rintro late answer ⟨late_fits, seen⟩
    constructor
    · intro event member
      exact (List.mem_append.mp member).elim (fits event) (late_fits event)
    · intro done
      exact ⟨asked, late, rfl, seen done⟩

def Launched (launch : LaunchSpec) (events : List Event) : Prop :=
  ∃ answer later, events = .launch launch.command launch.args launch.cwd answer :: later ∧
    ∀ event ∈ later, event.Inner

theorem awaitStartup_records (runner : ScenarioRunner) (backend : Backend σ) (process : Nat) :
    OperationRecords (Only Event.Inner) (runner.awaitStartup backend.recorded process)
      (runner.awaitStartup backend process) := by
  unfold ScenarioRunner.awaitStartup
  split
  · apply (awaitRunning_records backend process _).mono
    intro events answer told event member
    exact (told.1 event member).inner
  · exact .only_done

theorem awaitReady_records (runner : ScenarioRunner) (backend : Backend σ) :
    OperationRecords (Only Event.Inner) (runner.awaitReady backend.recorded)
      (runner.awaitReady backend) := by
  unfold ScenarioRunner.awaitReady
  split
  · apply (awaitScreen_records backend _ 0 _ _).mono
    intro events answer told event member
    exact (told.1 event member).inner
  · exact .only_done

theorem start_records (runner : ScenarioRunner) (backend : Backend σ) :
    OperationRecords (fun events _ => Launched runner.plan.scenario.launch events)
      (runner.start backend.recorded) (runner.start backend) := by
  unfold ScenarioRunner.start
  apply (noted_records (.launch _ _ _) (backend.launch _ _ _)).run_bind
  · rintro failure early rfl
    exact ⟨.error failure, [], rfl, by simp⟩
  · rintro process early rfl
    have looks : OperationRecords (Only Event.Inner)
        (do
          runner.awaitStartup backend.recorded process
          runner.awaitReady backend.recorded
          pure process)
        (do
          runner.awaitStartup backend process
          runner.awaitReady backend
          pure process) := by
      apply (awaitStartup_records runner backend process).only_bind
      intro _
      apply (awaitReady_records runner backend).only_bind
      intro _
      exact .only_done
    apply looks.mono
    intro late answer inner
    exact ⟨.ok process, late, rfl, inner⟩

def Interpreter.recorded (interpreter : Interpreter σ) : Interpreter (σ × List Event) :=
  { backend := interpreter.backend.recorded, timing := interpreter.timing,
    captures := interpreter.captures, sequence := interpreter.sequence }

abbrev InnerRecords (recorded : Operation (σ × List Event) α) (plain : Operation σ α) : Prop :=
  OperationRecords (Only Event.Inner) recorded plain

section Steps

variable (backend : Backend σ)

theorem inner_of_noted {event : Outcome α → Event} (operation : Operation σ α)
    (inner : ∀ answer, (event answer).Inner) : InnerRecords (noted event operation) operation :=
  noted_only operation inner

theorem read_records (surface : Surface) :
    InnerRecords (surface.read backend.recorded) (surface.read backend) := by
  cases surface <;> exact inner_of_noted _ fun _ => ⟨rfl, rfl⟩

theorem awaitMatch_records (matcher : CompiledMatcher) (surface : Surface) (absent : Bool)
    (timeout poll : Nat) :
    InnerRecords (backend.recorded.awaitMatch matcher surface absent timeout poll)
      (backend.awaitMatch matcher surface absent timeout poll) := by
  have looks : InnerRecords
      (do
        let text ← surface.read backend.recorded
        pure (matcher.isMatch text != absent))
      (do
        let text ← surface.read backend
        pure (matcher.isMatch text != absent)) :=
    (read_records backend surface).only_bind fun _ => .only_done
  exact (await_records looks (fun _ _ inner => inner) _ _ _).mono fun _ _ told => told.1

theorem compile_only (matcher : Matcher) :
    InnerRecords
      (ExceptT.mk (pure (CompiledMatcher.compile matcher)) : Operation (σ × List Event) _)
      (ExceptT.mk (pure (CompiledMatcher.compile matcher)) : Operation σ _) :=
  .only_done

theorem part_records {capture' : Operation (σ × List Event) String} {capture : Operation σ String}
    (wanted : Bool) (records : InnerRecords capture' capture) :
    InnerRecords (Interpreter.part wanted capture') (Interpreter.part wanted capture) := by
  cases wanted with
  | false => exact .only_done
  | true => exact records.only_bind fun _ => .only_done

variable (interpreter : Interpreter σ)

theorem snapshot_records (scope : Scope) (lines : Nat) :
    InnerRecords (interpreter.recorded.snapshot scope lines)
      (interpreter.snapshot scope lines) := by
  apply (part_records _ (read_records interpreter.backend .screen)).only_bind
  intro screen
  apply (part_records _ (read_records interpreter.backend (.scrollback lines))).only_bind
  intro scrollback
  apply (part_records _ (read_records interpreter.backend .transcript)).only_bind
  intro transcript
  exact .only_done

theorem waitFor_records (matcher : Matcher) (surface : Surface) (absent : Bool) (timing : Timing) :
    InnerRecords (interpreter.recorded.waitFor matcher surface absent timing)
      (interpreter.waitFor matcher surface absent timing) :=
  (compile_only matcher).only_bind fun compiled =>
    awaitMatch_records interpreter.backend compiled surface absent _ _

theorem expect_records (matcher : Matcher) (surface : Surface) (scope : Scope) :
    InnerRecords (interpreter.recorded.expect matcher surface scope)
      (interpreter.expect matcher surface scope) := by
  apply (compile_only matcher).only_bind
  intro compiled
  apply (read_records interpreter.backend surface).only_bind
  intro text
  split
  · exact .throwing (by simp [Only])
  · exact .only_done

theorem expectCount_records (matcher : Matcher) (equals atLeast atMost : Option UInt64)
    (surface : Surface) :
    InnerRecords (interpreter.recorded.expectCount matcher equals atLeast atMost surface)
      (interpreter.expectCount matcher equals atLeast atMost surface) := by
  apply (compile_only matcher).only_bind
  intro compiled
  apply (read_records interpreter.backend surface).only_bind
  intro text
  exact .only_done

theorem typeLine_records (text : String) (keys : Option (List String)) :
    InnerRecords (interpreter.recorded.typeLine text keys) (interpreter.typeLine text keys) := by
  cases keys with
  | none => exact inner_of_noted _ fun _ => ⟨rfl, rfl⟩
  | some keys =>
      have typed : InnerRecords (interpreter.recorded.backend.sendText text)
          (interpreter.backend.sendText text) := inner_of_noted _ fun _ => ⟨rfl, rfl⟩
      exact typed.only_bind fun _ => inner_of_noted _ fun _ => ⟨rfl, rfl⟩

end Steps

abbrev ActRecords (law : List Event → Outcome α → Prop) (recorded : Act (σ × List Event) α)
    (plain : Act σ α) : Prop :=
  Records Stage.recording law recorded.run plain.run

theorem perform_records {law : List Event → Outcome α → Prop}
    {recorded : Operation (σ × List Event) α} {plain : Operation σ α}
    (records : OperationRecords law recorded plain) :
    ActRecords law (Interpreter.perform recorded) (Interpreter.perform plain) := by
  intro stage
  obtain ⟨events, kept, same⟩ := records stage.backend
  refine ⟨events, kept, fun earlier => ?_⟩
  rw [ran_perform, ran_perform]
  simp only [Stage.recording, same]

section Steps

variable (interpreter : Interpreter σ)

theorem stageSleep_records (duration : Nat) :
    ActRecords (Only Event.Inner) (interpreter.recorded.sleep duration)
      (interpreter.sleep duration) := by
  intro stage
  refine ⟨[], by simp [Only], fun earlier => ?_⟩
  rw [List.append_nil]
  rfl

theorem writeCapture_records (directory label : String) (format : CaptureFormat)
    (snapshot : Snapshot) :
    ActRecords (Only Event.Inner)
      (interpreter.recorded.writeCapture directory label format snapshot)
      (interpreter.writeCapture directory label format snapshot) := by
  intro stage
  refine ⟨[], by simp [Only], fun earlier => ?_⟩
  rw [List.append_nil, ran_writeCapture, ran_writeCapture]
  simp only [Stage.recording, Interpreter.recorded]
  split <;> rfl

theorem keepCapture_records (stepDirectory : Option String) (label : String)
    (format : CaptureFormat) (snapshot : Snapshot) :
    ActRecords (Only Event.Inner)
      (interpreter.recorded.keepCapture stepDirectory label format snapshot)
      (interpreter.keepCapture stepDirectory label format snapshot) := by
  simp only [Interpreter.keepCapture, Interpreter.recorded]
  split
  · exact writeCapture_records interpreter _ label format snapshot
  · exact .only_done

theorem execute_records (step : Step) (index : Nat) :
    ActRecords (Only Event.Inner) (interpreter.recorded.execute step index)
      (interpreter.execute step index) := by
  unfold Interpreter.execute
  cases step.kind with
  | line text keys post =>
      exact (perform_records (typeLine_records interpreter text keys)).only_bind
        fun _ => stageSleep_records interpreter _
  | sendKeys keys => exact perform_records (inner_of_noted _ fun _ => ⟨rfl, rfl⟩)
  | keys keys => exact perform_records (inner_of_noted _ fun _ => ⟨rfl, rfl⟩)
  | paste text => exact perform_records (inner_of_noted _ fun _ => ⟨rfl, rfl⟩)
  | sleep ms => exact stageSleep_records interpreter _
  | resize cols rows => exact perform_records (inner_of_noted _ fun _ => ⟨rfl, rfl⟩)
  | waitFor matcher => exact perform_records (waitFor_records interpreter matcher _ _ _)
  | waitForNot matcher => exact perform_records (waitFor_records interpreter matcher _ _ _)
  | expect matcher => exact perform_records (expect_records interpreter matcher _ _)
  | expectCount matcher equals atLeast atMost =>
      exact perform_records (expectCount_records interpreter matcher equals atLeast atMost _)
  | waitForExit => exact perform_records (inner_of_noted _ fun _ => ⟨rfl, rfl⟩)
  | capture name format =>
      apply (perform_records (snapshot_records interpreter _ _)).only_bind
      exact fun snapshot => keepCapture_records interpreter _ _ _ snapshot
  | waitForStable stable => exact perform_records (inner_of_noted _ fun _ => ⟨rfl, rfl⟩)
  | call name args => exact .throwing (by simp [Only])
  | mouse action button x y delta modifiers => exact .throwing (by simp [Only])
  | scroll direction amount => exact .throwing (by simp [Only])

end Steps

end TerminalScript
