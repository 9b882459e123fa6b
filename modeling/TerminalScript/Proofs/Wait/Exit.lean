import TerminalScript.Proofs.Wait.Polls

/-!
Waiting for a scripted process to exit. The wait looks every ten milliseconds, and no pause is cut
at the deadline: its last look is at the first multiple of ten that is not before it. An exit
between the two is taken for one in time.
-/

namespace TerminalScript.Scripted

def exitOf (next : Nat) : List Event → Option Nat
  | [] => none
  | event :: rest =>
      let due := max next event.time
      if event.exit then some due else exitOf due rest

/-- When the process exits if nothing is asked of it. A change that is overdue comes as soon as any
time passes. -/
def State.exitTime (state : State) : Option Nat :=
  if state.running then exitOf (state.time + 1) state.events else some state.time

def lookAfter (duration : Nat) : Nat :=
  (duration + 9) / 10 * 10

variable {state : State} {timeout : Nat}

theorem le_of_mem_exitOf {next exit : Nat} {events : List Event}
    (member : exit ∈ exitOf next events) : next ≤ exit := by
  induction events generalizing next with
  | nil => simp [exitOf] at member
  | cons event rest ih =>
      rw [exitOf] at member
      by_cases exits : event.exit = true
      · rw [if_pos exits, Option.mem_some_iff] at member
        omega
      · rw [if_neg exits] at member
        have later := ih member
        omega

theorem le_of_mem_exitOf_cons {next exit : Nat} {event : Event} {rest : List Event}
    (member : exit ∈ exitOf next (event :: rest)) : event.time ≤ exit := by
  have later : max next event.time ≤ exit := by
    rw [exitOf] at member
    by_cases exits : event.exit = true
    · rw [if_pos exits, Option.mem_some_iff] at member
      exact Nat.le_of_eq member
    · rw [if_neg exits] at member
      exact le_of_mem_exitOf member
  omega

theorem running_settle {next time : Nat} (events : List Event) (state : State)
    (reached : next ≤ time) :
    (State.settle time events state).running = false ↔
      state.running = false ∨ ∃ exit ∈ exitOf next events, exit ≤ time := by
  induction events generalizing next state with
  | nil => simp [State.settle, exitOf]
  | cons event rest ih =>
      by_cases due : event.time ≤ time
      · have soon : max next event.time ≤ time := Nat.max_le.mpr ⟨reached, due⟩
        rw [State.settle, if_pos due, ih _ soon, exitOf]
        by_cases exits : event.exit = true
        · simp [Event.apply, exits, soon]
        · simp [Event.apply, exits]
      · have kept : ¬∃ exit ∈ exitOf next (event :: rest), exit ≤ time := by
          rintro ⟨exit, member, intime⟩
          have later := le_of_mem_exitOf_cons member
          omega
        rw [State.settle, if_neg due]
        simp only [kept, or_false]

theorem settle_events (time : Nat) (events others : List Event) (state : State) :
    State.settle time events { state with events := others } = State.settle time events state := by
  induction events generalizing state with
  | nil => rfl
  | cons event rest ih =>
      rw [State.settle, State.settle]
      split
      · exact ih (event.apply state)
      · rfl

def State.setTime (time : Nat) (state : State) : State :=
  { state with time }

theorem sleep_eq (duration : Nat) (state : State) :
    state.sleep duration = State.settle (state.time + duration) state.events
      (state.setTime (state.time + duration)) := rfl

/-- Changes that come by a later time come in one go or, some of them earlier, in two. -/
theorem settle_settle {time later : Nat} (order : time ≤ later) (now : Nat) (events : List Event)
    (state : State) :
    State.settle later (State.settle time events state).events
        ((State.settle time events state).setTime now) =
      State.settle later events (state.setTime now) := by
  induction events generalizing state with
  | nil => rfl
  | cons event rest ih =>
      by_cases due : event.time ≤ time
      · have settled : State.settle time (event :: rest) state =
            State.settle time rest (event.apply state) := by rw [State.settle, if_pos due]
        rw [settled, ih, State.settle, if_pos (Nat.le_trans due order)]
        rfl
      · have settled : State.settle time (event :: rest) state =
            { state with events := event :: rest } := by rw [State.settle, if_neg due]
        rw [settled]
        exact settle_events later (event :: rest) (event :: rest) (state.setTime now)

/-- Sleeping twice is sleeping once for both times. -/
theorem sleep_sleep (first second : Nat) (state : State) :
    (state.sleep first).sleep second = state.sleep (first + second) := by
  rw [sleep_eq second, time_sleep, sleep_eq first, settle_settle (Nat.le_add_right _ _),
    sleep_eq (first + second), Nat.add_assoc]
  rfl

theorem iterate_sleep (duration count : Nat) (state : State) :
    (State.sleep duration)^[count + 1] state = state.sleep ((count + 1) * duration) := by
  induction count with
  | zero => simp
  | succ count ih =>
      rw [Function.iterate_succ_apply', ih, sleep_sleep, Nat.succ_mul (count + 1)]

theorem gone_sleep {duration : Nat} (passes : 0 < duration) (state : State) :
    (state.sleep duration).running = false ↔
      ∃ exit ∈ state.exitTime, exit ≤ state.time + duration := by
  have overdue : state.time + 1 ≤ state.time + duration := by omega
  rw [sleep_eq, running_settle state.events _ overdue]
  unfold State.exitTime
  cases running : state.running with
  | true => simp [State.setTime, running]
  | false => simp [State.setTime, running]

theorem gone_now (state : State) :
    state.running = false ↔ ∃ exit ∈ state.exitTime, exit ≤ state.time := by
  unfold State.exitTime
  cases running : state.running with
  | false => simp
  | true =>
      simp only [Bool.true_eq_false, false_iff]
      rintro ⟨exit, member, intime⟩
      have later := le_of_mem_exitOf member
      omega

theorem gone_iterate (count : Nat) (state : State) :
    ((State.sleep 10)^[count] state).running = false ↔
      ∃ exit ∈ state.exitTime, exit ≤ state.time + count * 10 := by
  cases count with
  | zero => simpa using gone_now state
  | succ count =>
      rw [iterate_sleep]
      exact gone_sleep (by omega) state

theorem time_iterate (count : Nat) (state : State) :
    ((State.sleep 10)^[count] state).time = state.time + count * 10 := by
  cases count with
  | zero => simp
  | succ count => rw [iterate_sleep, time_sleep]

/-- The wait is a poll: what is left of its time is what is left before the deadline. -/
theorem ran_awaitExit_eq_poll {deadline remaining : Nat} (left : remaining = deadline - state.time) :
    ran (awaitExit timeout remaining).run state =
      ran (Backend.pollUntil State.time State.sleep 10 (exitWait timeout).look
        (.matchTimeout .processExit timeout) deadline remaining).run state := by
  induction remaining using Nat.strongRecOn generalizing state with
  | ind remaining ih =>
      have looked : ran (exitWait timeout).look.run state = (.ok (!state.running), state) := rfl
      rw [ran_awaitExit, ran_pollUntil, looked]
      cases state.running with
      | false => rfl
      | true =>
          have bound : min remaining (deadline - state.time) = remaining := by omega
          simp only [Bool.not_true, if_true, bound]
          by_cases spent : remaining = 0
          · rw [if_pos spent, if_pos spent]
          · have pause : Backend.pauseOf 10 remaining = min 10 remaining :=
              Wait.pauseOf_eq_min (by decide) remaining
            have rest : remaining - min 10 remaining = remaining - 10 := by omega
            rw [if_neg spent, if_neg spent, pause, rest]
            exact ih _ (by omega) (by rw [time_sleep]; omega)

/-- The wait ends with the first look that finds the process gone or is not before the deadline. -/
theorem awaitExit_looks (timeout : Nat) (state : State) :
    ∃ looks, (ran (awaitExit timeout timeout).run state).2 = (State.sleep 10)^[looks] state ∧
      (∀ earlier < looks, ((State.sleep 10)^[earlier] state).running = true ∧
        earlier * 10 < timeout) ∧
      Watch.Decides Watch.Found (timeout ≤ looks * 10) (.matchTimeout .processExit timeout)
        (.ok (!((State.sleep 10)^[looks] state).running))
        (ran (awaitExit timeout timeout).run state).1 := by
  have forward : Forward State.time State.sleep (exitWait timeout).look :=
    ⟨fun _ => Nat.le_refl _, time_sleep⟩
  obtain ⟨looks, undecided, last, decides⟩ :=
    poll_decides forward (by decide : 10 ≠ 0) (.matchTimeout .processExit timeout) timeout state
  have polled : ran (awaitExit timeout timeout).run state =
      ran (Backend.poll State.time State.sleep 10 (exitWait timeout).look
        (.matchTimeout .processExit timeout) timeout).run state :=
    ran_awaitExit_eq_poll (by omega)
  have seen (count : Nat) : ran (exitWait timeout).look.run
      (polledAt State.sleep 10 (exitWait timeout).look state count) =
        (.ok (!((State.sleep 10)^[count] state).running), (State.sleep 10)^[count] state) := rfl
  simp only [seen, time_iterate] at undecided last decides
  rw [polled]
  refine ⟨looks, last, fun earlier before => ?_, decides.mono (by omega)⟩
  obtain ⟨running, early⟩ := undecided earlier before
  exact ⟨by simpa using running, by omega⟩

theorem running_iterate (count : Nat) (state : State) :
    ((State.sleep 10)^[count] state).running = true ↔
      ∀ exit ∈ state.exitTime, state.time + count * 10 < exit := by
  rw [← Bool.not_eq_false, gone_iterate]
  simp only [not_exists, not_and, Nat.not_le]

theorem le_lookAfter {duration count : Nat} (early : ∀ earlier < count, earlier * 10 < duration) :
    count * 10 ≤ lookAfter duration := by
  unfold lookAfter
  cases count with
  | zero => omega
  | succ count =>
      have before := early count (Nat.lt_succ_self count)
      omega

theorem lookAfter_eq {duration count : Nat} (early : ∀ earlier < count, earlier * 10 < duration)
    (reached : duration ≤ count * 10) : lookAfter duration = count * 10 := by
  have least := le_lookAfter early
  unfold lookAfter at least ⊢
  omega

theorem lookAfter_bounds (duration : Nat) :
    duration ≤ lookAfter duration ∧ lookAfter duration < duration + 10 ∧
      (lookAfter duration = duration ↔ 10 ∣ duration) := by
  unfold lookAfter
  omega

theorem lookAfter_le {duration other : Nat} (reached : duration ≤ lookAfter other) :
    lookAfter duration ≤ lookAfter other := by
  unfold lookAfter at reached ⊢
  omega

/-- Either the process exits by the last look and is found gone at the first look after that, or the
wait is in vain until the last look. -/
theorem awaitExit_cases (timeout : Nat) (state : State) :
    let waited := ran (awaitExit timeout timeout).run state
    let last := state.time + lookAfter timeout
    (∃ exit ∈ state.exitTime, exit ≤ last ∧ waited.1 = .ok () ∧
        waited.2.time = state.time + lookAfter (exit - state.time)) ∨
      (∀ exit ∈ state.exitTime, last < exit) ∧
        waited.1 = .error (.matchTimeout .processExit timeout) ∧ waited.2.time = last := by
  intro waited last
  obtain ⟨looks, slept, undecided, decides⟩ := awaitExit_looks timeout state
  have time : waited.2.time = state.time + looks * 10 := by rw [slept, time_iterate]
  have running : ∀ earlier < looks, ∀ exit ∈ state.exitTime, state.time + earlier * 10 < exit :=
    fun earlier before => (running_iterate earlier state).mp (undecided earlier before).1
  have early : ∀ earlier < looks, earlier * 10 < timeout :=
    fun earlier before => (undecided earlier before).2
  generalize found : (!((State.sleep 10)^[looks] state).running) = gone at decides
  change Watch.Decides _ _ _ _ waited.1 at decides
  generalize waited.1 = answer at decides ⊢
  cases decides with
  | found met =>
      left
      obtain ⟨exit, member, reached⟩ := (gone_iterate looks state).mp (by simpa [met] using found)
      have least := le_lookAfter early
      have first : lookAfter (exit - state.time) = looks * 10 := by
        refine lookAfter_eq (fun earlier before => ?_) (by omega)
        have later := running earlier before exit member
        omega
      exact ⟨exit, member, by omega, rfl, by rw [time, first]⟩
  | expired unmet late =>
      right
      have alive : ((State.sleep 10)^[looks] state).running = true := by simpa [← found] using unmet
      have ended : last = state.time + looks * 10 := by
        simp only [last, lookAfter_eq early late]
      rw [ended]
      exact ⟨(running_iterate looks state).mp alive, rfl, time⟩

/-- The wait succeeds exactly if the process exits by the last look, and then at the first look after
the exit; else it fails at the last look. That is less than ten milliseconds after the deadline, and
at the deadline exactly if the timeout is a multiple of ten. -/
theorem exit_awaited (script : Script) (timeout : Nat) (state : State) :
    let waited := ran ((backend script).waitForExit timeout).run state
    let deadline := state.time + timeout
    let last := state.time + lookAfter timeout
    (waited.1 = .ok () ↔ ∃ exit ∈ state.exitTime, exit ≤ last) ∧
    (∀ exit ∈ state.exitTime, exit ≤ last →
      waited.2.time = state.time + lookAfter (exit - state.time)) ∧
    ((∀ exit ∈ state.exitTime, last < exit) →
      waited.1 = .error (.matchTimeout .processExit timeout) ∧ waited.2.time = last) ∧
    waited.2.time ≤ last ∧ deadline ≤ last ∧ last < deadline + 10 ∧
    (last = deadline ↔ 10 ∣ timeout) := by
  intro waited deadline last
  have bounds := lookAfter_bounds timeout
  rcases awaitExit_cases timeout state with
    ⟨exit, member, intime, answered, time⟩ | ⟨outside, answered, time⟩
  · have only : ∀ other ∈ state.exitTime, other = exit :=
      fun other member' => Option.mem_unique member' member
    have within : lookAfter (exit - state.time) ≤ lookAfter timeout := lookAfter_le (by omega)
    refine ⟨iff_of_true answered ⟨exit, member, intime⟩, ?_, ?_, ?_, by omega, by omega, by omega⟩
    · intro other member' _
      rw [only other member']
      exact time
    · intro outside
      have later := outside exit member
      omega
    · exact Nat.le_trans (Nat.le_of_eq time) (Nat.add_le_add_left within _)
  · have unanswered : ¬waited.1 = .ok () := by
      intro succeeded
      cases answered.symm.trans succeeded
    have missed : ¬∃ exit ∈ state.exitTime, exit ≤ last := by
      rintro ⟨exit, member, intime⟩
      exact Nat.not_le_of_lt (outside exit member) intime
    refine ⟨iff_of_false unanswered missed, ?_, fun _ => ⟨answered, time⟩, Nat.le_of_eq time,
      by omega, by omega, by omega⟩
    intro exit member intime
    exact absurd ⟨exit, member, intime⟩ missed

def exitingAt (time : Nat) : State where
  events := [{ time, exit := true }]
  running := true

theorem exit_awaited_of_quitting :
    let waited := ran ((backend {}).waitForExit 20).run (exitingAt 13)
    let missed := ran ((backend {}).waitForExit 15).run (exitingAt 23)
    (13 ∈ (exitingAt 13).exitTime ∧ 13 ≤ 0 + lookAfter 20 ∧ waited.1 = .ok () ∧
      waited.2.time = 20) ∧
    (∀ exit ∈ (exitingAt 23).exitTime, 0 + lookAfter 15 < exit) ∧
      missed.1 = .error (.matchTimeout .processExit 15) ∧ missed.2.time = 20 := by
  intro waited missed
  obtain ⟨answered, time, _⟩ := exit_awaited {} 20 (exitingAt 13)
  obtain ⟨_, _, failed, _⟩ := exit_awaited {} 15 (exitingAt 23)
  have outside : ∀ exit ∈ (exitingAt 23).exitTime, 0 + lookAfter 15 < exit := by
    intro exit member
    obtain rfl : 23 = exit := Option.some.inj member
    decide
  exact ⟨⟨rfl, by decide, answered.mpr ⟨13, rfl, by decide⟩, time 13 rfl (by decide)⟩, outside,
    failed outside⟩

/-- The process exits two milliseconds after the deadline, and that is taken for an exit in time five
milliseconds after the deadline. -/
theorem exit_awaited_late :
    let waited := ran ((backend {}).waitForExit 5).run (exitingAt 7)
    (exitingAt 7).exitTime = some 7 ∧ waited.1.isOk = true ∧
      (¬∃ exit ∈ (exitingAt 7).exitTime, exit ≤ (exitingAt 7).time + 5) ∧
      ¬waited.2.time ≤ (exitingAt 7).time + 5 := by
  intro waited
  refine ⟨rfl, by decide +kernel, ?_, by decide +kernel⟩
  rintro ⟨exit, member, intime⟩
  obtain rfl : 7 = exit := Option.some.inj member
  exact absurd intime (by decide)

end TerminalScript.Scripted
