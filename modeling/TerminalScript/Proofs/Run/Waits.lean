import TerminalScript.Backend.Scripted
import TerminalScript.Proofs.Run.Operations

/-!
Waits as loops without a bound: a wait looks, sleeps and looks again until it has seen what it waits
for or its deadline has come, and nothing else ends it. On a clock that only sleeping moves, a wait
that never sleeps for nothing comes to an end, and it is the end that the waits of the backends
compute, with their bound and their least pause.
-/

namespace TerminalScript

/-- What may come of a program: the answer and the last state, for each state that it begins in. A
program that goes on for ever is related to nothing there. -/
abbrev Course (S α : Type) := S → α → S → Prop

def Course.of {S α : Type} (program : StateM S α) : Course S α :=
  fun state answer last => ran program state = (answer, last)

structure Wait (σ : Type) where
  now : σ → Nat
  sleep : Nat → σ → σ
  pause : Nat → Nat
  look : Operation σ Bool
  timedOut : Failure

namespace Wait

variable {σ : Type} (wait : Wait σ)

def step (deadline : Nat) (state : σ) : (Outcome Unit × σ) ⊕ σ :=
  match ran wait.look.run state with
  | (.ok true, after) => .inl (.ok (), after)
  | (.ok false, after) =>
      if deadline ≤ wait.now after then .inl (.error wait.timedOut, after)
      else .inr (wait.sleep (wait.pause (deadline - wait.now after)) after)
  | (.error failure, after) => .inl (.error failure, after)

inductive Ends (deadline : Nat) : σ → Outcome Unit → σ → Prop
  | done {state last : σ} {answer : Outcome Unit}
      (looked : wait.step deadline state = .inl (answer, last)) : Ends deadline state answer last
  | again {state next last : σ} {answer : Outcome Unit}
      (looked : wait.step deadline state = .inr next) (later : Ends deadline next answer last) :
      Ends deadline state answer last

structure Steady : Prop where
  still : ∀ state, wait.now (ran wait.look.run state).2 = wait.now state
  exact : ∀ duration state, wait.now (wait.sleep duration state) = wait.now state + duration

variable {wait} {deadline : Nat} {state next last : σ} {answer : Outcome Unit}

theorem Ends.unique {last' : σ} {answer' : Outcome Unit}
    (ends : wait.Ends deadline state answer last)
    (ends' : wait.Ends deadline state answer' last') : answer = answer' ∧ last = last' := by
  induction ends with
  | done looked =>
      cases ends' with
      | done looked' =>
          cases looked.symm.trans looked'
          exact ⟨rfl, rfl⟩
      | again looked' => cases looked.symm.trans looked'
  | again looked later ih =>
      cases ends' with
      | done looked' => cases looked.symm.trans looked'
      | again looked' later' =>
          cases looked.symm.trans looked'
          exact ih later'

theorem Steady.of_done (steady : wait.Steady)
    (looked : wait.step deadline state = .inl (answer, last)) : wait.now last = wait.now state := by
  have still := steady.still state
  grind [step]

theorem Steady.of_again (steady : wait.Steady)
    (looked : wait.step deadline state = .inr next) :
    wait.now state < deadline ∧
      wait.now next = wait.now state + wait.pause (deadline - wait.now state) := by
  have still := steady.still state
  have exact := steady.exact
  grind [step]

/-- A wait takes no longer than its pauses may add up to in the time that is left. -/
theorem Ends.elapsed (steady : wait.Steady) {total : Nat → Nat}
    (enough : ∀ left, left ≠ 0 → wait.pause left + total (left - wait.pause left) ≤ total left)
    (ends : wait.Ends deadline state answer last) :
    wait.now last ≤ wait.now state + total (deadline - wait.now state) := by
  induction ends with
  | done looked =>
      rw [steady.of_done looked]
      exact Nat.le_add_right _ _
  | @again state next last answer looked later ih =>
      obtain ⟨early, moved⟩ := steady.of_again looked
      have paid := enough (deadline - wait.now state) (by omega)
      rw [moved, Nat.sub_add_eq] at ih
      omega

/-- What neither a look nor a pause changes is not changed by a wait. -/
theorem Ends.kept {α : Type} (view : σ → α)
    (looks : ∀ state, view (ran wait.look.run state).2 = view state)
    (sleeps : ∀ duration state, view (wait.sleep duration state) = view state)
    (ends : wait.Ends deadline state answer last) : view last = view state := by
  induction ends with
  | @done state last answer looked =>
      have kept := looks state
      grind [step]
  | @again state next last answer looked later ih =>
      have kept := looks state
      grind [step]

def course (wait : Wait σ) (timeout : Nat) : Course σ (Outcome Unit) :=
  fun state => wait.Ends (wait.now state + timeout) state

theorem course_eq_of {timeout : Nat} {program : StateM σ (Outcome Unit)}
    (ends : ∀ state, wait.course timeout state (ran program state).1 (ran program state).2) :
    wait.course timeout = Course.of program := by
  funext state answer last
  apply propext
  constructor
  · intro other
    obtain ⟨same, same'⟩ := (ends state).unique other
    exact Prod.ext same same'
  · intro same
    have own := ends state
    rw [Course.of] at same
    rwa [same] at own

def polling (now : σ → Nat) (sleep : Nat → σ → σ) (interval : Nat) (look : Operation σ Bool)
    (timedOut : Failure) : Wait σ :=
  { now, sleep, pause := min interval, look, timedOut }

theorem pauseOf_eq_min {interval : Nat} (positive : interval ≠ 0) (remaining : Nat) :
    Backend.pauseOf interval remaining = min interval remaining := by
  rw [Backend.pauseOf, Nat.max_eq_left (Nat.one_le_iff_ne_zero.mpr positive)]

variable {now : σ → Nat} {sleep : Nat → σ → σ} {interval : Nat} {look : Operation σ Bool}
  {timedOut : Failure}

theorem ran_awaitUntil (deadline bound : Nat) (state : σ) :
    ran (Backend.awaitUntil now sleep interval look timedOut deadline bound).run state =
      match ran look.run state with
      | (.ok true, after) => (.ok (), after)
      | (.ok false, after) =>
          let left := min bound (deadline - now after)
          if left = 0 then (.error timedOut, after)
          else
            let pause := Backend.pauseOf interval left
            ran (Backend.awaitUntil now sleep interval look timedOut deadline (bound - pause)).run
              (sleep pause after)
      | (.error failure, after) => (.error failure, after) := by
  rw [awaitUntil_eq, ran_run_bind]
  rcases ran look.run state with ⟨failure | found, after⟩
  · rfl
  · cases found with
    | true => rfl
    | false =>
        have read : ran (get : Operation σ σ).run after = (.ok after, after) := rfl
        simp only [Bool.false_eq_true, if_false]
        rw [ran_run_bind_ok read, pauseAgain]
        split <;> rfl

theorem awaitUntil_ends (steady : (polling now sleep interval look timedOut).Steady)
    (positive : interval ≠ 0) (bound : Nat) (state : σ) (enough : deadline - now state ≤ bound) :
    (polling now sleep interval look timedOut).Ends deadline state
      (ran (Backend.awaitUntil now sleep interval look timedOut deadline bound).run state).1
      (ran (Backend.awaitUntil now sleep interval look timedOut deadline bound).run state).2 := by
  -- The bound is never less than the time that is left, so it never cuts a pause short.
  induction bound using Nat.strongRecOn generalizing state with
  | ind bound ih =>
      have still : now (ran look.run state).2 = now state := steady.still state
      rw [ran_awaitUntil]
      rcases seen : ran look.run state with ⟨failure | found, after⟩
      · exact .done (by simp [step, polling, seen])
      · cases found with
        | true => exact .done (by simp [step, polling, seen])
        | false =>
            rw [seen] at still
            dsimp only at still ⊢
            rw [Nat.min_eq_right (still ▸ enough)]
            split
            · rename_i late
              exact .done (by simp [step, polling, seen, Nat.le_of_sub_eq_zero late])
            · rename_i early
              have moved := steady.exact (min interval (deadline - now after)) after
              rw [pauseOf_eq_min positive]
              have before : ¬deadline ≤ now after := by omega
              have again : (polling now sleep interval look timedOut).step deadline state =
                  .inr (sleep (min interval (deadline - now after)) after) := by
                simp [step, polling, seen, before]
              simp only [polling] at moved
              exact .again again (ih _ (by omega) _ (by omega))

theorem ran_await (timeout : Nat) (state : σ) :
    ran (Backend.await now sleep interval look timedOut timeout).run state =
      ran (Backend.awaitUntil now sleep interval look timedOut (now state + timeout) timeout).run
        state := rfl

theorem course_polling (steady : (polling now sleep interval look timedOut).Steady)
    (positive : interval ≠ 0) (timeout : Nat) :
    (polling now sleep interval look timedOut).course timeout =
      Course.of (Backend.await now sleep interval look timedOut timeout).run :=
  course_eq_of fun state =>
    awaitUntil_ends steady positive timeout state (Nat.add_sub_cancel_left _ _ ▸ Nat.le_refl _)

def sampled (now : σ → Nat) (digest : Operation σ String) (stable : Nat) :
    Operation (σ × StabilityTracker) Bool :=
  -- The tracker is kept beside the state.
  ExceptT.mk fun (state, tracker) =>
    match ran digest.run state with
    | (.ok hash, after) =>
        let (unchanged, tracker) := tracker.observeHash hash (now after)
        (.ok (unchanged ≥ stable), (after, tracker))
    | (.error failure, after) => (.error failure, (after, tracker))

def sampling (now : σ → Nat) (sleep : Nat → σ → σ) (interval : Nat) (digest : Operation σ String)
    (stable : Nat) (timedOut : Failure) : Wait (σ × StabilityTracker) :=
  polling (fun state => now state.1) (fun duration state => (sleep duration state.1, state.2))
    interval (sampled now digest stable) timedOut

def stableCourse (now : σ → Nat) (sleep : Nat → σ → σ) (interval : Nat)
    (digest : Operation σ String) (stable timeout : Nat) : Course σ (Outcome Unit) :=
  fun state answer last => ∃ tracker,
    (sampling now sleep interval digest stable (.matchTimeout (.stable stable) timeout)).course
      timeout (state, {}) answer (last, tracker)

variable {digest : Operation σ String} {stable : Nat}

theorem ran_sampled (state : σ) (tracker : StabilityTracker) :
    ran (sampled now digest stable).run (state, tracker) =
      match ran digest.run state with
      | (.ok hash, after) =>
          let (unchanged, tracker) := tracker.observeHash hash (now after)
          (.ok (unchanged ≥ stable), (after, tracker))
      | (.error failure, after) => (.error failure, (after, tracker)) := rfl

theorem ran_awaitStableUntil (deadline bound : Nat) (tracker : StabilityTracker) (state : σ) :
    ran (Backend.awaitStableUntil now sleep interval digest stable timedOut tracker deadline
        bound).run state =
      let looped := ran (Backend.awaitUntil (fun state => now state.1)
        (fun duration state => (sleep duration state.1, state.2)) interval
        (sampled now digest stable) timedOut deadline bound).run (state, tracker)
      (looped.1, looped.2.1) := by
  induction bound using Nat.strongRecOn generalizing tracker state with
  | ind bound ih =>
      rw [Backend.awaitStableUntil, ran_run_bind, ran_awaitUntil, ran_sampled]
      rcases ran digest.run state with ⟨failure | hash, after⟩
      · rfl
      · have read : ran (get : Operation σ σ).run after = (.ok after, after) := rfl
        dsimp only
        rw [ran_run_bind_ok read]
        rcases tracker.observeHash hash (now after) with ⟨unchanged, tracker⟩
        by_cases long : unchanged ≥ stable
        · simp only [long, if_true, decide_true]
          rfl
        · simp only [long, if_false, decide_false]
          split
          · rfl
          · rename_i left
            exact ih _ (Backend.sub_pauseOf_lt left) tracker _

theorem stableCourse_eq {timeout : Nat}
    (steady : (sampling now sleep interval digest stable
      (.matchTimeout (.stable stable) timeout)).Steady)
    (positive : interval ≠ 0) :
    stableCourse now sleep interval digest stable timeout =
      Course.of (Backend.awaitStable now sleep interval digest stable timeout).run := by
  funext state answer last
  have lifted : ran (Backend.awaitStable now sleep interval digest stable timeout).run state = _ :=
    ran_awaitStableUntil (now state + timeout) timeout {} state
  have product := course_polling steady positive timeout
  rw [stableCourse, sampling, product]
  simp only [Course.of, lifted, ran_await]
  generalize ran (Backend.awaitUntil _ _ _ _ _ (now state + timeout) timeout).run _ = looped
  obtain ⟨answered, after, tracker⟩ := looped
  simp

end Wait

namespace Scripted

theorem time_settle (time : Nat) (events : List Event) (state : State) :
    (State.settle time events state).time = state.time := by
  induction events generalizing state with
  | nil => rfl
  | cons event rest ih =>
      rw [State.settle]
      split
      · exact ih _
      · rfl

theorem time_sleep (duration : Nat) (state : State) :
    (state.sleep duration).time = state.time + duration :=
  time_settle _ _ _

variable {interval timeout : Nat} {look : Operation State Bool} {timedOut : Failure}

theorem steady_of_still (still : ∀ state, (ran look.run state).2 = state) :
    (Wait.polling State.time State.sleep interval look timedOut).Steady where
  still state := congrArg State.time (still state)
  exact := time_sleep

def exitWait (timeout : Nat) : Wait State where
  now := State.time
  sleep := State.sleep
  pause _ := 10
  look := do pure (!(← get).running)
  timedOut := .matchTimeout .processExit timeout

theorem exitWait_steady (timeout : Nat) : (exitWait timeout).Steady where
  still _ := rfl
  exact := time_sleep

theorem ran_awaitExit (timeout remaining : Nat) (state : State) :
    ran (awaitExit timeout remaining).run state =
      if state.running then
        if remaining = 0 then (.error (.matchTimeout .processExit timeout), state)
        else ran (awaitExit timeout (remaining - 10)).run (state.sleep 10)
      else (.ok (), state) := by
  have read : ran (get : Operation State State).run state = (.ok state, state) := rfl
  rw [awaitExit, ran_run_bind_ok read]
  cases state.running with
  | false => rfl
  | true =>
      simp only [Bool.not_true, Bool.false_eq_true, if_false, if_true]
      split <;> rfl

theorem awaitExit_ends {deadline remaining : Nat} {state : State}
    (left : remaining = deadline - state.time) :
    (exitWait timeout).Ends deadline state (ran (awaitExit timeout remaining).run state).1
      (ran (awaitExit timeout remaining).run state).2 := by
  induction remaining using Nat.strongRecOn generalizing state with
  | ind remaining ih =>
      have looked : ran (exitWait timeout).look.run state = (.ok (!state.running), state) := rfl
      rw [ran_awaitExit]
      split
      · rename_i running
        rw [running] at looked
        split
        · have late : deadline ≤ (exitWait timeout).now state := by
            simp only [exitWait]
            omega
          refine .done ?_
          simp only [Wait.step, looked, Bool.not_true, late, if_true]
          rfl
        · have early : ¬deadline ≤ (exitWait timeout).now state := by
            simp only [exitWait]
            omega
          have again : (exitWait timeout).step deadline state = .inr (state.sleep 10) := by
            simp only [Wait.step, looked, Bool.not_true, early, if_false]
            rfl
          exact .again again (ih _ (by omega) (by rw [time_sleep]; omega))
      · rename_i gone
        rw [Bool.not_eq_true] at gone
        rw [gone] at looked
        exact .done (by simp [Wait.step, looked])

theorem exitWait_course (timeout : Nat) :
    (exitWait timeout).course timeout = Course.of (awaitExit timeout timeout).run :=
  Wait.course_eq_of fun _ => awaitExit_ends (by simp [exitWait])

end Scripted

end TerminalScript
