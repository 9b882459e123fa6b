import Mathlib.Logic.Function.Iterate
import TerminalScript.Proofs.Run.Waits

/-!
Looks at intervals. On a clock that only sleeping moves, the looks of a watch are at the multiples
of its interval, as far as they come before its deadline, and at the deadline. A wait that polls goes
through them in order and ends with the first that decides.
-/

namespace TerminalScript

structure Watch (σ α : Type) where
  now : σ → Nat
  sleep : Nat → σ → σ
  interval : Nat
  look : Operation σ α

namespace Watch

section

variable {σ α : Type} (watch : Watch σ α)

structure Steady : Prop where
  still : ∀ state, watch.now (ran watch.look.run state).2 = watch.now state
  exact : ∀ duration state, watch.now (watch.sleep duration state) = watch.now state + duration

def next (deadline : Nat) (state : σ) : σ :=
  let after := (ran watch.look.run state).2
  watch.sleep (min watch.interval (deadline - watch.now after)) after

def place (deadline : Nat) (state : σ) (count : Nat) : σ :=
  (watch.next deadline)^[count] state

def seen (deadline : Nat) (state : σ) (count : Nat) : Outcome α × σ :=
  ran watch.look.run (watch.place deadline state count)

end

variable {σ α : Type} {watch : Watch σ α} {deadline timeout count : Nat} {state : σ}
  {timedOut : Failure}

theorem place_after : watch.place deadline state (count + 1) =
    watch.next deadline (watch.place deadline state count) :=
  Function.iterate_succ_apply' _ _ _

theorem Steady.now_next (steady : watch.Steady) (early : watch.now state ≤ deadline) :
    watch.now (watch.next deadline state) = min (watch.now state + watch.interval) deadline := by
  rw [next, steady.exact, steady.still]
  omega

theorem Steady.now_place (steady : watch.Steady) (timeout : Nat) (state : σ) (count : Nat) :
    watch.now (watch.place (watch.now state + timeout) state count) =
      watch.now state + min (count * watch.interval) timeout := by
  induction count with
  | zero => simp [place]
  | succ count ih =>
      rw [place_after, steady.now_next (by omega), ih, Nat.succ_mul]
      omega

theorem Steady.now_seen (steady : watch.Steady) (timeout : Nat) (state : σ) (count : Nat) :
    watch.now (watch.seen (watch.now state + timeout) state count).2 =
      watch.now state + min (count * watch.interval) timeout := by
  rw [seen, steady.still, steady.now_place]

inductive Decides (wanted : α → Prop) (late : Prop) (timedOut : Failure) :
    Outcome α → Outcome Unit → Prop
  | found {value : α} (met : wanted value) : Decides wanted late timedOut (.ok value) (.ok ())
  | failed {failure : Failure} : Decides wanted late timedOut (.error failure) (.error failure)
  | expired {value : α} (unmet : ¬wanted value) (expired : late) :
      Decides wanted late timedOut (.ok value) (.error timedOut)

theorem Decides.mono {wanted : α → Prop} {late late' : Prop} {looked : Outcome α}
    {answer : Outcome Unit} (decides : Decides wanted late timedOut looked answer)
    (later : late → late') : Decides wanted late' timedOut looked answer := by
  cases decides with
  | found met => exact .found met
  | failed => exact .failed
  | expired unmet expired => exact .expired unmet (later expired)

inductive Judges (wanted : α → Prop) : Outcome α → Outcome Bool → Prop
  | seen {value : α} {found : Bool} (same : found = true ↔ wanted value) :
      Judges wanted (.ok value) (.ok found)
  | failed {failure : Failure} : Judges wanted (.error failure) (.error failure)

theorem judges_map {wanted : α → Prop} {found : α → Bool}
    (same : ∀ value, found value = true ↔ wanted value) (seen : Outcome α) :
    Judges wanted seen (seen.map found) := by
  cases seen with
  | error failure => exact .failed
  | ok value => exact .seen (same value)

theorem Decides.judged {wanted : α → Prop} {late : Prop} {seen : Outcome α} {looked : Outcome Bool}
    {answer : Outcome Unit}
    (decides : Decides (fun found => found = true) late timedOut looked answer)
    (judges : Judges wanted seen looked) : Decides wanted late timedOut seen answer := by
  cases judges with
  | failed =>
      cases decides with
      | failed => exact .failed
  | seen same =>
      cases decides with
      | found met => exact .found (same.mp met)
      | expired unmet expired => exact .expired (fun met => unmet (same.mpr met)) expired

/-- How a wait for something wanted ends with one of the looks of a watch. What is wanted may differ
from look to look. -/
structure Concludes (watch : Watch σ α) (wanted : Nat → α → Prop) (timedOut : Failure)
    (timeout : Nat) (state : σ) (count : Nat) (ended : Outcome Unit × σ) : Prop where
  instants : ∀ look ≤ count, watch.now (watch.place (watch.now state + timeout) state look) =
    watch.now state + min (look * watch.interval) timeout
  undecided : ∀ look < count, look * watch.interval < timeout ∧
    ∃ value, (watch.seen (watch.now state + timeout) state look).1 = .ok value ∧ ¬wanted look value
  last : ended.2 = (watch.seen (watch.now state + timeout) state count).2
  decides : Decides (wanted count) (timeout ≤ count * watch.interval) timedOut
    (watch.seen (watch.now state + timeout) state count).1 ended.1

section Concludes

variable {wanted : Nat → α → Prop} {ended : Outcome Unit × σ}

theorem Concludes.now_last (concludes : watch.Concludes wanted timedOut timeout state count ended)
    (steady : watch.Steady) :
    watch.now ended.2 = watch.now state + min (count * watch.interval) timeout := by
  rw [concludes.last, steady.now_seen]

theorem Concludes.due (concludes : watch.Concludes wanted timedOut timeout state count ended)
    (positive : 0 < watch.interval) : count * watch.interval < timeout + watch.interval := by
  cases count with
  | zero => omega
  | succ count =>
      have early := (concludes.undecided count (Nat.lt_succ_self _)).1
      rw [Nat.succ_mul]
      omega

/-- A wait is in vain if nothing was wanted of what was seen before the deadline and at it. The look
at the deadline is the last that begins less than an interval after the one before it. -/
theorem Concludes.timedOut_iff
    (concludes : watch.Concludes wanted timedOut timeout state count ended) (steady : watch.Steady)
    (positive : 0 < watch.interval) :
    (ended.1 = .error timedOut ∧ watch.now ended.2 = watch.now state + timeout ∧
        ∃ value, (watch.seen (watch.now state + timeout) state count).1 = .ok value) ↔
      ∀ look, look * watch.interval < timeout + watch.interval → ∃ value,
        (watch.seen (watch.now state + timeout) state look).1 = .ok value ∧ ¬wanted look value := by
  have moment := concludes.now_last steady
  have decides := concludes.decides
  constructor
  · rintro ⟨answered, _, value, seen⟩ look due
    rw [answered, seen] at decides
    cases decides with
    | expired unmet late =>
        rcases Nat.lt_trichotomy look count with before | rfl | after
        · exact (concludes.undecided look before).2
        · exact ⟨value, seen, unmet⟩
        · have later := Nat.mul_le_mul_right watch.interval (Nat.succ_le_of_lt after)
          rw [Nat.succ_mul] at later
          omega
  · intro unmet
    obtain ⟨value, seen, unwanted⟩ := unmet count (concludes.due positive)
    rw [seen] at decides
    generalize ended.1 = answer at decides ⊢
    cases decides with
    | found met => exact absurd met unwanted
    | expired _ late => exact ⟨rfl, by omega, value, seen⟩

theorem Concludes.met (concludes : watch.Concludes wanted timedOut timeout state count ended)
    (answered : ended.1 = .ok ()) : ∃ value,
      (watch.seen (watch.now state + timeout) state count).1 = .ok value ∧ wanted count value := by
  have decides := concludes.decides
  rw [answered] at decides
  generalize (watch.seen _ state count).1 = looked at decides ⊢
  cases decides with
  | found met => exact ⟨_, rfl, met⟩

/-- What is there at the latest at the deadline, and stays there, is found. -/
theorem Concludes.detects (concludes : watch.Concludes wanted timedOut timeout state count ended)
    {since : Nat} (intime : since ≤ timeout)
    (unfailing : ∀ look ≤ count, ∃ value,
      (watch.seen (watch.now state + timeout) state look).1 = .ok value)
    (met : ∀ look ≤ count, since ≤ min (look * watch.interval) timeout → ∀ value,
      (watch.seen (watch.now state + timeout) state look).1 = .ok value → wanted look value) :
    ended.1 = .ok () := by
  obtain ⟨value, seen⟩ := unfailing count (Nat.le_refl _)
  have decides := concludes.decides
  rw [seen] at decides
  generalize ended.1 = answer at decides ⊢
  cases decides with
  | found => rfl
  | expired unmet late =>
      exact absurd (met count (Nat.le_refl _) (by omega) value seen) unmet

end Concludes

section Polling

variable {watch : Watch σ Bool} {answer : Outcome Unit} {last : σ}

def polled (watch : Watch σ Bool) (timedOut : Failure) : Wait σ :=
  Wait.polling watch.now watch.sleep watch.interval watch.look timedOut

abbrev Found (found : Bool) : Prop :=
  found = true

theorem decides_of_done (steady : watch.Steady)
    (looked : (watch.polled timedOut).step deadline state = .inl (answer, last)) :
    last = (watch.seen deadline state 0).2 ∧
      Decides Found (deadline ≤ watch.now state) timedOut (watch.seen deadline state 0).1
        answer := by
  have still := steady.still state
  have first : watch.seen deadline state 0 = ran watch.look.run state := rfl
  rcases seen : ran watch.look.run state with ⟨failure | found, after⟩ <;> rw [seen] at first still
  · simp only [Wait.step, polled, Wait.polling, seen, Sum.inl.injEq, Prod.mk.injEq] at looked
    obtain ⟨rfl, rfl⟩ := looked
    exact ⟨by rw [first], first ▸ .failed⟩
  · cases found with
    | true =>
        simp only [Wait.step, polled, Wait.polling, seen, Sum.inl.injEq, Prod.mk.injEq] at looked
        obtain ⟨rfl, rfl⟩ := looked
        exact ⟨by rw [first], first ▸ .found rfl⟩
    | false =>
        by_cases late : deadline ≤ watch.now after
        · simp only [Wait.step, polled, Wait.polling, seen, late, if_true, Sum.inl.injEq,
            Prod.mk.injEq] at looked
          obtain ⟨rfl, rfl⟩ := looked
          exact ⟨by rw [first], first ▸ .expired (by simp) (still ▸ late)⟩
        · simp [Wait.step, polled, Wait.polling, seen, late] at looked

theorem next_of_again (steady : watch.Steady) {next : σ}
    (looked : (watch.polled timedOut).step deadline state = .inr next) :
    (watch.seen deadline state 0).1 = .ok false ∧ watch.now state < deadline ∧
      next = watch.next deadline state := by
  have still := steady.still state
  have first : watch.seen deadline state 0 = ran watch.look.run state := rfl
  rcases seen : ran watch.look.run state with ⟨failure | found, after⟩ <;> rw [seen] at first still
  · simp [Wait.step, polled, Wait.polling, seen] at looked
  · cases found with
    | true => simp [Wait.step, polled, Wait.polling, seen] at looked
    | false =>
        by_cases late : deadline ≤ watch.now after
        · simp [Wait.step, polled, Wait.polling, seen, late] at looked
        · simp only [Wait.step, polled, Wait.polling, seen, late, if_false, Sum.inr.injEq] at looked
          refine ⟨by rw [first], still ▸ Nat.lt_of_not_le late, ?_⟩
          rw [Watch.next, seen, looked]

theorem decides_of_ends (steady : watch.Steady)
    (ends : (watch.polled timedOut).Ends deadline state answer last) :
    ∃ count, (∀ look < count, watch.now (watch.place deadline state look) < deadline ∧
        (watch.seen deadline state look).1 = .ok false) ∧
      last = (watch.seen deadline state count).2 ∧
      Decides Found (deadline ≤ watch.now (watch.place deadline state count)) timedOut
        (watch.seen deadline state count).1 answer := by
  induction ends with
  | done looked => exact ⟨0, by simp, decides_of_done steady looked⟩
  | again looked later ih =>
      obtain ⟨unseen, early, rfl⟩ := next_of_again steady looked
      obtain ⟨count, undecided, same, decides⟩ := ih
      refine ⟨count + 1, ?_, same, decides⟩
      rintro (_ | look) before
      · exact ⟨early, unseen⟩
      · exact undecided look (Nat.lt_of_succ_lt_succ before)

/-- A wait that polls ends at the first look that decides, which is the one at the deadline if none
before it does. -/
theorem await_concludes (steady : watch.Steady) (positive : 0 < watch.interval) (timedOut : Failure)
    (timeout : Nat) (state : σ) :
    ∃ count, watch.Concludes (fun _ => Found) timedOut timeout state count
      (ran (Backend.await watch.now watch.sleep watch.interval watch.look timedOut timeout).run
        state) := by
  generalize waited : ran (Backend.await watch.now watch.sleep watch.interval watch.look timedOut
    timeout).run state = ended
  have course : (watch.polled timedOut).course timeout = Course.of _ :=
    Wait.course_polling ⟨steady.still, steady.exact⟩ (Nat.ne_of_gt positive) timeout
  have runs : (watch.polled timedOut).course timeout state ended.1 ended.2 := by
    rw [course]
    exact waited
  have ends : (watch.polled timedOut).Ends (watch.now state + timeout) state ended.1 ended.2 := runs
  obtain ⟨count, undecided, same, decides⟩ := decides_of_ends steady ends
  rw [steady.now_place] at decides
  refine ⟨count, fun look _ => steady.now_place timeout state look, fun look before => ?_, same,
    decides.mono (by omega)⟩
  obtain ⟨early, unseen⟩ := undecided look before
  rw [steady.now_place] at early
  exact ⟨by omega, false, unseen, by simp⟩

end Polling

structure Follows {ρ β : Type} (larger : Watch ρ β) (watch : Watch σ α) (view : ρ → σ) : Prop where
  now : ∀ state, larger.now state = watch.now (view state)
  sleep : ∀ duration state, view (larger.sleep duration state) = watch.sleep duration (view state)
  interval : larger.interval = watch.interval
  look : ∀ state, view (ran larger.look.run state).2 = (ran watch.look.run (view state)).2

section Follows

variable {ρ : Type} {larger : Watch ρ Bool} {view : ρ → σ} {wanted : Nat → α → Prop} {first : ρ}
  {ended : Outcome Unit × ρ}

theorem Follows.steady (follows : larger.Follows watch view) (steady : watch.Steady) :
    larger.Steady where
  still state := by rw [follows.now, follows.look, steady.still, follows.now]
  exact duration state := by rw [follows.now, follows.sleep, steady.exact, follows.now]

theorem Follows.place (follows : larger.Follows watch view) (deadline : Nat) (first : ρ)
    (count : Nat) :
    view (larger.place deadline first count) = watch.place deadline (view first) count := by
  induction count with
  | zero => rfl
  | succ count ih =>
      rw [place_after, place_after, ← ih, next, next, follows.sleep, follows.look, follows.now,
        follows.look, follows.interval]

theorem Follows.seen (follows : larger.Follows watch view) (deadline : Nat) (first : ρ)
    (count : Nat) :
    view (larger.seen deadline first count).2 = (watch.seen deadline (view first) count).2 := by
  rw [Watch.seen, Watch.seen, follows.look, follows.place]

/-- A wait that finds what it looks for when a watch sees what is wanted. It need only judge so if
nothing failed before. -/
theorem Concludes.follow (follows : larger.Follows watch view)
    (concludes : larger.Concludes (fun _ => Found) timedOut timeout first count ended)
    (judges : ∀ look ≤ count,
      (∀ earlier < look, ∃ value,
        (watch.seen (watch.now (view first) + timeout) (view first) earlier).1 = .ok value) →
      Judges (wanted look) (watch.seen (watch.now (view first) + timeout) (view first) look).1
        (larger.seen (watch.now (view first) + timeout) first look).1) :
    watch.Concludes wanted timedOut timeout (view first) count (ended.1, view ended.2) := by
  obtain ⟨instants, unfound, last, decides⟩ := concludes
  rw [follows.interval] at instants unfound decides
  simp only [follows.now, follows.place] at instants
  simp only [follows.now] at unfound last decides
  -- That nothing failed before a look and that nothing was wanted there go hand in hand.
  have undecided : ∀ look < count, look * watch.interval < timeout ∧ ∃ value,
      (watch.seen (watch.now (view first) + timeout) (view first) look).1 = .ok value ∧
        ¬wanted look value := by
    intro look before
    induction look using Nat.strongRecOn with
    | ind look ih =>
        obtain ⟨early, found, looked, unfound⟩ := unfound look before
        have judged := judges look (Nat.le_of_lt before) fun earlier sooner =>
          have ⟨value, seen, _⟩ := (ih earlier sooner (by omega)).2
          ⟨value, seen⟩
        rw [looked] at judged
        generalize (watch.seen _ _ look).1 = seen at judged
        cases judged with
        | seen same => exact ⟨early, _, rfl, fun met => unfound (same.mpr met)⟩
  refine ⟨instants, undecided, ?_, ?_⟩
  · rw [last, follows.seen]
  · exact decides.judged <| judges count (Nat.le_refl _) fun earlier sooner =>
      have ⟨value, seen, _⟩ := (undecided earlier sooner).2
      ⟨value, seen⟩

end Follows

end Watch

end TerminalScript
