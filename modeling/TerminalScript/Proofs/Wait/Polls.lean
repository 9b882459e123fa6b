import TerminalScript.Proofs.Wait.Looks

/-!
Looks whose pauses are never cut short. A poll goes through its looks in order until one of them
decides, the last time when its deadline has come. Looking may take time here, so the looks are at
no fixed instants.
-/

namespace TerminalScript

variable {σ : Type} {now : σ → Nat} {sleep : Nat → σ → σ} {interval : Nat} {look : Operation σ Bool}

def polledAt (sleep : Nat → σ → σ) (interval : Nat) (look : Operation σ Bool) (state : σ)
    (count : Nat) : σ :=
  (fun state => sleep interval (ran look.run state).2)^[count] state

theorem polledAt_succ (state : σ) (count : Nat) :
    polledAt sleep interval look state (count + 1) =
      polledAt sleep interval look (sleep interval (ran look.run state).2) count := rfl

structure Forward (now : σ → Nat) (sleep : Nat → σ → σ) (look : Operation σ Bool) : Prop where
  looks : ∀ state, now state ≤ now (ran look.run state).2
  exact : ∀ duration state, now (sleep duration state) = now state + duration

theorem ran_pollUntil (now : σ → Nat) (sleep : Nat → σ → σ) (interval : Nat)
    (look : Operation σ Bool) (timedOut : Failure) (deadline bound : Nat) (state : σ) :
    ran (Backend.pollUntil now sleep interval look timedOut deadline bound).run state =
      match ran look.run state with
      | (.ok true, after) => (.ok (), after)
      | (.ok false, after) =>
          let left := min bound (deadline - now after)
          if left = 0 then (.error timedOut, after)
          else
            ran (Backend.pollUntil now sleep interval look timedOut deadline
              (bound - Backend.pauseOf interval left)).run (sleep interval after)
      | (.error failure, after) => (.error failure, after) := by
  rw [Backend.pollUntil, ran_run_bind]
  rcases ran look.run state with ⟨failure | found, after⟩
  · rfl
  · cases found with
    | true => rfl
    | false =>
        have read : ran (get : Operation σ σ).run after = (.ok after, after) := rfl
        simp only [Bool.false_eq_true, if_false]
        rw [ran_run_bind_ok read]
        split <;> rfl

theorem pollUntil_decides (forward : Forward now sleep look) (positive : interval ≠ 0)
    (timedOut : Failure) (deadline bound : Nat) (state : σ) (enough : deadline - now state ≤ bound) :
    let polled := ran (Backend.pollUntil now sleep interval look timedOut deadline bound).run state
    let seen count := ran look.run (polledAt sleep interval look state count)
    ∃ count, (∀ earlier < count, (seen earlier).1 = .ok false ∧ now (seen earlier).2 < deadline) ∧
      polled.2 = (seen count).2 ∧
      Watch.Decides Watch.Found (deadline ≤ now (seen count).2) timedOut (seen count).1
        polled.1 := by
  -- The bound is never less than the time that is left, so it never ends the poll.
  induction bound using Nat.strongRecOn generalizing state with
  | ind bound ih =>
      intro polled seen
      have later := forward.looks state
      have answered := ran_pollUntil now sleep interval look timedOut deadline bound state
      have first : seen 0 = ran look.run state := rfl
      rcases looked : ran look.run state with ⟨failure | found, after⟩ <;>
        rw [looked] at answered first later
      · refine ⟨0, by simp, ?_⟩
        rw [first, show polled = _ from answered]
        exact ⟨rfl, .failed⟩
      · cases found with
        | true =>
            refine ⟨0, by simp, ?_⟩
            rw [first, show polled = _ from answered]
            exact ⟨rfl, .found rfl⟩
        | false =>
            dsimp only at answered later
            split at answered
            · rename_i spent
              refine ⟨0, by simp, ?_⟩
              rw [first, show polled = _ from answered]
              have late : deadline ≤ now after := by omega
              exact ⟨rfl, .expired (by simp) late⟩
            · rename_i left
              have early : now after < deadline := by omega
              have remaining : deadline - now (sleep interval after) ≤
                  bound - Backend.pauseOf interval (min bound (deadline - now after)) := by
                rw [forward.exact, Wait.pauseOf_eq_min positive]
                omega
              obtain ⟨count, undecided, last, decides⟩ :=
                ih _ (Backend.sub_pauseOf_lt left) (sleep interval after) remaining
              have moved : sleep interval (ran look.run state).2 = sleep interval after := by
                rw [looked]
              refine ⟨count + 1, ?_, ?_⟩
              · rintro (_ | earlier) before
                · rw [first]
                  exact ⟨rfl, early⟩
                · have further := undecided earlier (Nat.lt_of_succ_lt_succ before)
                  simpa only [seen, polledAt_succ, moved] using further
              · rw [show polled = _ from answered]
                simp only [seen, polledAt_succ, moved]
                exact ⟨last, decides⟩

/-- A poll ends with the first look that decides, which is the first after its deadline if none
before it does. -/
theorem poll_decides (forward : Forward now sleep look) (positive : interval ≠ 0)
    (timedOut : Failure) (timeout : Nat) (state : σ) :
    let polled := ran (Backend.poll now sleep interval look timedOut timeout).run state
    let seen count := ran look.run (polledAt sleep interval look state count)
    ∃ count, (∀ earlier < count,
        (seen earlier).1 = .ok false ∧ now (seen earlier).2 < now state + timeout) ∧
      polled.2 = (seen count).2 ∧
      Watch.Decides Watch.Found (now state + timeout ≤ now (seen count).2) timedOut
        (seen count).1 polled.1 :=
  pollUntil_decides forward positive timedOut (now state + timeout) timeout state (by omega)

end TerminalScript
