import TerminalScript.Proofs.Stability
import TerminalScript.Proofs.Wait.Looks

/-!
Waiting until what is sampled stays the same. Samples are taken at intervals and at the deadline,
and the first decides that ends a run of equal ones which is long enough. A wait compares the
digests of its samples, so no change goes unnoticed if different samples have different digests.
-/

namespace TerminalScript

/-- A wait pauses for at least the least time, so an interval of nothing is as good as that. -/
theorem awaitStable_least {σ : Type} (now : σ → Nat) (sleep : Nat → σ → σ) (interval : Nat)
    (digest : Operation σ String) (stable timeout : Nat) :
    Backend.awaitStable now sleep (max interval 1) digest stable timeout =
      Backend.awaitStable now sleep interval digest stable timeout := by
  have pauses (left : Nat) :
      Backend.pauseOf (max interval 1) left = Backend.pauseOf interval left := by
    rw [Backend.pauseOf, Backend.pauseOf, Nat.max_assoc, Nat.max_self]
  have waits (expired : Failure) (tracker : StabilityTracker) (deadline bound : Nat) :
      Backend.awaitStableUntil now sleep (max interval 1) digest stable expired tracker deadline
        bound =
      Backend.awaitStableUntil now sleep interval digest stable expired tracker deadline bound := by
    induction bound using Nat.strongRecOn generalizing tracker with
    | ind bound ih =>
        rw [Backend.awaitStableUntil, Backend.awaitStableUntil]
        refine bind_congr fun hash => bind_congr fun state => ?_
        dsimp only
        split
        · rfl
        · split
          · rfl
          · rename_i left
            rw [pauses]
            exact bind_congr fun _ => ih _ (Backend.sub_pauseOf_lt left) _
  rw [Backend.awaitStable, Backend.awaitStable]
  simp only [waits]

namespace Watch

variable {σ γ : Type}

section

variable (watch : Watch σ γ) (digest : γ → String)

def digested : Operation σ String := do
  let sample ← watch.look
  pure (digest sample)

def tracking (stable : Nat) : Watch (σ × StabilityTracker) Bool where
  now state := watch.now state.1
  sleep duration state := (watch.sleep duration state.1, state.2)
  interval := watch.interval
  look := Wait.sampled watch.now (watch.digested digest) stable

variable (timeout : Nat) (state : σ)

def sampled (look : Nat) : Outcome γ :=
  (watch.seen (watch.now state + timeout) state look).1

def Distinguished : Prop :=
  ∀ look look' sample sample', look * watch.interval < timeout + watch.interval →
    look' * watch.interval < timeout + watch.interval →
    watch.sampled timeout state look = .ok sample →
    watch.sampled timeout state look' = .ok sample' →
    digest sample = digest sample' → sample = sample'

/-- The samples were the same from one on that was taken long enough ago. For a positive time that
is an earlier sample. -/
def Settled (stable look : Nat) : Prop :=
  ∃ first ≤ look,
    min (first * watch.interval) timeout + stable ≤ min (look * watch.interval) timeout ∧
    ∀ between, first ≤ between → between ≤ look →
      watch.sampled timeout state between = watch.sampled timeout state look

def digestAt (look : Nat) : String :=
  match watch.sampled timeout state look with
  | .ok sample => digest sample
  | .error _ => ""

def momentAt (look : Nat) : Nat :=
  watch.now state + min (look * watch.interval) timeout

end

variable {watch : Watch σ γ} {digest : γ → String} {stable timeout look : Nat} {state : σ}

theorem ran_tracking (stable : Nat) (state : σ) (tracker : StabilityTracker) :
    ran (watch.tracking digest stable).look.run (state, tracker) =
      match ran watch.look.run state with
      | (.ok sample, after) =>
          let observed := tracker.observeHash (digest sample) (watch.now after)
          (.ok (observed.1 ≥ stable), (after, observed.2))
      | (.error failure, after) => (.error failure, (after, tracker)) := by
  rw [tracking, Wait.ran_sampled, digested, ran_run_bind]
  rcases ran watch.look.run state with ⟨failure | sample, after⟩ <;> rfl

theorem tracking_follows (digest : γ → String) (stable : Nat) :
    (watch.tracking digest stable).Follows watch Prod.fst where
  now _ := rfl
  sleep _ _ := rfl
  interval := rfl
  look := by
    rintro ⟨state, tracker⟩
    rw [ran_tracking]
    rcases ran watch.look.run state with ⟨failure | sample, after⟩ <;> rfl

theorem ran_awaitStable (digest : γ → String) (stable timeout : Nat) (state : σ) :
    ran (Backend.awaitStable watch.now watch.sleep watch.interval (watch.digested digest) stable
        timeout).run state =
      let looked := ran (Backend.await (watch.tracking digest stable).now
        (watch.tracking digest stable).sleep (watch.tracking digest stable).interval
        (watch.tracking digest stable).look (.matchTimeout (.stable stable) timeout)
        timeout).run (state, {})
      (looked.1, looked.2.1) :=
  Wait.ran_awaitStableUntil (watch.now state + timeout) timeout {} state

theorem moment_mono (interval timeout : Nat) {first later : Nat} (before : first ≤ later) :
    min (first * interval) timeout ≤ min (later * interval) timeout := by
  have scaled := Nat.mul_le_mul_right interval before
  omega

theorem looked (look : Nat) :
    ran watch.look.run (watch.place (watch.now state + timeout) state look) =
      (watch.sampled timeout state look, (watch.seen (watch.now state + timeout) state look).2) :=
  rfl

theorem now_sampled (steady : watch.Steady) (look : Nat) :
    watch.now (watch.seen (watch.now state + timeout) state look).2 =
      watch.momentAt timeout state look :=
  steady.now_seen timeout state look

theorem digestAt_of_ok (digest : γ → String) {sample : γ}
    (seen : watch.sampled timeout state look = .ok sample) :
    watch.digestAt digest timeout state look = digest sample := by
  rw [digestAt, seen]

/-- The tracker beside the state holds what it was told of the samples so far. -/
theorem place_tracking (steady : watch.Steady)
    (unfailing : ∀ earlier < look, ∃ sample,
      watch.sampled timeout state earlier = .ok sample) :
    (watch.tracking digest stable).place (watch.now state + timeout) (state, {}) look =
      (watch.place (watch.now state + timeout) state look,
        StabilityTracker.after (watch.digestAt digest timeout state) (watch.momentAt timeout state)
          look) := by
  refine Prod.ext ((tracking_follows digest stable).place _ _ look) ?_
  induction look with
  | zero => rfl
  | succ look ih =>
      obtain ⟨sample, seen⟩ := unfailing look (Nat.lt_succ_self _)
      have held := ih fun earlier before => unfailing earlier (Nat.lt_succ_of_lt before)
      have place := Prod.ext ((tracking_follows digest stable).place _ _ look) held
      rw [place_after]
      change (ran (watch.tracking digest stable).look.run _).2.2 = _
      rw [place, ran_tracking, looked, seen]
      dsimp only
      rw [now_sampled steady, ← digestAt_of_ok digest seen, StabilityTracker.after]

/-- What the tracker tells of a sample is whether the samples have settled there. -/
theorem unchanged_iff_settled (stable : Nat) (distinct : watch.Distinguished digest timeout state)
    (due : look * watch.interval < timeout + watch.interval)
    (unfailing : ∀ earlier ≤ look, ∃ sample,
      watch.sampled timeout state earlier = .ok sample) :
    stable ≤ ((StabilityTracker.after (watch.digestAt digest timeout state)
        (watch.momentAt timeout state) look).observeHash (watch.digestAt digest timeout state look)
          (watch.momentAt timeout state look)).1 ↔
      watch.Settled timeout state stable look := by
  have same {between : Nat} (within : between ≤ look) :
      watch.digestAt digest timeout state between = watch.digestAt digest timeout state look ↔
        watch.sampled timeout state between = watch.sampled timeout state look := by
    constructor
    · intro equal
      obtain ⟨sample, seen⟩ := unfailing between within
      obtain ⟨sample', seen'⟩ := unfailing look (Nat.le_refl _)
      rw [digestAt_of_ok digest seen, digestAt_of_ok digest seen'] at equal
      have scaled := Nat.mul_le_mul_right watch.interval within
      rw [seen, seen', distinct between look sample sample' (by omega) due seen seen' equal]
    · intro equal
      rw [digestAt, digestAt, equal]
  rw [StabilityTracker.unchanged_after]
  have start := StabilityTracker.runStart_le (watch.digestAt digest timeout state) look
  constructor
  · intro long
    have order := moment_mono watch.interval timeout start
    refine ⟨_, start, ?_, fun between later within => ?_⟩
    · simp only [momentAt] at long
      omega
    · exact (same within).mp (StabilityTracker.eq_of_runStart_le later within)
  · rintro ⟨first, below, long, equal⟩
    have earlier := StabilityTracker.runStart_le_of_eq below fun between later within =>
      (same within).mpr (equal between later within)
    have order := moment_mono watch.interval timeout earlier
    simp only [momentAt]
    omega

theorem awaitStable_concludes (positive : 0 < watch.interval) (steady : watch.Steady)
    (stable : Nat) (distinct : watch.Distinguished digest timeout state) :
    ∃ count, watch.Concludes (fun look _ => watch.Settled timeout state stable look)
      (.matchTimeout (.stable stable) timeout) timeout state count
      (ran (Backend.awaitStable watch.now watch.sleep watch.interval (watch.digested digest) stable
        timeout).run state) := by
  have follows : (watch.tracking digest stable).Follows watch Prod.fst := tracking_follows _ _
  obtain ⟨count, concludes⟩ := await_concludes (follows.steady steady) positive
    (.matchTimeout (.stable stable) timeout) timeout (state, {})
  rw [ran_awaitStable]
  refine ⟨count, concludes.follow follows fun look within unfailing => ?_⟩
  change Judges _ (watch.sampled timeout state look)
    (ran (watch.tracking digest stable).look.run
      ((watch.tracking digest stable).place (watch.now state + timeout) (state, {}) look)).1
  rw [place_tracking steady unfailing, ran_tracking, looked]
  cases seen : watch.sampled timeout state look with
  | error failure => exact .failed
  | ok sample =>
      dsimp only
      rw [now_sampled steady, ← digestAt_of_ok digest seen]
      have due : look * watch.interval < timeout + watch.interval := by
        have scaled := Nat.mul_le_mul_right watch.interval within
        have last : count * watch.interval < timeout + watch.interval := concludes.due positive
        omega
      have settled := unchanged_iff_settled stable distinct due fun earlier before => by
        rcases Nat.lt_or_eq_of_le before with sooner | rfl
        · exact unfailing earlier sooner
        · exact ⟨sample, seen⟩
      exact .seen (by rw [decide_eq_true_iff]; exact settled)

/-- A run that is long enough goes back over all the samples of the time asked for. -/
theorem Settled.eq_of_recent {last : Nat} (settled : watch.Settled timeout state stable last)
    (early : ∀ earlier < last, earlier * watch.interval < timeout)
    (positive : 0 < watch.interval) (within : look ≤ last)
    (recent : min (last * watch.interval) timeout ≤ min (look * watch.interval) timeout + stable) :
    watch.sampled timeout state look = watch.sampled timeout state last := by
  obtain ⟨first, below, long, same⟩ := settled
  refine same look (Nat.le_of_not_lt fun sooner => ?_) within
  have before := early look (by omega)
  have later := Nat.mul_le_mul_right watch.interval (Nat.succ_le_of_lt sooner)
  rw [Nat.succ_mul] at later
  omega

end Watch

end TerminalScript
