import TerminalScript.Proofs.Wait.Looks

/-!
Waiting for a matcher. The surface is read at intervals and at the deadline, and the first read
decides in which the matcher is present, or absent if that is wanted. What comes no later than the
deadline and stays is never missed.
-/

namespace TerminalScript

variable {σ : Type} {backend : Backend σ} {surface : Surface} {poll : Nat}

def Backend.reading (backend : Backend σ) (surface : Surface) (poll : Nat) : Watch σ String where
  now := backend.now
  sleep := backend.sleep
  interval := poll
  look := surface.read backend

theorem Backend.now_concluded {wanted : Nat → String → Prop} {timedOut : Failure}
    {timeout count : Nat} {state : σ} {ended : Outcome Unit × σ}
    (concludes : (backend.reading surface poll).Concludes wanted timedOut timeout state count ended)
    (steady : (backend.reading surface poll).Steady) :
    backend.now ended.2 = backend.now state + min (count * poll) timeout :=
  concludes.now_last steady

def CompiledMatcher.awaited (matcher : CompiledMatcher) (absent : Bool) : Awaited :=
  if absent then .absent matcher.description else .present matcher.description

def Backend.finding (backend : Backend σ) (surface : Surface) (poll : Nat)
    (matcher : CompiledMatcher) (absent : Bool) : Watch σ Bool where
  now := backend.now
  sleep := backend.sleep
  interval := poll
  look := do
    let text ← surface.read backend
    pure (matcher.isMatch text != absent)

theorem ran_finding (matcher : CompiledMatcher) (absent : Bool) (state : σ) :
    ran (backend.finding surface poll matcher absent).look.run state =
      ((ran (surface.read backend).run state).1.map (matcher.isMatch · != absent),
        (ran (surface.read backend).run state).2) := by
  rw [Backend.finding, ran_run_bind]
  rcases ran (surface.read backend).run state with ⟨failure | text, after⟩ <;> rfl

theorem finding_follows (matcher : CompiledMatcher) (absent : Bool) :
    (backend.finding surface poll matcher absent).Follows (backend.reading surface poll) id where
  now _ := rfl
  sleep _ _ := rfl
  interval := rfl
  look state := congrArg Prod.snd (ran_finding matcher absent state)

theorem awaitMatch_concludes (positive : 0 < poll) (steady : (backend.reading surface poll).Steady)
    (matcher : CompiledMatcher) (absent : Bool) (timeout : Nat) (state : σ) :
    ∃ count, (backend.reading surface poll).Concludes
      (fun _ text => matcher.isMatch text ≠ absent) (.matchTimeout (matcher.awaited absent) timeout)
      timeout state count
      (ran (backend.awaitMatch matcher surface absent timeout poll).run state) := by
  have follows : (backend.finding surface poll matcher absent).Follows _ id :=
    finding_follows matcher absent
  obtain ⟨count, concludes⟩ := Watch.await_concludes (follows.steady steady) positive
    (.matchTimeout (matcher.awaited absent) timeout) timeout state
  refine ⟨count, concludes.follow follows fun look _ _ => ?_⟩
  rw [Watch.seen, Watch.seen, ran_finding, ← follows.place]
  exact Watch.judges_map (by simp) _

/-- On a clock that only sleeping moves, a wait reads the surface at the multiples of its interval
before its deadline and at the deadline, and ends with the first read that decides. It is in vain
exactly if all reads are, and then ends at the deadline; it takes no longer in any case, and finds
what is there by then and stays. -/
theorem awaitMatch_ends_at_first_decision (positive : 0 < poll)
    (steady : (backend.reading surface poll).Steady) (matcher : CompiledMatcher) (absent : Bool) (timeout : Nat) (state : σ) :
    let deadline := backend.now state + timeout
    let read look := ((backend.reading surface poll).seen deadline state look).1
    let wanted (text : String) := matcher.isMatch text ≠ absent
    let timedOut := Failure.matchTimeout (matcher.awaited absent) timeout
    let waited := ran (backend.awaitMatch matcher surface absent timeout poll).run state
    ∃ count,
      (backend.reading surface poll).Concludes (fun _ => wanted) timedOut timeout state count
        waited ∧
      (waited.1 = .error timedOut ∧ backend.now waited.2 = deadline ∧
          (∃ text, read count = .ok text) ↔
        ∀ look, look * poll < timeout + poll → ∃ text, read look = .ok text ∧ ¬wanted text) ∧
      backend.now waited.2 ≤ deadline ∧
      ∀ since ≤ timeout, (∀ look ≤ count, ∃ text, read look = .ok text) →
        (∀ look ≤ count, since ≤ min (look * poll) timeout →
          ∀ text, read look = .ok text → wanted text) →
        waited.1 = .ok () := by
  intro deadline read wanted timedOut waited
  obtain ⟨count, concludes⟩ :=
    awaitMatch_concludes positive steady matcher absent timeout state
  refine ⟨count, concludes, concludes.timedOut_iff steady positive, ?_,
    fun since intime unfailing met => concludes.detects intime unfailing met⟩
  have moment : backend.now waited.2 = _ := Backend.now_concluded concludes steady
  omega

theorem Scripted.reading_steady (script : Scripted.Script) (surface : Surface) (poll : Nat) :
    ((Scripted.backend script).reading surface poll).Steady where
  still state := by cases surface <;> rfl
  exact := Scripted.time_sleep

def prompt : CompiledMatcher where
  condition := .literal "Ready>".toList
  description := Matcher.describe (.ofText "Ready>")

def booting : Scripted.State where
  events := [{ time := 25, screen := some "Ready>" }]
  screen := "Booting..."

/-- A prompt that comes at the deadline, which is no multiple of the interval, is found there. -/
theorem awaitMatch_ends_at_first_decision_of_prompt :
    let reading := (Scripted.backend {}).reading .screen 10
    let waited := ran ((Scripted.backend {}).awaitMatch prompt .screen false 25 10).run booting
    0 < 10 ∧ reading.Steady ∧
      (∃ count, reading.Concludes (fun _ text => prompt.isMatch text ≠ false)
        (.matchTimeout (.present "contains \"Ready>\"") 25) 25 booting count waited) ∧
      waited.1 = .ok () ∧ waited.2.time = 25 := by
  intro reading waited
  have steady := Scripted.reading_steady {} .screen 10
  obtain ⟨count, concludes, _, _, detects⟩ :=
    awaitMatch_ends_at_first_decision (by decide) steady prompt false 25 booting
  have due : count * 10 < 25 + 10 := concludes.due (by decide)
  have shown : (reading.place 25 booting 3).screen = "Ready>" := by decide +kernel
  refine ⟨by decide, steady, ⟨count, concludes⟩, ?_, by decide +kernel⟩
  refine detects 25 (Nat.le_refl _) (fun look _ => ⟨(reading.place 25 booting look).screen, rfl⟩) ?_
  intro look below late text read
  obtain rfl : look = 3 := by omega
  obtain rfl : (reading.place 25 booting 3).screen = text := Except.ok.inj read
  rw [shown]
  decide +kernel

end TerminalScript
