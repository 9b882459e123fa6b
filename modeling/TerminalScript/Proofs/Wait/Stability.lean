import TerminalScript.Proofs.Wait.Matching
import TerminalScript.Proofs.Wait.Samples

/-!
Waiting for a screen that stays the same. The screen is sampled at intervals and at the deadline,
and the first sample decides that ends a run of equal ones which is long enough. If different samples
have different digests, no change between samples goes unnoticed.
-/

namespace TerminalScript

variable {σ : Type} {backend : Backend σ} {sample : Nat}

namespace Backend

variable (backend : Backend σ) (sample timeout : Nat) (state : σ)

def sampled (look : Nat) : Outcome String :=
  ((backend.reading .screen sample).seen (backend.now state + timeout) state look).1

def Distinguished : Prop :=
  ∀ look look' text text', look * sample < timeout + sample → look' * sample < timeout + sample →
    backend.sampled sample timeout state look = .ok text →
    backend.sampled sample timeout state look' = .ok text' →
    Digest.sha256Hex (Text.encode text) = Digest.sha256Hex (Text.encode text') → text = text'

def Settled (stable look : Nat) : Prop :=
  ∃ first ≤ look, min (first * sample) timeout + stable ≤ min (look * sample) timeout ∧
    ∀ between, first ≤ between → between ≤ look →
      backend.sampled sample timeout state between = backend.sampled sample timeout state look

end Backend

variable {stable timeout look : Nat} {state : σ}

theorem awaitStableText_concludes (positive : 0 < sample)
    (steady : (backend.reading .screen sample).Steady) (stable : Nat)
    (distinct : backend.Distinguished sample timeout state) :
    ∃ count, (backend.reading .screen sample).Concludes
      (fun look _ => backend.Settled sample timeout state stable look)
      (.matchTimeout (.stable stable) timeout) timeout state count
      (ran (Backend.awaitStableText backend.now backend.sleep sample backend.captureScreen stable
        timeout).run state) := by
  have apart : (backend.reading .screen sample).Distinguished
      (fun text => Digest.sha256Hex (Text.encode text)) timeout state := distinct
  exact Watch.awaitStable_concludes positive steady stable apart

/-- A run that is long enough goes back over all the samples of the time asked for. -/
theorem sampled_eq_of_recent {last : Nat} (positive : 0 < sample)
    (settled : backend.Settled sample timeout state stable last)
    (early : ∀ earlier < last, earlier * sample < timeout) (within : look ≤ last)
    (recent : min (last * sample) timeout ≤ min (look * sample) timeout + stable) :
    backend.sampled sample timeout state look = backend.sampled sample timeout state last := by
  have settled' : (backend.reading .screen sample).Settled timeout state stable last := settled
  exact settled'.eq_of_recent early positive within recent

theorem settled_of_unchanged {first last : Nat} (within : look ≤ last)
    (long : min (first * sample) timeout + stable ≤ min (look * sample) timeout)
    (same : ∀ look, first ≤ look → look ≤ last →
      backend.sampled sample timeout state look = backend.sampled sample timeout state first) :
    backend.Settled sample timeout state stable look := by
  by_cases after : first ≤ look
  · refine ⟨first, after, long, fun between later upto => ?_⟩
    have equal := same between later (by omega)
    exact equal.trans (same look after within).symm
  · have order := Watch.moment_mono sample timeout (Nat.le_of_not_le after)
    refine ⟨look, Nat.le_refl _, by omega, fun between later upto => ?_⟩
    rw [Nat.le_antisymm upto later]

/-- On a clock that only sleeping moves, a wait samples the screen at the multiples of its interval
before its deadline and at the deadline, and ends with the first sample at which the screen has
settled. It is in vain exactly if there is none, and then ends at the deadline. A screen that it
calls stable did not change between the samples of the time asked for, and one that stays the same
from a sample on, in time, is found to be stable. -/
theorem awaitStableText_ends_at_first_stable (positive : 0 < sample)
    (steady : (backend.reading .screen sample).Steady) (stable timeout : Nat) (state : σ)
    (distinct : backend.Distinguished sample timeout state) :
    let deadline := backend.now state + timeout
    let screen := backend.sampled sample timeout state
    let moment look := min (look * sample) timeout
    let settled := backend.Settled sample timeout state stable
    let timedOut := Failure.matchTimeout (.stable stable) timeout
    let waited := ran (Backend.awaitStableText backend.now backend.sleep sample
      backend.captureScreen stable timeout).run state
    ∃ count,
      (backend.reading .screen sample).Concludes (fun look _ => settled look) timedOut timeout state
        count waited ∧
      (waited.1 = .error timedOut ∧ backend.now waited.2 = deadline ∧
          (∃ text, screen count = .ok text) ↔
        ∀ look, look * sample < timeout + sample → ∃ text, screen look = .ok text ∧ ¬settled look) ∧
      (waited.1 = .ok () → settled count ∧
        ∀ look ≤ count, moment count ≤ moment look + stable → screen look = screen count) ∧
      ∀ first, moment first + stable ≤ timeout →
        (∀ look ≤ count, ∃ text, screen look = .ok text) →
        (∀ look, first ≤ look → look ≤ count → screen look = screen first) →
        waited.1 = .ok () := by
  intro deadline screen moment settled timedOut waited
  obtain ⟨count, concludes⟩ := awaitStableText_concludes positive steady stable distinct
  have early (earlier : Nat) (before : earlier < count) : earlier * sample < timeout :=
    (concludes.undecided earlier before).1
  refine ⟨count, concludes, concludes.timedOut_iff steady positive, fun answered => ?_,
    fun first intime unfailing same => ?_⟩
  · obtain ⟨_, _, enough⟩ := concludes.met answered
    exact ⟨enough, fun look within recent => sampled_eq_of_recent positive enough early within recent⟩
  · exact concludes.detects intime unfailing fun look within late text seen =>
      settled_of_unchanged within late same

def flicker : Scripted.State where
  events := [{ time := 7, screen := some "/" }, { time := 13, screen := some "-" }]
  screen := "-"

def flickerScreens : List String :=
  ["-", "-", "/", "-", "-", "-"]

theorem sampled_flicker {look : Nat} (due : look * 5 < 23 + 5) :
    (Scripted.backend {}).sampled 5 23 flicker look = .ok (flickerScreens.getD look "") := by
  have shown : ∀ look < 6,
      (((Scripted.backend {}).reading .screen 5).place 23 flicker look).screen =
        flickerScreens.getD look "" := by decide +kernel
  exact congrArg Except.ok (shown look (by omega))

theorem flicker_distinguished : (Scripted.backend {}).Distinguished 5 23 flicker := by
  have digests : Digest.sha256Hex (Text.encode "-") ≠ Digest.sha256Hex (Text.encode "/") := by
    decide +kernel
  have shown : ∀ look < 6,
      flickerScreens.getD look "" = "-" ∨ flickerScreens.getD look "" = "/" := by decide
  intro look look' text text' due due' seen seen' same
  rw [sampled_flicker due] at seen
  rw [sampled_flicker due'] at seen'
  obtain rfl := Except.ok.inj seen
  obtain rfl := Except.ok.inj seen'
  rcases shown look (by omega) with left | left <;>
    rcases shown look' (by omega) with right | right <;> rw [left, right] at same ⊢
  · exact absurd same digests
  · exact absurd same.symm digests

/-- A screen that changes and changes back is stable from the change back on. The last sample, which
is taken at the deadline, tells so. -/
theorem awaitStableText_ends_at_first_stable_of_flicker :
    let waited := ran (Backend.awaitStableText (Scripted.backend {}).now
      (Scripted.backend {}).sleep 5 (Scripted.backend {}).captureScreen 8 23).run flicker
    0 < 5 ∧ ((Scripted.backend {}).reading .screen 5).Steady ∧
      (Scripted.backend {}).Distinguished 5 23 flicker ∧
      (∃ count, ((Scripted.backend {}).reading .screen 5).Concludes
        (fun look _ => (Scripted.backend {}).Settled 5 23 flicker 8 look)
        (.matchTimeout (.stable 8) 23) 23 flicker count waited) ∧
      waited.1 = .ok () ∧ (Scripted.backend {}).now waited.2 = 23 := by
  dsimp only
  have steady := Scripted.reading_steady {} .screen 5
  obtain ⟨count, concludes, _, stable, detects⟩ :=
    awaitStableText_ends_at_first_stable (by decide) steady 8 23 flicker flicker_distinguished
  have due : count * 5 < 23 + 5 := concludes.due (by decide)
  have answered := by
    refine detects 3 (by decide) (fun look within => ⟨_, sampled_flicker (by omega)⟩) ?_
    intro look later within
    have settled : ∀ look < 6, 3 ≤ look → flickerScreens.getD look "" = "-" := by decide
    rw [sampled_flicker (by omega), sampled_flicker (by omega), settled look (by omega) later]
    rfl
  have last : count = 5 := by
    obtain ⟨first, below, long, same⟩ := (stable answered).1
    by_contra early
    have changed := same 2 (by omega) (by omega)
    rw [sampled_flicker (by omega), sampled_flicker (by omega), Except.ok.injEq] at changed
    have unchanged : ∀ look < 5, 2 ≤ look →
        flickerScreens.getD 2 "" = flickerScreens.getD look "" → look = 2 := by decide
    obtain rfl := unchanged count (by omega) (by omega) changed
    have begun := same 0 (by omega) (by omega)
    rw [sampled_flicker (by omega), sampled_flicker (by omega), Except.ok.injEq] at begun
    exact absurd begun (by decide)
  have moment := Backend.now_concluded concludes steady
  rw [last] at moment
  exact ⟨by decide, steady, flicker_distinguished, ⟨count, concludes⟩, answered, moment⟩

end TerminalScript
