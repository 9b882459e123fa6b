import TerminalScript.Matcher.Compiled
import TerminalScript.Stability
import TerminalScript.Text.Utf8
import TerminalScript.Scenario

/-!
What drives a process under test: operations that act on a state of the driver's own. A wait reads
the driver's clock, which sleeping moves on and an operation may move on as well.
-/

namespace TerminalScript

abbrev Operation (σ α : Type) := ExceptT Failure (StateM σ) α

structure Backend (σ : Type) where
  name : String
  now : σ → Nat
  sleep : Nat → σ → σ
  launch : String → List String → Option String → Operation σ Nat
  isRunning : Nat → Operation σ Bool
  sendKeys : List String → Operation σ Unit
  sendText : String → Operation σ Unit
  sendLine : String → Operation σ Unit
  paste : String → Operation σ Unit
  resize : UInt16 → UInt16 → Operation σ Unit
  captureScreen : Operation σ String
  captureScrollback : Nat → Operation σ String
  captureTranscript : Operation σ String
  waitForExit : Nat → Operation σ Unit
  waitForStable : Nat → Nat → Operation σ Unit
  destroy : Operation σ Unit

namespace Backend

variable {σ : Type}

def pauseOf (interval remaining : Nat) : Nat :=
  min (max interval 1) remaining

theorem pauseOf_pos {interval remaining : Nat} (left : remaining ≠ 0) :
    0 < pauseOf interval remaining := by
  unfold pauseOf
  omega

theorem sub_pauseOf_lt {interval bound left : Nat} (some : min bound left ≠ 0) :
    bound - pauseOf interval (min bound left) < bound := by
  have positive : 0 < pauseOf interval (min bound left) := pauseOf_pos some
  have within : min bound left ≤ bound := Nat.min_le_left _ _
  omega

variable (now : σ → Nat) (sleep : Nat → σ → σ)

/-- Tries a condition at once and then at intervals, the last time when the clock has reached the
deadline. A pause is taken from `bound` even if the clock stands still, so that the wait ends. -/
def awaitUntil (interval : Nat) (ready : Operation σ Bool) (expired : Failure)
    (deadline bound : Nat) : Operation σ Unit := do
  if ← ready then return ()
  let remaining := min bound (deadline - now (← get))
  if _left : remaining = 0 then throw expired
  else
    let pause := pauseOf interval remaining
    modify (sleep pause)
    awaitUntil interval ready expired deadline (bound - pause)
termination_by bound
decreasing_by exact sub_pauseOf_lt _left

def await (interval : Nat) (ready : Operation σ Bool) (expired : Failure) (timeout : Nat) :
    Operation σ Unit := do
  awaitUntil now sleep interval ready expired (now (← get) + timeout) timeout

def pollUntil (interval : Nat) (ready : Operation σ Bool) (expired : Failure)
    (deadline bound : Nat) : Operation σ Unit := do
  -- No pause is cut at the deadline, so the last try may come after it.
  if ← ready then return ()
  let remaining := min bound (deadline - now (← get))
  if _left : remaining = 0 then throw expired
  else
    modify (sleep interval)
    pollUntil interval ready expired deadline (bound - pauseOf interval remaining)
termination_by bound
decreasing_by exact sub_pauseOf_lt _left

def poll (interval : Nat) (ready : Operation σ Bool) (expired : Failure) (timeout : Nat) :
    Operation σ Unit := do
  pollUntil now sleep interval ready expired (now (← get) + timeout) timeout

def awaitStableUntil (sample : Nat) (digest : Operation σ String) (stable : Nat)
    (expired : Failure) (tracker : StabilityTracker) (deadline bound : Nat) :
    Operation σ Unit := do
  let hash ← digest
  let time := now (← get)
  let (unchanged, tracker) := tracker.observeHash hash time
  if unchanged ≥ stable then return ()
  let remaining := min bound (deadline - time)
  if _left : remaining = 0 then throw expired
  else
    let pause := pauseOf sample remaining
    modify (sleep pause)
    awaitStableUntil sample digest stable expired tracker deadline (bound - pause)
termination_by bound
decreasing_by exact sub_pauseOf_lt _left

def awaitStable (sample : Nat) (digest : Operation σ String) (stable timeout : Nat) :
    Operation σ Unit := do
  awaitStableUntil now sleep sample digest stable (.matchTimeout (.stable stable) timeout) {}
    (now (← get) + timeout) timeout

def awaitStableText (sample : Nat) (screen : Operation σ String) (stable timeout : Nat) :
    Operation σ Unit :=
  let digest := do
    let text ← screen
    pure (Digest.sha256Hex (Text.encode text))
  awaitStable now sleep sample digest stable timeout

def awaitRunning (backend : Backend σ) (process timeout : Nat) : Operation σ Unit :=
  await backend.now backend.sleep 100 (backend.isRunning process)
    (.matchTimeout (.running process) timeout) timeout

end Backend

inductive Surface
  | screen
  | scrollback (lines : Nat)
  | transcript
  deriving Inhabited, DecidableEq

namespace Surface

def ofScope (scope : Scope) (lines : Nat) : Surface :=
  match scope with
  | .screen => screen
  | .scrollback => scrollback lines
  | .both => scrollback lines
  | .transcript => transcript

def read {σ : Type} (backend : Backend σ) : Surface → Operation σ String
  | screen => backend.captureScreen
  | scrollback lines => backend.captureScrollback lines
  | transcript => backend.captureTranscript

end Surface

def Backend.awaitMatch {σ : Type} (backend : Backend σ) (matcher : CompiledMatcher)
    (surface : Surface) (absent : Bool) (timeout poll : Nat) : Operation σ Unit :=
  let ready := do
    let text ← surface.read backend
    pure (matcher.isMatch text != absent)
  let awaited :=
    if absent then Awaited.absent matcher.description else .present matcher.description
  Backend.await backend.now backend.sleep poll ready (.matchTimeout awaited timeout) timeout

end TerminalScript
