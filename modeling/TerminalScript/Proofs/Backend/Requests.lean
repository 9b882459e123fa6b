import TerminalScript.Proofs.Stateful
import Mathlib.Order.Defs.Unbundled

/-!
Requests to a backend: its operations as data, asked one after the other from the outside. What an
operation keeps of the state is told as a relation between the states before and after it; if that
is a preorder, it passes from the parts of an operation to the whole.
-/

namespace TerminalScript

variable {σ α β : Type}

inductive Request
  | launch (command : String) (args : List String) (directory : Option String)
  | isRunning (process : Nat)
  | sendKeys (keys : List String)
  | sendText (text : String)
  | sendLine (text : String)
  | paste (text : String)
  | resize (cols rows : UInt16)
  | captureScreen
  | captureScrollback (lines : Nat)
  | captureTranscript
  | waitForExit (timeout : Nat)
  | waitForStable (stable timeout : Nat)
  | destroy
  deriving DecidableEq

namespace Request

def isLaunch : Request → Bool
  | launch .. => true
  | _ => false

def usesProcess : Request → Bool
  | sendKeys _ | sendText _ | sendLine _ | paste _ | resize .. | captureScreen
  | captureScrollback _ | waitForExit _ | waitForStable .. => true
  | _ => false

theorem plain_of_usesProcess {request : Request} (uses : request.usesProcess = true) :
    request.isLaunch = false ∧ request ≠ .destroy := by
  cases request with
  | launch | isRunning | captureTranscript | destroy => cases uses
  | _ => exact ⟨rfl, nofun⟩

end Request

namespace Backend

variable (backend : Backend σ)

def perform : Request → Operation σ Unit
  | .launch command args directory => discard (backend.launch command args directory)
  | .isRunning process => discard (backend.isRunning process)
  | .sendKeys keys => backend.sendKeys keys
  | .sendText text => backend.sendText text
  | .sendLine text => backend.sendLine text
  | .paste text => backend.paste text
  | .resize cols rows => backend.resize cols rows
  | .captureScreen => discard backend.captureScreen
  | .captureScrollback lines => discard (backend.captureScrollback lines)
  | .captureTranscript => discard backend.captureTranscript
  | .waitForExit timeout => backend.waitForExit timeout
  | .waitForStable stable timeout => backend.waitForStable stable timeout
  | .destroy => backend.destroy

def answer (state : σ) (request : Request) : Outcome Unit :=
  (ran (backend.perform request).run state).1

def serve (state : σ) (request : Request) : σ :=
  (ran (backend.perform request).run state).2

def serveAll (state : σ) (requests : List Request) : σ :=
  requests.foldl backend.serve state

theorem serveAll_concat (state : σ) (requests : List Request) (request : Request) :
    backend.serveAll state (requests ++ [request]) =
      backend.serve (backend.serveAll state requests) request := by
  rw [serveAll, List.foldl_append]
  rfl

end Backend

theorem ran_discard (operation : Operation σ α) (state : σ) :
    ran (discard operation : Operation σ Unit).run state =
      ((ran operation.run state).1.map fun _ => (), (ran operation.run state).2) := by
  change ran (operation >>= fun _ => pure ()).run state = _
  rw [ran_run_bind]
  rcases ran operation.run state with ⟨failure | value, after⟩ <;> rfl

def Leads (relation : σ → σ → Prop) (operation : Operation σ α) : Prop :=
  ∀ state, relation state (ran operation.run state).2

namespace Leads

variable {relation : σ → σ → Prop} {operation : Operation σ α}

theorem of_modify {change : σ → σ} (related : ∀ state, relation state (change state)) :
    Leads relation (modify change : Operation σ PUnit) :=
  related

theorem discarded (leads : Leads relation operation) :
    Leads relation (discard operation : Operation σ Unit) := by
  intro state
  rw [ran_discard]
  exact leads state

section

variable [Std.Refl relation]

theorem of_pure (value : α) : Leads relation (pure value : Operation σ α) :=
  fun state => refl_of relation state

theorem of_throw (failure : Failure) : Leads relation (throw failure : Operation σ α) :=
  fun state => refl_of relation state

theorem of_get : Leads relation (get : Operation σ σ) :=
  fun state => refl_of relation state

/-- What comes after the first part starts where that ends. -/
theorem bind_from {next : α → Operation σ β} {state middle : σ}
    (first : (ran operation.run state).2 = middle) (later : ∀ value, Leads relation (next value)) :
    relation middle (ran (operation >>= next).run state).2 := by
  rcases answered : ran operation.run state with ⟨failure | value, after⟩
  · rw [ran_run_bind_error answered, ← first, answered]
    exact refl_of relation after
  · rw [ran_run_bind_ok answered, ← first, answered]
    exact later value after

end

section

variable [IsTrans σ relation]

theorem bind {next : α → Operation σ β} (first : Leads relation operation)
    (later : ∀ value, Leads relation (next value)) : Leads relation (operation >>= next) := by
  intro state
  have moved := first state
  rcases answered : ran operation.run state with ⟨failure | value, after⟩
  · rw [answered] at moved
    rw [ran_run_bind_error answered]
    exact moved
  · rw [answered] at moved
    rw [ran_run_bind_ok answered]
    exact trans_of relation moved (later value after)

theorem handled {handler : Failure → Operation σ α} (first : Leads relation operation)
    (later : ∀ failure, Leads relation (handler failure)) :
    Leads relation (tryCatch operation handler) := by
  intro state
  have moved := first state
  rw [ExceptT.run_tryCatch, ran_bind]
  rcases answered : ran operation.run state with ⟨failure | value, after⟩
  · rw [answered] at moved
    exact trans_of relation moved (later failure after)
  · rw [answered] at moved
    exact moved

end

variable [Std.Refl relation] [IsTrans σ relation]

variable {now : σ → Nat} {sleep : Nat → σ → σ}
  (sleeps : ∀ duration state, relation state (sleep duration state))
include sleeps

theorem pollUntil {ready : Operation σ Bool} (looks : Leads relation ready) (interval : Nat)
    (expired : Failure) (deadline bound : Nat) :
    Leads relation (Backend.pollUntil now sleep interval ready expired deadline bound) := by
  induction bound using Nat.strongRecOn with
  | ind bound ih =>
      rw [Backend.pollUntil]
      refine looks.bind fun found => ?_
      cases found with
      | true => exact of_pure ()
      | false =>
          refine of_get.bind fun state => ?_
          dsimp only
          split
          · exact of_throw expired
          · rename_i left
            exact (of_modify (sleeps _)).bind fun _ => ih _ (Backend.sub_pauseOf_lt left)

theorem poll {ready : Operation σ Bool} (looks : Leads relation ready) (interval : Nat)
    (expired : Failure) (timeout : Nat) :
    Leads relation (Backend.poll now sleep interval ready expired timeout) :=
  of_get.bind fun _ => pollUntil sleeps looks interval expired _ timeout

theorem awaitStableUntil {digest : Operation σ String} (looks : Leads relation digest)
    (sample stable : Nat) (expired : Failure) (tracker : StabilityTracker) (deadline bound : Nat) :
    Leads relation
      (Backend.awaitStableUntil now sleep sample digest stable expired tracker deadline bound) := by
  induction bound using Nat.strongRecOn generalizing tracker with
  | ind bound ih =>
      rw [Backend.awaitStableUntil]
      refine looks.bind fun hash => of_get.bind fun state => ?_
      dsimp only
      split
      · exact of_pure ()
      · split
        · exact of_throw expired
        · rename_i left
          exact (of_modify (sleeps _)).bind fun _ => ih _ (Backend.sub_pauseOf_lt left) _

theorem awaitStableText {screen : Operation σ String} (looks : Leads relation screen)
    (sample stable timeout : Nat) :
    Leads relation (Backend.awaitStableText now sleep sample screen stable timeout) :=
  of_get.bind fun _ =>
    awaitStableUntil sleeps (looks.bind fun _ => of_pure _) sample stable _ _ _ timeout

end Leads

end TerminalScript
