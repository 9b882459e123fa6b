import TerminalScript.Digest.Sha256

/-!
How long a sampled screen has stayed the same.
-/

namespace TerminalScript

structure StabilityTracker where
  last : Option (String × Nat) := none
  deriving Inhabited, DecidableEq

namespace StabilityTracker

def observeHash (tracker : StabilityTracker) (hash : String) (now : Nat) :
    Nat × StabilityTracker :=
  match tracker.last with
  | some (previous, since) =>
      if previous = hash then (now - since, tracker) else (0, ⟨some (hash, now)⟩)
  | none => (0, ⟨some (hash, now)⟩)

def observe (tracker : StabilityTracker) (content : List UInt8) (now : Nat) :
    Nat × StabilityTracker :=
  tracker.observeHash (Digest.sha256Hex content) now

end StabilityTracker

end TerminalScript
