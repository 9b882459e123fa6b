import TerminalScript.Sequence

/-!
Names that must be unique among loaded documents. They are gone through once, and what has been seen
is kept beside what has been seen again, both sorted.
-/

namespace TerminalScript

def insertName (name : String) : List String → List String
  | [] => [name]
  | other :: rest =>
      if name < other then name :: other :: rest
      else if name = other then other :: rest
      else other :: insertName name rest

structure NameRoll where
  seen : List String := []
  repeated : List String := []

def NameRoll.enter (roll : NameRoll) (name : String) : NameRoll :=
  if name ∈ roll.seen then { roll with repeated := insertName name roll.repeated }
  else { roll with seen := insertName name roll.seen }

def ensureUnique (names : List String) (kind : String) : Outcome Unit :=
  match (names.foldl NameRoll.enter {}).repeated with
  | [] => .ok ()
  | repeated => .error (.duplicateName kind repeated)

abbrev SequenceIndex := List (String × Sequence)

def SequenceIndex.ofList (sequences : List Sequence) : Outcome SequenceIndex := do
  ensureUnique (sequences.map (·.name)) "sequences"
  pure (sequences.map fun sequence => (sequence.name, sequence))

end TerminalScript
