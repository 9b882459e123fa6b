import TerminalScript.Backend.Tmux

/-!
The multiplexer's commands as their argument lists: the session that a command is aimed at, whether it
opens or closes one, and what a list of calls tells of a session.
-/

namespace TerminalScript.Tmux

def valuedOptions : List String :=
  ["-b", "-c", "-F", "-s", "-S", "-t", "-x", "-y"]

def optionValue (wanted : String) : List String → Option String
  | option :: value :: rest =>
      if option = "--" then none
      else if option = wanted then some value
      else if option ∈ valuedOptions then optionValue wanted rest
      else optionValue wanted (value :: rest)
  | _ => none

def target? : List String → Option String
  | [] => none
  | _ :: arguments => (optionValue "-t" arguments).or (optionValue "-b" arguments)

inductive Mark
  | opened (session : String)
  | closed (session : String)
  deriving DecidableEq

def Mark.session : Mark → String
  | opened session => session
  | closed session => session

def mark? : List String → Option Mark
  | [] => none
  | command :: arguments =>
      if command = "new-session" then (optionValue "-s" arguments).map .opened
      else if command = "kill-session" then (optionValue "-t" arguments).map .closed
      else none

structure Uses (session : String) (call : List String) : Prop where
  target : target? call = some session
  unmarked : mark? call = none

def closing (session : String) : List String :=
  ["kill-session", "-t", session]

theorem mark?_newSession (options : BackendOptions) (session command : String)
    (args : List String) (directory : Option String) :
    mark? (newSession options session command args directory) = some (.opened session) := by
  simp [newSession, mark?, optionValue, valuedOptions]

theorem mark?_closing (session : String) : mark? (closing session) = some (.closed session) := by
  simp [closing, mark?, optionValue]

theorem target?_closing (session : String) : target? (closing session) = some session := by
  simp [closing, target?, optionValue]

theorem argumentFault_eq_none {args : List String} : argumentFault args = none ↔
    (∀ arg ∈ args, ¬arg.toList.contains (Char.ofNat 0)) ∧
      ∀ arg ∈ args, ¬arg.utf8ByteSize > argumentLimit := by
  have nul := List.any_eq_false (l := args) (p := fun arg => arg.toList.contains (Char.ofNat 0))
  have long := List.any_eq_false (l := args) (p := fun arg => arg.utf8ByteSize > argumentLimit)
  simp only [decide_eq_true_eq] at long
  rw [← nul, ← long, argumentFault]
  cases args.any fun arg => arg.toList.contains (Char.ofNat 0) with
  | true => simp
  | false => cases args.any fun arg => arg.utf8ByteSize > argumentLimit <;> simp

/-- A session that could be opened can be closed. -/
theorem argumentFault_closing {options : BackendOptions} {session command : String}
    {args : List String} {directory : Option String}
    (usable : argumentFault (newSession options session command args directory) = none) :
    argumentFault (closing session) = none := by
  rw [argumentFault_eq_none] at usable ⊢
  have inside : session ∈ newSession options session command args directory := by simp [newSession]
  simp only [closing, List.forall_mem_cons, List.not_mem_nil, false_implies, implies_true, and_true]
  exact ⟨⟨by decide, by decide, usable.1 session inside⟩,
    by decide, by decide, usable.2 session inside⟩

def closingCalls (session : String) : List (List String) :=
  if argumentFault (closing session) = none then [closing session] else []

theorem target?_of_mem_closingCalls {session : String} {call : List String}
    (member : call ∈ closingCalls session) : target? call = some session := by
  unfold closingCalls at member
  split at member
  · rw [List.mem_singleton.mp member, target?_closing]
  · cases member

def story (session : String) (calls : List (List String)) : List Mark :=
  (calls.filterMap mark?).filter fun mark => mark.session = session

variable {session other : String}

theorem story_append (session : String) (first second : List (List String)) :
    story session (first ++ second) = story session first ++ story session second := by
  rw [story, List.filterMap_append, List.filter_append, story, story]

theorem story_of_uses {calls : List (List String)} (uses : ∀ call ∈ calls, Uses other call) :
    story session calls = [] := by
  have unmarked : calls.filterMap mark? = [] :=
    List.filterMap_eq_nil_iff.mpr fun call member => (uses call member).unmarked
  rw [story, unmarked, List.filter_nil]

theorem story_newSession (options : BackendOptions) (session other command : String)
    (args : List String) (directory : Option String) :
    story session [newSession options other command args directory] =
      if other = session then [.opened session] else [] := by
  rw [story, List.filterMap_cons_some (mark?_newSession options other command args directory)]
  by_cases same : other = session <;> simp [Mark.session, same]

theorem story_closingCalls_of_ne (different : other ≠ session) :
    story session (closingCalls other) = [] := by
  unfold closingCalls
  split
  · rw [story, List.filterMap_cons_some (mark?_closing other)]
    simp [Mark.session, different]
  · rfl

theorem story_closingCalls (usable : argumentFault (closing session) = none) :
    story session (closingCalls session) = [.closed session] := by
  rw [closingCalls, if_pos usable, story, List.filterMap_cons_some (mark?_closing session)]
  simp [Mark.session]

end TerminalScript.Tmux
