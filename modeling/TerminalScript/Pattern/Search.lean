import TerminalScript.Pattern.Program

/-!
Running a pattern's program over a text. All ways to match advance together, in order of
preference, so the time is bounded by the size of the program times the length of the text.
-/

namespace TerminalScript.Pattern

structure Span where
  start : Nat
  stop : Nat
  deriving Inhabited, DecidableEq

def wordRanges : Unicode.RangeSet := wordChars.toArray

def isWordChar (unicode : Bool) : Option Char → Bool
  | none => false
  | some c =>
      if c.toNat < 128 then c.isAlphanum || c = '_'
      else unicode && wordRanges.contains c.toNat

def Look.holds (kind : Look) (before after : Option Char) : Bool :=
  match kind with
  | textStart => before = none
  | textEnd => after = none
  | lineStart => before = none || before = some '\n'
  | lineEnd => after = none || after = some '\n'
  | lineStartReturns =>
      before = none || before = some '\n' || (before = some '\r' && after ≠ some '\n')
  | lineEndReturns =>
      after = none || after = some '\r' || (after = some '\n' && before ≠ some '\r')
  | boundary unicode => isWordChar unicode before != isWordChar unicode after
  | notBoundary unicode => isWordChar unicode before == isWordChar unicode after
  | wordStart unicode => !isWordChar unicode before && isWordChar unicode after
  | wordEnd unicode => isWordChar unicode before && !isWordChar unicode after
  | wordStartHalf unicode => !isWordChar unicode before
  | wordEndHalf unicode => !isWordChar unicode after

structure Thread where
  position : Nat
  start : Nat
  deriving Inhabited

/-- The threads at a place, in order of preference, and for each instruction the mark of the last
place at which a thread came to it. -/
structure Threads where
  list : Array Thread
  marks : Array Nat

def follow (program : Program) (before after : Option Char) (mark start : Nat) :
    Nat → List Nat → Threads → Threads
  -- No instruction is followed twice at a place.
  | 0, _, threads => threads
  | _, [], threads => threads
  | fuel + 1, index :: stack, threads =>
      if threads.marks[index]?.getD mark = mark then
        follow program before after mark start fuel stack threads
      else
        let threads := { threads with marks := threads.marks.setIfInBounds index mark }
        match program.instructions[index]? with
        | some (.fork first second) =>
            follow program before after mark start fuel (first :: second :: stack) threads
        | some (.look kind next) =>
            let stack := if kind.holds before after then next :: stack else stack
            follow program before after mark start fuel stack threads
        | _ =>
            let threads := { threads with list := threads.list.push ⟨index, start⟩ }
            follow program before after mark start fuel stack threads

def enter (program : Program) (before after : Option Char) (mark start index : Nat)
    (threads : Threads) : Threads :=
  follow program before after mark start (2 * program.instructions.size + 1) [index] threads

def advance (program : Program) (c after : Option Char) (place : Nat) :
    List Thread → Option Span → Threads → Option Span × Threads
  -- The first thread that has matched ends the less preferred ones.
  | [], found, next => (found, next)
  | thread :: rest, found, next =>
      match program.instructions[thread.position]? with
      | some .accept => (some ⟨thread.start, place⟩, next)
      | some (.chars set target) =>
          match c with
          | some code =>
              if set.contains code.toNat then
                advance program c after place rest found
                  (enter program c after (place + 2) thread.start target next)
              else advance program c after place rest found next
          | none => advance program c after place rest found next
      | _ => advance program c after place rest found next

def searchFrom (program : Program) (text : Array Char) (before : Option Char) :
    Nat → Nat → Option Span → Threads → Option Span
  -- Once a match is found no new thread begins, and the search ends with the last thread.
  | 0, _, found, _ => found
  | fuel + 1, place, found, threads =>
      let c := text[place]?
      let threads :=
        if found.isSome then threads
        else enter program before c (place + 1) place program.entry threads
      if threads.list.isEmpty ∧ found.isSome then found
      else
        let (found, next) := advance program c text[place + 1]? place threads.list.toList found
          ⟨#[], threads.marks⟩
        searchFrom program text c fuel (place + 1) found next

def search? (program : Program) (text : Array Char) (place : Nat) : Option Span :=
  let before := if place = 0 then none else text[place - 1]?
  searchFrom program text before (text.size + 1 - place) place none
    ⟨#[], Array.replicate program.instructions.size 0⟩

def spansFrom (program : Program) (text : Array Char) :
    Nat → Nat → Option Nat → List Span
  -- An empty match does not touch the match before it.
  | 0, _, _ => []
  | fuel + 1, place, last =>
      match search? program text place with
      | none => []
      | some span =>
          if span.start = span.stop ∧ last = some span.stop then
            if place < text.size then spansFrom program text fuel (place + 1) none else []
          else span :: spansFrom program text fuel span.stop (some span.stop)

end TerminalScript.Pattern
