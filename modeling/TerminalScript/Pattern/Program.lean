import TerminalScript.Pattern.Expression

/-!
Regular expressions as programs for a machine that follows all ways to match at once. Where two
ways part, the program prefers the first.

The sizes are estimates. A compiled expression also has a few states for its start, for its end and
for the search before it, which are not counted, so an expression whose size comes within a few
hundred bytes of the limit may be judged otherwise. Sets are estimated by their ranges alone,
although ranges that share bytes share states, so the more sets an expression has, the further off
its size may be.
-/

namespace TerminalScript.Pattern

inductive Instruction
  | chars (set : Unicode.RangeSet) (next : Nat)
  | look (kind : Look) (next : Nat)
  | fork (first second : Nat)
  | accept
  deriving Inhabited

structure Program where
  entry : Nat
  instructions : Array Instruction
  deriving Inhabited

mutual

def Expression.matchesEmpty : Expression → Bool
  | .empty => true
  | .chars _ => false
  | .look _ => true
  | .repetition least _ _ item => least = 0 || item.matchesEmpty
  | .sequence items => allMatchEmpty items
  | .choice items => anyMatchesEmpty items

def allMatchEmpty : List Expression → Bool
  | [] => true
  | item :: rest => item.matchesEmpty && allMatchEmpty rest

def anyMatchesEmpty : List Expression → Bool
  | [] => false
  | item :: rest => item.matchesEmpty || anyMatchesEmpty rest

end

def sizeLimit : Nat := 10 * 1048576

def stateSize : Nat := 32

/-- A state for each byte of its text; those around the literal are not counted. -/
def literalSize (text : String) : Nat :=
  stateSize * text.utf8ByteSize

/-- A set of one character is a literal, one of ASCII a single state, and any other takes about nine
transitions for each range. -/
def setSize (set : CharSet) : Nat :=
  match set.single? with
  | some c => literalSize (String.singleton c)
  | none =>
      if set.isAscii then stateSize + (if set.length = 1 then 0 else 8 * set.length)
      else 100 + 72 * set.length

mutual

def Expression.size : Expression → Nat
  | .empty => stateSize
  | .chars set => setSize set
  | .look _ => stateSize
  | .repetition least most _ item =>
      let body := item.size
      match most with
      | none => (max least 1) * body + stateSize
      | some most => least * body + (most - least) * (body + stateSize)
  | .sequence items => sizes items
  | .choice items => sizes items + stateSize

def sizes : List Expression → Nat
  | [] => 0
  | item :: rest => item.size + sizes rest

end

abbrev Code := Array Instruction

abbrev Emitter := (next : Nat) → Code → Nat × Code

def emit (instruction : Instruction) (code : Code) : Nat × Code :=
  (code.size, code.push instruction)

def forkOf (greedy : Bool) (way past : Nat) : Instruction :=
  if greedy then .fork way past else .fork past way

def copies (part : Emitter) : Nat → Emitter
  | 0 => fun next code => (next, code)
  | count + 1 => fun next code =>
      let (rest, code) := copies part count next code
      part rest code

def loopOnce (greedy : Bool) (part : Emitter) : Emitter := fun next code =>
  let (fork, code) := emit .accept code
  let (entry, code) := part fork code
  (entry, code.setIfInBounds fork (forkOf greedy entry next))

/-- Any number of copies. A part that can match nothing is entered before its loop is. -/
def loop (greedy emptyPart : Bool) (part : Emitter) : Emitter := fun next code =>
  if emptyPart then
    let (entry, code) := loopOnce greedy part next code
    emit (forkOf greedy entry next) code
  else
    let (fork, code) := emit .accept code
    let (entry, code) := part fork code
    (fork, code.setIfInBounds fork (forkOf greedy entry next))

def optionalCopies (greedy : Bool) (part : Emitter) (next : Nat) : Nat → Code → Nat × Code
  | 0, code => (next, code)
  | count + 1, code =>
      let (rest, code) := optionalCopies greedy part next count code
      let (entry, code) := part rest code
      emit (forkOf greedy entry next) code

mutual

def Expression.emitter : Expression → Emitter
  | .empty => fun next code => (next, code)
  | .chars set => fun next code => emit (.chars set.toArray next) code
  | .look kind => fun next code => emit (.look kind next) code
  | .repetition least most greedy item =>
      let part := item.emitter
      match most with
      | some most => fun next code =>
          let (rest, code) := optionalCopies greedy part next (most - least) code
          copies part least rest code
      | none =>
          if least = 0 then loop greedy item.matchesEmpty part
          else fun next code =>
            let (last, code) := loopOnce greedy part next code
            copies part (least - 1) last code
  | .sequence items => sequenceEmitter items
  | .choice items => choiceEmitter items

def sequenceEmitter : List Expression → Emitter
  | [] => fun next code => (next, code)
  | item :: rest => fun next code =>
      let (rest, code) := sequenceEmitter rest next code
      item.emitter rest code

def choiceEmitter : List Expression → Emitter
  | [] => fun next code => (next, code)
  | item :: rest => fun next code =>
      let (first, code) := item.emitter next code
      match rest with
      | [] => (first, code)
      | rest =>
          let (others, code) := choiceEmitter rest next code
          emit (.fork first others) code

end

def Program.ofExpression (expression : Expression) : Program :=
  let (entry, code) := expression.emitter 0 #[.accept]
  ⟨entry, code⟩

end TerminalScript.Pattern
