import TerminalScript.Text.Plain
import TerminalScript.Text.Utf8

/-!
The output of a process, bounded in size: past the limit only its end is retained, from the start
of a line or at least of a character.
-/

namespace TerminalScript

structure Transcript where
  data : List UInt8 := []
  limit : Nat
  retain : Nat
  trimmed : Nat := 0
  deriving Inhabited, DecidableEq

namespace Transcript

def new (limit retain : Nat) : Transcript :=
  { limit, retain := min retain limit }

def lineFeed : UInt8 := 10

def isContinuation (byte : UInt8) : Bool :=
  128 ≤ byte && byte < 192

def extraCut (retain : Nat) (window : List UInt8) : Nat :=
  -- The bytes kept begin a line, if one ends in their first half, or else a character.
  match (window.take (retain / 2)).idxOf? lineFeed with
  | some position => position + 1
  | none => (window.takeWhile isContinuation).length

def append (transcript : Transcript) (bytes : List UInt8) : Transcript :=
  let data := transcript.data ++ bytes
  if data.length > transcript.limit then
    let start := data.length - transcript.retain
    let cut := start + extraCut transcript.retain (data.drop start)
    { transcript with data := data.drop cut, trimmed := transcript.trimmed + cut }
  else { transcript with data }

def text (transcript : Transcript) : String :=
  Text.plain (Text.decode transcript.data)

end Transcript

end TerminalScript
