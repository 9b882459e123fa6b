import TerminalScript.Rehearsal

/-!
The program: its arguments are those of the command, and its standard input describes on one line
what the command finds around it.
-/

open TerminalScript

def main (arguments : List String) : IO UInt32 := do
  let description ← (← IO.getStdin).getLine
  let described := (Json.parse? description).getD (.object [])
  let ending := Command.run (Rehearsal.surroundings described) arguments
  IO.print ending.output
  if let some error := ending.error then
    IO.eprintln error
  return ending.status
