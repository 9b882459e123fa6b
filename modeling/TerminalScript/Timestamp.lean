/-!
Times as text, from milliseconds since the start of 1970.
-/

namespace TerminalScript

structure Date where
  year : Int
  month : Nat
  day : Nat
  deriving Inhabited, DecidableEq

/-- The date of a day counted from the start of 1970. Years are counted from March on, in cycles of
four hundred, so that the leap day is the last of its year. -/
def Date.ofDays (days : Int) : Date :=
  let shifted := days + 719468
  let cycle := shifted.fdiv 146097
  let dayOfCycle := (shifted - cycle * 146097).toNat
  let yearOfCycle :=
    (dayOfCycle - dayOfCycle / 1460 + dayOfCycle / 36524 - dayOfCycle / 146096) / 365
  let dayOfYear := dayOfCycle - (365 * yearOfCycle + yearOfCycle / 4 - yearOfCycle / 100)
  let shiftedMonth := (5 * dayOfYear + 2) / 153
  let day := dayOfYear - (153 * shiftedMonth + 2) / 5 + 1
  let month := if shiftedMonth < 10 then shiftedMonth + 3 else shiftedMonth - 9
  let year := cycle * 400 + yearOfCycle + (if month ≤ 2 then 1 else 0)
  ⟨year, month, day⟩

def padLeft (width value : Nat) : String :=
  let digits := toString value
  String.ofList (List.replicate (width - digits.length) '0') ++ digits

def yearText (year : Int) : String :=
  if 0 ≤ year ∧ year ≤ 9999 then padLeft 4 year.toNat
  else if year < 0 then "-" ++ padLeft 4 (-year).toNat
  else "+" ++ padLeft 4 year.toNat

def timestamp (milliseconds : Int) : String :=
  let days := milliseconds.fdiv 86400000
  let rest := (milliseconds - days * 86400000).toNat
  let date := Date.ofDays days
  let seconds := rest / 1000
  yearText date.year ++ "-" ++ padLeft 2 date.month ++ "-" ++ padLeft 2 date.day ++ "T" ++
    padLeft 2 (seconds / 3600) ++ ":" ++ padLeft 2 (seconds / 60 % 60) ++ ":" ++
    padLeft 2 (seconds % 60) ++ "." ++ padLeft 3 (rest % 1000) ++ "Z"

end TerminalScript
