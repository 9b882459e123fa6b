/-!
The shortest decimal that reads back as a given binary floating point number. A positive finite
number is `mantissa * 2 ^ exponent`; the decimals that round to it fill an interval around it, and
`shortest` takes the first decimal grid, from the coarsest on, that has a point in the interval.
-/

namespace TerminalScript.Decimal

structure Binary where
  mantissa : Nat
  exponent : Int

structure Digits where
  digits : Nat
  exponent : Int

structure Fraction where
  numerator : Nat
  denominator : Nat

namespace Fraction

def le (left right : Fraction) : Bool :=
  left.numerator * right.denominator ≤ right.numerator * left.denominator

def lt (left right : Fraction) : Bool :=
  left.numerator * right.denominator < right.numerator * left.denominator

def scale (base : Nat) (power : Int) (value : Fraction) : Fraction :=
  match power with
  | .ofNat steps => ⟨value.numerator * Nat.pow base steps, value.denominator⟩
  | .negSucc steps => ⟨value.numerator, value.denominator * Nat.pow base (steps + 1)⟩

def floor (value : Fraction) : Nat :=
  value.numerator / value.denominator

end Fraction

structure Interval where
  low : Fraction
  high : Fraction
  closed : Bool

def Interval.contains (interval : Interval) (value : Fraction) : Bool :=
  if interval.closed then interval.low.le value && value.le interval.high
  else interval.low.lt value && value.lt interval.high

def mantissaLimit : Nat := 0x10000000000000

def Binary.interval (number : Binary) : Interval :=
  -- The distance to the number below halves where the mantissa is the smallest of its binade.
  let below := if number.mantissa = mantissaLimit ∧ number.exponent > -1074 then 1 else 2
  let quarter (count : Nat) := (Fraction.mk count 1).scale 2 (number.exponent - 2)
  { low := quarter (4 * number.mantissa - below)
    high := quarter (4 * number.mantissa + 2)
    closed := number.mantissa % 2 = 0 }

def Binary.value (number : Binary) : Fraction :=
  (Fraction.mk number.mantissa 1).scale 2 number.exponent

def leadingPower (value : Fraction) : Int :=
  let whole := value.floor
  if whole > 0 then (Nat.toDigits 10 whole).length - 1
  else
    let rec below (power : Nat) : Nat → Int
      | 0 => -(power : Int)
      | fuel + 1 =>
          if (value.scale 10 power).floor > 0 then -(power : Int) else below (power + 1) fuel
    below 1 330

def onGrid? (interval : Interval) (value : Fraction) (power : Int) : Option Digits :=
  let scaled := value.scale 10 (-power)
  let lower := scaled.floor
  let point (digits : Nat) := (Fraction.mk digits 1).scale 10 power
  let lowerFits := interval.contains (point lower)
  let upperFits := interval.contains (point (lower + 1))
  let remainder := scaled.numerator - lower * scaled.denominator
  let upperNearer := 2 * remainder > scaled.denominator ||
    (2 * remainder = scaled.denominator && lower % 2 = 1)
  if lowerFits && (!upperFits || !upperNearer) && lower > 0 then some ⟨lower, power⟩
  else if upperFits then some ⟨lower + 1, power⟩
  else none

def dropZeros (number : Digits) : Nat → Digits
  | 0 => number
  | fuel + 1 =>
      if number.digits % 10 = 0 ∧ number.digits > 0 then
        dropZeros ⟨number.digits / 10, number.exponent + 1⟩ fuel
      else number

/-- The shortest decimal that reads back as the number; seventeen digits always do. -/
def shortest (number : Binary) : Digits :=
  let value := number.value
  let interval := number.interval
  let leading := leadingPower value
  let rec search (power : Int) : Nat → Digits
    | 0 => ⟨(value.scale 10 (-power)).floor, power⟩
    | fuel + 1 =>
        match onGrid? interval value power with
        | some found => found
        | none => search (power - 1) fuel
  dropZeros (search leading 18) 20

def ofFloat (number : Float) : Bool × Binary :=
  let bits := number.toBits.toNat
  let fraction := bits % mantissaLimit
  let field : Nat := bits / mantissaLimit % 2048
  let binary : Binary :=
    if field = 0 then ⟨fraction, -1074⟩ else ⟨fraction + mantissaLimit, (field : Int) - 1075⟩
  (bits / (2048 * mantissaLimit) = 1, binary)

end TerminalScript.Decimal
