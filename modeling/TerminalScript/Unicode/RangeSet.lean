/-!
Sets of code points as sorted, disjoint ranges, each with its end excluded, and partitions of all
code points into numbered classes. Both are written as text: numbers in base 32, lowest digit
first, a digit from the upper half of the alphabet meaning that more follow.
-/

namespace TerminalScript.Unicode

def codeLimit : Nat := 0x110000

def digitValue (c : Char) : Nat :=
  if 'A' ≤ c ∧ c ≤ 'Z' then c.toNat - 65
  else if 'a' ≤ c ∧ c ≤ 'z' then c.toNat - 71
  else if '0' ≤ c ∧ c ≤ '9' then c.toNat + 4
  else if c = '+' then 62
  else 63

def numbersFrom (value weight : Nat) : List Char → List Nat
  | [] => []
  | c :: rest =>
      let digit := digitValue c
      if digit < 32 then (value + digit * weight) :: numbersFrom 0 1 rest
      else numbersFrom (value + (digit - 32) * weight) (weight * 32) rest

def decodeNumbers (text : String) : List Nat :=
  numbersFrom 0 1 text.toList

abbrev RangeSet := Array (Nat × Nat)

/-- Each range is written as its distance from the range before and its length less one. -/
def rangesFrom (start : Nat) : List Nat → List (Nat × Nat)
  | gap :: count :: rest =>
      (start + gap, start + gap + count + 1) :: rangesFrom (start + gap + count + 1) rest
  | _ => []

def RangeSet.decode (text : String) : RangeSet :=
  (rangesFrom 0 (decodeNumbers text)).toArray

def countBelow (starts : Nat → Nat) (code : Nat) (size : Nat) : Nat :=
  let rec search (low high : Nat) : Nat → Nat
    | 0 => low
    | fuel + 1 =>
        if low < high then
          let middle := (low + high) / 2
          if starts middle ≤ code then search (middle + 1) high fuel else search low middle fuel
        else low
  search 0 size 24

def RangeSet.contains (set : RangeSet) (code : Nat) : Bool :=
  let below := countBelow (fun index => (set[index]?.getD (codeLimit, codeLimit)).1) code set.size
  if below = 0 then false
  else code < (set[below - 1]?.getD (0, 0)).2

abbrev Partition := Array (Nat × Nat)

/-- Each run is written as its class and its length less one. -/
def classesFrom (start : Nat) : List Nat → List (Nat × Nat)
  | kind :: count :: rest => (start, kind) :: classesFrom (start + count + 1) rest
  | _ => []

def Partition.decode (text : String) : Partition :=
  (classesFrom 0 (decodeNumbers text)).toArray

def Partition.classOf (partition : Partition) (code : Nat) : Nat :=
  let below := countBelow (fun index => (partition[index]?.getD (codeLimit, 0)).1) code
    partition.size
  (partition[below - 1]?.getD (0, 0)).2

def Partition.select (partition : Partition) (accepts : Nat → Bool) : RangeSet :=
  let runs := partition.toList
  let ends := (runs.drop 1).map (·.1) ++ [codeLimit]
  let kept := (runs.zip ends).filterMap fun ((start, kind), stop) =>
    if accepts kind then some (start, stop) else none
  let join (joined : List (Nat × Nat)) (range : Nat × Nat) : List (Nat × Nat) :=
    match joined with
    | (start, stop) :: rest =>
        if stop = range.1 then (start, range.2) :: rest else range :: joined
    | [] => [range]
  (kept.foldl join []).reverse.toArray

/-- Each run is written as its distance from the start of the run before, its length less one, its
stride less one, and twice the distance it maps by, one more if that goes down. -/
def foldingsFrom (start : Nat) : List Nat → List (Nat × Nat × Nat × Int)
  | gap :: count :: stride :: distance :: rest =>
      let first := start + gap
      let shift : Int := if distance % 2 = 1 then -(distance / 2 : Nat) else (distance / 2 : Nat)
      (first, count + 1, stride + 1, shift) :: foldingsFrom first rest
  | _ => []

def decodeFolding (text : String) : Array (Nat × Nat × Nat × Int) :=
  (foldingsFrom 0 (decodeNumbers text)).toArray

end TerminalScript.Unicode
