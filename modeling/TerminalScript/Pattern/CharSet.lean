import TerminalScript.Unicode.RangeSet
import TerminalScript.Unicode.Folding

/-!
Sets of characters as lists of ranges of code points, the end of each excluded. `normalize` sorts
the ranges and joins those that touch.
-/

namespace TerminalScript.Pattern

open Unicode (RangeSet codeLimit foldingPairs)

abbrev CharSet := List (Nat × Nat)

namespace CharSet

def join : CharSet → CharSet
  | (start, stop) :: (next, last) :: rest =>
      if next ≤ stop then join ((start, max stop last) :: rest)
      else (start, stop) :: join ((next, last) :: rest)
  | short => short
termination_by set => set.length

def normalize (set : CharSet) : CharSet :=
  join ((set.filter fun range => range.1 < range.2).mergeSort fun left right => left.1 ≤ right.1)

def single (c : Char) : CharSet :=
  [(c.toNat, c.toNat + 1)]

def single? : CharSet → Option Char
  | [(start, stop)] => if stop = start + 1 then some (Char.ofNat start) else none
  | _ => none

@[simp] theorem single?_single (c : Char) : (single c).single? = some c := by
  simp [single?, single]

def between (first last : Char) : CharSet :=
  [(first.toNat, last.toNat + 1)]

def all : CharSet :=
  [(0, codeLimit)]

def union (left right : CharSet) : CharSet :=
  normalize (left ++ right)

def gapsFrom (start : Nat) : CharSet → CharSet
  | [] => if start < codeLimit then [(start, codeLimit)] else []
  | (first, stop) :: rest =>
      if start < first then (start, first) :: gapsFrom stop rest else gapsFrom stop rest

def complement (set : CharSet) : CharSet :=
  gapsFrom 0 (normalize set)

def intersection (left right : CharSet) : CharSet :=
  complement (complement left ++ complement right)

def difference (left right : CharSet) : CharSet :=
  intersection left (complement right)

def symmetricDifference (left right : CharSet) : CharSet :=
  difference (union left right) (intersection left right)

def fold (set : CharSet) : CharSet :=
  let ranges : RangeSet := (normalize set).toArray
  let added := foldingPairs.toList.flatMap fun (code, _) =>
    if ranges.contains code then
      (Unicode.foldedWith code).map fun other => (other, other + 1)
    else []
  normalize (set ++ added)

def foldAscii (set : CharSet) : CharSet :=
  let shift (first last distance : Nat) (up : Bool) : CharSet :=
    (intersection set [(first, last + 1)]).map fun (start, stop) =>
      if up then (start + distance, stop + distance) else (start - distance, stop - distance)
  normalize (set ++ shift 65 90 32 true ++ shift 97 122 32 false)

def isAscii (set : CharSet) : Bool :=
  List.all (normalize set) fun range => range.2 ≤ 128

end CharSet

end TerminalScript.Pattern
