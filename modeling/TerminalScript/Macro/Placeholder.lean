import TerminalScript.Json.Printer
import TerminalScript.Pattern.Search

/-!
Placeholders, written `${name}`, and the values put in their place. A text that is one placeholder
alone becomes the value of the argument, of whatever type; elsewhere the value is written into the
text, and a placeholder whose name is unknown stays as it is.
-/

namespace TerminalScript.Placeholder

open Json

abbrev Arguments := List (String × Value)

def isNameChar (c : Char) : Bool :=
  Pattern.isWordChar true (some c)

def read? : List Char → Option (List Char × List Char)
  | '\x7b' :: rest =>
      match rest.takeWhile isNameChar, rest.dropWhile isNameChar with
      | c :: name, '\x7d' :: rest => some (c :: name, rest)
      | _, _ => none
  | _ => none

inductive Piece
  | char (c : Char)
  | name (name : List Char)
  deriving DecidableEq

theorem read?_length {chars name rest : List Char} (found : read? chars = some (name, rest)) :
    rest.length < chars.length := by
  unfold read? at found
  split at found
  · rename_i tail
    split at found
    · rename_i head others remaining _ equation
      have bound := (List.dropWhile_sublist isNameChar : (tail.dropWhile isNameChar).Sublist tail).length_le
      rw [equation] at bound
      simp only [List.length_cons] at bound
      simp only [Option.some.injEq, Prod.mk.injEq] at found
      obtain ⟨_, equal⟩ := found
      subst equal
      simp only [List.length_cons]
      omega
    · simp at found
  · simp at found

def pieces (chars : List Char) : List Piece :=
  match chars with
  | [] => []
  | c :: rest =>
      if c = '$' then
        match _found : read? rest with
        | some (name, after) => .name name :: pieces after
        | none => .char c :: pieces rest
      else .char c :: pieces rest
termination_by chars.length
decreasing_by
  · have shorter := read?_length _found
    simp only [List.length_cons]
    omega
  · simp
  · simp

def argumentText : Value → String
  | .text value => value
  | other => other.compact

def Piece.chars (arguments : Arguments) : Piece → List Char
  | char c => [c]
  | name chars =>
      match arguments.lookup (String.ofList chars) with
      | some value => (argumentText value).toList
      | none => '$' :: '\x7b' :: chars ++ ['\x7d']

def substituteText (text : String) (arguments : Arguments) : Value :=
  let pieces := pieces text.toList
  let whole := match pieces with
    | [.name name] => arguments.lookup (String.ofList name)
    | _ => none
  match whole with
  | some value => value
  | none => .text (String.ofList (pieces.flatMap (Piece.chars arguments)))

mutual

def substitute (arguments : Arguments) : Value → Value
  | .text text => substituteText text arguments
  | .array items => .array (substituteItems arguments items)
  | .object fields => .object (substituteFields arguments fields)
  | .null => .null
  | .boolean value => .boolean value
  | .number value => .number value

def substituteItems (arguments : Arguments) : List Value → List Value
  | [] => []
  | item :: rest => substitute arguments item :: substituteItems arguments rest

def substituteFields (arguments : Arguments) : List (String × Value) → List (String × Value)
  | [] => []
  | (name, value) :: rest => (name, substitute arguments value) :: substituteFields arguments rest

end

end TerminalScript.Placeholder
