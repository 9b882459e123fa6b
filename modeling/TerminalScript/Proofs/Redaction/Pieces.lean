import TerminalScript.Redaction

/-!
Texts in pieces, some of which are struck. If the matches of a pattern in a text are its struck
pieces, redaction writes the mark in place of each of them and keeps all the others.
-/

namespace TerminalScript

inductive Piece
  | kept (chars : List Char)
  | struck (chars : List Char)

namespace Piece

def chars : Piece → List Char
  | kept chars => chars
  | struck chars => chars

def marked : Piece → List Char
  | kept chars => chars
  | struck _ => redactedMark.toList

def spans (place : Nat) : List Piece → List Pattern.Span
  | [] => []
  | kept chars :: rest => spans (place + chars.length) rest
  | struck chars :: rest =>
      ⟨place, place + chars.length⟩ :: spans (place + chars.length) rest

end Piece

theorem extract_middle (before middle after : List Char) :
    ((before ++ (middle ++ after)).toArray.extract before.length
      (before.length + middle.length)).toList = middle := by
  simp

/-- Replacing goes through the pieces; some that are kept may still be pending. -/
theorem replaceSpans_pieces (before pending : List Char) (pieces : List Piece) :
    replaceSpans redactedMark.toList (before ++ (pending ++ pieces.flatMap Piece.chars)).toArray
        before.length (Piece.spans (before.length + pending.length) pieces) =
      pending ++ pieces.flatMap Piece.marked := by
  induction pieces generalizing before pending with
  | nil =>
      simp [Piece.spans, replaceSpans]
  | cons piece rest ih =>
      cases piece with
      | kept chars =>
          have later := ih before (pending ++ chars)
          rw [List.length_append, ← Nat.add_assoc, List.append_assoc] at later
          simpa [Piece.spans, Piece.chars, Piece.marked] using later
      | struck chars =>
          have first := extract_middle before pending (chars ++ rest.flatMap Piece.chars)
          have later := ih (before ++ (pending ++ chars)) []
          simp only [List.length_append, List.length_nil, List.append_assoc, List.nil_append,
            Nat.add_zero, ← Nat.add_assoc] at later
          simp only [List.flatMap_cons, Piece.chars, Piece.marked, Piece.spans, replaceSpans]
          rw [first, later, List.append_assoc]

structure Pattern.Cuts (pattern : Pattern) (text : String) (pieces : List Piece) : Prop where
  joined : text.toList = pieces.flatMap Piece.chars
  found : pattern.spans text.toList.toArray = Piece.spans 0 pieces

theorem Pattern.Cuts.replaceAll {pattern : Pattern} {text : String} {pieces : List Piece}
    (cuts : pattern.Cuts text pieces) :
    pattern.replaceAll redactedMark text = String.ofList (pieces.flatMap Piece.marked) := by
  have replaced := replaceSpans_pieces [] [] pieces
  rw [Pattern.replaceAll, cuts.found, cuts.joined]
  exact congrArg String.ofList replaced

end TerminalScript
