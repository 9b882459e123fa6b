import Mathlib
import TerminalScript.Proofs.Capture.Files
import TerminalScript.Proofs.Json.Texts
import TerminalScript.Proofs.Redaction.Pieces

/-!
Captures as JSON documents. A snapshot is written as an object of its parts, and redaction then goes
over the whole document. What is left is the document of the redacted parts if each pattern finds in
the document what it finds in the parts, at the places where their characters are written. A pattern
that finds more, such as the quote after a text, can leave no document at all.
-/

namespace TerminalScript

open Json

namespace Snapshot

def document (snapshot : Snapshot) : Value :=
  .object (textFields snapshot.parts)

def map (change : String → String) (snapshot : Snapshot) : Snapshot where
  screen := snapshot.screen.map change
  scrollback := snapshot.scrollback.map change
  transcript := snapshot.transcript.map change

theorem parts_map (change : String → String) (snapshot : Snapshot) :
    (snapshot.map change).parts = snapshot.parts.map fun part => (part.1, change part.2) := by
  obtain ⟨screen, scrollback, transcript⟩ := snapshot
  cases screen <;> cases scrollback <;> cases transcript <;> rfl

theorem map_id (snapshot : Snapshot) : snapshot.map id = snapshot := by
  obtain ⟨screen, scrollback, transcript⟩ := snapshot
  simp [map]

theorem map_map (first next : String → String) (snapshot : Snapshot) :
    (snapshot.map first).map next = snapshot.map fun text => next (first text) := by
  obtain ⟨screen, scrollback, transcript⟩ := snapshot
  simp [map, Function.comp_def]

/-- The parts stand in the order of their names. -/
theorem ofFields_parts (snapshot : Snapshot) :
    Value.ofFields (textFields snapshot.parts) = snapshot.document := by
  have first : ¬"scrollback" < "screen" := by decide
  have second : ¬"transcript" < "screen" := by decide
  have third : ¬"transcript" < "scrollback" := by decide
  obtain ⟨screen, scrollback, transcript⟩ := snapshot
  cases screen <;> cases scrollback <;> cases transcript <;>
    simp [document, parts, textFields, Value.ofFields, sortFields, insertField, first, second,
      third]

theorem parse?_document (snapshot : Snapshot) :
    parse? snapshot.document.pretty = some snapshot.document :=
  (parse?_textFields snapshot.parts).trans (congrArg some (ofFields_parts snapshot))

end Snapshot

def Piece.escaped : Piece → Piece
  | kept chars => kept (chars.flatMap escapeChar)
  | struck chars => struck (chars.flatMap escapeChar)

def memberPieces (field : String × List Piece) : List Piece :=
  .kept ((quote field.1).toList ++ [':', ' ', '"']) :: field.2.map Piece.escaped ++ [.kept ['"']]

def documentPieces : List (String × List Piece) → List Piece
  | [] => [.kept ['\x7b', '\x7d']]
  | first :: others =>
      .kept ['\x7b', '\n', ' ', ' '] :: memberPieces first ++
        others.flatMap (fun field => .kept memberSeparator :: memberPieces field) ++
        [.kept ['\n', '\x7d']]

structure Piece.Writes (write : Piece → List Char) : Prop where
  kept : ∀ chars, write (.kept chars) = chars
  escaped : ∀ piece : Piece, write piece.escaped = (write piece).flatMap escapeChar

theorem Piece.writes_chars : Piece.Writes Piece.chars where
  kept _ := rfl
  escaped piece := by cases piece <;> rfl

/-- The mark is written in a string as it is. -/
theorem Piece.writes_marked : Piece.Writes Piece.marked where
  kept _ := rfl
  escaped piece := by
    have mark : redactedMark.toList.flatMap escapeChar = redactedMark.toList := by decide
    cases piece with
    | kept chars => rfl
    | struck chars => exact mark.symm

namespace Piece.Writes

variable {write : Piece → List Char} (writes : Piece.Writes write)

include writes

theorem flatMap_escaped (pieces : List Piece) :
    (pieces.map Piece.escaped).flatMap write = (pieces.flatMap write).flatMap escapeChar := by
  induction pieces with
  | nil => rfl
  | cons piece rest ih =>
      rw [List.map_cons, List.flatMap_cons, List.flatMap_cons, List.flatMap_append,
        writes.escaped, ih]

theorem flatMap_memberPieces (field : String × List Piece) :
    (memberPieces field).flatMap write =
      memberChars (field.1, String.ofList (field.2.flatMap write)) := by
  simp [memberPieces, memberChars, writes.kept, writes.flatMap_escaped]

theorem flatMap_documentPieces (fields : List (String × List Piece)) :
    (documentPieces fields).flatMap write =
      (Value.object (textFields (fields.map fun field =>
        (field.1, String.ofList (field.2.flatMap write))))).pretty.toList := by
  cases fields with
  | nil => simp [documentPieces, writes.kept, textFields, Value.pretty, Value.prettyAt]
  | cons first others =>
      rw [List.map_cons, toList_pretty_textFields]
      simp [documentPieces, bodyChars, writes.kept, writes.flatMap_memberPieces,
        List.flatMap_map, List.flatMap_assoc]

end Piece.Writes

/-- What a pattern finds in the document of a snapshot is what it finds in the texts, each match at
the place where the document has its characters. -/
def Pattern.KeepsToTexts (pattern : Pattern) (snapshot : Snapshot) : Prop :=
  ∃ fields : List (String × List Piece),
    List.Forall₂ (fun part field => part.1 = field.1 ∧ pattern.Cuts part.2 field.2)
      snapshot.parts fields ∧
    pattern.spans snapshot.document.pretty.toList.toArray = Piece.spans 0 (documentPieces fields)

theorem texts_of_cuts {pattern : Pattern} {parts : List (String × String)}
    {fields : List (String × List Piece)}
    (cut : List.Forall₂ (fun part field => part.1 = field.1 ∧ pattern.Cuts part.2 field.2)
      parts fields) :
    fields.map (fun field => (field.1, String.ofList (field.2.flatMap Piece.chars))) = parts ∧
      fields.map (fun field => (field.1, String.ofList (field.2.flatMap Piece.marked))) =
        parts.map fun part => (part.1, pattern.replaceAll redactedMark part.2) := by
  induction cut with
  | nil => exact ⟨rfl, rfl⟩
  | @cons part field _ _ related _ ih =>
      obtain ⟨name, cuts⟩ := related
      have text : String.ofList (field.2.flatMap Piece.chars) = part.2 := by
        rw [← cuts.joined, String.ofList_toList]
      exact ⟨by rw [List.map_cons, ih.1, ← name, text],
        by rw [List.map_cons, List.map_cons, ih.2, ← name, cuts.replaceAll]⟩

theorem Pattern.KeepsToTexts.replaceAll {pattern : Pattern} {snapshot : Snapshot}
    (keeps : pattern.KeepsToTexts snapshot) :
    pattern.replaceAll redactedMark snapshot.document.pretty =
      (snapshot.map (pattern.replaceAll redactedMark)).document.pretty := by
  obtain ⟨fields, cut, found⟩ := keeps
  obtain ⟨texts, redacted⟩ := texts_of_cuts cut
  have joined : snapshot.document.pretty.toList = (documentPieces fields).flatMap Piece.chars := by
    rw [Piece.writes_chars.flatMap_documentPieces, texts, Snapshot.document]
  have cuts : pattern.Cuts snapshot.document.pretty (documentPieces fields) := ⟨joined, found⟩
  rw [cuts.replaceAll, Piece.writes_marked.flatMap_documentPieces, redacted, String.ofList_toList,
    Snapshot.document, Snapshot.parts_map]

def redacted (patterns : List Pattern) (text : String) : String :=
  patterns.foldl (fun text pattern => pattern.replaceAll redactedMark text) text

/-- Each pattern keeps to the texts as the patterns before it leave them; without patterns this asks
nothing. -/
def KeepToTexts : List Pattern → Snapshot → Prop
  | [], _ => True
  | pattern :: rest, snapshot =>
      pattern.KeepsToTexts snapshot ∧
        KeepToTexts rest (snapshot.map (pattern.replaceAll redactedMark))

theorem redacted_document (patterns : List Pattern) (snapshot : Snapshot)
    (keep : KeepToTexts patterns snapshot) :
    redacted patterns snapshot.document.pretty =
      (snapshot.map (redacted patterns)).document.pretty := by
  induction patterns generalizing snapshot with
  | nil => rw [show redacted [] = id from rfl, Snapshot.map_id, id]
  | cons pattern rest ih =>
      obtain ⟨first, later⟩ := keep
      calc redacted (pattern :: rest) snapshot.document.pretty
        _ = redacted rest (pattern.replaceAll redactedMark snapshot.document.pretty) := rfl
        _ = redacted rest (snapshot.map (pattern.replaceAll redactedMark)).document.pretty := by
          rw [first.replaceAll]
        _ = ((snapshot.map (pattern.replaceAll redactedMark)).map
            (redacted rest)).document.pretty := ih _ later
        _ = (snapshot.map (redacted (pattern :: rest))).document.pretty := by
          rw [Snapshot.map_map]
          rfl

namespace CaptureWriter

def patterns (writer : CaptureWriter) : List Pattern :=
  match writer.redactor with
  | some redactor => redactor.patterns
  | none => []

theorem content_json (writer : CaptureWriter) (snapshot : Snapshot) :
    writer.content .json snapshot = redacted writer.patterns snapshot.document.pretty := by
  obtain ⟨scenario, directory, redactor⟩ := writer
  cases redactor <;> rfl

/-- The file of a capture holds the document of the redacted parts, and no other part. -/
theorem json_capture (writer : CaptureWriter) (snapshot : Snapshot)
    (keep : KeepToTexts writer.patterns snapshot) :
    parse? (writer.content .json snapshot) =
        some (snapshot.map (redacted writer.patterns)).document ∧
      ∀ {directory sequence label path : String} {files written : Files},
        writer.write directory sequence label .json snapshot files = .ok (path, written) →
          written.readText path = .ok (writer.content .json snapshot) := by
  constructor
  · rw [content_json, redacted_document _ _ keep]
    exact (snapshot.map (redacted writer.patterns)).parse?_document
  · intro directory sequence label path files written done
    exact readText_written done

def redacting (pattern : String) : CaptureWriter where
  scenario := "demo"
  directory := none
  redactor := (Redactor.new [pattern]).toOption

/-- A secret behind a line break, which the document writes in two characters. -/
theorem json_capture_of_key :
    KeepToTexts (redacting "key_[0-9]+").patterns { screen := some "a\nkey_1" } ∧
      parse? ((redacting "key_[0-9]+").content .json { screen := some "a\nkey_1" }) =
        some (.object [("screen", .text "a\n[REDACTED]")]) ∧
      ∃ written,
        (redacting "key_[0-9]+").write "caps" "login" "key" .json { screen := some "a\nkey_1" }
            .standard = .ok ("caps/demo-login-key.json", written) ∧
          written.readText "caps/demo-login-key.json" =
            .ok ((redacting "key_[0-9]+").content .json { screen := some "a\nkey_1" }) := by
  have single : (redacting "key_[0-9]+").patterns.length = 1 := by cbv
  have inText : (redacting "key_[0-9]+").patterns.map
      (Pattern.spans · "a\nkey_1".toList.toArray) = [[⟨2, 7⟩]] := by cbv
  have inDocument : (redacting "key_[0-9]+").patterns.map
      (Pattern.spans · "\x7b\n  \"screen\": \"a\\nkey_1\"\n\x7d".toList.toArray) =
        [[⟨18, 23⟩]] := by cbv
  have keep : KeepToTexts (redacting "key_[0-9]+").patterns { screen := some "a\nkey_1" } := by
    obtain ⟨pattern, only⟩ := List.length_eq_one_iff.mp single
    rw [only, List.map_singleton, List.singleton_inj] at inText inDocument
    rw [only]
    refine ⟨⟨[("screen", [.kept "a\n".toList, .struck "key_1".toList])], ?_, inDocument⟩, trivial⟩
    exact .cons ⟨rfl, rfl, inText⟩ .nil
  obtain ⟨document, file⟩ := json_capture _ _ keep
  have wrote : ((redacting "key_[0-9]+").write "caps" "login" "key" .json
      { screen := some "a\nkey_1" } .standard).map (·.1) = .ok "caps/demo-login-key.json" := rfl
  refine ⟨keep, document.trans (by cbv), ?_⟩
  obtain ⟨result, done, named⟩ := map_eq_ok.mp wrote
  obtain ⟨path, written⟩ := result
  obtain rfl : path = "caps/demo-login-key.json" := named
  exact ⟨written, done, file done⟩

/-- A pattern that also finds the quote after a text leaves no document, and one that finds a
character which the document escapes leaves the secret in it. -/
theorem json_capture_broken :
    redacted (redacting "key=.*").patterns "key=1" = "[REDACTED]" ∧
      parse? ((redacting "key=.*").content .json { screen := some "key=1" }) = none ∧
      redacted (redacting "pin.[0-9]+").patterns "pin\t12" = "[REDACTED]" ∧
      parse? ((redacting "pin.[0-9]+").content .json { screen := some "pin\t12" }) =
        some (.object [("screen", .text "pin\t12")]) := by
  exact ⟨by cbv, by cbv, by cbv, by cbv⟩

end CaptureWriter

end TerminalScript
