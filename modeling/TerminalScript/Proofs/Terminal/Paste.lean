import TerminalScript.Proofs.Terminal.Session
import TerminalScript.Proofs.Transcript.Spelling

/-!
What a process makes of a paste. It reads from the marker at the start to the first marker of the
end, so it gets the text that was pasted unless the text has the end's marker in it. Then it takes
what follows for typed input.
-/

namespace TerminalScript

namespace Text

open Transcript in
/-- A text occurs in another exactly if its bytes do: they can only begin where a character does. -/
theorem flatMap_encodeChar_infix_iff {part chars : List Char} :
    part.flatMap String.utf8EncodeChar <:+: chars.flatMap String.utf8EncodeChar ↔
      part <:+: chars := by
  constructor
  · intro inside
    cases part with
    | nil => exact List.nil_infix
    | cons head tail =>
        induction chars with
        | nil => simp at inside
        | cons c rest ih =>
            rw [List.infix_cons_iff]
            obtain ⟨later, begins, ends⟩ := List.infix_iff_prefix_suffix.mp inside
            obtain ⟨first, others, spelled, character⟩ := exists_characterBytes c
            rw [List.flatMap_cons] at ends
            rcases suffix_append_cases ends with after | ⟨ending, within, rfl⟩
            · exact .inr (ih (begins.isInfix.trans after.isInfix))
            · rw [spelled] at within
              rcases List.suffix_cons_iff.mp within with rfl | continuing
              · rw [← spelled, ← List.flatMap_cons] at begins
                exact .inl (flatMap_encodeChar_prefix_iff.mp begins)
              · cases ending with
                | nil => exact .inr (ih begins.isInfix)
                | cons byte ending =>
                    obtain ⟨lead, _, spelled', character'⟩ := exists_characterBytes head
                    rw [List.flatMap_cons, spelled', List.cons_append, List.cons_append,
                      List.cons_prefix_cons] at begins
                    have continues := character.continues byte (continuing.subset (by simp))
                    rw [← begins.1, character'.begins] at continues
                    cases continues
  · rintro ⟨front, rest, rfl⟩
    simp only [List.flatMap_append]
    exact List.infix_append _ _ _

end Text

namespace Pty

def cutAt (marker : List UInt8) : List UInt8 → Option (List UInt8 × List UInt8)
  | [] => none
  | byte :: rest =>
      if marker.isPrefixOf (byte :: rest) then some ([], (byte :: rest).drop marker.length)
      else (cutAt marker rest).map fun (before, after) => (byte :: before, after)

/-- What a process takes for pasted that reads up to the first marker of an end, and what it reads
after that. -/
def readPaste (bytes : List UInt8) : Option (List UInt8 × List UInt8) :=
  if pasteStart.isPrefixOf bytes then cutAt pasteEnd (bytes.drop pasteStart.length) else none

section

variable {marker bytes before after : List UInt8}

theorem cutAt_cons_eq_some {byte : UInt8} {rest : List UInt8}
    (absent : ¬marker <+: byte :: rest) :
    cutAt marker (byte :: rest) = some (before, after) ↔
      ∃ start, before = byte :: start ∧ cutAt marker rest = some (start, after) := by
  rw [cutAt, if_neg (by rwa [List.isPrefixOf_iff_prefix]), Option.map_eq_some_iff]
  constructor
  · rintro ⟨⟨start, _⟩, cut, same⟩
    obtain ⟨rfl, rfl⟩ := Prod.mk.inj same
    exact ⟨start, rfl, cut⟩
  · rintro ⟨start, rfl, cut⟩
    exact ⟨(start, after), cut, rfl⟩

theorem cutAt_of_begins {byte : UInt8} {rest : List UInt8} (begins : marker <+: byte :: rest) :
    cutAt marker (byte :: rest) = some ([], (byte :: rest).drop marker.length) := by
  rw [cutAt, if_pos (List.isPrefixOf_iff_prefix.mpr begins)]

theorem eq_of_cutAt (cut : cutAt marker bytes = some (before, after)) :
    bytes = before ++ marker ++ after := by
  induction bytes generalizing before with
  | nil => cases cut
  | cons byte rest ih =>
      by_cases begins : marker <+: byte :: rest
      · rw [cutAt_of_begins begins] at cut
        obtain ⟨rfl, rfl⟩ := Prod.mk.inj (Option.some.inj cut)
        exact (List.prefix_iff_eq_append.mp begins).symm
      · obtain ⟨start, rfl, further⟩ := (cutAt_cons_eq_some begins).mp cut
        rw [ih further]
        rfl

/-- The occurrence at which the bytes are cut is the first. -/
theorem not_infix_of_cutAt (nonempty : marker ≠ [])
    (cut : cutAt marker bytes = some (before, after)) : ¬marker <:+: before := by
  induction bytes generalizing before with
  | nil => cases cut
  | cons byte rest ih =>
      by_cases begins : marker <+: byte :: rest
      · rw [cutAt_of_begins begins] at cut
        obtain ⟨rfl, -⟩ := Prod.mk.inj (Option.some.inj cut)
        rwa [List.infix_nil]
      · obtain ⟨start, rfl, further⟩ := (cutAt_cons_eq_some begins).mp cut
        have whole := eq_of_cutAt further
        rw [List.infix_cons_iff, not_or]
        refine ⟨fun early => begins (early.trans ?_), ih further⟩
        rw [whole, List.append_assoc]
        exact List.cons_prefix_cons.mpr ⟨rfl, List.prefix_append _ _⟩

/-- What is appended does not move the first occurrence. -/
theorem cutAt_append (cut : cutAt marker bytes = some (before, after)) (later : List UInt8) :
    cutAt marker (bytes ++ later) = some (before, after ++ later) := by
  induction bytes generalizing before with
  | nil => cases cut
  | cons byte rest ih =>
      by_cases begins : marker <+: byte :: rest
      · rw [cutAt_of_begins begins] at cut
        obtain ⟨rfl, rfl⟩ := Prod.mk.inj (Option.some.inj cut)
        have still : marker <+: byte :: (rest ++ later) :=
          begins.trans (List.prefix_append (byte :: rest) later)
        rw [List.cons_append, cutAt_of_begins still, ← List.cons_append,
          List.drop_append_of_le_length begins.length_le]
      · obtain ⟨start, rfl, further⟩ := (cutAt_cons_eq_some begins).mp cut
        have long : marker.length ≤ (byte :: rest).length := by
          rw [eq_of_cutAt further]
          simp only [List.length_cons, List.length_append]
          omega
        have still : ¬marker <+: byte :: (rest ++ later) := fun begins' =>
          begins (List.prefix_of_prefix_length_le begins' (List.prefix_append (byte :: rest) _) long)
        exact (cutAt_cons_eq_some still).mpr ⟨start, rfl, ih further⟩

theorem cutAt_of_infix (inside : marker <:+: bytes) (nonempty : marker ≠ []) :
    ∃ before after, cutAt marker bytes = some (before, after) := by
  induction bytes with
  | nil => exact absurd (List.infix_nil.mp inside) nonempty
  | cons byte rest ih =>
      by_cases begins : marker <+: byte :: rest
      · exact ⟨_, _, cutAt_of_begins begins⟩
      · obtain ⟨before, after, cut⟩ := ih ((List.infix_cons_iff.mp inside).resolve_left begins)
        exact ⟨byte :: before, after, (cutAt_cons_eq_some begins).mpr ⟨before, rfl, cut⟩⟩

variable {first : UInt8} {tail : List UInt8} (apart : first ∉ tail)
include apart

/-- A marker whose first byte is nowhere else in it does not begin before another one and end in
it. -/
theorem not_prefix_append (absent : ¬first :: tail <+: bytes) (nonempty : bytes ≠ []) :
    ¬first :: tail <+: bytes ++ first :: tail := by
  intro begins
  rcases Nat.le_total (first :: tail).length bytes.length with long | short
  · exact absent (List.prefix_of_prefix_length_le begins (List.prefix_append _ _) long)
  · obtain ⟨middle, split⟩ := List.prefix_of_prefix_length_le (List.prefix_append _ _) begins short
    cases middle with
    | nil =>
        rw [List.append_nil] at split
        exact absent (split ▸ List.prefix_refl bytes)
    | cons byte middle =>
        rw [← split, List.prefix_append_right_inj, split, List.cons_prefix_cons] at begins
        cases bytes with
        | nil => exact nonempty rfl
        | cons start bytes =>
            obtain ⟨-, within⟩ := List.cons.inj split
            exact apart (within ▸ begins.1 ▸ by simp)

theorem cutAt_append_marker (absent : ¬first :: tail <:+: bytes) :
    cutAt (first :: tail) (bytes ++ first :: tail) = some (bytes, []) := by
  induction bytes with
  | nil => rw [List.nil_append, cutAt_of_begins (List.prefix_refl _), List.drop_length]
  | cons byte rest ih =>
      rw [List.infix_cons_iff, not_or] at absent
      have still : ¬first :: tail <+: byte :: (rest ++ first :: tail) :=
        not_prefix_append apart absent.1 (List.cons_ne_nil _ _)
      exact (cutAt_cons_eq_some still).mpr ⟨rest, rfl, ih absent.2⟩

end

def endMark : List Char :=
  [Char.ofNat 27, '[', '2', '0', '1', '~']

theorem flatMap_endMark : endMark.flatMap String.utf8EncodeChar = pasteEnd := by decide

theorem pasteEnd_infix_encode (text : String) :
    pasteEnd <:+: Text.encode text ↔ endMark <:+: text.toList := by
  rw [Text.encode_eq, ← flatMap_endMark, Text.flatMap_encodeChar_infix_iff]

theorem readPaste_pasteBytes (text : String) :
    readPaste (pasteBytes true text) = cutAt pasteEnd (Text.encode text ++ pasteEnd) := by
  rw [readPaste, pasteBytes, if_pos rfl, if_pos, List.append_assoc, List.drop_left]
  rw [List.isPrefixOf_iff_prefix, List.append_assoc]
  exact List.prefix_append _ _

/-- A text without the marker is read as it was pasted, and nothing is left. -/
theorem readPaste_of_notInfix {text : String} (absent : ¬endMark <:+: text.toList) :
    readPaste (pasteBytes true text) = some (Text.encode text, []) := by
  rw [← pasteEnd_infix_encode] at absent
  rw [readPaste_pasteBytes]
  exact cutAt_append_marker (by decide) absent

theorem readPaste_of_infix {text : String} (inside : endMark <:+: text.toList) :
    ∃ before after, Text.encode text = before ++ pasteEnd ++ after ∧ ¬pasteEnd <:+: before ∧
      readPaste (pasteBytes true text) = some (before, after ++ pasteEnd) := by
  obtain ⟨before, after, cut⟩ :=
    cutAt_of_infix ((pasteEnd_infix_encode text).mpr inside) (by decide)
  refine ⟨before, after, eq_of_cutAt cut, not_infix_of_cutAt (by decide) cut, ?_⟩
  rw [readPaste_pasteBytes, cutAt_append cut]

/-- A paste reaches the process if there is one that has not exited and can be written to: as the
bytes of the text where no markers are asked for, and between markers where they are. Then the
process reads the text and nothing more if the text does not have the end's marker in it. If it has,
the process takes the text up to there for the paste, and the rest of it, with the marker that
follows, for typed input. -/
theorem paste_received (options : BackendOptions) (refusal : Refusal) (machine : Machine)
    (state : State) (text : String) :
    let pasted := ran ((backend options refusal machine).paste text).run state
    (state.session = none → pasted = (.error notStarted, state)) ∧
    ∀ session, state.session = some session →
      (session.exited = true →
        pasted = (.error (.processLifecycle (.exited session.process)), state)) ∧
      (session.exited = false → session.stopped = true →
        pasted = (.error (.processLifecycle .writerStopped), state)) ∧
      (session.exited = false → session.stopped = false →
        let bracketed := session.display.emulator.has .bracketedPaste
        ∃ sent, pasted = (.ok (), state.modifySession fun session =>
            { session with received := session.received ++ sent }) ∧
          (bracketed = false → sent = Text.encode text) ∧
          (bracketed = true →
            (¬endMark <:+: text.toList → readPaste sent = some (Text.encode text, [])) ∧
            (endMark <:+: text.toList → ∃ before after,
              Text.encode text = before ++ pasteEnd ++ after ∧ ¬pasteEnd <:+: before ∧
                readPaste sent = some (before, after ++ pasteEnd)))) := by
  intro pasted
  refine ⟨fun apart => ran_run_bind_error (ran_current_of_none apart) _, ?_⟩
  intro session active
  let bracketed := session.display.emulator.has .bracketedPaste
  have sent : pasted = ran (send (pasteBytes bracketed text)).run state :=
    ran_run_bind_ok (ran_current active) _
  rw [ran_send active] at sent
  refine ⟨?_, ?_, ?_⟩
  · intro exited
    rw [sent, exited, if_pos rfl]
  · intro alive stopped
    rw [sent, alive, if_neg (by simp), stopped, if_pos rfl]
  · intro alive writing bracketed'
    have taken : pasted = (.ok (), state.modifySession fun session =>
        { session with received := session.received ++ pasteBytes bracketed text }) := by
      rw [sent, alive, if_neg (by simp), writing, if_neg (by simp)]
    refine ⟨pasteBytes bracketed text, taken, ?_, ?_⟩
    · intro plain
      rw [pasteBytes, show bracketed = false from plain, if_neg (by simp)]
    · intro marked
      rw [show bracketed = true from marked]
      exact ⟨readPaste_of_notInfix, readPaste_of_infix⟩

def editor : Session :=
  (Session.start { cols := 10, rows := 3 } 1000).print (Text.encode "\x1b[?2004h")

/-- A text may end with the beginning of the end's marker. -/
theorem paste_received_of_editor :
    let text := "a\x1b[201"
    let state : State := { session := some editor }
    state.session = some editor ∧ editor.exited = false ∧ editor.stopped = false ∧
      editor.display.emulator.has .bracketedPaste = true ∧ ¬endMark <:+: text.toList ∧
      ∃ sent, ran ((backend {} fun _ => none).paste text).run state =
          (.ok (), state.modifySession fun session =>
            { session with received := session.received ++ sent }) ∧
        readPaste sent = some (Text.encode text, []) := by
  intro text state
  have alive : editor.exited = false := by decide +kernel
  have writing : editor.stopped = false := by decide +kernel
  have marked : editor.display.emulator.has .bracketedPaste = true := by decide +kernel
  have absent : ¬endMark <:+: text.toList := by decide +kernel
  obtain ⟨sent, received, _, read⟩ :=
    ((paste_received {} (fun _ => none) {} state text).2 editor rfl).2.2 alive writing
  exact ⟨rfl, alive, writing, marked, absent, sent, received, (read marked).1 absent⟩

/-- A text with the marker in it is not read as it was pasted: its end is taken for typed input. -/
theorem paste_broken_off :
    let text := "a\x1b[201~b"
    let pasted := (ran ((backend {} fun _ => none).paste text).run { session := some editor }).2
    editor.display.emulator.has .bracketedPaste = true ∧
      (pasted.session.map Session.received).bind readPaste =
        some (Text.encode "a", Text.encode "b" ++ pasteEnd) := by
  decide +kernel

end Pty

end TerminalScript
