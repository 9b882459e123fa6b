import TerminalScript.Terminal.Emulator
import TerminalScript.Terminal.Sequence

/-!
What a terminal does with the actions that it reads, and the texts with which it answers.
-/

namespace TerminalScript.Terminal

namespace Emulator

/-! Answers. -/

def controlIntroducer : String :=
  String.ofList [Char.ofNat 27, '[']

def reportPosition (emulator : Emulator) : Emulator :=
  let cursor := emulator.cursor
  emulator.reply (controlIntroducer ++ toString (cursor.line + 1) ++ ";" ++
    toString (cursor.column + 1) ++ "R")

def reportStatus (query : Nat) (emulator : Emulator) : Emulator :=
  if query = 5 then emulator.reply (controlIntroducer ++ "0n")
  else if query = 6 then emulator.reportPosition
  else emulator

def version : Nat := 2501

def identify (mark : Option UInt8) (emulator : Emulator) : Emulator :=
  match mark with
  | none => emulator.reply (controlIntroducer ++ "?6c")
  | some 62 => emulator.reply (controlIntroducer ++ ">0;" ++ toString version ++ ";1c")
  | some _ => emulator

def reportSize (emulator : Emulator) : Emulator :=
  emulator.reply (controlIntroducer ++ "8;" ++ toString emulator.lines ++ ";" ++
    toString emulator.columns ++ "t")

def reportMode (code : Nat) (emulator : Emulator) : Emulator :=
  let state := Mode.reportOf emulator.modes (Mode.standardCodes.lookup code)
  emulator.reply (controlIntroducer ++ toString code ++ ";" ++ toString state ++ "$y")

def reportPrivateMode (code : Nat) (emulator : Emulator) : Emulator :=
  let state :=
    if code = Mode.synchronizedCode then 2
    else Mode.reportOf emulator.modes (Mode.privateCodes.lookup code)
  emulator.reply (controlIntroducer ++ "?" ++ toString code ++ ";" ++ toString state ++ "$y")

/-! Colours and other attributes. -/

def byte? (value : Nat) : Option Nat :=
  if value < 256 then some value else none

def readColor : List Nat → Option Color × List Nat
  | 2 :: red :: green :: blue :: rest =>
      match byte? red, byte? green, byte? blue with
      | some red, some green, some blue => (some (.exact red green blue), rest)
      | none, _, _ => (none, green :: blue :: rest)
      | some _, none, _ => (none, blue :: rest)
      | some _, some _, none => (none, rest)
  | 2 :: red :: rest =>
      match byte? red with
      | some _ => (none, rest.drop 1)
      | none => (none, rest)
  | [2] => (none, [])
  | 5 :: index :: rest => ((byte? index).map .indexed, rest)
  | _ :: rest => (none, rest)
  | [] => (none, [])

def readColorValues : List Nat → Option Color
  | kind :: values => (readColor (kind :: if values.length > 3 then values.drop 1 else values)).1
  | [] => none

def namedColor? (value base : Nat) : Option Color :=
  if base ≤ value ∧ value < base + 8 then some (.named (value - base)) else none

def styled (value : Nat) (pen : Pen) : Pen :=
  match value with
  | 0 => {}
  | 7 => { pen with inverse := true }
  | 9 => { pen with struck := true }
  | 24 => { pen with underlined := false }
  | 27 => { pen with inverse := false }
  | 29 => { pen with struck := false }
  | 39 => { pen with foreground := .standard }
  | 49 => { pen with background := .standard }
  | _ =>
      match namedColor? value 30, namedColor? value 90, namedColor? value 40,
          namedColor? value 100 with
      | some color, _, _, _ => { pen with foreground := color }
      | _, some (.named index), _, _ => { pen with foreground := .named (index + 8) }
      | _, _, some color, _ => { pen with background := color }
      | _, _, _, some (.named index) => { pen with background := .named (index + 8) }
      | _, _, _, _ => pen

def withForeground (color : Option Color) (pen : Pen) : Pen :=
  { pen with foreground := color.getD pen.foreground }

def withBackground (color : Option Color) (pen : Pen) : Pen :=
  { pen with background := color.getD pen.background }

def styledBy (pen : Pen) (parameters : List (List Nat)) : Nat → Pen
  | 0 => pen
  | fuel + 1 =>
      match parameters with
      | [] => pen
      | [38] :: rest =>
          let (color, left) := readColor (rest.map fun values => values.headD 0)
          styledBy (withForeground color pen) (rest.drop (rest.length - left.length)) fuel
      | [48] :: rest =>
          let (color, left) := readColor (rest.map fun values => values.headD 0)
          styledBy (withBackground color pen) (rest.drop (rest.length - left.length)) fuel
      | [58] :: rest =>
          let (_, left) := readColor (rest.map fun values => values.headD 0)
          styledBy pen (rest.drop (rest.length - left.length)) fuel
      | (38 :: values) :: rest =>
          styledBy (withForeground (readColorValues values) pen) rest fuel
      | (48 :: values) :: rest =>
          styledBy (withBackground (readColorValues values) pen) rest fuel
      | (4 :: 0 :: []) :: rest => styledBy { pen with underlined := false } rest fuel
      | (4 :: _) :: rest => styledBy { pen with underlined := true } rest fuel
      | [value] :: rest => styledBy (styled value pen) rest fuel
      | _ :: rest => styledBy pen rest fuel

def setAttributes (parameters : List (List Nat)) (emulator : Emulator) : Emulator :=
  emulator.modifyPen fun pen => styledBy pen parameters parameters.length

/-! Sequences. -/

def valueOr (sequence : ControlSequence) (index default : Nat) : Nat :=
  -- Zero and a missing value stand for the default.
  match sequence.parameters[index]? with
  | some (value :: _) => if value = 0 then default else value
  | _ => default

def mainValues (sequence : ControlSequence) : List Nat :=
  sequence.parameters.map fun values => values.headD 0

def setPrivateModes (codes : List Nat) (emulator : Emulator) : Emulator :=
  codes.foldl
    (fun emulator code =>
      if code = Mode.columnCode then emulator.changeColumns
      else
        match Mode.privateCodes.lookup code with
        | some mode => emulator.setMode mode
        | none => emulator)
    emulator

def unsetPrivateModes (codes : List Nat) (emulator : Emulator) : Emulator :=
  codes.foldl
    (fun emulator code =>
      if code = Mode.columnCode then emulator.changeColumns
      else
        match Mode.privateCodes.lookup code with
        | some mode => emulator.unsetMode mode
        | none => emulator)
    emulator

def setModes (codes : List Nat) (emulator : Emulator) : Emulator :=
  (codes.filterMap fun code => Mode.standardCodes.lookup code).foldl
    (fun emulator mode => emulator.setMode mode) emulator

def unsetModes (codes : List Nat) (emulator : Emulator) : Emulator :=
  (codes.filterMap fun code => Mode.standardCodes.lookup code).foldl
    (fun emulator mode => emulator.unsetMode mode) emulator

def eraseScreen (part : Nat) (emulator : Emulator) : Emulator :=
  match part with
  | 0 => emulator.eraseBelow
  | 1 => emulator.eraseAbove
  | 2 => emulator.eraseAll
  | 3 => emulator.modifyGrid Grid.clearHistory
  | _ => emulator

def eraseLine (part : Nat) (emulator : Emulator) : Emulator :=
  match part with
  | 0 => emulator.eraseLineRight
  | 1 => emulator.eraseLeft
  | 2 => emulator.eraseCells 0 emulator.columns
  | _ => emulator

def clearTabs (which : Nat) (emulator : Emulator) : Emulator :=
  match which with
  | 0 => emulator.setTabStop false
  | 3 => emulator.clearTabStops
  | _ => emulator

def setCursorStyle (style : Nat) (emulator : Emulator) : Emulator :=
  -- Only whether the cursor blinks can be asked for.
  if style > 6 then emulator
  else if style % 2 = 1 then emulator.setMode .blinkingCursor
  else emulator.unsetMode .blinkingCursor

def obeyPlain (sequence : ControlSequence) (emulator : Emulator) : Emulator :=
  let count := valueOr sequence 0 1
  let choice := valueOr sequence 0 0
  match Char.ofNat sequence.final.toNat with
  | '@' => emulator.insertCells count
  | 'A' => emulator.moveLines (-count)
  | 'B' => emulator.moveLines count
  | 'e' => emulator.moveLines count
  | 'b' => emulator.repeatPrinted count
  | 'C' => emulator.moveForward count
  | 'a' => emulator.moveForward count
  | 'c' => if choice = 0 then emulator.identify none else emulator
  | 'D' => emulator.moveBackward count
  | 'd' => emulator.gotoLine (count - 1 : Int)
  | 'E' => emulator.moveLinesToStart count
  | 'F' => emulator.moveLinesToStart (-count)
  | 'G' => emulator.gotoColumn (count - 1)
  | '\x60' => emulator.gotoColumn (count - 1)
  | 'g' => emulator.clearTabs choice
  | 'H' => emulator.goto (count - 1 : Int) (valueOr sequence 1 1 - 1)
  | 'f' => emulator.goto (count - 1 : Int) (valueOr sequence 1 1 - 1)
  | 'h' => emulator.setModes (mainValues sequence)
  | 'I' => emulator.moveTabsForward count
  | 'J' => emulator.eraseScreen choice
  | 'K' => emulator.eraseLine choice
  | 'L' => emulator.insertLines count
  | 'l' => emulator.unsetModes (mainValues sequence)
  | 'M' => emulator.deleteLines count
  | 'm' => emulator.setAttributes sequence.parameters
  | 'n' => emulator.reportStatus choice
  | 'P' => emulator.deleteCells count
  | 'r' =>
      let last := valueOr sequence 1 0
      emulator.setRegion count (if last = 0 then none else some last)
  | 'S' => emulator.scrollUp count
  | 's' => emulator.saveCursor
  | 'T' => emulator.scrollDown count
  | 't' => if count = 18 then emulator.reportSize else emulator
  | 'u' => emulator.restoreCursor
  | 'X' => emulator.eraseAhead count
  | 'Z' => emulator.moveTabsBackward count
  | _ => emulator

def obeyPrivate (sequence : ControlSequence) (emulator : Emulator) : Emulator :=
  match Char.ofNat sequence.final.toNat with
  | 'W' => if valueOr sequence 0 0 = 5 then emulator.resetTabStops else emulator
  | 'h' => emulator.setPrivateModes (mainValues sequence)
  | 'l' => emulator.unsetPrivateModes (mainValues sequence)
  | _ => emulator

def obeySequence (sequence : ControlSequence) (emulator : Emulator) : Emulator :=
  if sequence.overlong then emulator
  else
    let choice := valueOr sequence 0 0
    match sequence.intermediates, Char.ofNat sequence.final.toNat with
    | [], _ => emulator.obeyPlain sequence
    | mark :: _, 'c' => if choice = 0 then emulator.identify (some mark) else emulator
    | [63], _ => emulator.obeyPrivate sequence
    | [36], 'p' => emulator.reportMode choice
    | [63, 36], 'p' => emulator.reportPrivateMode choice
    | [32], 'q' => emulator.setCursorStyle choice
    | _, _ => emulator

def charsetIndex? : List UInt8 → Option Nat
  | [40] => some 0
  | [41] => some 1
  | [42] => some 2
  | [43] => some 3
  | _ => none

def designate (intermediates : List UInt8) (charset : Charset) (emulator : Emulator) : Emulator :=
  match charsetIndex? intermediates with
  | some index => emulator.setCharset index charset
  | none => emulator

def obeyEscape (intermediates : List UInt8) (final : UInt8) (emulator : Emulator) : Emulator :=
  match Char.ofNat final.toNat, intermediates with
  | 'B', marks => emulator.designate marks .ascii
  | '0', marks => emulator.designate marks .lineDrawing
  | 'D', [] => emulator.lineFeed
  | 'E', [] => emulator.lineFeed.carriageReturn
  | 'H', [] => emulator.setTabStop true
  | 'M', [] => emulator.reverseLineFeed
  | 'Z', [] => emulator.identify none
  | 'c', [] => emulator.reset
  | '7', [] => emulator.saveCursor
  | '8', [35] => emulator.fillScreen
  | '8', [] => emulator.restoreCursor
  | _, _ => emulator

def obeyControl (byte : UInt8) (emulator : Emulator) : Emulator :=
  match byte.toNat with
  | 8 => emulator.backspace
  | 9 => emulator.tab
  | 10 => emulator.lineFeed
  | 11 => emulator.lineFeed
  | 12 => emulator.lineFeed
  | 13 => emulator.carriageReturn
  | 14 => { emulator with charset := 1 }
  | 15 => { emulator with charset := 0 }
  | _ => emulator

def obey (emulator : Emulator) : Action → Emulator
  | .print c => emulator.print c
  | .control byte => emulator.obeyControl byte
  | .escape intermediates final => emulator.obeyEscape intermediates final
  | .sequence sequence => emulator.obeySequence sequence

end Emulator

structure Display where
  emulator : Emulator
  scanner : Scanner := {}

def Display.byte (display : Display) (byte : UInt8) : Display :=
  let (actions, scanner) := display.scanner.step byte
  { emulator := actions.foldl Emulator.obey display.emulator, scanner }

def Display.feed (display : Display) (bytes : List UInt8) : Display :=
  bytes.foldl Display.byte display

end TerminalScript.Terminal
