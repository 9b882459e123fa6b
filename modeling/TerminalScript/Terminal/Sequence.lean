import TerminalScript.Text.Utf8

/-!
The output of a process as a terminal reads it: characters, control bytes, escape sequences and
control sequences. Control strings are skipped. One byte is read at a time, so nothing depends on
how the output is cut into pieces.
-/

namespace TerminalScript.Terminal

structure ControlSequence where
  intermediates : List UInt8
  parameters : List (List Nat)
  overlong : Bool
  final : UInt8
  deriving Inhabited, DecidableEq

inductive Action
  | print (c : Char)
  | control (byte : UInt8)
  | escape (intermediates : List UInt8) (final : UInt8)
  | sequence (sequence : ControlSequence)
  deriving Inhabited, DecidableEq

structure Draft where
  intermediates : List UInt8 := []
  parameters : List (List Nat) := []
  values : List Nat := []
  value : Nat := 0
  count : Nat := 0
  overlong : Bool := false
  deriving Inhabited, DecidableEq

inductive Phase
  | ground
  | character (pending : Text.Pending)
  | escape
  | escapeIntermediate
  | sequenceEntry
  | sequenceParameter
  | sequenceIntermediate
  | sequenceIgnored
  | deviceEntry
  | deviceParameter
  | deviceIntermediate
  | deviceData
  | command
  | ignoredString
  deriving Inhabited, DecidableEq

structure Scanner where
  phase : Phase := .ground
  draft : Draft := {}

def escapeCode : UInt8 := 27

def isCancel (byte : UInt8) : Bool :=
  byte = 24 || byte = 26

def isControlByte (byte : UInt8) : Bool :=
  byte < 32 && !isCancel byte && byte ≠ escapeCode

def isIntermediate (byte : UInt8) : Bool :=
  32 ≤ byte && byte < 48

def isDigit (byte : UInt8) : Bool :=
  48 ≤ byte && byte < 58

def isPrivateMark (byte : UInt8) : Bool :=
  60 ≤ byte && byte < 64

def isFinal (byte : UInt8) : Bool :=
  64 ≤ byte && byte < 127

namespace Draft

def intermediateLimit : Nat := 2

def valueLimit : Nat := 32

def maxValue : Nat := 65535

def collect (draft : Draft) (byte : UInt8) : Draft :=
  if draft.intermediates.length = intermediateLimit then { draft with overlong := true }
  else { draft with intermediates := byte :: draft.intermediates }

def withRoom (draft : Draft) (change : Draft → Draft) : Draft :=
  if draft.count = valueLimit then { draft with overlong := true } else change draft

def digit (draft : Draft) (byte : UInt8) : Draft :=
  draft.withRoom fun draft =>
    { draft with value := min (min (draft.value * 10) maxValue + (byte.toNat - 48)) maxValue }

def endValue (draft : Draft) : Draft :=
  draft.withRoom fun draft =>
    { draft with values := draft.value :: draft.values, value := 0, count := draft.count + 1 }

def endParameter (draft : Draft) : Draft :=
  draft.withRoom fun draft =>
    { draft with
      parameters := (draft.value :: draft.values).reverse :: draft.parameters
      values := []
      value := 0
      count := draft.count + 1 }

def parameterByte (draft : Draft) (byte : UInt8) : Draft :=
  if isDigit byte then draft.digit byte
  else if byte = 58 then draft.endValue
  else if byte = 59 then draft.endParameter
  else draft.collect byte

def finish (draft : Draft) (final : UInt8) : ControlSequence :=
  let draft := draft.endParameter
  { intermediates := draft.intermediates.reverse
    parameters := draft.parameters.reverse
    overlong := draft.overlong
    final }

end Draft

namespace Scanner

def charAction (c : Char) : List Action :=
  if c.val < 32 then [.control c.toNat.toUInt8]
  else if 128 ≤ c.val ∧ c.val < 160 then [.control c.toNat.toUInt8]
  else [.print c]

def begin (byte : UInt8) : List Action × Scanner :=
  -- Bytes that begin no character are printed as replacements, unless they are control bytes of the
  -- second set.
  if byte = escapeCode then ([], { phase := .escape })
  else if byte < 128 then (charAction (Char.ofNat byte.toNat), {})
  else
    match Text.leadBounds? byte.toNat with
    | some (missing, low, high) =>
        ([], { phase := .character ⟨Text.leadBits byte.toNat missing, missing, low, high⟩ })
    | none => (if byte < 160 then [.control byte] else [.print Text.replacement], {})

def continueCharacter (pending : Text.Pending) (byte : UInt8) : List Action × Scanner :=
  let code := byte.toNat
  if pending.low ≤ code ∧ code ≤ pending.high then
    let bits := pending.bits * 64 + code % 64
    if pending.missing ≤ 1 then (charAction (Char.ofNat bits), {})
    else ([], { phase := .character ⟨bits, pending.missing - 1, 0x80, 0xBF⟩ })
  else
    let (actions, scanner) := begin byte
    (.print Text.replacement :: actions, scanner)

def interrupt (scanner : Scanner) (byte : UInt8) : List Action × Scanner :=
  if isCancel byte then ([.control byte], {})
  else if byte = escapeCode then ([], { phase := .escape })
  else ([], scanner)

def introduced (byte : UInt8) : Option Phase :=
  if byte = 80 then some .deviceEntry
  else if byte = 91 then some .sequenceEntry
  else if byte = 93 then some .command
  else if byte = 88 ∨ byte = 94 ∨ byte = 95 then some .ignoredString
  else none

def afterEscape (scanner : Scanner) (byte : UInt8) : List Action × Scanner :=
  if isControlByte byte then ([.control byte], scanner)
  else if isIntermediate byte then
    ([], { phase := .escapeIntermediate, draft := scanner.draft.collect byte })
  else
    match introduced byte with
    | some phase => ([], { phase })
    | none =>
        if 48 ≤ byte ∧ byte < 127 then ([.escape [] byte], {})
        else if isCancel byte then ([.control byte], {})
        else ([], scanner)

def afterIntermediate (scanner : Scanner) (byte : UInt8) : List Action × Scanner :=
  if isControlByte byte then ([.control byte], scanner)
  else if isIntermediate byte then ([], { scanner with draft := scanner.draft.collect byte })
  else if 48 ≤ byte ∧ byte < 127 then
    ([.escape scanner.draft.intermediates.reverse byte], {})
  else scanner.interrupt byte

def parameterPhase (first : Bool) (byte : UInt8) (parameter intermediate ignored : Phase) : Phase :=
  if isIntermediate byte then intermediate
  else if isPrivateMark byte ∧ !first then ignored
  else parameter

def inSequence (first : Bool) (scanner : Scanner) (byte : UInt8) : List Action × Scanner :=
  if isControlByte byte then ([.control byte], scanner)
  else if isFinal byte then ([.sequence (scanner.draft.finish byte)], {})
  else if 32 ≤ byte ∧ byte < 64 then
    ([], { phase := parameterPhase first byte .sequenceParameter .sequenceIntermediate
             .sequenceIgnored
           draft := scanner.draft.parameterByte byte })
  else scanner.interrupt byte

def inSequenceIntermediate (scanner : Scanner) (byte : UInt8) : List Action × Scanner :=
  if isControlByte byte then ([.control byte], scanner)
  else if isFinal byte then ([.sequence (scanner.draft.finish byte)], {})
  else if isIntermediate byte then ([], { scanner with draft := scanner.draft.collect byte })
  else if 48 ≤ byte ∧ byte < 64 then ([], { phase := .sequenceIgnored })
  else scanner.interrupt byte

def inIgnoredSequence (scanner : Scanner) (byte : UInt8) : List Action × Scanner :=
  if isControlByte byte then ([.control byte], scanner)
  else if isFinal byte then ([], {})
  else scanner.interrupt byte

def inDevice (first : Bool) (scanner : Scanner) (byte : UInt8) : List Action × Scanner :=
  -- The head is read like a control sequence, of which only the end matters.
  if isFinal byte then ([], { phase := .deviceData })
  else if 32 ≤ byte ∧ byte < 64 then
    ([], { phase := parameterPhase first byte .deviceParameter .deviceIntermediate
             .ignoredString })
  else scanner.interrupt byte

def inDeviceIntermediate (scanner : Scanner) (byte : UInt8) : List Action × Scanner :=
  if isFinal byte then ([], { phase := .deviceData })
  else if 48 ≤ byte ∧ byte < 64 then ([], { phase := .ignoredString })
  else scanner.interrupt byte

def inDeviceData (scanner : Scanner) (byte : UInt8) : List Action × Scanner :=
  if byte = 0x9C then ([], {}) else scanner.interrupt byte

def inCommand (scanner : Scanner) (byte : UInt8) : List Action × Scanner :=
  if byte = 7 then ([], {}) else scanner.interrupt byte

def step (scanner : Scanner) (byte : UInt8) : List Action × Scanner :=
  match scanner.phase with
  | .ground => begin byte
  | .character pending => continueCharacter pending byte
  | .escape => scanner.afterEscape byte
  | .escapeIntermediate => scanner.afterIntermediate byte
  | .sequenceEntry => inSequence true scanner byte
  | .sequenceParameter => inSequence false scanner byte
  | .sequenceIntermediate => scanner.inSequenceIntermediate byte
  | .sequenceIgnored => scanner.inIgnoredSequence byte
  | .deviceEntry => inDevice true scanner byte
  | .deviceParameter => inDevice false scanner byte
  | .deviceIntermediate => scanner.inDeviceIntermediate byte
  | .deviceData => scanner.inDeviceData byte
  | .command => scanner.inCommand byte
  | .ignoredString => scanner.interrupt byte

end Scanner

end TerminalScript.Terminal
