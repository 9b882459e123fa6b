/-!
Reading bytes as UTF-8. `decode` never fails: each longest run of bytes that starts a character
but cannot be completed becomes one replacement character.
-/

namespace TerminalScript.Text

def replacement : Char := Char.ofNat 0xFFFD

def leadBounds? (byte : Nat) : Option (Nat × Nat × Nat) :=
  if 0xC2 ≤ byte ∧ byte ≤ 0xDF then some (1, 0x80, 0xBF)
  else if byte = 0xE0 then some (2, 0xA0, 0xBF)
  else if byte = 0xED then some (2, 0x80, 0x9F)
  else if 0xE1 ≤ byte ∧ byte ≤ 0xEF then some (2, 0x80, 0xBF)
  else if byte = 0xF0 then some (3, 0x90, 0xBF)
  else if byte = 0xF4 then some (3, 0x80, 0x8F)
  else if 0xF1 ≤ byte ∧ byte ≤ 0xF3 then some (3, 0x80, 0xBF)
  else none

def leadBits (byte missing : Nat) : Nat :=
  if missing = 1 then byte % 32 else if missing = 2 then byte % 16 else byte % 8

structure Pending where
  bits : Nat
  missing : Nat
  low : Nat
  high : Nat
  deriving Inhabited, DecidableEq

structure Decoder where
  chars : List Char := []
  pending : Option Pending := none

def Decoder.start (chars : List Char) (byte : Nat) : Decoder :=
  if byte < 0x80 then ⟨Char.ofNat byte :: chars, none⟩
  else
    match leadBounds? byte with
    | some (missing, low, high) =>
        ⟨chars, some ⟨leadBits byte missing, missing, low, high⟩⟩
    | none => ⟨replacement :: chars, none⟩

def Decoder.step (decoder : Decoder) (byte : UInt8) : Decoder :=
  let byte := byte.toNat
  match decoder.pending with
  | none => .start decoder.chars byte
  | some pending =>
      if pending.low ≤ byte ∧ byte ≤ pending.high then
        let bits := pending.bits * 64 + byte % 64
        if pending.missing ≤ 1 then ⟨Char.ofNat bits :: decoder.chars, none⟩
        else ⟨decoder.chars, some ⟨bits, pending.missing - 1, 0x80, 0xBF⟩⟩
      else .start (replacement :: decoder.chars) byte

def Decoder.finish (decoder : Decoder) : List Char :=
  match decoder.pending with
  | none => decoder.chars.reverse
  | some _ => (replacement :: decoder.chars).reverse

def decode (bytes : List UInt8) : String :=
  String.ofList (bytes.foldl Decoder.step {}).finish

def decode? (bytes : List UInt8) : Option String :=
  String.fromUTF8? (ByteArray.mk bytes.toArray)

def encode (text : String) : List UInt8 :=
  text.toUTF8.toList

end TerminalScript.Text
