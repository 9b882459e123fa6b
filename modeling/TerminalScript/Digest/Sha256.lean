/-!
The SHA-256 digest of a list of bytes.
-/

namespace TerminalScript.Digest

def initialState : Array UInt32 := #[
  0x6a09e667, 0xbb67ae85, 0x3c6ef372, 0xa54ff53a, 0x510e527f, 0x9b05688c, 0x1f83d9ab, 0x5be0cd19
]

def roundConstants : Array UInt32 := #[
  0x428a2f98, 0x71374491, 0xb5c0fbcf, 0xe9b5dba5, 0x3956c25b, 0x59f111f1, 0x923f82a4, 0xab1c5ed5,
  0xd807aa98, 0x12835b01, 0x243185be, 0x550c7dc3, 0x72be5d74, 0x80deb1fe, 0x9bdc06a7, 0xc19bf174,
  0xe49b69c1, 0xefbe4786, 0x0fc19dc6, 0x240ca1cc, 0x2de92c6f, 0x4a7484aa, 0x5cb0a9dc, 0x76f988da,
  0x983e5152, 0xa831c66d, 0xb00327c8, 0xbf597fc7, 0xc6e00bf3, 0xd5a79147, 0x06ca6351, 0x14292967,
  0x27b70a85, 0x2e1b2138, 0x4d2c6dfc, 0x53380d13, 0x650a7354, 0x766a0abb, 0x81c2c92e, 0x92722c85,
  0xa2bfe8a1, 0xa81a664b, 0xc24b8b70, 0xc76c51a3, 0xd192e819, 0xd6990624, 0xf40e3585, 0x106aa070,
  0x19a4c116, 0x1e376c08, 0x2748774c, 0x34b0bcb5, 0x391c0cb3, 0x4ed8aa4a, 0x5b9cca4f, 0x682e6ff3,
  0x748f82ee, 0x78a5636f, 0x84c87814, 0x8cc70208, 0x90befffa, 0xa4506ceb, 0xbef9a3f7, 0xc67178f2
]

def rotate (value : UInt32) (count : UInt32) : UInt32 :=
  (value >>> count) ||| (value <<< (32 - count))

def bigEndian (count value : Nat) : List UInt8 :=
  (List.range count).reverse.map fun index => ((value >>> (8 * index)) % 256).toUInt8

def pad (message : List UInt8) : List UInt8 :=
  -- A message ends with a set bit, zeros up to a block less eight bytes, and its length in bits.
  let length := message.length
  message ++ 0x80 :: List.replicate ((119 - length % 64) % 64) 0 ++ bigEndian 8 (8 * length)

def words : List UInt8 → List UInt32
  | a :: b :: c :: d :: rest =>
      ((a.toUInt32 <<< 24) ||| (b.toUInt32 <<< 16) ||| (c.toUInt32 <<< 8) ||| d.toUInt32) ::
        words rest
  | _ => []

def word (schedule : Array UInt32) (index : Nat) : UInt32 :=
  schedule[index]?.getD 0

def extend (schedule : Array UInt32) (index : Nat) : Array UInt32 :=
  let early := word schedule (index - 15)
  let late := word schedule (index - 2)
  let first := rotate early 7 ^^^ rotate early 18 ^^^ (early >>> 3)
  let second := rotate late 17 ^^^ rotate late 19 ^^^ (late >>> 10)
  schedule.push (word schedule (index - 16) + first + word schedule (index - 7) + second)

structure Registers where
  a : UInt32
  b : UInt32
  c : UInt32
  d : UInt32
  e : UInt32
  f : UInt32
  g : UInt32
  h : UInt32

def Registers.round (schedule : Array UInt32) (r : Registers) (index : Nat) : Registers :=
  let sum := rotate r.e 6 ^^^ rotate r.e 11 ^^^ rotate r.e 25
  let pick := (r.e &&& r.f) ^^^ (~~~r.e &&& r.g)
  let first := r.h + sum + pick + word roundConstants index + word schedule index
  let total := rotate r.a 2 ^^^ rotate r.a 13 ^^^ rotate r.a 22
  let most := (r.a &&& r.b) ^^^ (r.a &&& r.c) ^^^ (r.b &&& r.c)
  ⟨first + (total + most), r.a, r.b, r.c, r.d + first, r.e, r.f, r.g⟩

def compress (state : Array UInt32) (block : List UInt32) : Array UInt32 :=
  let schedule := (List.range' 16 48).foldl extend block.toArray
  let r : Registers := ⟨word state 0, word state 1, word state 2, word state 3, word state 4,
    word state 5, word state 6, word state 7⟩
  let r := (List.range 64).foldl (Registers.round schedule) r
  #[word state 0 + r.a, word state 1 + r.b, word state 2 + r.c, word state 3 + r.d,
    word state 4 + r.e, word state 5 + r.f, word state 6 + r.g, word state 7 + r.h]

def absorb (state : Array UInt32) : Nat → List UInt32 → Array UInt32
  | 0, _ => state
  | blocks + 1, words => absorb (compress state (words.take 16)) blocks (words.drop 16)

def sha256 (message : List UInt8) : Array UInt32 :=
  let padded := pad message
  absorb initialState (padded.length / 64) (words padded)

def hexByte (byte : UInt8) : List Char :=
  [Nat.digitChar (byte.toNat / 16), Nat.digitChar (byte.toNat % 16)]

def hex (bytes : List UInt8) : String :=
  String.ofList (bytes.flatMap hexByte)

def sha256Hex (message : List UInt8) : String :=
  hex ((sha256 message).toList.flatMap fun word => bigEndian 4 word.toNat)

end TerminalScript.Digest
