import Cislunar.Runtime.Basic
import Cislunar.Foundation.Struct

/-! The two digests the ground system computes: `zlib.crc32` and `hashlib.sha256`. -/

namespace Cislunar

/-- One shift of the reflected CRC-32/ISO-HDLC register. -/
def crc32Shift (register : Nat) : Nat :=
  if register % 2 = 1 then (register >>> 1) ^^^ 0xEDB88320 else register >>> 1

/-- One byte enters the register through eight shifts. -/
def crc32Byte (register : Nat) (byte : UInt8) : Nat :=
  Nat.repeat crc32Shift 8 (register ^^^ byte.toNat)

/-- `zlib.crc32`. -/
def zlibCrc32 (data : Bytes) : Nat :=
  data.foldl crc32Byte 0xFFFFFFFF ^^^ 0xFFFFFFFF

namespace Sha256

/-- Addition of 32-bit words. -/
def add (left right : Nat) : Nat := (left + right) % 2 ^ 32

/-- Rotation of a 32-bit word to the right. -/
def rotateRight (count word : Nat) : Nat :=
  (word >>> count) ||| ((word <<< (32 - count)) % 2 ^ 32)

/-- Round constants. -/
def roundConstants : List Nat :=
  [0x428a2f98, 0x71374491, 0xb5c0fbcf, 0xe9b5dba5, 0x3956c25b, 0x59f111f1, 0x923f82a4, 0xab1c5ed5,
    0xd807aa98, 0x12835b01, 0x243185be, 0x550c7dc3, 0x72be5d74, 0x80deb1fe, 0x9bdc06a7, 0xc19bf174,
    0xe49b69c1, 0xefbe4786, 0x0fc19dc6, 0x240ca1cc, 0x2de92c6f, 0x4a7484aa, 0x5cb0a9dc, 0x76f988da,
    0x983e5152, 0xa831c66d, 0xb00327c8, 0xbf597fc7, 0xc6e00bf3, 0xd5a79147, 0x06ca6351, 0x14292967,
    0x27b70a85, 0x2e1b2138, 0x4d2c6dfc, 0x53380d13, 0x650a7354, 0x766a0abb, 0x81c2c92e, 0x92722c85,
    0xa2bfe8a1, 0xa81a664b, 0xc24b8b70, 0xc76c51a3, 0xd192e819, 0xd6990624, 0xf40e3585, 0x106aa070,
    0x19a4c116, 0x1e376c08, 0x2748774c, 0x34b0bcb5, 0x391c0cb3, 0x4ed8aa4a, 0x5b9cca4f, 0x682e6ff3,
    0x748f82ee, 0x78a5636f, 0x84c87814, 0x8cc70208, 0x90befffa, 0xa4506ceb, 0xbef9a3f7, 0xc67178f2]

/-- Initial chaining value. -/
def initial : List Nat :=
  [0x6a09e667, 0xbb67ae85, 0x3c6ef372, 0xa54ff53a, 0x510e527f, 0x9b05688c, 0x1f83d9ab, 0x5be0cd19]

/-- The next schedule word from the sixteen before it, newest first. -/
def scheduleWord (newest : List Nat) : Nat :=
  let early := newest.getD 14 0
  let late := newest.getD 1 0
  let small0 := rotateRight 7 early ^^^ rotateRight 18 early ^^^ (early >>> 3)
  let small1 := rotateRight 17 late ^^^ rotateRight 19 late ^^^ (late >>> 10)
  add (add (newest.getD 15 0) small0) (add (newest.getD 6 0) small1)

/-- The schedule of a block, newest word first, after a number of added words. -/
def scheduleFrom (words : List Nat) : Nat → List Nat
  | 0 => words
  | count + 1 =>
    let earlier := scheduleFrom words count
    scheduleWord earlier :: earlier

/-- One round over the working variables, from its constant and its schedule word. -/
def round (work : List Nat) (input : Nat × Nat) : List Nat :=
  match work with
  | [a, b, c, d, e, f, g, h] =>
    let big1 := rotateRight 6 e ^^^ rotateRight 11 e ^^^ rotateRight 25 e
    -- The complement is taken within the 32-bit word.
    let choose := (e &&& f) ^^^ ((0xFFFFFFFF ^^^ e) &&& g)
    let first := add (add h big1) (add choose (add input.1 input.2))
    let big0 := rotateRight 2 a ^^^ rotateRight 13 a ^^^ rotateRight 22 a
    let majority := (a &&& b) ^^^ (a &&& c) ^^^ (b &&& c)
    [add first (add big0 majority), a, b, c, add d first, e, f, g]
  | _ => work

/-- Big-endian 32-bit words of a byte string. -/
def words : Bytes → List Nat
  | a :: b :: c :: d :: rest => Foundation.Struct.beNat [a, b, c, d] :: words rest
  | _ => []

/-- Compression of one block into the chaining value. -/
def compress (chain block : List Nat) : List Nat :=
  let schedule := (scheduleFrom block.reverse 48).reverse
  let work := (roundConstants.zip schedule).foldl round chain
  List.zipWith add chain work

/-- Blocks of sixteen words; the fuel bounds the number of blocks. -/
def blocks : Nat → List Nat → List (List Nat)
  | 0, _ => []
  | fuel + 1, message =>
    if message.isEmpty then [] else message.take 16 :: blocks fuel (message.drop 16)

/-- The message followed by its delimiter, zeros and its length in bits. -/
def pad (message : Bytes) : Bytes :=
  message ++ 0x80 :: (List.replicate ((119 - message.length % 64) % 64) 0 ++
    Foundation.Struct.beBytes 8 (8 * message.length))

end Sha256

/-- `hashlib.sha256(data).hexdigest()`. -/
def sha256Hex (data : Bytes) : String :=
  let message := Sha256.words (Sha256.pad data)
  let digest := (Sha256.blocks message.length message).foldl Sha256.compress Sha256.initial
  String.ofList (digest.flatMap fun word => formatLowerHex 8 word)

-- FIPS 180-4 gives this digest for the message of three letters.
example : sha256Hex "abc".toUTF8.toList =
    "ba7816bf8f01cfea414140de5dae2223b00361a396177a9cb410ff61f20015ad" := by
  decide +kernel

-- The check value of CRC-32/ISO-HDLC over the digits one to nine.
example : zlibCrc32 "123456789".toUTF8.toList = 0xCBF43926 := by
  decide +kernel

end Cislunar
