import LedgerCheck.Text.Digits
/-!
# SHA-256

The digest that names a configuration.  A message is padded to whole blocks of 64 bytes, and each
block is mixed into a state of eight words.

* `Sha256.pad` — the padded message.
* `Sha256.digest` — the final state.
* `Sha256.hex` — the digest in hexadecimal digits.
-/

namespace LedgerCheck
namespace Sha256

/-! ## Constants -/

/-- The round constants: the first 32 bits of the fractions of the cube roots of the first 64
primes. -/
def roundConstants : List UInt32 :=
  [ 0x428a2f98, 0x71374491, 0xb5c0fbcf, 0xe9b5dba5, 0x3956c25b, 0x59f111f1,
    0x923f82a4, 0xab1c5ed5, 0xd807aa98, 0x12835b01, 0x243185be, 0x550c7dc3,
    0x72be5d74, 0x80deb1fe, 0x9bdc06a7, 0xc19bf174, 0xe49b69c1, 0xefbe4786,
    0x0fc19dc6, 0x240ca1cc, 0x2de92c6f, 0x4a7484aa, 0x5cb0a9dc, 0x76f988da,
    0x983e5152, 0xa831c66d, 0xb00327c8, 0xbf597fc7, 0xc6e00bf3, 0xd5a79147,
    0x06ca6351, 0x14292967, 0x27b70a85, 0x2e1b2138, 0x4d2c6dfc, 0x53380d13,
    0x650a7354, 0x766a0abb, 0x81c2c92e, 0x92722c85, 0xa2bfe8a1, 0xa81a664b,
    0xc24b8b70, 0xc76c51a3, 0xd192e819, 0xd6990624, 0xf40e3585, 0x106aa070,
    0x19a4c116, 0x1e376c08, 0x2748774c, 0x34b0bcb5, 0x391c0cb3, 0x4ed8aa4a,
    0x5b9cca4f, 0x682e6ff3, 0x748f82ee, 0x78a5636f, 0x84c87814, 0x8cc70208,
    0x90befffa, 0xa4506ceb, 0xbef9a3f7, 0xc67178f2 ]

/-- The state before the first block: the first 32 bits of the fractions of the square roots of the
first eight primes. -/
def initialState : List UInt32 :=
  [ 0x6a09e667, 0xbb67ae85, 0x3c6ef372, 0xa54ff53a,
    0x510e527f, 0x9b05688c, 0x1f83d9ab, 0x5be0cd19 ]

/-! ## Padding -/

/-- A number as big-endian bytes. -/
def bigEndian (count n : Nat) : List UInt8 :=
  (List.range count).reverse.map fun i => UInt8.ofNat (n / Nat.pow 256 i)

/-- A message followed by a marker, zeros up to a whole number of blocks, and its length in bits. -/
def pad (message : List UInt8) : List UInt8 :=
  message ++ 0x80 :: (List.replicate ((119 - message.length % 64) % 64) 0 ++
    bigEndian 8 (8 * message.length))

/-! ## Rounds -/

/-- A word rotated to the right. -/
def rotate (x : UInt32) (n : UInt32) : UInt32 := (x >>> n) ||| (x <<< (32 - n))

/-- The words of a block, four bytes each. -/
def words : List UInt8 → List UInt32
  | a :: b :: c :: d :: rest =>
    ((a.toUInt32 <<< 24) ||| (b.toUInt32 <<< 16) ||| (c.toUInt32 <<< 8) ||| d.toUInt32) ::
      words rest
  | _ => []

/-- The word of the message schedule that follows sixteen others, the latest of which stands
first. -/
def nextWord (latest : List UInt32) : UInt32 :=
  let word (i : Nat) := latest[i]?.getD 0
  let s0 := rotate (word 14) 7 ^^^ rotate (word 14) 18 ^^^ (word 14 >>> 3)
  let s1 := rotate (word 1) 17 ^^^ rotate (word 1) 19 ^^^ (word 1 >>> 10)
  word 15 + s0 + word 6 + s1

/-- The message schedule of a block: its sixteen words and 48 more. -/
def schedule (block : List UInt8) : List UInt32 :=
  let extend (latest : List UInt32) (_ : Nat) := nextWord latest :: latest
  ((List.range 48).foldl extend (words block).reverse).reverse

/-- One round on the state, with a round constant and a word of the schedule. -/
def round (state : List UInt32) (step : UInt32 × UInt32) : List UInt32 :=
  match state with
  | [a, b, c, d, e, f, g, h] =>
    let s1 := rotate e 6 ^^^ rotate e 11 ^^^ rotate e 25
    let choice := (e &&& f) ^^^ (~~~e &&& g)
    let t1 := h + s1 + choice + step.1 + step.2
    let s0 := rotate a 2 ^^^ rotate a 13 ^^^ rotate a 22
    let majority := (a &&& b) ^^^ (a &&& c) ^^^ (b &&& c)
    [t1 + (s0 + majority), a, b, c, d + t1, e, f, g]
  | other => other

/-- Mixes a block into the state. -/
def compress (state : List UInt32) (block : List UInt8) : List UInt32 :=
  List.zipWith (· + ·) state ((roundConstants.zip (schedule block)).foldl round state)

/-! ## The digest -/

/-- Mixes the first blocks of a list of bytes into the state. -/
def compressBlocks (state : List UInt32) (bytes : List UInt8) : Nat → List UInt32
  | 0 => state
  | count + 1 => compressBlocks (compress state (bytes.take 64)) (bytes.drop 64) count

/-- The state after all blocks of the padded message. -/
def digest (message : List UInt8) : List UInt32 :=
  let padded := pad message
  compressBlocks initialState padded (padded.length / 64)

/-- The eight hexadecimal digits of a word. -/
def wordHex (w : UInt32) : List Char := Digits.padded 16 8 w.toNat

/-- The digest of a text's UTF-8 bytes, in hexadecimal digits. -/
def hex (text : String) : String :=
  String.ofList ((digest text.toUTF8.toList).flatMap wordHex)

end Sha256
end LedgerCheck
