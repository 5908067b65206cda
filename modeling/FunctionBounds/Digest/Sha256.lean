import FunctionBounds.Bytes
import FunctionBounds.Text.Number

/-!
# SHA-256

The digest that identifies the contents of a file.

* `Sha256.digest`: the eight words of a digest.
* `Sha256.hexDigest`: a digest in 64 digits.
-/

namespace FunctionBounds.Sha256

/-- Rotation to the right. -/
def rotr (x : UInt32) (n : UInt32) : UInt32 := (x >>> n) ||| (x <<< (32 - n))

/-- The constants of the rounds: the first 32 bits of the fractional parts of the cube roots of the
first 64 primes. -/
def roundConstants : Array UInt32 := #[
  0x428a2f98, 0x71374491, 0xb5c0fbcf, 0xe9b5dba5, 0x3956c25b, 0x59f111f1,
  0x923f82a4, 0xab1c5ed5, 0xd807aa98, 0x12835b01, 0x243185be, 0x550c7dc3,
  0x72be5d74, 0x80deb1fe, 0x9bdc06a7, 0xc19bf174, 0xe49b69c1, 0xefbe4786,
  0x0fc19dc6, 0x240ca1cc, 0x2de92c6f, 0x4a7484aa, 0x5cb0a9dc, 0x76f988da,
  0x983e5152, 0xa831c66d, 0xb00327c8, 0xbf597fc7, 0xc6e00bf3, 0xd5a79147,
  0x06ca6351, 0x14292967, 0x27b70a85, 0x2e1b2138, 0x4d2c6dfc, 0x53380d13,
  0x650a7354, 0x766a0abb, 0x81c2c92e, 0x92722c85, 0xa2bfe8a1, 0xa81a664b,
  0xc24b8b70, 0xc76c51a3, 0xd192e819, 0xd6990624, 0xf40e3585, 0x106aa070,
  0x19a4c116, 0x1e376c08, 0x2748774c, 0x34b0bcb5, 0x391c0cb3, 0x4ed8aa4a,
  0x5b9cca4f, 0x682e6ff3, 0x748f82ee, 0x78a5636f, 0x84c87814, 0x8cc70208,
  0x90befffa, 0xa4506ceb, 0xbef9a3f7, 0xc67178f2]

/-- The state of eight words. -/
structure State where
  a : UInt32
  b : UInt32
  c : UInt32
  d : UInt32
  e : UInt32
  f : UInt32
  g : UInt32
  h : UInt32
  deriving DecidableEq, Repr

namespace State

/-- The state before the first block: the first 32 bits of the fractional parts of the square roots
of the first eight primes. -/
def initial : State :=
  ⟨0x6a09e667, 0xbb67ae85, 0x3c6ef372, 0xa54ff53a,
    0x510e527f, 0x9b05688c, 0x1f83d9ab, 0x5be0cd19⟩

/-- The words of a state. -/
def words (s : State) : List UInt32 := [s.a, s.b, s.c, s.d, s.e, s.f, s.g, s.h]

/-- Word by word sum. -/
def add (s t : State) : State :=
  ⟨s.a + t.a, s.b + t.b, s.c + t.c, s.d + t.d, s.e + t.e, s.f + t.f, s.g + t.g, s.h + t.h⟩

/-- One round with the sum of a constant and a word of the schedule. -/
def round (s : State) (kw : UInt32) : State :=
  let choice := (s.e &&& s.f) ^^^ (~~~s.e &&& s.g)
  let majority := (s.a &&& s.b) ^^^ (s.a &&& s.c) ^^^ (s.b &&& s.c)
  let t := s.h + (rotr s.e 6 ^^^ rotr s.e 11 ^^^ rotr s.e 25) + choice + kw
  let u := (rotr s.a 2 ^^^ rotr s.a 13 ^^^ rotr s.a 22) + majority
  ⟨t + u, s.a, s.b, s.c, s.d + t, s.e, s.f, s.g⟩

end State

/-- The big-endian word at an offset. -/
def wordAt (d : Bytes) (off : Nat) : UInt32 :=
  (d.slice off 4).foldl (fun w b => w <<< 8 ||| b.toUInt32) 0

/-- The word of the schedule after those in `w`. -/
def nextWord (w : Array UInt32) : UInt32 :=
  let ago := fun n => w.getD (w.size - n) 0
  let s0 := rotr (ago 15) 7 ^^^ rotr (ago 15) 18 ^^^ (ago 15 >>> 3)
  let s1 := rotr (ago 2) 17 ^^^ rotr (ago 2) 19 ^^^ (ago 2 >>> 10)
  ago 16 + s0 + ago 7 + s1

/-- The schedule of a block: its sixteen words, and 48 that follow from them. -/
def schedule (d : Bytes) (off : Nat) : Array UInt32 :=
  let block := Array.ofFn fun i : Fin 16 => wordAt d (off + 4 * i)
  (List.range 48).foldl (fun w _ => w.push (nextWord w)) block

/-- The state after a block. -/
def compress (d : Bytes) (s : State) (off : Nat) : State :=
  s.add ((roundConstants.zipWith (· + ·) (schedule d off)).foldl State.round s)

/-- The message with a one bit, zeros, and its length in bits, a whole number of blocks. -/
def padded (d : Bytes) : Bytes :=
  let zeros := Array.replicate ((119 - d.size % 64) % 64) (0 : UInt8)
  let bits := 8 * d.size
  let length := Array.ofFn fun i : Fin 8 => UInt8.ofNat (bits >>> (8 * (7 - i.val)))
  d.push 0x80 ++ zeros ++ length

/-- The eight words of a digest. -/
def digest (d : Bytes) : List UInt32 :=
  let message := padded d
  ((List.range (message.size / 64)).foldl (fun s i => compress message s (64 * i)) .initial).words

/-- A digest in 64 digits. -/
def hexDigest (d : Bytes) : String :=
  String.join ((digest d).map fun w => Text.hexField 8 w.toNat)

end FunctionBounds.Sha256
