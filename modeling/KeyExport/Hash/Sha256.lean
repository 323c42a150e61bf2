import KeyExport.Bytes

set_option autoImplicit false

/-!
# SHA-256

The hash of a byte string: its padded form is cut into blocks of 64 bytes, and each block is
mixed into a state of eight words over 64 rounds.
-/

namespace KeyExport.Sha256

structure State where
  a : UInt32
  b : UInt32
  c : UInt32
  d : UInt32
  e : UInt32
  f : UInt32
  g : UInt32
  h : UInt32

/-- The first 32 bits of the fractional parts of the square roots of the first eight primes. -/
def initial : State :=
  ⟨0x6a09e667, 0xbb67ae85, 0x3c6ef372, 0xa54ff53a,
    0x510e527f, 0x9b05688c, 0x1f83d9ab, 0x5be0cd19⟩

/-- The first 32 bits of the fractional parts of the cube roots of the first 64 primes. -/
def roundConstants : List UInt32 := [
  0x428a2f98, 0x71374491, 0xb5c0fbcf, 0xe9b5dba5, 0x3956c25b, 0x59f111f1, 0x923f82a4, 0xab1c5ed5,
  0xd807aa98, 0x12835b01, 0x243185be, 0x550c7dc3, 0x72be5d74, 0x80deb1fe, 0x9bdc06a7, 0xc19bf174,
  0xe49b69c1, 0xefbe4786, 0x0fc19dc6, 0x240ca1cc, 0x2de92c6f, 0x4a7484aa, 0x5cb0a9dc, 0x76f988da,
  0x983e5152, 0xa831c66d, 0xb00327c8, 0xbf597fc7, 0xc6e00bf3, 0xd5a79147, 0x06ca6351, 0x14292967,
  0x27b70a85, 0x2e1b2138, 0x4d2c6dfc, 0x53380d13, 0x650a7354, 0x766a0abb, 0x81c2c92e, 0x92722c85,
  0xa2bfe8a1, 0xa81a664b, 0xc24b8b70, 0xc76c51a3, 0xd192e819, 0xd6990624, 0xf40e3585, 0x106aa070,
  0x19a4c116, 0x1e376c08, 0x2748774c, 0x34b0bcb5, 0x391c0cb3, 0x4ed8aa4a, 0x5b9cca4f, 0x682e6ff3,
  0x748f82ee, 0x78a5636f, 0x84c87814, 0x8cc70208, 0x90befffa, 0xa4506ceb, 0xbef9a3f7, 0xc67178f2]

def rotateRight (w n : UInt32) : UInt32 :=
  (w >>> n) ||| (w <<< (32 - n))

def choose (x y z : UInt32) : UInt32 :=
  (x &&& y) ^^^ (~~~x &&& z)

def majority (x y z : UInt32) : UInt32 :=
  (x &&& y) ^^^ (x &&& z) ^^^ (y &&& z)

/-- One round, with the sum of the round's constant and its schedule word. -/
def State.round (s : State) (word : UInt32) : State :=
  let sum₁ := rotateRight s.e 6 ^^^ rotateRight s.e 11 ^^^ rotateRight s.e 25
  let sum₀ := rotateRight s.a 2 ^^^ rotateRight s.a 13 ^^^ rotateRight s.a 22
  let t₁ := s.h + sum₁ + choose s.e s.f s.g + word
  let t₂ := sum₀ + majority s.a s.b s.c
  ⟨t₁ + t₂, s.a, s.b, s.c, s.d + t₁, s.e, s.f, s.g⟩

/-- The next schedule word, from the words so far with the newest first. -/
def nextWord (words : List UInt32) : UInt32 :=
  let v := words.getD 14 0
  let w := words.getD 1 0
  (rotateRight w 17 ^^^ rotateRight w 19 ^^^ (w >>> 10)) + words.getD 6 0 +
    (rotateRight v 7 ^^^ rotateRight v 18 ^^^ (v >>> 3)) + words.getD 15 0

def extend : (count : Nat) → List UInt32 → List UInt32
  | 0, words => words
  | k + 1, words => extend k (nextWord words :: words)

def schedule (block : Bytes) : List UInt32 :=
  let words := (Bytes.pieces 4 16 block).map fun piece => UInt32.ofNat (Bytes.toNat piece)
  (extend 48 words.reverse).reverse

def State.compress (s : State) (block : Bytes) : State :=
  let t := (List.zipWith (· + ·) roundConstants (schedule block)).foldl State.round s
  ⟨s.a + t.a, s.b + t.b, s.c + t.c, s.d + t.d, s.e + t.e, s.f + t.f, s.g + t.g, s.h + t.h⟩

def State.toBytes (s : State) : Bytes :=
  [s.a, s.b, s.c, s.d, s.e, s.f, s.g, s.h].flatMap fun w => Bytes.ofNat 4 w.toNat

def blockSize : Nat := 64

/-- A one bit, zeros up to eight bytes short of a block's end, and the length in bits. -/
def pad (message : Bytes) : Bytes :=
  let fill := (119 - message.length % blockSize) % blockSize
  message ++ 0x80 :: Bytes.zeros fill ++ Bytes.ofNat 8 (8 * message.length)

def digest (message : Bytes) : Bytes :=
  let padded := pad message
  ((Bytes.pieces blockSize (padded.length / blockSize) padded).foldl State.compress
    initial).toBytes

@[simp] theorem State.length_toBytes (s : State) : s.toBytes.length = 32 := by
  simp [toBytes]

@[simp] theorem length_digest (message : Bytes) : (digest message).length = 32 :=
  State.length_toBytes _

end KeyExport.Sha256
