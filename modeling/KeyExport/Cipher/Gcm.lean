import KeyExport.Cipher.Aes

set_option autoImplicit false

/-!
# Authenticated encryption with GCM

Encryption with AES-128, a nonce of twelve bytes and no associated data: the plaintext is masked
with the encryptions of consecutive counter blocks, and a tag of sixteen bytes authenticates
the result. `decrypt?` is the way back.
-/

namespace KeyExport.Gcm

abbrev FieldElement := BitVec 128

/-- The product with `x`. The most significant bit is the coefficient of 1, and x¹²⁸ is
x⁷ + x² + x + 1. -/
def timesX (v : FieldElement) : FieldElement :=
  if v.getLsbD 0 then (v >>> 1) ^^^ (0xe1#128 <<< 120) else v >>> 1

/-- The product in GF(2¹²⁸), as a sum over the bits of the first factor. -/
def multiply (v w : FieldElement) : FieldElement :=
  ((List.range 128).foldl
    (fun (sum, shifted) i =>
      (if v.getMsbD i then sum ^^^ shifted else sum, timesX shifted))
    ((0, w) : FieldElement × FieldElement)).1

/-- A piece of at most sixteen bytes, filled up with zeros behind. -/
def element (piece : Bytes) : FieldElement :=
  BitVec.ofNat 128 (Bytes.toNat (piece ++ Bytes.zeros (16 - piece.length)))

/-- The polynomial with these coefficients and constant term zero, at `h`. -/
def hash (h : FieldElement) (elements : List FieldElement) : FieldElement :=
  elements.foldl (fun sum e => multiply (sum ^^^ e) h) 0

def blockCount (data : Bytes) : Nat :=
  Bytes.pieceCount 16 data.length

/-- What the tag covers: the sealed bytes block by block, then their length in bits. -/
def authenticated (sealed : Bytes) : List FieldElement :=
  (Bytes.pieces 16 (blockCount sealed) sealed).map element ++
    [BitVec.ofNat 128 (8 * sealed.length)]

def counterBlock (nonce : Bytes) (counter : Nat) : Bytes :=
  nonce ++ Bytes.ofNat 4 counter

def keystreamBlock (keys : Aes.Schedule) (nonce : Bytes) (counter : Nat) : Bytes :=
  (Aes.encrypt keys (.ofBytes (counterBlock nonce counter))).toBytes

@[simp] theorem length_keystreamBlock (keys : Aes.Schedule) (nonce : Bytes) (counter : Nat) :
    (keystreamBlock keys nonce counter).length = 16 := rfl

/-- The counter of the first block is two; one belongs to the tag. -/
def keystream (keys : Aes.Schedule) (nonce : Bytes) (blocks : Nat) : Bytes :=
  (List.range blocks).flatMap fun i => keystreamBlock keys nonce (i + 2)

def mask (keys : Aes.Schedule) (nonce data : Bytes) : Bytes :=
  data.xor (keystream keys nonce (blockCount data))

def tag (keys : Aes.Schedule) (nonce sealed : Bytes) : Bytes :=
  let h := element (Aes.encrypt keys (.ofBytes [])).toBytes
  (Bytes.ofNat 16 (hash h (authenticated sealed)).toNat).xor (keystreamBlock keys nonce 1)

@[simp] theorem length_tag (keys : Aes.Schedule) (nonce sealed : Bytes) :
    (tag keys nonce sealed).length = 16 := by
  simp [tag]

/-- The masked plaintext, and the tag behind it. -/
def encrypt (key nonce plaintext : Bytes) : Bytes :=
  let keys := Aes.schedule (.ofBytes key)
  let sealed := mask keys nonce plaintext
  sealed ++ tag keys nonce sealed

/-- The plaintext, if the last sixteen bytes are the right tag. -/
def decrypt? (key nonce data : Bytes) : Option Bytes :=
  let keys := Aes.schedule (.ofBytes key)
  let sealed := data.take (data.length - 16)
  if 16 ≤ data.length ∧ data.drop (data.length - 16) = tag keys nonce sealed then
    some (mask keys nonce sealed)
  else none

end KeyExport.Gcm
