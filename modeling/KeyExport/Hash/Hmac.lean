import KeyExport.Hash.Sha256

set_option autoImplicit false

/-!
# HMAC

The keyed hash built from SHA-256. The key is brought to one block: a longer one is hashed
first, and zeros fill up what is missing.
-/

namespace KeyExport.Hmac

open Sha256

def blockKey (key : Bytes) : Bytes :=
  let short := if key.length > blockSize then digest key else key
  short ++ Bytes.zeros (blockSize - short.length)

def sha256 (key message : Bytes) : Bytes :=
  let inner := (blockKey key).map (· ^^^ 0x36)
  let outer := (blockKey key).map (· ^^^ 0x5c)
  digest (outer ++ digest (inner ++ message))

@[simp] theorem length_sha256 (key message : Bytes) : (sha256 key message).length = 32 :=
  length_digest _

/-- Zeros at the end of a key that fits into a block change nothing. -/
theorem blockKey_append_zeros (key : Bytes) (n : Nat) (h : key.length + n ≤ blockSize) :
    blockKey (key ++ Bytes.zeros n) = blockKey key := by
  have h₁ : ¬ key.length > blockSize := by omega
  have h₂ : ¬ (key ++ Bytes.zeros n).length > blockSize := by simp; omega
  unfold blockKey
  rw [if_neg h₁, if_neg h₂]
  simp only [Bytes.zeros, List.append_assoc, List.replicate_append_replicate, List.length_append,
    List.length_replicate]
  congr 2
  omega

end KeyExport.Hmac
