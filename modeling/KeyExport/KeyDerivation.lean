import KeyExport.Action
import KeyExport.Hash.Hkdf

set_option autoImplicit false

/-!
# Key derivation

The expansion of key material to a given length. The length is checked before any hash is
computed; no more than 255 blocks are expanded, so that the counter stays a byte.
-/

namespace KeyExport.KeyDerivation

/-- The least number of hash blocks that hold `length` bytes. -/
def rounds (length : Int) : Int :=
  -(-length / Sizes.hash)

def hmac (key message : Bytes) : Action Bytes :=
  .compute .hmac (Hmac.sha256 key message)

/-- `count` blocks in a row, the first of them with the counter `number`. -/
def expand (key info previous : Bytes) (number : Nat) : (count : Nat) → Action Bytes
  | 0 => pure []
  | k + 1 => do
    let block ← hmac key (previous ++ info ++ [UInt8.ofNat number])
    let rest ← expand key info block (number + 1) k
    return block ++ rest

/-- A missing salt stands for as many zero bytes as a hash is long. -/
def derive (material : Bytes) (salt : Option Bytes) (info : Bytes) (length : Int) :
    Action Bytes := do
  if length < 1 then .fail (.naming .outputNotPositive length)
  else if rounds length > Sizes.maxRounds then .fail (.naming .outputTooLong length)
  else
    let key ← hmac (salt.getD (Bytes.zeros Sizes.hash)) material
    let output ← expand key info [] 1 (rounds length).toNat
    return output.take length.toNat

end KeyExport.KeyDerivation
