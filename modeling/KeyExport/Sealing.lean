import KeyExport.Action
import KeyExport.Cipher.Gcm

set_option autoImplicit false

/-!
# Sealing

Encryption under a derived key. The sizes of key and nonce are checked before the cipher is
reached, and the size of what it gives is checked after.
-/

namespace KeyExport

/-- What encrypts a plaintext, given a key and a nonce. -/
abbrev Cipher := (key nonce plaintext : Bytes) → Except Fault Bytes

namespace Sealing

/-- The longest plaintext that the cipher takes, 2³¹ - 1 bytes. -/
def maxPlaintext : Nat := 0x7fffffff

def aesGcm : Cipher := fun key nonce plaintext =>
  if plaintext.length > maxPlaintext then
    .error ⟨.overflow, "Data or associated data too long. Max 2**31 - 1 bytes"⟩
  else .ok (Gcm.encrypt key nonce plaintext)

/-- What becomes of a cipher's answer. An invalid value and an overflow count as refusals; any other
fault is handed on. -/
def settle (plaintext : Bytes) : Except Fault Bytes → Action Bytes
  | .ok data =>
    if data.length = plaintext.length + Sizes.tag then pure data else .fail .sealedSize
  | .error fault =>
    if fault.category = .invalidValue ∨ fault.category = .overflow then
      .fail (.cipherRefused fault.text)
    else .fail (.outside fault)

def encrypt (cipher : Cipher) (key nonce plaintext : Bytes) : Action Bytes := do
  if key.length ≠ Sizes.sealingKey then .fail (.sealingKeySize key.length)
  else if nonce.length ≠ Sizes.nonce then .fail (.nonceSize nonce.length)
  else
    let answer ← .compute .cipher (cipher key nonce plaintext)
    settle plaintext answer

end Sealing
end KeyExport
