import KeyExport.KeyAgreement
import KeyExport.KeyDerivation
import KeyExport.RecipientKey
import KeyExport.Record.Basic
import KeyExport.Sealing

set_option autoImplicit false

/-!
# Sessions

A session encrypts for one recipient. Opening it agrees on a secret with an ephemeral key and
derives the sealing key, once; each plaintext is then sealed under a fresh nonce.
-/

namespace KeyExport

/-- A value offered for encryption. Only byte strings are accepted. -/
inductive Plaintext where
  | bytes (data : Bytes)
  | text (value : String)
  | other (typeName : String)

def Plaintext.toBytes : Plaintext → Except Failure Bytes
  | .bytes data => .ok data
  | .text _ => .error (.plaintextType "str")
  | .other typeName => .error (.plaintextType typeName)

structure Session where
  keyId : Bytes
  /-- The serialized ephemeral point, which every record carries. -/
  token : Bytes
  ephemeral : Coordinates
  sealingKey : Bytes
  deriving DecidableEq

namespace Session

/-- The context of the key derivation. -/
def context : String := "GOOGLE_KEYMASTER"

def deriveSealingKey (token secret : Bytes) : Action Bytes :=
  KeyDerivation.derive (token ++ secret) none (Bytes.ofText context) Sizes.sealingKey

/-- The given ephemeral key, or a fresh one. -/
def chooseEphemeral : Option PrivateKey → Action PrivateKey
  | some key => pure key
  | none => .drawEphemeral

/-- Opens a session with the ephemeral key in hand. -/
def establish (recipient : RecipientKey) (key : PrivateKey) : Action Session := do
  let ephemeral ← .compute .multiplication key.publicCoordinates
  let token ← .ofExcept ephemeral.encode
  let secret ← KeyAgreement.agree key.exchange recipient.point
  let sealingKey ← deriveSealingKey token secret
  .log (.sessionReady recipient.keyId)
  return ⟨recipient.keyId, token, ephemeral, sealingKey⟩

def start (publicKey : Bytes) (given : Option PrivateKey) : Action Session := do
  let recipient ← .ofExcept (RecipientKey.decode publicKey)
  let key ← chooseEphemeral given
  establish recipient key

def startHex (text : String) : Action Session := do
  let publicKey ← .ofExcept (Hex.decode text)
  start publicKey none

/-- A recipient key is serialized and read again, so that nothing unchecked gets through. -/
def startFor (recipient : RecipientKey) (given : Option PrivateKey) : Action Session := do
  let publicKey ← .ofExcept recipient.encode
  start publicKey given

/-- The type of the plaintext is checked before a nonce is drawn. -/
def encryptRecord (s : Session) (plaintext : Plaintext) : Action Record := do
  let data ← .ofExcept plaintext.toBytes
  let nonce ← .drawNonce
  let ciphertext ← Sealing.encrypt Sealing.aesGcm s.sealingKey nonce data
  return ⟨Record.currentVersion.toNat, s.keyId, s.token, nonce, ciphertext⟩

def encrypt (s : Session) (plaintext : Plaintext) : Action Bytes := do
  let record ← s.encryptRecord plaintext
  let data ← .ofExcept record.encode
  .log (.encrypted record.payloadLength data.length)
  return data

/-- The printed form. -/
def render (s : Session) : String :=
  "HybridEncrypter(key_id=" ++ Hex.encode s.keyId ++ ")"

end Session

/-- Opens a session for a single plaintext. -/
def encryptOnce (publicKey : PublicKeyInput) (plaintext : Plaintext) : Action Bytes := do
  let data ← .ofExcept publicKey.toBytes
  let session ← Session.start data none
  session.encrypt plaintext

end KeyExport
