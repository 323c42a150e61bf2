import KeyExport.Curve.Coordinates
import KeyExport.Hex

set_option autoImplicit false

/-!
# Recipient keys

The public key of a recipient: four bytes that name it, and a point of P-256.
-/

namespace KeyExport

/-- A value built by hand may have a key id of any length and any coordinates. -/
structure RecipientKey where
  keyId : Bytes
  point : Coordinates
  deriving DecidableEq

/-- A serialized public key, as bytes or as hexadecimal text. -/
inductive PublicKeyInput where
  | bytes (data : Bytes)
  | hex (text : String)

def PublicKeyInput.toBytes : PublicKeyInput → Except Failure Bytes
  | .bytes data => .ok data
  | .hex text => Hex.decode text

namespace RecipientKey

def decode (data : Bytes) : Except Failure RecipientKey :=
  if data.length ≠ Sizes.publicKey then .error (.wrongSize .publicKey data.length)
  else do
    let point ← Coordinates.decode (data.drop Sizes.keyId)
    return ⟨data.take Sizes.keyId, point⟩

/-- Nothing but the width of the coordinates is checked. -/
def encode (key : RecipientKey) : Except Failure Bytes := do
  let point ← key.point.encode
  return key.keyId ++ point

def read (input : PublicKeyInput) : Except Failure RecipientKey := do
  decode (← input.toBytes)

end RecipientKey
end KeyExport
