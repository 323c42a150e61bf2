import KeyExport.Curve.Scalar
import KeyExport.Cipher.Gcm
import KeyExport.Hash.Hkdf
import KeyExport.Session

set_option autoImplicit false

/-!
# Recipients

The other side of a session: whoever holds the private scalar of a recipient key finds the
shared secret from the ephemeral point that a record carries, and from it the sealing key.
-/

namespace KeyExport.Recipient

/-- The abscissa of the product with the point that a token names. -/
def secret? (scalar : Curve.p256.Scalar) (token : Bytes) : Option Bytes := do
  let q : Coordinates :=
    ⟨Bytes.toNat (token.take Sizes.coordinate), Bytes.toNat (token.drop Sizes.coordinate)⟩
  let point ← q.toPoint.toOption
  let shared ← (Curve.Point.multiple scalar.value point).coordinates?
  return Bytes.ofNat Sizes.coordinate shared.x.toNat

def sealingKey (token secret : Bytes) : Bytes :=
  let key := Hkdf.extract [] (token ++ secret)
  (Hkdf.blocks key (Bytes.ofText Session.context) 1).take Sizes.sealingKey

/-- The plaintext of a record, cut at the places of the wire format. Key id and version play no
part beyond the version being the current one. -/
def decrypt? (scalar : Curve.p256.Scalar) (data : Bytes) : Option Bytes := do
  guard (data.head? = some Record.currentVersion)
  let rest := data.drop (Sizes.version + Sizes.keyId)
  let token := rest.take Sizes.point
  let nonce := (rest.drop Sizes.point).take Sizes.nonce
  let secret ← secret? scalar token
  Gcm.decrypt? (sealingKey token secret) nonce (data.drop Sizes.header)

end KeyExport.Recipient
