import KeyExport.Action

set_option autoImplicit false

/-!
# Key agreement

A private key and a peer's point give a shared secret, the abscissa of their product. The point
is checked first, so that an exchange only ever sees a point of P-256; what the exchange answers
is checked too.
-/

namespace KeyExport

/-- What computes the shared secret for a peer's point. -/
abbrev Exchange := Curve.p256.Point → Except Fault Bytes

def refusedExchange : Fault :=
  ⟨.invalidValue, "Error computing shared key."⟩

/-- A key of another curve has no product with a point of P-256. -/
def PrivateKey.exchange : PrivateKey → Exchange
  | ⟨.p256, scalar⟩, peer =>
    match (Curve.Point.multiple scalar.value peer).coordinates? with
    | some q => .ok (Bytes.ofNat Sizes.coordinate q.x.toNat)
    | none => .error refusedExchange
  | _, _ => .error refusedExchange

namespace KeyAgreement

def attempt (exchange : Exchange) (point : Coordinates) : Action (Except Fault Bytes) :=
  match point.toPoint with
  | .error fault => pure (.error fault)
  | .ok peer => .compute .exchange (exchange peer)

/-- What becomes of an exchange's answer. An invalid value is logged and reported as refused; any
other fault is handed on. -/
def settle : Except Fault Bytes → Action Bytes
  | .ok secret =>
    if secret.length = Sizes.secret then pure secret else .fail (.secretSize secret.length)
  | .error fault =>
    if fault.category = .invalidValue then do
      .log (.agreementRefused fault.text)
      .fail (.agreementRefused fault.text)
    else .fail (.outside fault)

def agree (exchange : Exchange) (point : Coordinates) : Action Bytes := do
  let point ← .ofExcept point.check
  let answer ← attempt exchange point
  settle answer

/-- The key is decoded before the point is looked at. -/
def agreeUsing (material : KeyMaterial) (point : Coordinates) : Action Bytes := do
  let key ← .ofExcept material.decode
  agree key.exchange point

end KeyAgreement
end KeyExport
