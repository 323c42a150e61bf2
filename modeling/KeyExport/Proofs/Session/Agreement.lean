import KeyExport.Proofs.Session.Opening

set_option autoImplicit false

/-!
# What a session has agreed on

For a valid recipient key and a scalar of P-256 a session is always established, and it has agreed
with exactly the recipient's point. No other ephemeral key establishes a session, so that every
token is a point of P-256. Recipient and scalar determine the session (`Agreed.unique`).
-/

namespace KeyExport

namespace Curve.Field

/-- A coordinate as it stands in a token. -/
def toBytes (v : p256.Field) : Bytes :=
  Bytes.ofNat Sizes.coordinate v.val

@[simp] theorem length_toBytes (v : p256.Field) : (toBytes v).length = Sizes.coordinate :=
  Bytes.length_ofNat _ _

theorem toNat_toBytes (v : p256.Field) : (toBytes v).toNat = v.val := by
  rw [toBytes, Bytes.toNat_ofNat, Nat.mod_eq_of_lt (Coordinates.val_lt v)]

end Curve.Field

namespace Session

open Curve.Field

variable {recipient : RecipientKey} {e : Curve.p256.Scalar} {key : PrivateKey} {s : Session}
  {publicKey : Bytes} {given : Option Curve.p256.Scalar} {source : Source} {events : List Event}

/-- The session is one with this recipient: it carries the recipient's key id, its token is the
public point of the scalar, and its key comes from the secret that the scalar agrees on with the
recipient's point. -/
structure Agreed (s : Session) (recipient : RecipientKey) (e : Curve.p256.Scalar) : Prop where
  keyId : s.keyId = recipient.keyId
  ephemeral : s.ephemeral = (PrivateKey.ofScalar e).publicCoordinates
  token : s.ephemeral.encode = .ok s.token
  sealingKey : ∃ secret, (∀ source, KeyAgreement.agree (PrivateKey.ofScalar e).exchange
      recipient.point source = ⟨.ok secret, [.computed .exchange]⟩) ∧
    s.sealingKey = Recipient.sealingKey s.token secret

/-- What happens once an ephemeral key is at hand, up to the session being ready. -/
def establishing (keyId : Bytes) : List Event :=
  [.computed .multiplication, .computed .exchange, .computed .hmac, .computed .hmac,
    .logged (.sessionReady keyId)]

theorem establish_ofScalar (keyId : Bytes) {e : Curve.p256.Scalar}
    {x y u v a b : Curve.p256.Field} (point : e.point = .affine u v)
    (onCurve : (Curve.Point.affine x y).OnCurve)
    (product : .multiple e.value (.affine x y) = Curve.Point.affine a b) (source : Source) :
    establish ⟨keyId, ⟨x.val, y.val⟩⟩ (.ofScalar e) source =
      ⟨.ok ⟨keyId, toBytes u ++ toBytes v, ⟨u.val, v.val⟩,
        Recipient.sealingKey (toBytes u ++ toBytes v) (toBytes a)⟩, establishing keyId⟩ := by
  have token : Coordinates.encode ⟨u.val, v.val⟩ = .ok (toBytes u ++ toBytes v) :=
    Coordinates.encode_val u v
  rw [establish, PrivateKey.publicCoordinates_ofScalar point, Action.compute_bind_apply, token,
    Action.ofExcept_ok_bind,
    Action.bind_eq_of_ok (KeyAgreement.agree_ofScalar e onCurve product source),
    Action.bind_eq_of_ok (deriveSealingKey_apply _ _ _)]
  rfl

/-- A valid recipient key and a scalar of P-256 always establish a session. -/
theorem exists_establish_eq_ok (valid : recipient.Valid) (e : Curve.p256.Scalar)
    (source : Source) : ∃ s,
      establish recipient (.ofScalar e) source = ⟨.ok s, establishing recipient.keyId⟩ ∧
        s.Agreed recipient e := by
  obtain ⟨x, y, coordinates, onCurve⟩ := Coordinates.exists_val_of_check_eq_ok valid.point
  obtain ⟨u, v, point, -⟩ := e.exists_point_eq
  obtain ⟨a, b, product, -⟩ := e.exists_multiple_affine_eq onCurve
  rcases recipient with ⟨keyId, q⟩
  simp only at coordinates
  subst coordinates
  refine ⟨_, establish_ofScalar keyId point onCurve product source, rfl, ?_, ?_, ?_⟩
  · exact (PrivateKey.publicCoordinates_ofScalar point).symm
  · exact Coordinates.encode_val u v
  · exact ⟨_, KeyAgreement.agree_ofScalar e onCurve product, rfl⟩

/-- Only a scalar of P-256 establishes a session. -/
theorem exists_scalar_of_establish_eq_ok
    (h : establish recipient key source = ⟨.ok s, events⟩) : ∃ e, key = .ofScalar e := by
  obtain ⟨-, -, -, peer, secret, exchanged, -⟩ := exists_of_establish_eq_ok h
  exact PrivateKey.exists_ofScalar_of_exchange_eq_ok exchanged

theorem exists_agreed_of_establish_eq_ok (valid : recipient.Valid)
    (h : establish recipient key source = ⟨.ok s, events⟩) :
    ∃ e, key = .ofScalar e ∧ s.Agreed recipient e ∧ events = establishing recipient.keyId := by
  obtain ⟨e, rfl⟩ := exists_scalar_of_establish_eq_ok h
  obtain ⟨t, established, agreed⟩ := exists_establish_eq_ok valid e source
  rw [h] at established
  cases established
  exact ⟨e, rfl, agreed, rfl⟩

/-- The token of an agreed session is read as its ephemeral point. -/
theorem Agreed.decode_token (agreed : s.Agreed recipient e) :
    Coordinates.decode s.token = .ok s.ephemeral := by
  rw [Coordinates.decode_of_encode_eq_ok agreed.token, agreed.ephemeral,
    PrivateKey.check_publicCoordinates]

/-- Given or drawn, the scalar is the one that the session is established with. -/
theorem exists_start_eq (decoded : RecipientKey.decode publicKey = .ok recipient)
    (established : establish recipient (.ofScalar (given.getD (source.ephemeral 0))) source =
      ⟨.ok s, events⟩) :
    ∃ log, start publicKey (given.map .ofScalar) source = ⟨.ok s, log⟩ := by
  cases given with
  | none =>
    refine ⟨.drew .ephemeral :: events, ?_⟩
    rw [Option.getD_none] at established
    rw [Option.map_none, start_none_apply decoded, established]
  | some e =>
    refine ⟨events, ?_⟩
    rw [Option.map_some, start_some decoded]
    exact established

/-- Given or drawn, a scalar opens a session for every valid recipient key. -/
theorem exists_start_eq_ok (decoded : RecipientKey.decode publicKey = .ok recipient)
    (given : Option Curve.p256.Scalar) (source : Source) : ∃ s events,
      start publicKey (given.map .ofScalar) source = ⟨.ok s, events⟩ ∧
        s.Agreed recipient (given.getD (source.ephemeral 0)) := by
  have valid := RecipientKey.valid_of_decode_eq_ok decoded
  obtain ⟨s, established, agreed⟩ :=
    exists_establish_eq_ok valid (given.getD (source.ephemeral 0)) source
  obtain ⟨events, opened⟩ := exists_start_eq decoded established
  exact ⟨s, events, opened, agreed⟩

/-- A session that was opened has agreed by means of the ephemeral key that was given or drawn. -/
theorem exists_agreed_of_start_eq_ok {given : Option PrivateKey}
    (h : start publicKey given source = ⟨.ok s, events⟩) :
    ∃ recipient e, RecipientKey.decode publicKey = .ok recipient ∧
      given.getD (.ofScalar (source.ephemeral 0)) = .ofScalar e ∧ s.Agreed recipient e := by
  rw [start] at h
  obtain ⟨recipient, decoded, h⟩ := Action.ofExcept_bind_eq_ok h
  obtain ⟨key, _, _, chosen, h, -⟩ := Action.exists_of_bind_ok h
  have used : given.getD (.ofScalar (source.ephemeral 0)) = key := by
    cases given <;> cases chosen <;> rfl
  obtain ⟨e, rfl, agreed, -⟩ :=
    exists_agreed_of_establish_eq_ok (RecipientKey.valid_of_decode_eq_ok decoded) h
  exact ⟨recipient, e, decoded, used, agreed⟩

/-- Recipient and scalar leave nothing of a session open. -/
theorem Agreed.unique {t : Session} (agreed : s.Agreed recipient e) (other : t.Agreed recipient e) :
    s = t := by
  have ephemeral : s.ephemeral = t.ephemeral := agreed.ephemeral.trans other.ephemeral.symm
  have token : s.token = t.token := by
    have encoded := agreed.token
    rw [ephemeral, other.token] at encoded
    exact (Except.ok.inj encoded).symm
  have sealingKey : s.sealingKey = t.sealingKey := by
    obtain ⟨secret, secretAgreed, derived⟩ := agreed.sealingKey
    obtain ⟨otherSecret, otherAgreed, otherDerived⟩ := other.sealingKey
    have outcome := secretAgreed (.constant [] .one)
    rw [otherAgreed] at outcome
    cases outcome
    rw [derived, otherDerived, token]
  rcases s with ⟨keyId, _, _, _⟩
  rcases t with ⟨otherKeyId, _, _, _⟩
  have keyIds : keyId = otherKeyId := agreed.keyId.trans other.keyId.symm
  simp only at ephemeral token sealingKey
  simp only [keyIds, ephemeral, token, sealingKey]

end Session
end KeyExport
