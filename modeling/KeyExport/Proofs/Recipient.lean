import KeyExport.Proofs.Session.Encryption
import KeyExport.Proofs.Session.Invariant

set_option autoImplicit false

/-!
# Recipients read what sessions write

A session and the recipient start from different halves of two key pairs and arrive at one point.
From there on they derive the same sealing key, and the places at which the recipient cuts a
record are those at which the session joined it.
-/

namespace KeyExport

namespace Recipient

open Curve.Field

variable {d : Curve.p256.Scalar}

theorem secret?_append {u v a b : Curve.p256.Field}
    (onCurve : (Curve.Point.affine u v).OnCurve)
    (product : .multiple d.value (.affine u v) = Curve.Point.affine a b) :
    secret? d (toBytes u ++ toBytes v) = some (toBytes a) := by
  have front : (toBytes u ++ toBytes v).take Sizes.coordinate = toBytes u :=
    List.take_left' (length_toBytes u)
  have back : (toBytes u ++ toBytes v).drop Sizes.coordinate = toBytes v :=
    List.drop_left' (length_toBytes u)
  have point : Coordinates.toPoint ⟨u.val, v.val⟩ = .ok (.affine u v) :=
    Coordinates.toPoint_val onCurve
  simp only [secret?, front, back, toNat_toBytes, point]
  change (do
    let shared ← (Curve.Point.multiple d.value (.affine u v)).coordinates?
    some (Bytes.ofNat Sizes.coordinate shared.x.toNat)) = _
  rw [product]
  rfl

/-- Where a record is cut. The secret behind its token decides with which key it is opened. -/
theorem decrypt?_eq {token secret data : Bytes} (version : data.head? = some 0)
    (carried : (data.drop 5).take 64 = token) (found : secret? d token = some secret) :
    decrypt? d data =
      Gcm.decrypt? (sealingKey token secret) ((data.drop 69).take 12) (data.drop 81) := by
  have current : data.head? = some Record.currentVersion := version
  have point : (data.drop (Sizes.version + Sizes.keyId)).take Sizes.point = token := carried
  have nonce : ((data.drop (Sizes.version + Sizes.keyId)).drop Sizes.point).take Sizes.nonce =
      (data.drop 69).take 12 := by
    rw [List.drop_drop]
    rfl
  simp only [decrypt?, current, point, nonce, found]
  rfl

/-- The recipient finds the secret behind the token of the record, and with it the plaintext. -/
structure Opens (d : Curve.p256.Scalar) (token secret record plaintext : Bytes) : Prop where
  version : record.head? = some 0
  carried : (record.drop 5).take 64 = token
  nonce : ((record.drop 69).take 12).length = 12
  found : secret? d token = some secret
  opened : Gcm.decrypt? (sealingKey token secret) ((record.drop 69).take 12) (record.drop 81) =
    some plaintext

theorem Opens.reads {token secret record plaintext : Bytes}
    (opens : Opens d token secret record plaintext) : decrypt? d record = some plaintext := by
  rw [decrypt?_eq opens.version opens.carried opens.found, opens.opened]

/-- The recipient opens a record when it finds the secret behind its sealing key. -/
theorem opens_sealed {s : Session} (sound : s.Sound) {secret nonce : Bytes}
    (found : secret? d s.token = some secret)
    (derived : s.sealingKey = sealingKey s.token secret) (nonceSize : nonce.length = Sizes.nonce)
    (plaintext : Bytes) : Opens d s.token secret
      (Record.currentVersion :: (s.sealed nonce plaintext).body) plaintext := by
  have wire := (Session.regular_sealed sound nonceSize plaintext).onWire
  refine ⟨rfl, wire.ephemeralPoint, ?_, found, ?_⟩
  · rw [wire.nonce]
    exact nonceSize
  · rw [wire.nonce, wire.ciphertext, ← derived]
    exact Gcm.decrypt?_encrypt _ _ _

theorem decrypt?_sealed {s : Session} (sound : s.Sound) {secret nonce : Bytes}
    (found : secret? d s.token = some secret)
    (derived : s.sealingKey = sealingKey s.token secret) (nonceSize : nonce.length = Sizes.nonce)
    (data : Bytes) :
    decrypt? d (Record.currentVersion :: (s.sealed nonce data).body) = some data :=
  (opens_sealed sound found derived nonceSize data).reads

end Recipient

namespace Session

open Curve.Field

variable {s : Session} {recipient : RecipientKey} {d e : Curve.p256.Scalar} {keyId : Bytes}

/-- The recipient's scalar finds the secret behind the token of a session. -/
theorem Agreed.exists_secret (agreed : s.Agreed recipient e)
    (own : recipient.point = (PrivateKey.ofScalar d).publicCoordinates) :
    ∃ secret, Recipient.secret? d s.token = some secret ∧
      s.sealingKey = Recipient.sealingKey s.token secret := by
  obtain ⟨x, y, recipientPoint, recipientOnCurve⟩ := d.exists_point_eq
  obtain ⟨u, v, ephemeralPoint, ephemeralOnCurve⟩ := e.exists_point_eq
  rw [PrivateKey.publicCoordinates_ofScalar recipientPoint] at own
  obtain ⟨a, b, product, derived⟩ := agreed.exists_product own recipientOnCurve
  have mirrored : .multiple d.value (.affine u v) = Curve.Point.affine a b := by
    rw [← ephemeralPoint, Curve.Scalar.multiple_point_comm, recipientPoint, product]
  have token : s.token = toBytes u ++ toBytes v := by
    have encoded := agreed.token
    rw [agreed.ephemeral, PrivateKey.publicCoordinates_ofScalar ephemeralPoint,
      Coordinates.encode_val] at encoded
    exact (Except.ok.inj encoded).symm
  refine ⟨toBytes a, ?_, derived⟩
  rw [token]
  exact Recipient.secret?_append ephemeralOnCurve mirrored

theorem Agreed.sound (agreed : s.Agreed recipient e)
    (keyIdSize : recipient.keyId.length = Sizes.keyId) : s.Sound where
  keyId := by rw [agreed.keyId, keyIdSize]
  token := Coordinates.length_of_encode_eq_ok agreed.token
  sealingKey := by
    obtain ⟨secret, -, derived⟩ := agreed.sealingKey
    rw [derived, length_sealingKey]

/-- A session for a scalar's public key opens, and the scalar finds the secret behind it. -/
theorem exists_start_scalar (d : Curve.p256.Scalar) (keyIdSize : keyId.length = Sizes.keyId)
    (given : Option Curve.p256.Scalar) (source : Source) :
    ∃ point s events secret, (PrivateKey.ofScalar d).publicCoordinates.encode = .ok point ∧
      start (keyId ++ point) (given.map .ofScalar) source = ⟨.ok s, events⟩ ∧ s.Sound ∧
      Recipient.secret? d s.token = some secret ∧
      s.sealingKey = Recipient.sealingKey s.token secret := by
  obtain ⟨x, y, point, onCurve⟩ := d.exists_point_eq
  have coordinates := PrivateKey.publicCoordinates_ofScalar point
  have serialized : (PrivateKey.ofScalar d).publicCoordinates.encode =
      .ok (toBytes x ++ toBytes y) := by
    rw [coordinates]
    exact Coordinates.encode_val x y
  obtain ⟨s, events, opened, agreed⟩ :=
    exists_start_eq_ok (RecipientKey.decode_append keyIdSize onCurve) given source
  obtain ⟨secret, found, derived⟩ := agreed.exists_secret coordinates.symm
  exact ⟨_, s, events, secret, serialized, opened, agreed.sound keyIdSize, found, derived⟩

end Session

namespace Recipient

/-- A session for a scalar's public key opens, whether its ephemeral scalar is given or drawn, and
the scalar reads back every plaintext that is then encrypted. -/
theorem decrypt?_of_encrypt (d : Curve.p256.Scalar) {keyId : Bytes} (keyIdSize : keyId.length = 4)
    (given : Option Curve.p256.Scalar) (source : Source) :
    ∃ point s events, (PrivateKey.ofScalar d).publicCoordinates.encode = .ok point ∧
      Session.start (keyId ++ point) (given.map .ofScalar) source = ⟨.ok s, events⟩ ∧
      ∀ (later : Source) (plaintext : Bytes), (later.nonce 0).length = 12 →
        plaintext.length ≤ 2 ^ 31 - 1 →
        ∃ record log, s.encrypt (.bytes plaintext) later = ⟨.ok record, log⟩ ∧
          decrypt? d record = some plaintext := by
  obtain ⟨point, s, events, secret, serialized, opened, sound, found, derived⟩ :=
    Session.exists_start_scalar d keyIdSize given source
  refine ⟨point, s, events, serialized, opened, ?_⟩
  intro later plaintext nonceSize short
  rcases Session.encryptRecord_cases sound plaintext later with
    ⟨wrong, -⟩ | ⟨-, long, -⟩ | ⟨-, -, produced⟩
  · exact absurd nonceSize wrong
  · exact absurd short (Nat.not_le.mpr long)
  · have regular := Session.regular_sealed sound nonceSize plaintext
    refine ⟨_, _, Session.encrypt_eq_of_ok regular produced, ?_⟩
    exact decrypt?_sealed sound found derived nonceSize plaintext

theorem decrypt?_of_encrypt_one :
    (Bytes.zeros 4).length = 4 ∧ (Bytes.zeros 12).length = 12 ∧
      ∃ point s events record log,
        (PrivateKey.ofScalar .one).publicCoordinates.encode = .ok point ∧
        Session.start (Bytes.zeros 4 ++ point) none (.constant (Bytes.zeros 12) .one) =
          ⟨.ok s, events⟩ ∧
        s.encrypt (.bytes [1, 2, 3]) (.constant (Bytes.zeros 12) .one) = ⟨.ok record, log⟩ ∧
        decrypt? .one record = some [1, 2, 3] := by
  obtain ⟨point, s, events, serialized, opened, reads⟩ := decrypt?_of_encrypt .one
    (Bytes.length_zeros 4) none (.constant (Bytes.zeros 12) .one)
  obtain ⟨record, log, produced, opens⟩ := reads (.constant (Bytes.zeros 12) .one) [1, 2, 3]
    (Bytes.length_zeros 12) (by decide)
  exact ⟨rfl, rfl, point, s, events, record, log, serialized, opened, produced, opens⟩

end Recipient
end KeyExport
