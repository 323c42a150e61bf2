import KeyExport.Proofs.Session.Agreement

set_option autoImplicit false

/-!
# What a session holds

A session holds what the serialized key and the ephemeral scalar of its opening determine. The
token is written before the key agreement could refuse a key of another curve; since the agreement
comes last, no such token outlives the opening.
-/

namespace KeyExport.Session

variable {s : Session} {publicKey : Bytes} {recipient : RecipientKey} {e : Curve.p256.Scalar}
  {given : Option PrivateKey} {source : Source} {events : List Event}

/-- The session holds the first four bytes of the serialized key, the public point of the scalar,
and sixteen bytes that are derived from this point and from the abscissa of the scalar's product
with the point in the other 64 bytes of the key. -/
structure Holds (s : Session) (publicKey : Bytes) (e : Curve.p256.Scalar) : Prop where
  size : publicKey.length = 68
  keyId : s.keyId = publicKey.take 4
  token : ∃ u v, e.point = .affine u v ∧ (Curve.Point.affine u v).OnCurve ∧
    Coordinates.decode s.token = .ok ⟨u.val, v.val⟩
  sealingKey : ∃ x y a b : Curve.p256.Field,
    Coordinates.decode (publicKey.drop 4) = .ok ⟨x.val, y.val⟩ ∧
      Coordinates.check ⟨x.val, y.val⟩ = .ok ⟨x.val, y.val⟩ ∧
      .multiple e.value (.affine x y) = Curve.Point.affine a b ∧
      s.sealingKey = (Hkdf.blocks (Hkdf.extract (Bytes.zeros 32)
        (s.token ++ Bytes.ofNat 32 a.val)) (Bytes.ofText "GOOGLE_KEYMASTER") 1).take 16
  sealingKeySize : s.sealingKey.length = 16

theorem sealingKey_eq (token secret : Bytes) : Recipient.sealingKey token secret =
    (Hkdf.blocks (Hkdf.extract (Bytes.zeros 32) (token ++ secret))
      (Bytes.ofText "GOOGLE_KEYMASTER") 1).take 16 := by
  rw [KeyDerivation.extract_zeros 32 _ (by decide)]
  rfl

/-- The secret that was agreed on is the abscissa of the product. -/
theorem Agreed.exists_product (agreed : s.Agreed recipient e) {x y : Curve.p256.Field}
    (point : recipient.point = ⟨x.val, y.val⟩) (onCurve : (Curve.Point.affine x y).OnCurve) :
    ∃ a b, .multiple e.value (.affine x y) = Curve.Point.affine a b ∧
      s.sealingKey = Recipient.sealingKey s.token (Bytes.ofNat 32 a.val) := by
  obtain ⟨a, b, product, -⟩ := e.exists_multiple_affine_eq onCurve
  obtain ⟨secret, secretAgreed, derived⟩ := agreed.sealingKey
  have outcome := secretAgreed (.constant [] .one)
  rw [point, KeyAgreement.agree_ofScalar e onCurve product] at outcome
  cases outcome
  exact ⟨a, b, product, derived⟩

theorem Agreed.holds (agreed : s.Agreed recipient e)
    (decoded : RecipientKey.decode publicKey = .ok recipient) : s.Holds publicKey e := by
  obtain ⟨size, rfl, checked⟩ := RecipientKey.decode_eq_ok_iff.mp decoded
  obtain ⟨x, y, coordinates, onCurve⟩ := Coordinates.exists_val_of_check_eq_ok checked
  obtain ⟨u, v, point, pointOnCurve⟩ := e.exists_point_eq
  obtain ⟨a, b, product, derived⟩ := agreed.exists_product coordinates onCurve
  have read : Coordinates.decode (publicKey.drop 4) = .ok ⟨x.val, y.val⟩ := by
    rw [← coordinates, ← checked]
    exact Coordinates.decode_of_size (RecipientKey.length_point size)
  refine ⟨size, agreed.keyId, ⟨u, v, point, pointOnCurve, ?_⟩, ⟨x, y, a, b, read, ?_, product, ?_⟩,
    ?_⟩
  · rw [agreed.decode_token, agreed.ephemeral, PrivateKey.publicCoordinates_ofScalar point]
  · exact Coordinates.check_val onCurve
  · rw [derived, sealingKey_eq]
  · rw [derived, length_sealingKey]
    rfl

theorem exists_holds_of_start_eq_ok (h : start publicKey given source = ⟨.ok s, events⟩) :
    ∃ e, given.getD (.ofScalar (source.ephemeral 0)) = .ofScalar e ∧ s.Holds publicKey e := by
  obtain ⟨recipient, e, decoded, used, agreed⟩ := exists_agreed_of_start_eq_ok h
  exact ⟨e, used, agreed.holds decoded⟩

/-- A key of another curve opens no session. -/
theorem start_some_ne_ok {key : PrivateKey} (foreign : key.curve ≠ .p256) (publicKey : Bytes)
    (source : Source) (s : Session) (events : List Event) :
    start publicKey (some key) source ≠ ⟨.ok s, events⟩ := by
  intro opened
  obtain ⟨recipient, e, -, used, -⟩ := exists_agreed_of_start_eq_ok opened
  rw [Option.getD_some] at used
  subst used
  exact foreign rfl

end KeyExport.Session
