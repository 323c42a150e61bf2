import KeyExport.Proofs.Workspace.Sessions

set_option autoImplicit false

/-!
# Tokens

The token of a session is the public point of its ephemeral scalar, however the session was opened.
So tokens of different scalars are different.
-/

namespace KeyExport

/-- Tokens of sessions are the same exactly when their ephemeral scalars are. -/
theorem Session.Agreed.token_eq_iff {s t : Session} {recipient other : RecipientKey}
    {d e : Curve.p256.Scalar} (agreed : s.Agreed recipient d) (otherAgreed : t.Agreed other e) :
    s.token = t.token ↔ d = e := by
  have first := agreed.decode_token
  have second := otherAgreed.decode_token
  rw [agreed.ephemeral] at first
  rw [otherAgreed.ephemeral] at second
  constructor
  · intro same
    rw [same, second] at first
    exact PrivateKey.eq_of_publicCoordinates_eq (Except.ok.inj first).symm
  · rintro rfl
    have token := agreed.token
    rw [agreed.ephemeral, ← otherAgreed.ephemeral, otherAgreed.token] at token
    exact (Except.ok.inj token).symm

namespace PrivateKey

/-- Two serialized keys whose public points have one code are the same bytes. -/
theorem eq_of_encode_publicCoordinates_eq {a b : Bytes} {k l : PrivateKey}
    (decoded : decode a = .ok k) (otherDecoded : decode b = .ok l)
    (same : k.publicCoordinates.encode = l.publicCoordinates.encode) : a = b := by
  obtain ⟨d, rfl, value, size⟩ := exists_scalar_of_decode_eq_ok decoded
  obtain ⟨e, rfl, otherValue, otherSize⟩ := exists_scalar_of_decode_eq_ok otherDecoded
  obtain ⟨token, encoded, read⟩ := exists_encode_publicCoordinates d
  obtain ⟨otherToken, otherEncoded, otherRead⟩ := exists_encode_publicCoordinates e
  rw [encoded, otherEncoded] at same
  cases same
  cases eq_of_publicCoordinates_eq (Except.ok.inj (read.symm.trans otherRead))
  exact Bytes.eq_of_toNat_eq (size.trans otherSize.symm) (value.symm.trans otherValue)

/-- Bytes are a private key exactly when there are 32 of them and they write a number from one up to
the order of the generator, which is excluded; the length is looked at first. The scalar is written
in the same bytes again, and its point is its multiple of the generator. This point passes the
check, is encoded, and is what its code is read as. Different keys have different codes, and so two
sessions have one token only if they have one ephemeral scalar. -/
theorem decode_faithful :
    (∀ data : Bytes,
      ((∃ key, decode data = .ok key) ↔ data.length = 32 ∧ 1 ≤ FixedWidth.decode data ∧
        FixedWidth.decode data < Curve.p256.order) ∧
      (∀ failure, decode data = .error failure →
        data.length ≠ 32 ∧ failure.report =
            .wrongLength .privateKeyLength "privateKey" 32 data.length none ∨
          data.length = 32 ∧
            ¬(1 ≤ FixedWidth.decode data ∧ FixedWidth.decode data < Curve.p256.order) ∧
            failure.report = .plain .keyAgreement "private scalar is out of range") ∧
      ∀ key, decode data = .ok key → ∃ e : Curve.p256.Scalar, key = .ofScalar e ∧
        FixedWidth.encode e.value 32 = .ok data ∧
        (∃ x y, Curve.Point.ofGroup (e.value • Curve.base) = .affine x y ∧
          key.publicCoordinates = ⟨x.val, y.val⟩) ∧
        key.publicCoordinates.check = .ok key.publicCoordinates ∧
        ∃ token, key.publicCoordinates.encode = .ok token ∧
          Coordinates.decode token = .ok key.publicCoordinates) ∧
    (∀ (a b : Bytes) (k l : PrivateKey), decode a = .ok k → decode b = .ok l → a ≠ b →
      k.publicCoordinates.encode ≠ l.publicCoordinates.encode) ∧
    ∀ (first second : Opening) (source other : Source) (s t : Session) (log events : List Event),
      first.start source = ⟨.ok s, log⟩ → second.start other = ⟨.ok t, events⟩ →
        ∃ d e, first.key source = .ok (.ofScalar d) ∧ second.key other = .ok (.ofScalar e) ∧
          (s.token = t.token ↔ d = e) := by
  refine ⟨?_, ?_, ?_⟩
  · intro data
    refine ⟨exists_decode_iff, ?_, ?_⟩
    · intro failure refused
      rcases cases_of_decode_eq_error refused with ⟨wrong, rfl⟩ | ⟨size, outside, rfl⟩
      · exact .inl ⟨wrong, rfl⟩
      · exact .inr ⟨size, outside, rfl⟩
    · intro key decoded
      obtain ⟨e, rfl, value, size⟩ := exists_scalar_of_decode_eq_ok decoded
      have again := FixedWidth.encode_decode data
      rw [size, FixedWidth.decode, ← value] at again
      exact ⟨e, rfl, again, exists_nsmul_base_eq e, check_publicCoordinates e,
        exists_encode_publicCoordinates e⟩
  · intro a b k l decoded otherDecoded different same
    exact different (eq_of_encode_publicCoordinates_eq decoded otherDecoded same)
  · intro first second source other s t log events opened otherOpened
    -- A key of another curve opens no session, so that both scalars are of P-256.
    obtain ⟨_, _, d, -, -, drawn, agreed⟩ := Opening.exists_agreed_of_start_eq_ok opened
    obtain ⟨_, _, e, -, -, otherDrawn, otherAgreed⟩ :=
      Opening.exists_agreed_of_start_eq_ok otherOpened
    exact ⟨d, e, drawn, otherDrawn, agreed.token_eq_iff otherAgreed⟩

end PrivateKey
end KeyExport
