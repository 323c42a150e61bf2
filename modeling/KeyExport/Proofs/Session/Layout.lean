import KeyExport.Proofs.Recipient
import KeyExport.Proofs.Workspace.Opening

set_option autoImplicit false

/-!
# Records on the wire

Whatever way a session was opened, the parts of its records have the sizes of the wire format, so
that each stands at its place and the token is read as the ephemeral point. Under a nonce of the
right size nothing but the type or the length of a plaintext is refused.
-/

namespace KeyExport

namespace Opening

variable {opening : Opening} {source : Source} {s : Session} {events : List Event}

theorem decode_token_of_start_eq_ok (h : opening.start source = ⟨.ok s, events⟩) :
    Coordinates.decode s.token = .ok s.ephemeral := by
  obtain ⟨given, publicKey, -, -, started⟩ := exists_of_start_eq_ok h
  obtain ⟨recipient, e, -, -, agreed⟩ := Session.exists_agreed_of_start_eq_ok started
  exact agreed.decode_token

end Opening

namespace Session

variable {s : Session} {source later : Source} {events : List Event}

/-- With a nonce of the right size, a plaintext is short enough or it is refused. -/
theorem short_or_refused (sound : s.Sound) (nonceSize : (source.nonce 0).length = Sizes.nonce)
    (plaintext : Plaintext) :
    (∃ data, plaintext = .bytes data ∧ data.length ≤ Sealing.maxPlaintext) ∨
      ∃ failure log, (failure = Sealing.tooLong ∨ ∃ typeName, failure = .plaintextType typeName) ∧
        s.encryptRecord plaintext source = ⟨.error failure, log⟩ := by
  cases plaintext with
  | bytes data =>
    rcases encryptRecord_cases sound data source with
      ⟨wrong, -⟩ | ⟨-, -, refused⟩ | ⟨-, short, -⟩
    · exact absurd nonceSize wrong
    · exact .inr ⟨_, _, .inl rfl, refused⟩
    · exact .inl ⟨data, rfl, short⟩
  | text value => exact .inr ⟨_, [], .inr ⟨_, rfl⟩, rfl⟩
  | other typeName => exact .inr ⟨_, [], .inr ⟨_, rfl⟩, rfl⟩

theorem length_encode_sealed (sound : s.Sound) {nonce : Bytes}
    (nonceSize : nonce.length = Sizes.nonce) (data : Bytes) :
    (Record.currentVersion :: (s.sealed nonce data).body).length = 97 + data.length := by
  have tagged : (s.sealed nonce data).ciphertext.length = data.length + 16 :=
    Gcm.length_encrypt _ _ _
  rw [List.length_cons, (regular_sealed sound nonceSize data).length_body, tagged]
  simp only [Sizes.keyId, Sizes.point, Sizes.coordinate, Sizes.nonce]
  omega

/-- Encrypting what the cipher takes draws one nonce, runs the cipher once, and logs two lengths. -/
theorem encrypt_eq_sealed (sound : s.Sound) (nonceSize : (source.nonce 0).length = Sizes.nonce)
    {data : Bytes} (short : data.length ≤ Sealing.maxPlaintext) :
    s.encrypt (.bytes data) source =
      ⟨.ok (Record.currentVersion :: (s.sealed (source.nonce 0) data).body),
        [.drew .nonce, .computed .cipher, .logged (.encrypted data.length (97 + data.length))]⟩ := by
  have regular := regular_sealed sound nonceSize data
  have size := length_encode_sealed sound nonceSize data
  rw [List.length_cons] at size
  rw [encrypt_eq_of_ok regular (encryptRecord_eq_sealed sound nonceSize short),
    payloadLength_sealed, size]
  rfl

/-- However a session was opened and whatever nonce of the right size is drawn, every byte string
that the cipher takes is encrypted into 97 more bytes: the version, key id, token, nonce and sealed
data in a row, each at its place. The bytes and the unserialized record are one and the same on the
wire, the summary knows the length of the plaintext, and the token is read as the ephemeral point.
The only failures left are those for a plaintext that is no byte string or is too long; in
particular no size of key, nonce or sealed data is ever at fault. -/
theorem wire_layout {opening : Opening} (opened : opening.start source = ⟨.ok s, events⟩)
    (nonceSize : (later.nonce 0).length = 12) :
    (∀ data : Bytes, data.length ≤ 2 ^ 31 - 1 → ∃ (ciphertext record : Bytes) (r : Record),
      Sealing.encrypt Sealing.aesGcm s.sealingKey (later.nonce 0) data later =
          ⟨.ok ciphertext, [.computed .cipher]⟩ ∧
        r = ⟨0, s.keyId, s.token, later.nonce 0, ciphertext⟩ ∧
        (∃ log, s.encryptRecord (.bytes data) later = ⟨.ok r, log⟩) ∧
        (∃ log, s.encrypt (.bytes data) later = ⟨.ok record, log⟩) ∧
        r.OnWire record ∧ record.length = 97 + data.length ∧
        (∃ info, RecordInfo.ofBytes record = .ok info ∧ info.payloadLength = data.length) ∧
        Coordinates.decode ((record.drop 5).take 64) = .ok s.ephemeral) ∧
      ∀ plaintext failure log,
        (s.encryptRecord plaintext later = ⟨.error failure, log⟩ ∨
          s.encrypt plaintext later = ⟨.error failure, log⟩) →
        failure = Sealing.tooLong ∨ ∃ typeName, failure = .plaintextType typeName := by
  have sound := Opening.sound_of_start_eq_ok opened
  refine ⟨?_, ?_⟩
  · intro data short
    have regular := regular_sealed sound nonceSize data
    have produced := encryptRecord_eq_sealed sound nonceSize short
    have wire := regular.onWire
    obtain ⟨info, summarized, described⟩ := RecordInfo.exists_describes wire.decode
    refine ⟨_, _, _, Sealing.encrypt_aesGcm_of_short sound.sealingKey nonceSize short later, rfl,
      ⟨_, produced⟩, ⟨_, encrypt_eq_of_ok regular produced⟩, wire,
      length_encode_sealed sound nonceSize data, ⟨info, summarized, ?_⟩, ?_⟩
    · rw [described.payloadLength, payloadLength_sealed]
    · rw [wire.ephemeralPoint]
      exact Opening.decode_token_of_start_eq_ok opened
  · intro plaintext failure log failed
    rcases short_or_refused sound nonceSize plaintext with
      ⟨data, rfl, short⟩ | ⟨refusal, before, kind, refused⟩
    · -- Neither way of encrypting a short plaintext fails.
      have produced := encryptRecord_eq_sealed sound nonceSize short
      have written := encrypt_eq_of_ok (regular_sealed sound nonceSize data) produced
      rw [produced, written] at failed
      rcases failed with failed | failed <;> cases failed
    · rw [refused, encrypt_eq_of_error refused] at failed
      rcases failed with failed | failed <;> cases failed <;> exact kind

theorem wire_layout_one :
    ((Source.constant (Bytes.zeros 12) .one).nonce 0).length = 12 ∧
      ∃ point s events record log,
        (PrivateKey.ofScalar .one).publicCoordinates.encode = .ok point ∧
        (Opening.bytes (Bytes.zeros 4 ++ point) none).start (.constant (Bytes.zeros 12) .one) =
          ⟨.ok s, events⟩ ∧
        s.encrypt (.bytes [1, 2, 3]) (.constant (Bytes.zeros 12) .one) = ⟨.ok record, log⟩ ∧
        record.length = 100 := by
  obtain ⟨point, s, events, -, serialized, opened, -, -, -⟩ := exists_start_scalar .one
    (Bytes.length_zeros 4) none (.constant (Bytes.zeros 12) .one)
  have opening : (Opening.bytes (Bytes.zeros 4 ++ point) none).start
      (.constant (Bytes.zeros 12) .one) = ⟨.ok s, events⟩ := opened
  have nonceSize : ((Source.constant (Bytes.zeros 12) .one).nonce 0).length = 12 :=
    Bytes.length_zeros 12
  obtain ⟨-, record, -, -, -, -, ⟨log, written⟩, -, size, -⟩ :=
    (wire_layout opening nonceSize).1 [1, 2, 3] (by decide)
  exact ⟨nonceSize, point, s, events, record, log, serialized, opening, written, size⟩

end Session
end KeyExport
