import KeyExport.Proofs.Record.Decoding
import KeyExport.Proofs.Sealing
import KeyExport.Proofs.Session.Opening

set_option autoImplicit false

/-!
# Encrypting in a session

A sound session draws one nonce for each byte string and then fails in two ways only: the nonce
has the wrong size, or the cipher refuses the length. Otherwise the record is `Session.sealed`,
and it is regular.
-/

namespace KeyExport

namespace Session

variable {s : Session} {data nonce : Bytes} {source : Source} {plaintext : Plaintext}
  {failure : Failure}

/-- The record of a plaintext under a nonce. -/
def sealed (s : Session) (nonce data : Bytes) : Record :=
  ⟨Record.currentVersion.toNat, s.keyId, s.token, nonce, Gcm.encrypt s.sealingKey nonce data⟩

theorem regular_sealed (sound : s.Sound) (nonceSize : nonce.length = Sizes.nonce) (data : Bytes) :
    (s.sealed nonce data).Regular where
  version := rfl
  keyId := sound.keyId
  ephemeralPoint := sound.token
  nonce := nonceSize
  tag := by
    rw [sealed, Gcm.length_encrypt]
    exact Nat.le_add_left _ _

theorem payloadLength_sealed (s : Session) (nonce data : Bytes) :
    (s.sealed nonce data).payloadLength = data.length := by
  rw [Record.payloadLength, sealed, Gcm.length_encrypt, Sizes.tag]
  omega

theorem encryptRecord_of_toBytes_eq_error (refused : plaintext.toBytes = .error failure)
    (s : Session) : s.encryptRecord plaintext = .fail failure := by
  rw [encryptRecord, refused, Action.ofExcept_error_bind]

theorem encryptRecord_bytes_apply (s : Session) (data : Bytes) (source : Source) :
    s.encryptRecord (.bytes data) source =
      let rest := (Sealing.encrypt Sealing.aesGcm s.sealingKey (source.nonce 0) data >>=
        fun ciphertext => pure (⟨Record.currentVersion.toNat, s.keyId, s.token, source.nonce 0,
          ciphertext⟩ : Record)) (source.after [.drew .nonce])
      ⟨rest.result, .drew .nonce :: rest.events⟩ := rfl

/-- What a sound session makes of a byte string. -/
theorem encryptRecord_cases (sound : s.Sound) (data : Bytes) (source : Source) :
    (source.nonce 0).length ≠ Sizes.nonce ∧
        s.encryptRecord (.bytes data) source =
          ⟨.error (.nonceSize (source.nonce 0).length), [.drew .nonce]⟩ ∨
      (source.nonce 0).length = Sizes.nonce ∧ Sealing.maxPlaintext < data.length ∧
        s.encryptRecord (.bytes data) source =
          ⟨.error Sealing.tooLong, [.drew .nonce, .computed .cipher]⟩ ∨
      (source.nonce 0).length = Sizes.nonce ∧ data.length ≤ Sealing.maxPlaintext ∧
        s.encryptRecord (.bytes data) source =
          ⟨.ok (s.sealed (source.nonce 0) data), [.drew .nonce, .computed .cipher]⟩ := by
  rw [encryptRecord_bytes_apply]
  by_cases nonceSize : (source.nonce 0).length = Sizes.nonce
  · by_cases short : data.length ≤ Sealing.maxPlaintext
    · refine .inr (.inr ⟨nonceSize, short, ?_⟩)
      rw [Action.bind_pure_eq_of_ok
        (Sealing.encrypt_aesGcm_of_short sound.sealingKey nonceSize short _)]
      rfl
    · have long := Nat.not_le.mp short
      refine .inr (.inl ⟨nonceSize, long, ?_⟩)
      rw [Action.bind_eq_of_error
        (Sealing.encrypt_aesGcm_of_long sound.sealingKey nonceSize long _)]
  · refine .inl ⟨nonceSize, ?_⟩
    rw [Sealing.encrypt_of_wrong_nonce _ sound.sealingKey nonceSize]
    rfl

theorem encryptRecord_eq_sealed (sound : s.Sound)
    (nonceSize : (source.nonce 0).length = Sizes.nonce)
    (short : data.length ≤ Sealing.maxPlaintext) : s.encryptRecord (.bytes data) source =
      ⟨.ok (s.sealed (source.nonce 0) data), [.drew .nonce, .computed .cipher]⟩ := by
  rcases encryptRecord_cases sound data source with
    ⟨wrong, -⟩ | ⟨-, long, -⟩ | ⟨-, -, produced⟩
  · exact absurd nonceSize wrong
  · exact absurd short (Nat.not_le.mpr long)
  · exact produced

/-- Nothing but a short enough byte string under a nonce of the right size becomes a record. -/
theorem exists_sealed_of_encryptRecord_eq_ok (sound : s.Sound) {r : Record} {events : List Event}
    (h : s.encryptRecord plaintext source = ⟨.ok r, events⟩) :
    ∃ data, plaintext = .bytes data ∧ (source.nonce 0).length = Sizes.nonce ∧
      data.length ≤ Sealing.maxPlaintext ∧ r = s.sealed (source.nonce 0) data ∧
      events = [.drew .nonce, .computed .cipher] := by
  cases plaintext with
  | text value => cases h
  | other typeName => cases h
  | bytes data =>
    rcases encryptRecord_cases sound data source with
      ⟨-, failed⟩ | ⟨-, -, failed⟩ | ⟨nonceSize, short, produced⟩
    · rw [failed] at h
      cases h
    · rw [failed] at h
      cases h
    · rw [produced] at h
      cases h
      exact ⟨data, rfl, nonceSize, short, rfl, rfl⟩

theorem encrypt_eq_of_error {events : List Event}
    (failed : s.encryptRecord plaintext source = ⟨.error failure, events⟩) :
    s.encrypt plaintext source = ⟨.error failure, events⟩ :=
  Action.bind_eq_of_error failed _

theorem encrypt_eq_of_ok {r : Record} {events : List Event} (regular : r.Regular)
    (produced : s.encryptRecord plaintext source = ⟨.ok r, events⟩) :
    s.encrypt plaintext source = ⟨.ok (Record.currentVersion :: r.body),
      events ++ [.logged (.encrypted r.payloadLength (r.body.length + 1))]⟩ := by
  rw [encrypt, Action.bind_eq_of_ok produced, regular.encode_eq]
  rfl

end Session
end KeyExport
