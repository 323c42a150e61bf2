import KeyExport.Proofs.KeyAgreement
import KeyExport.Proofs.KeyDerivation
import KeyExport.Proofs.RecipientKey
import KeyExport.Recipient

set_option autoImplicit false

/-!
# Opening a session

Once its ephemeral key is chosen, the rest of opening a session is closed. The fields of an opened
session have the sizes of the wire format, and its sealing key is one that a recipient derives.
-/

namespace KeyExport

namespace Session

/-- What a record takes over from its session has the size that the wire format gives it. -/
structure Sound (s : Session) : Prop where
  keyId : s.keyId.length = Sizes.keyId
  token : s.token.length = Sizes.point
  sealingKey : s.sealingKey.length = Sizes.sealingKey

variable {recipient : RecipientKey} {key : PrivateKey} {publicKey : Bytes}
  {given : Option PrivateKey} {source : Source} {s : Session} {events : List Event}

theorem closed_establish (recipient : RecipientKey) (key : PrivateKey) :
    (establish recipient key).Closed := by
  apply (Action.closed_compute _ _).bind
  intro ephemeral
  apply (Action.closed_ofExcept _).bind
  intro token
  apply (KeyAgreement.closed_agree _ _).bind
  intro secret
  apply (KeyDerivation.closed_derive _ _ _ _).bind
  intro sealingKey
  exact (Action.closed_log _).bind fun _ => Action.closed_pure _

theorem start_of_decode_eq_error {failure : Failure}
    (h : RecipientKey.decode publicKey = .error failure) (given : Option PrivateKey) :
    start publicKey given = .fail failure := by
  rw [start, h, Action.ofExcept_error_bind]

theorem start_some (h : RecipientKey.decode publicKey = .ok recipient) (key : PrivateKey) :
    start publicKey (some key) = establish recipient key := by
  rw [start, h]
  rfl

/-- A fresh ephemeral key does what the same key does when it is given. -/
theorem start_none_apply (h : RecipientKey.decode publicKey = .ok recipient) (source : Source) :
    start publicKey none source =
      ⟨(establish recipient (.ofScalar (source.ephemeral 0)) source).result,
        .drew .ephemeral ::
          (establish recipient (.ofScalar (source.ephemeral 0)) source).events⟩ := by
  have steady := (closed_establish recipient (.ofScalar (source.ephemeral 0))).steady
    (source.after [.drew .ephemeral]) source
  rw [start, h, Action.ofExcept_ok_bind, chooseEphemeral, Action.drawEphemeral_bind_apply,
    steady]

theorem deriveSealingKey_apply (token secret : Bytes) (source : Source) :
    deriveSealingKey token secret source =
      ⟨.ok (Recipient.sealingKey token secret), [.computed .hmac, .computed .hmac]⟩ := by
  have salt : Hkdf.extract (Bytes.zeros Sizes.hash) (token ++ secret) =
      Hkdf.extract [] (token ++ secret) := KeyDerivation.extract_zeros _ _ (by decide)
  rw [deriveSealingKey, KeyDerivation.derive_apply _ _ _ (by decide) (by decide),
    Option.getD_none, salt]
  rfl

theorem failsWithin_deriveSealingKey {allowed : Failure → Prop} (token secret : Bytes) :
    (deriveSealingKey token secret).FailsWithin allowed := by
  intro source failure events failed
  rw [deriveSealingKey_apply] at failed
  cases failed

theorem failsWithin_chooseEphemeral {allowed : Failure → Prop} (given : Option PrivateKey) :
    (chooseEphemeral given).FailsWithin allowed := by
  cases given with
  | none => exact Action.failsWithin_drawEphemeral
  | some key => exact Action.failsWithin_pure key

theorem length_sealingKey (token secret : Bytes) :
    (Recipient.sealingKey token secret).length = Sizes.sealingKey := by
  rw [Recipient.sealingKey, List.length_take, Hkdf.length_blocks]
  rfl

/-- Where the fields of an established session come from. -/
theorem exists_of_establish_eq_ok (h : establish recipient key source = ⟨.ok s, events⟩) :
    s.keyId = recipient.keyId ∧ s.ephemeral = key.publicCoordinates ∧
      key.publicCoordinates.encode = .ok s.token ∧
      ∃ peer secret, key.exchange peer = .ok secret ∧
        s.sealingKey = Recipient.sealingKey s.token secret := by
  obtain ⟨ephemeral, _, _, computed, h, -⟩ := Action.exists_of_bind_ok h
  cases computed
  obtain ⟨token, encoded, h⟩ := Action.ofExcept_bind_eq_ok h
  obtain ⟨secret, _, _, agreed, h, -⟩ := Action.exists_of_bind_ok h
  obtain ⟨peer, exchanged⟩ := KeyAgreement.exists_of_agree_eq_ok agreed
  rw [Action.bind_eq_of_ok (deriveSealingKey_apply _ _ _)] at h
  cases h
  exact ⟨rfl, rfl, encoded, peer, secret, exchanged, rfl⟩

theorem sound_of_establish_eq_ok (keyId : recipient.keyId.length = Sizes.keyId)
    (h : establish recipient key source = ⟨.ok s, events⟩) : s.Sound := by
  obtain ⟨sameId, -, encoded, -, secret, -, sealingKey⟩ := exists_of_establish_eq_ok h
  refine ⟨?_, Coordinates.length_of_encode_eq_ok encoded, ?_⟩
  · rw [sameId, keyId]
  · rw [sealingKey, length_sealingKey]

end Session
end KeyExport
