import KeyExport.Proofs.Secrecy.Record
import KeyExport.Proofs.Session.Agreement
import KeyExport.Proofs.Session.Encryption
import KeyExport.Proofs.Workspace.Opening

set_option autoImplicit false

/-!
# Sessions under different secrets

Opening a session for one public key with one scalar of P-256 or another, and encrypting plaintexts
of one size under nonces of one size, is alike: the failures and the events depend on sizes and on
the public key only. That both scalars do open a session, or neither does, is where the agreement
with a valid point never fails.
-/

namespace KeyExport

/-- Both keys belong to P-256. -/
def OverP256 (key other : PrivateKey) : Prop :=
  (∃ d, key = .ofScalar d) ∧ ∃ e, other = .ofScalar e

/-- Key material for any two scalars of P-256. -/
def KeyMaterial.Alike (material other : KeyMaterial) : Prop :=
  ∃ d e, material.decode = .ok (.ofScalar d) ∧ other.decode = .ok (.ofScalar e)

/-- One public key, and with it an ephemeral key of P-256 on both sides or on neither. -/
structure Opening.Alike (opening other : Opening) : Prop where
  publicKey : opening.publicKey = other.publicKey
  given : Option.Rel KeyMaterial.Alike opening.given? other.given?

/-- Plaintexts of one type; byte strings have one length besides. -/
inductive Plaintext.Alike : Plaintext → Plaintext → Prop where
  | bytes {data other : Bytes} (same : SameLength data other) : Alike (.bytes data) (.bytes other)
  | text (value other : String) : Alike (.text value) (.text other)
  | other (typeName : String) : Alike (.other typeName) (.other typeName)

theorem Plaintext.Alike.toBytes {plaintext other : Plaintext} (alike : plaintext.Alike other) :
    ResultRel SameLength plaintext.toBytes other.toBytes := by
  cases alike with
  | bytes same => exact .ok same
  | text => exact .error _
  | other => exact .error _

theorem Sealing.alike_encrypt {key otherKey nonce otherNonce data otherData : Bytes}
    (keySize : key.length = Sizes.sealingKey) (otherKeySize : otherKey.length = Sizes.sealingKey)
    (nonces : SameLength nonce otherNonce) (sizes : SameLength data otherData) :
    Action.Alike SameLength (encrypt aesGcm key nonce data)
      (encrypt aesGcm otherKey otherNonce otherData) := by
  unfold SameLength at nonces sizes
  by_cases nonceSize : nonce.length = Sizes.nonce
  · have otherNonceSize : otherNonce.length = Sizes.nonce := nonces ▸ nonceSize
    intro source other _
    by_cases short : data.length ≤ maxPlaintext
    · have otherShort : otherData.length ≤ maxPlaintext := sizes ▸ short
      rw [encrypt_aesGcm_of_short keySize nonceSize short,
        encrypt_aesGcm_of_short otherKeySize otherNonceSize otherShort]
      exact ⟨.ok (by simp [SameLength, Gcm.length_encrypt, sizes]), rfl⟩
    · have long : maxPlaintext < data.length := Nat.not_le.mp short
      have otherLong : maxPlaintext < otherData.length := sizes ▸ long
      rw [encrypt_aesGcm_of_long keySize nonceSize long,
        encrypt_aesGcm_of_long otherKeySize otherNonceSize otherLong]
      exact ⟨.error _, rfl⟩
  · have otherWrong : otherNonce.length ≠ Sizes.nonce := nonces ▸ nonceSize
    rw [encrypt_of_wrong_nonce _ keySize nonceSize, encrypt_of_wrong_nonce _ otherKeySize otherWrong,
      nonces]
    exact Action.alike_fail _

namespace Session

/-- Sessions for one key id. Their tokens and sealing keys have nothing in common but their sizes. -/
structure Alike (s t : Session) : Prop where
  keyId : s.keyId = t.keyId
  left : s.Sound
  right : t.Sound

variable {s t : Session} {recipient : RecipientKey} {given other : Option PrivateKey}

theorem alike_establish (valid : recipient.Valid) (d e : Curve.p256.Scalar) :
    Action.Alike Alike (establish recipient (.ofScalar d)) (establish recipient (.ofScalar e)) := by
  intro source otherSource _
  obtain ⟨s, opened, agreed⟩ := exists_establish_eq_ok valid d source
  obtain ⟨t, otherOpened, otherAgreed⟩ := exists_establish_eq_ok valid e otherSource
  have left := sound_of_establish_eq_ok valid.keyId opened
  have right := sound_of_establish_eq_ok valid.keyId otherOpened
  rw [opened, otherOpened]
  exact ⟨.ok ⟨agreed.keyId.trans otherAgreed.keyId.symm, left, right⟩, rfl⟩

theorem alike_chooseEphemeral (keys : Option.Rel OverP256 given other) :
    Action.Alike OverP256 (chooseEphemeral given) (chooseEphemeral other) := by
  cases keys with
  | none => exact Action.alike_drawEphemeral fun d e => ⟨⟨d, rfl⟩, e, rfl⟩
  | some keys => exact Action.alike_pure keys

theorem alike_start (publicKey : Bytes) (keys : Option.Rel OverP256 given other) :
    Action.Alike Alike (start publicKey given) (start publicKey other) := by
  have parsed : ResultRel (fun r q => r = q ∧ r.Valid) (RecipientKey.decode publicKey)
      (RecipientKey.decode publicKey) :=
    .of_self fun r decoded => ⟨rfl, RecipientKey.valid_of_decode_eq_ok decoded⟩
  rw [start, start]
  apply (Action.alike_ofExcept parsed).bind
  rintro recipient _ ⟨rfl, valid⟩
  apply (alike_chooseEphemeral keys).bind
  rintro _ _ ⟨⟨d, rfl⟩, e, rfl⟩
  exact alike_establish valid d e

theorem alike_encryptRecord (sessions : s.Alike t) {plaintext other : Plaintext}
    (plaintexts : plaintext.Alike other) :
    Action.Alike Record.Alike (s.encryptRecord plaintext) (t.encryptRecord other) := by
  apply (Action.alike_ofExcept plaintexts.toBytes).bind
  intro data otherData sizes
  apply Action.alike_drawNonce.bind
  intro nonce otherNonce nonces
  apply (Sealing.alike_encrypt sessions.left.sealingKey sessions.right.sealingKey nonces
    sizes).bind
  intro ciphertext otherCiphertext sealedSizes
  exact Action.alike_pure ⟨rfl, sessions.keyId, sessions.left.keyId,
    sessions.left.token.trans sessions.right.token.symm, nonces, sealedSizes⟩

theorem alike_encrypt (sessions : s.Alike t) {plaintext other : Plaintext}
    (plaintexts : plaintext.Alike other) :
    Action.Alike WireAlike (s.encrypt plaintext) (t.encrypt other) := by
  apply (alike_encryptRecord sessions plaintexts).bind
  intro r q records
  apply (Action.alike_ofExcept records.encode).bind
  intro data otherData wires
  have entries : LogEntry.encrypted r.payloadLength data.length =
      .encrypted q.payloadLength otherData.length := by
    rw [records.payloadLength, wires.length]
  exact (Action.alike_log entries).bind fun _ _ _ => Action.alike_pure wires

end Session

theorem alike_decodeEphemeral {given other : Option KeyMaterial}
    (materials : Option.Rel KeyMaterial.Alike given other) :
    ResultRel (Option.Rel OverP256) (decodeEphemeral given) (decodeEphemeral other) := by
  cases materials with
  | none => exact .ok .none
  | some materials =>
    obtain ⟨d, e, decoded, otherDecoded⟩ := materials
    simp only [decodeEphemeral, decoded, otherDecoded]
    exact .ok (.some ⟨⟨d, rfl⟩, e, rfl⟩)

theorem Opening.alike_start {opening other : Opening} (openings : opening.Alike other) :
    Action.Alike Session.Alike opening.start other.start := by
  have written : ResultRel Eq opening.publicKey opening.publicKey := .of_self fun _ _ => rfl
  rw [start_eq, start_eq, ← openings.publicKey]
  apply (Action.alike_ofExcept (alike_decodeEphemeral openings.given)).bind
  intro given otherGiven keys
  apply (Action.alike_ofExcept written).bind
  rintro publicKey _ rfl
  exact Session.alike_start publicKey keys

end KeyExport
