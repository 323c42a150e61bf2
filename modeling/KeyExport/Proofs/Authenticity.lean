import KeyExport.Proofs.Cipher.Authentication
import KeyExport.Proofs.Session.Invariant
import KeyExport.Proofs.Session.Layout

set_option autoImplicit false

/-!
# What a record authenticates

The recipient of a record rejects every change of the nonce and of the tag, and every change within
one block of the sealed plaintext unless the block cipher keeps the zero block. The key id is not
covered: whatever it is changed to, the plaintext is found.
-/

namespace KeyExport

namespace Session

variable {s : Session}

/-- The session makes the record of the plaintext, at once or field by field. -/
def Produces (s : Session) (plaintext record : Bytes) : Prop :=
  ∃ source log, s.encrypt (.bytes plaintext) source = ⟨.ok record, log⟩ ∨
    ∃ r, s.encryptRecord (.bytes plaintext) source = ⟨.ok r, log⟩ ∧ r.encode = .ok record

theorem Produces.exists_sealed (sound : s.Sound) {plaintext record : Bytes}
    (produced : s.Produces plaintext record) :
    ∃ nonce, nonce.length = Sizes.nonce ∧
      record = Record.currentVersion :: (s.sealed nonce plaintext).body := by
  obtain ⟨source, log, written | ⟨r, made, written⟩⟩ := produced
  · obtain ⟨r, _, _, made, -, -⟩ := Action.exists_of_bind_ok written
    obtain ⟨data, same, nonceSize, -, rfl, -⟩ := exists_sealed_of_encryptRecord_eq_ok sound made
    cases same
    rw [encrypt_eq_of_ok (regular_sealed sound nonceSize plaintext) made] at written
    cases written
    exact ⟨_, nonceSize, rfl⟩
  · obtain ⟨data, same, nonceSize, -, rfl, -⟩ := exists_sealed_of_encryptRecord_eq_ok sound made
    cases same
    rw [(regular_sealed sound nonceSize plaintext).encode_eq] at written
    cases written
    exact ⟨_, nonceSize, rfl⟩

end Session

namespace Recipient

variable {d : Curve.p256.Scalar} {token secret record plaintext changed : Bytes}

namespace Opens

/-- Behind the token a change leaves the secret as it was. -/
theorem decrypt?_changed (opens : Opens d token secret record plaintext) {first last : Nat}
    (altered : AlteredWithin first last record changed) (behind : 69 ≤ first) :
    decrypt? d changed =
      Gcm.decrypt? (sealingKey token secret) ((changed.drop 69).take 12) (changed.drop 81) := by
  have version := altered.head?_eq (by omega)
  have carried : (changed.drop 5).take 64 = (record.drop 5).take 64 := altered.part_eq behind
  rw [opens.version] at version
  rw [opens.carried] at carried
  exact decrypt?_eq version carried opens.found

theorem length_record (opens : Opens d token secret record plaintext) : 97 ≤ record.length := by
  obtain ⟨sealed, split, -⟩ := Gcm.decrypt?_eq_some_iff.mp opens.opened
  have size := congrArg List.length split
  rw [List.length_drop, List.length_append, Gcm.length_tag] at size
  omega

theorem rejects_nonce (opens : Opens d token secret record plaintext)
    (altered : AlteredWithin 69 81 record changed) : decrypt? d changed = none := by
  have sealed : changed.drop 81 = record.drop 81 := altered.drop_eq le_rfl
  have nonce := (altered.drop le_rfl).take le_rfl
  have size := nonce.length
  rw [opens.nonce] at size
  rw [opens.decrypt?_changed altered le_rfl, sealed]
  exact Gcm.decrypt?_other_nonce opens.opened opens.nonce size nonce.ne

theorem rejects_tag (opens : Opens d token secret record plaintext)
    (altered : AlteredWithin (record.length - 16) record.length record changed) :
    decrypt? d changed = none := by
  have size := opens.length_record
  have nonce : (changed.drop 69).take 12 = (record.drop 69).take 12 := altered.part_eq (by omega)
  rw [opens.decrypt?_changed altered (by omega), nonce]
  apply Gcm.decrypt?_other_tag opens.opened
  apply (altered.drop (by omega)).wider
  · rw [List.length_drop]
    omega
  · rw [List.length_drop]

theorem rejects_block (opens : Opens d token secret record plaintext)
    (moved : Aes.encrypt (Aes.schedule (.ofBytes (sealingKey token secret)))
      (.ofBytes (Bytes.zeros 16)) ≠ .ofBytes (Bytes.zeros 16)) {block : Nat}
    (altered : AlteredWithin (81 + 16 * block)
      (min (81 + 16 * (block + 1)) (record.length - 16)) record changed) :
    decrypt? d changed = none := by
  have nonce : (changed.drop 69).take 12 = (record.drop 69).take 12 := altered.part_eq (by omega)
  rw [opens.decrypt?_changed altered (by omega), nonce]
  have sealed : AlteredWithin (16 * block)
      (min (16 * (block + 1)) ((record.drop 81).length - 16)) (record.drop 81) (changed.drop 81) := by
    refine (altered.drop ?_).wider ?_ ?_
    · omega
    · omega
    · rw [List.length_drop]
      omega
  exact Gcm.decrypt?_other_block opens.opened moved sealed

/-- The key id plays no part. -/
theorem alter_keyId (opens : Opens d token secret record plaintext)
    (altered : AlteredWithin 1 5 record changed) : Opens d token secret changed plaintext := by
  have kept {n : Nat} (behind : 5 ≤ n) : changed.drop n = record.drop n := altered.drop_eq behind
  refine ⟨?_, ?_, ?_, opens.found, ?_⟩
  · rw [altered.head?_eq le_rfl, opens.version]
  · rw [kept le_rfl, opens.carried]
  · rw [kept (by decide), opens.nonce]
  · rw [kept (by decide), kept (by decide), opens.opened]

end Opens

/-- The key that the scalar one agrees on with itself does not keep the zero block. -/
theorem exists_generator_moved : ∃ x y : Curve.p256.Field,
    Curve.p256.generator = .affine x y ∧
      Aes.encrypt (Aes.schedule (.ofBytes (sealingKey
        (Curve.Field.toBytes x ++ Curve.Field.toBytes y) (Curve.Field.toBytes x))))
        (.ofBytes (Bytes.zeros 16)) ≠ .ofBytes (Bytes.zeros 16) :=
  ⟨_, _, rfl, by decide +kernel⟩

/-- In a session of the scalar one with itself all points are the generator. -/
theorem exists_session_one {x y : Curve.p256.Field} (generator : Curve.p256.generator = .affine x y)
    {source : Source} (drawn : Option.getD none (source.ephemeral 0) = Curve.Scalar.one) :
    ∃ (opening : Opening) (recipient : RecipientKey) (s : Session) (events : List Event),
      opening.publicKey >>= RecipientKey.decode = .ok recipient ∧
        recipient.point = (PrivateKey.ofScalar .one).publicCoordinates ∧
        opening.start source = ⟨.ok s, events⟩ ∧
        s.sealingKey = sealingKey (x.toBytes ++ y.toBytes) x.toBytes := by
  have product : Curve.Point.multiple 1 Curve.p256.generator = Curve.p256.generator := by
    decide +kernel
  have onCurve := Curve.onCurve_generator
  rw [generator] at product onCurve
  have point : Curve.Scalar.one.point = .affine x y := by
    rw [Curve.Scalar.point, generator]
    exact product
  have decoded := RecipientKey.decode_append (Bytes.length_zeros 4) onCurve
  have established := Session.establish_ofScalar (Bytes.zeros 4) point onCurve product source
  rw [← drawn] at established
  obtain ⟨events, started⟩ := Session.exists_start_eq decoded established
  have read (publicKey : Bytes) : (Opening.bytes publicKey none).publicKey >>=
    RecipientKey.decode = RecipientKey.decode publicKey := rfl
  have opening (publicKey : Bytes) :
    (Opening.bytes publicKey none).start = Session.start publicKey none := rfl
  exact ⟨.bytes _ none, _, _, events, (read _).trans decoded,
    (PrivateKey.publicCoordinates_ofScalar point).symm,
    (congrFun (opening _) source).trans started, rfl⟩

/-- However the session for a recipient was opened, and whatever record it makes of a plaintext: the
recipient rejects every change of the nonce, every change of the last sixteen bytes, and, unless the
derived key encrypts the zero block to itself, every change within one block in between, such as one
of a single byte. A change of the key id is not noticed. -/
theorem authenticates {opening : Opening} {source : Source} {s : Session} {events : List Event}
    {recipient : RecipientKey}
    (addressed : opening.publicKey >>= RecipientKey.decode = .ok recipient)
    (own : recipient.point = (PrivateKey.ofScalar d).publicCoordinates)
    (opened : opening.start source = ⟨.ok s, events⟩) (produced : s.Produces plaintext record) :
    (∀ changed, AlteredWithin 69 81 record changed → decrypt? d changed = none) ∧
      (∀ changed, AlteredWithin (record.length - 16) record.length record changed →
        decrypt? d changed = none) ∧
      (Aes.encrypt (Aes.schedule (.ofBytes s.sealingKey)) (.ofBytes (Bytes.zeros 16)) ≠
          .ofBytes (Bytes.zeros 16) →
        (∀ block changed, AlteredWithin (81 + 16 * block)
            (min (81 + 16 * (block + 1)) (record.length - 16)) record changed →
          decrypt? d changed = none) ∧
        ∀ place byte, 81 ≤ place → place < record.length - 16 → record[place]? ≠ some byte →
          decrypt? d (record.set place byte) = none) ∧
      ∀ changed, AlteredWithin 1 5 record changed → decrypt? d changed = some plaintext := by
  have sound := Opening.sound_of_start_eq_ok opened
  obtain ⟨given, publicKey, -, written, started⟩ := Opening.exists_of_start_eq_ok opened
  obtain ⟨reader, e, decoded, -, agreed⟩ := Session.exists_agreed_of_start_eq_ok started
  have same : reader = recipient := by
    rw [written] at addressed
    have read : RecipientKey.decode publicKey = .ok recipient := addressed
    rw [decoded] at read
    exact Except.ok.inj read
  subst same
  obtain ⟨secret, found, derived⟩ := agreed.exists_secret own
  obtain ⟨nonce, nonceSize, whole⟩ := produced.exists_sealed sound
  have opens := opens_sealed sound found derived nonceSize plaintext
  rw [← whole] at opens
  refine ⟨fun _ => opens.rejects_nonce, fun _ => opens.rejects_tag, ?_,
    fun _ altered => (opens.alter_keyId altered).reads⟩
  intro moved
  rw [derived] at moved
  refine ⟨fun _ _ => opens.rejects_block moved, ?_⟩
  intro place byte behind before other
  -- The byte lies in the block in which its place falls.
  have inside : AlteredWithin (81 + 16 * ((place - 81) / 16))
      (min (81 + 16 * ((place - 81) / 16 + 1)) (record.length - 16)) record
      (record.set place byte) :=
    alteredWithin_set (by omega) (by omega) (by omega) other
  exact opens.rejects_block moved inside

/-- In the session of the scalar one with itself one bit is turned at each kind of place. -/
theorem authenticates_one : ∃ (opening : Opening) (recipient : RecipientKey) (s : Session)
    (events : List Event) (record : Bytes),
    opening.publicKey >>= RecipientKey.decode = .ok recipient ∧
      recipient.point = (PrivateKey.ofScalar .one).publicCoordinates ∧
      opening.start (.constant (Bytes.zeros 12) .one) = ⟨.ok s, events⟩ ∧
      s.Produces [1, 2, 3] record ∧
      Aes.encrypt (Aes.schedule (.ofBytes s.sealingKey)) (.ofBytes (Bytes.zeros 16)) ≠
        .ofBytes (Bytes.zeros 16) ∧
      let turned place := record.set place (record.getD place 0 ^^^ 1)
      decrypt? .one (turned 69) = none ∧ decrypt? .one (turned 99) = none ∧
        decrypt? .one (turned 81) = none ∧ AlteredWithin 1 5 record (turned 1) ∧
        decrypt? .one (turned 1) = some [1, 2, 3] := by
  obtain ⟨x, y, generator, moved⟩ := exists_generator_moved
  have drawn : Option.getD none ((Source.constant (Bytes.zeros 12) .one).ephemeral 0) =
    Curve.Scalar.one := rfl
  obtain ⟨opening, recipient, s, events, addressed, own, opened, derived⟩ :=
    exists_session_one generator drawn
  rw [← derived] at moved
  have sound := Opening.sound_of_start_eq_ok opened
  have nonceSize : (Bytes.zeros 12).length = Sizes.nonce := rfl
  have written : s.encrypt (.bytes [1, 2, 3]) (.constant (Bytes.zeros 12) .one) = _ :=
    Session.encrypt_eq_sealed sound nonceSize (by decide)
  obtain ⟨record, whole⟩ : ∃ record, record =
    Record.currentVersion :: (s.sealed (Bytes.zeros 12) [1, 2, 3]).body := ⟨_, rfl⟩
  have size : record.length = 100 := by
    rw [whole]
    exact Session.length_encode_sealed sound nonceSize [1, 2, 3]
  have produced : s.Produces [1, 2, 3] record := ⟨_, _, .inl (whole ▸ written)⟩
  have turned {place : Nat} (within : place < record.length) :
      record[place]? ≠ some (record.getD place 0 ^^^ 1) := Bytes.getElem?_ne_turned within
  obtain ⟨nonce, tag, sealed, keyId⟩ := authenticates addressed own opened produced
  have first : AlteredWithin 1 5 record (record.set 1 (record.getD 1 0 ^^^ 1)) :=
    alteredWithin_set le_rfl (by decide) (by omega) (turned (by omega))
  refine ⟨opening, recipient, s, events, record, addressed, own, opened, produced, moved,
    ?_, ?_, ?_, first, keyId _ first⟩
  · exact nonce _ (alteredWithin_set le_rfl (by decide) (by omega) (turned (by omega)))
  · exact tag _ (alteredWithin_set (by omega) (by omega) (by omega) (turned (by omega)))
  · exact (sealed moved).2 81 _ le_rfl (by omega) (turned (by omega))

end Recipient
end KeyExport
