import KeyExport.Proofs.Hex
import KeyExport.Proofs.Session.Agreement

set_option autoImplicit false

/-!
# All ways to open a session agree

A hexadecimal text opens what its bytes open, and a recipient key that was read opens what it was
read from. A recipient key that nobody has read is serialized and read first, so that it opens a
session exactly when it is valid; a key id of the wrong length is refused before a byte of it can
be taken for one of the point.
-/

namespace KeyExport.Session

variable {recipient : RecipientKey} {data : Bytes} {source : Source}

theorem startHex_eq_start {text : String} (renders : Hex.Renders text data) :
    startHex text = start data none := by
  rw [startHex, Hex.decode_of_renders renders, Action.ofExcept_ok_bind]

theorem startFor_eq_start (encoded : recipient.encode = .ok data) (given : Option PrivateKey) :
    startFor recipient given = start data given := by
  rw [startFor, encoded, Action.ofExcept_ok_bind]

theorem exists_startFor_eq_ok (valid : recipient.Valid) (given : Option Curve.p256.Scalar)
    (source : Source) : ∃ s events,
      startFor recipient (given.map .ofScalar) source = ⟨.ok s, events⟩ ∧
        s.Agreed recipient (given.getD (source.ephemeral 0)) := by
  obtain ⟨data, encoded, decoded⟩ := valid.exists_encode
  rw [startFor_eq_start encoded]
  exact exists_start_eq_ok decoded given source

/-- An invalid recipient key fails before anything happens, whatever ephemeral key is given. -/
theorem startFor_of_not_valid (invalid : ¬recipient.Valid) (given : Option PrivateKey) :
    ∃ failure, startFor recipient given = .fail failure := by
  cases encoded : recipient.encode with
  | error failure =>
    refine ⟨failure, ?_⟩
    rw [startFor, encoded, Action.ofExcept_error_bind]
  | ok data =>
    rw [startFor_eq_start encoded]
    cases decoded : RecipientKey.decode data with
    | error failure => exact ⟨failure, start_of_decode_eq_error decoded given⟩
    | ok read => exact absurd ((RecipientKey.decode_encode_eq_ok_iff encoded).mp decoded).1 invalid

theorem startFor_of_wrong_keyId (wrong : recipient.keyId.length ≠ Sizes.keyId)
    (encoded : recipient.encode = .ok data) (given : Option PrivateKey) :
    startFor recipient given =
      .fail (.wrongSize .publicKey (recipient.keyId.length + Sizes.point)) := by
  rw [startFor_eq_start encoded,
    start_of_decode_eq_error (RecipientKey.decode_of_encode_of_wrong_keyId wrong encoded)]

/-- From a text, from bytes or from a key that was read, a session opens in one and the same way,
down to what is drawn, computed and logged; and for a key that was read it does open. A recipient
key that nobody has read opens a session exactly when it has a key id of four bytes and a point
that passes the check. Then the session has agreed with exactly this point; otherwise nothing has
happened, and a key id of another length is what is reported whenever the point can be written. -/
theorem openings_agree :
    (∀ (data : Bytes) (text : String), Hex.Renders text data → startHex text = start data none) ∧
      (∀ (data : Bytes) (recipient : RecipientKey), RecipientKey.decode data = .ok recipient →
        (∀ given : Option PrivateKey, startFor recipient given = start data given) ∧
          ∀ (given : Option Curve.p256.Scalar) (source : Source), ∃ s events,
            start data (given.map .ofScalar) source = ⟨.ok s, events⟩) ∧
      ∀ (recipient : RecipientKey) (given : Option Curve.p256.Scalar) (source : Source),
        ((∃ s events, startFor recipient (given.map .ofScalar) source = ⟨.ok s, events⟩) ↔
          recipient.keyId.length = 4 ∧ recipient.point.check = .ok recipient.point) ∧
        (∀ s events, startFor recipient (given.map .ofScalar) source = ⟨.ok s, events⟩ →
          s.Agreed recipient (given.getD (source.ephemeral 0))) ∧
        (∀ failure events, startFor recipient (given.map .ofScalar) source =
          ⟨.error failure, events⟩ → events = []) ∧
        (recipient.keyId.length ≠ 4 → ∀ point, recipient.point.encode = .ok point →
          startFor recipient (given.map .ofScalar) source =
            ⟨.error (.wrongSize .publicKey (recipient.keyId.length + 64)), []⟩) := by
  refine ⟨fun _ _ => startHex_eq_start, ?_, ?_⟩
  · intro data recipient decoded
    refine ⟨startFor_eq_start (RecipientKey.encode_of_decode_eq_ok decoded), ?_⟩
    intro given source
    obtain ⟨s, events, opened, -⟩ := exists_start_eq_ok decoded given source
    exact ⟨s, events, opened⟩
  · intro recipient given source
    by_cases valid : recipient.Valid
    · obtain ⟨t, log, opened, agreed⟩ := exists_startFor_eq_ok valid given source
      refine ⟨⟨fun _ => ⟨valid.keyId, valid.point⟩, fun _ => ⟨t, log, opened⟩⟩, ?_, ?_, ?_⟩
      · intro s events h
        rw [opened] at h
        cases h
        exact agreed
      · intro failure events h
        rw [opened] at h
        cases h
      · intro wrong
        exact absurd valid.keyId wrong
    · obtain ⟨failure, failed⟩ := startFor_of_not_valid valid (given.map .ofScalar)
      refine ⟨⟨?_, fun ⟨keyId, point⟩ => absurd ⟨keyId, point⟩ valid⟩, ?_, ?_, ?_⟩
      · rintro ⟨s, events, h⟩
        rw [failed] at h
        cases h
      · intro s events h
        rw [failed] at h
        cases h
      · intro other events h
        rw [failed] at h
        cases h
        rfl
      · intro wrong point encoded
        have whole := RecipientKey.encode_eq_ok_iff.mpr ⟨point, encoded, rfl⟩
        rw [startFor_of_wrong_keyId wrong whole]
        rfl

end KeyExport.Session
