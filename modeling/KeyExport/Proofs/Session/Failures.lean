import KeyExport.Proofs.Session.Agreement
import KeyExport.Proofs.Validation

set_option autoImplicit false

/-!
# How opening a session fails

A malformed key is reported before any ephemeral key is looked at. Of the keys that have no product
with the recipient's point, those whose public point fits into a token are refused by the key
agreement. The point of a wider key is serialized first, and fails there.
-/

namespace KeyExport

namespace PrivateKey

variable {key : PrivateKey}

/-- The coordinates of the public point fit into a token. -/
def Narrow (key : PrivateKey) : Prop :=
  key.publicCoordinates.x < 256 ^ 32 ∧ key.publicCoordinates.y < 256 ^ 32

theorem exists_publicCoordinates_eq (key : PrivateKey) :
    ∃ x y : Nat, key.publicCoordinates = ⟨x, y⟩ ∧ x < key.curve.curve.modulus ∧
      y < key.curve.curve.modulus := by
  cases point : key.scalar.point with
  | infinity =>
    refine ⟨0, 0, ?_, key.curve.curve.positive, key.curve.curve.positive⟩
    rw [publicCoordinates, point]
    rfl
  | affine x y =>
    refine ⟨x.val, y.val, ?_, x.isLt, y.isLt⟩
    rw [publicCoordinates, point]
    rfl

/-- Only two of the curves have coordinates that are wider than those of P-256. -/
theorem wide_curve (wide : ¬key.Narrow) : key.curve = .p384 ∨ key.curve = .p521 := by
  obtain ⟨x, y, coordinates, xBelow, yBelow⟩ := key.exists_publicCoordinates_eq
  have narrow (small : key.curve.curve.modulus ≤ 256 ^ 32) : key.Narrow := by
    rw [Narrow, coordinates]
    exact ⟨Int.ofNat_lt.mpr (xBelow.trans_le small), Int.ofNat_lt.mpr (yBelow.trans_le small)⟩
  cases curve : key.curve with
  | p256 => exact absurd (narrow (by rw [curve]; decide)) wide
  | p224 => exact absurd (narrow (by rw [curve]; decide)) wide
  | k256 => exact absurd (narrow (by rw [curve]; decide)) wide
  | p384 => exact .inl rfl
  | p521 => exact .inr rfl

theorem Narrow.exists_encode (narrow : key.Narrow) :
    ∃ token, key.publicCoordinates.encode = .ok token := by
  obtain ⟨x, y, coordinates, -, -⟩ := key.exists_publicCoordinates_eq
  rw [Narrow, coordinates] at narrow
  rw [coordinates]
  exact ⟨_, Coordinates.encode_natCast (Int.ofNat_lt.mp narrow.1) (Int.ofNat_lt.mp narrow.2)⟩

theorem exists_encode_of_wide (wide : ¬key.Narrow) :
    ∃ failure, key.publicCoordinates.encode = .error failure ∧ failure.category = .encoding := by
  cases encoded : key.publicCoordinates.encode with
  | error failure => exact ⟨failure, rfl, Coordinates.category_of_encode_eq_error encoded⟩
  | ok token =>
    obtain ⟨a, b, coordinates, aFits, bFits, -⟩ := Coordinates.exists_of_encode_eq_ok encoded
    apply absurd _ wide
    rw [Narrow, coordinates]
    exact ⟨Int.ofNat_lt.mpr aFits, Int.ofNat_lt.mpr bFits⟩

theorem exchange_of_foreign (foreign : key.curve ≠ .p256) (peer : Curve.p256.Point) :
    key.exchange peer = .error refusedExchange := by
  rcases key with ⟨curve, scalar⟩
  cases curve with
  | p256 => exact absurd rfl foreign
  | p224 => rfl
  | k256 => rfl
  | p384 => rfl
  | p521 => rfl

end PrivateKey

/-- The point in a serialized key never has the wrong size, so that it fails the check only. -/
theorem RecipientKey.category_of_decode_eq_error {data : Bytes} {failure : Failure}
    (failed : decode data = .error failure) :
    failure.category ∈ [.publicKeyLength, .coordinateRange, .offCurve] := by
  rcases cases_of_decode_eq_error failed with
    ⟨-, rfl⟩ | ⟨-, ⟨-, rfl⟩ | ⟨-, -, rfl⟩ | ⟨-, -, -, rfl⟩⟩
  · exact .head _
  · exact .tail _ (.head _)
  · exact .tail _ (.head _)
  · exact .tail _ (.tail _ (.head _))

namespace Session

variable {publicKey : Bytes} {given : Option PrivateKey} {recipient : RecipientKey}
  {key : PrivateKey} {failure : Failure}

theorem establish_of_wide (refused : key.publicCoordinates.encode = .error failure)
    (recipient : RecipientKey) (source : Source) :
    establish recipient key source = ⟨.error failure, [.computed .multiplication]⟩ := by
  rw [establish, Action.compute_bind_apply, refused]
  rfl

theorem establish_of_foreign (valid : recipient.Valid) (foreign : key.curve ≠ .p256)
    (narrow : key.Narrow) (source : Source) : establish recipient key source =
      ⟨.error (.agreementRefused refusedExchange.text), [.computed .multiplication,
        .computed .exchange, .logged (.agreementRefused refusedExchange.text)]⟩ := by
  obtain ⟨token, encoded⟩ := narrow.exists_encode
  obtain ⟨x, y, coordinates, onCurve⟩ := Coordinates.exists_val_of_check_eq_ok valid.point
  have refused : KeyAgreement.agree key.exchange recipient.point source =
      ⟨.error (.agreementRefused refusedExchange.text),
        [.computed .exchange, .logged (.agreementRefused refusedExchange.text)]⟩ := by
    rw [coordinates, KeyAgreement.agree_apply _ onCurve,
      PrivateKey.exchange_of_foreign foreign]
    rfl
  rw [establish, Action.compute_bind_apply, encoded, Action.ofExcept_ok_bind,
    Action.bind_eq_of_error refused]

/-- The failures that are documented for opening a session. -/
def documentedFailures : List Category :=
  [.publicKeyLength, .coordinateRange, .offCurve, .keyAgreement]

/-- How opening a session ends, for a serialized key and an ephemeral key that is given or drawn. -/
inductive Ends (publicKey : Bytes) (given : Option PrivateKey) : Outcome Session → Prop where
  | malformed {failure : Failure} (refused : RecipientKey.decode publicKey = .error failure)
    (kind : failure.category ∈ [.publicKeyLength, .coordinateRange, .offCurve]) :
    Ends publicKey given ⟨.error failure, []⟩
  | opened {recipient : RecipientKey} {s : Session} {events : List Event}
    (decoded : RecipientKey.decode publicKey = .ok recipient)
    (own : ∀ key, given = some key → key.curve = .p256) : Ends publicKey given ⟨.ok s, events⟩
  | disagreed {recipient : RecipientKey} {key : PrivateKey} {failure : Failure}
    {events : List Event} (decoded : RecipientKey.decode publicKey = .ok recipient)
    (injected : given = some key) (foreign : key.curve ≠ .p256) (narrow : key.Narrow)
    (kind : failure.category = .keyAgreement) : Ends publicKey given ⟨.error failure, events⟩
  | tooWide {recipient : RecipientKey} {key : PrivateKey} {failure : Failure}
    {events : List Event} (decoded : RecipientKey.decode publicKey = .ok recipient)
    (injected : given = some key) (wide : ¬key.Narrow)
    (curve : key.curve = .p384 ∨ key.curve = .p521)
    (kind : failure.category = .encoding) : Ends publicKey given ⟨.error failure, events⟩

theorem ends_start (publicKey : Bytes) (given : Option PrivateKey) (source : Source) :
    Ends publicKey given (start publicKey given source) := by
  cases decoded : RecipientKey.decode publicKey with
  | error failure =>
    rw [start_of_decode_eq_error decoded]
    exact .malformed decoded (RecipientKey.category_of_decode_eq_error decoded)
  | ok recipient =>
    have valid := RecipientKey.valid_of_decode_eq_ok decoded
    cases given with
    | none =>
      obtain ⟨s, events, opened, -⟩ := exists_start_eq_ok decoded none source
      rw [Option.map_none] at opened
      rw [opened]
      exact .opened decoded fun key none => by cases none
    | some key =>
      rw [start_some decoded]
      -- The point is serialized before the agreement sees the curve, so the width decides first.
      by_cases narrow : key.Narrow
      · by_cases own : key.curve = .p256
        · rcases key with ⟨curve, scalar⟩
          cases own
          obtain ⟨s, opened, -⟩ := exists_establish_eq_ok valid scalar source
          have established : establish recipient ⟨.p256, scalar⟩ source = _ := opened
          rw [established]
          exact .opened decoded fun key same => by cases same; rfl
        · rw [establish_of_foreign valid own narrow]
          exact .disagreed decoded rfl own narrow rfl
      · obtain ⟨failure, refused, kind⟩ := PrivateKey.exists_encode_of_wide narrow
        rw [establish_of_wide refused]
        exact .tooWide decoded rfl narrow (PrivateKey.wide_curve narrow) kind

/-- A key whose public point is too wide fails before the key agreement could refuse it. -/
theorem exists_start_eq_error_of_wide (decoded : RecipientKey.decode publicKey = .ok recipient)
    (wide : ¬key.Narrow) (source : Source) : ∃ failure events,
      start publicKey (some key) source = ⟨.error failure, events⟩ ∧
        failure.category ∉ documentedFailures := by
  obtain ⟨failure, refused, kind⟩ := PrivateKey.exists_encode_of_wide wide
  refine ⟨failure, [.computed .multiplication], ?_, ?_⟩
  · rw [start_some decoded, establish_of_wide refused]
  · rw [kind]
    decide

/-- Opening a session ends in one of four ways. The only failure that is not documented is met by an
ephemeral key whose public point does not fit into a token. -/
theorem undocumented_failure_iff (publicKey : Bytes) (given : Option PrivateKey)
    (source : Source) : Ends publicKey given (start publicKey given source) ∧
      ((∃ failure events, start publicKey given source = ⟨.error failure, events⟩ ∧
          failure.category ∉ documentedFailures) ↔
        (∃ recipient, RecipientKey.decode publicKey = .ok recipient) ∧
          ∃ key, given = some key ∧ ¬key.Narrow) := by
  have ends := ends_start publicKey given source
  refine ⟨ends, ?_, ?_⟩
  · rintro ⟨failure, events, failed, undocumented⟩
    rw [failed] at ends
    cases ends with
    | malformed refused kind =>
      have listed : failure.category ∈ documentedFailures :=
        List.mem_append_left [Category.keyAgreement] kind
      exact absurd listed undocumented
    | disagreed decoded injected foreign narrow kind =>
      rw [kind] at undocumented
      exact absurd (by decide) undocumented
    | tooWide decoded injected wide curve kind => exact ⟨⟨_, decoded⟩, _, injected, wide⟩
  · rintro ⟨⟨recipient, decoded⟩, key, rfl, wide⟩
    exact exists_start_eq_error_of_wide decoded wide source

/-- The scalar one on the curve of 384 bits is such an ephemeral key. -/
theorem not_documented : ¬∀ (publicKey : Bytes) (given : Option PrivateKey) (source : Source)
    (failure : Failure) (events : List Event),
    start publicKey given source = ⟨.error failure, events⟩ →
      failure.category ∈ documentedFailures := by
  intro documented
  obtain ⟨x, y, generator⟩ : ∃ x y, Curve.p256.generator = .affine x y := ⟨_, _, rfl⟩
  have onCurve := Curve.onCurve_generator
  rw [generator] at onCurve
  have wide : ¬(⟨.p384, ⟨1, by decide, by decide⟩⟩ : PrivateKey).Narrow := by
    unfold PrivateKey.Narrow
    decide +kernel
  obtain ⟨failure, events, failed, undocumented⟩ := exists_start_eq_error_of_wide
    (RecipientKey.decode_append (Bytes.length_zeros 4) onCurve) wide (.constant [] .one)
  exact undocumented (documented _ _ _ failure events failed)

end Session
end KeyExport
