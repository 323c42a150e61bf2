import KeyExport.Proofs.EntryPoint
import KeyExport.Proofs.Expansion
import KeyExport.Proofs.Session.Failures

set_option autoImplicit false

/-!
# Failures of this library

With the primitives that the library comes with, nearly every operation fails with failures of its
own: the faults of exchange and cipher are refusals, and those are reworded. What is left comes from
converting integers of any size, and there are four ways to it, one for each constructor of
`Operation.Foreign`.
-/

namespace KeyExport

section Readers

variable {failure : Failure}

theorem FixedWidth.isOwn_or_of_encode_eq_error {value length : Int}
    (failed : encode value length = .error failure) :
    failure.IsOwn ∨ length < 0 ∧ 10 ^ 4300 ≤ length.natAbs ∧ failure = .tooManyDigits length := by
  rcases cases_of_encode_eq_error failed with ⟨named, -, -, rfl⟩ | long | ⟨-, -, rfl⟩ |
    ⟨-, -, -, rfl⟩
  · exact .inl (Failure.isOwn_of_not_isForeign id)
  · exact .inr long
  · exact .inl (Failure.isOwn_of_not_isForeign id)
  · exact .inl (Failure.isOwn_of_not_isForeign id)

theorem Hex.isOwn_of_decode_eq_error {text : String} (failed : decode text = .error failure) :
    failure.IsOwn := by
  simp only [decode] at failed
  split at failed
  · cases failed
    exact Failure.isOwn_of_not_isForeign id
  · split at failed
    · cases failed
      exact Failure.isOwn_of_not_isForeign id
    · cases failed

namespace Coordinates

variable {q : Coordinates} {data : Bytes}

theorem isOwn_of_encode_eq_error (failed : q.encode = .error failure) : failure.IsOwn :=
  Failure.isOwn_of_category (category_of_encode_eq_error failed) (by decide)

theorem isOwn_of_check_eq_error (failed : q.check = .error failure) : failure.IsOwn := by
  unfold check at failed
  split_ifs at failed <;> cases failed <;> exact Failure.isOwn_of_not_isForeign id

theorem isOwn_of_decode_eq_error (failed : decode data = .error failure) : failure.IsOwn := by
  by_cases size : data.length = Sizes.point
  · rw [decode_of_size size] at failed
    exact isOwn_of_check_eq_error failed
  · rw [decode, if_pos size] at failed
    cases failed
    exact Failure.isOwn_of_not_isForeign id

end Coordinates

namespace RecipientKey

theorem isOwn_of_decode_eq_error {data : Bytes} (failed : decode data = .error failure) :
    failure.IsOwn := by
  have each : ∀ category ∈ [Category.publicKeyLength, .coordinateRange, .offCurve],
      category.Within .failure := by decide
  exact each _ (category_of_decode_eq_error failed)

theorem isOwn_of_encode_eq_error {key : RecipientKey} (failed : key.encode = .error failure) :
    failure.IsOwn := by
  unfold encode at failed
  cases written : key.point.encode with
  | error other =>
    rw [written] at failed
    cases failed
    exact Coordinates.isOwn_of_encode_eq_error written
  | ok point =>
    rw [written] at failed
    cases failed

theorem isOwn_of_toBytes_eq_error {input : PublicKeyInput}
    (failed : input.toBytes = .error failure) : failure.IsOwn := by
  cases input with
  | bytes data => cases failed
  | hex text => exact Hex.isOwn_of_decode_eq_error failed

theorem isOwn_of_read_eq_error {input : PublicKeyInput} (failed : read input = .error failure) :
    failure.IsOwn := by
  unfold read at failed
  cases taken : input.toBytes with
  | error other =>
    rw [taken] at failed
    cases failed
    exact isOwn_of_toBytes_eq_error taken
  | ok data =>
    rw [taken] at failed
    exact isOwn_of_decode_eq_error failed

end RecipientKey

theorem PrivateKey.isOwn_of_decode_eq_error {data : Bytes}
    (failed : decode data = .error failure) : failure.IsOwn := by
  rcases cases_of_decode_eq_error failed with ⟨-, rfl⟩ | ⟨-, -, rfl⟩ <;>
    exact Failure.isOwn_of_not_isForeign id

theorem Plaintext.isOwn_of_toBytes_eq_error {plaintext : Plaintext}
    (failed : plaintext.toBytes = .error failure) : failure.IsOwn := by
  cases plaintext with
  | bytes data => cases failed
  | text value =>
    cases failed
    exact Failure.isOwn_of_not_isForeign id
  | other typeName =>
    cases failed
    exact Failure.isOwn_of_not_isForeign id

namespace Record

variable {data : Bytes} {r : Record}

theorem isOwn_of_decode_eq_error (failed : decode data = .error failure) : failure.IsOwn := by
  rcases decode_cases data with ⟨-, outcome⟩ | ⟨-, version, rest, -, ⟨-, outcome⟩ | ⟨-, outcome⟩⟩
  · rw [outcome] at failed
    cases failed
    exact Failure.isOwn_of_not_isForeign id
  · rw [outcome] at failed
    cases failed
    exact Failure.isOwn_of_not_isForeign id
  · rw [outcome] at failed
    cases failed

theorem isOwn_of_ofBytes_eq_error (failed : RecordInfo.ofBytes data = .error failure) :
    failure.IsOwn := by
  unfold RecordInfo.ofBytes RecordSummary.ofBytes at failed
  cases read : decode data with
  | error other =>
    rw [read] at failed
    cases failed
    exact isOwn_of_decode_eq_error read
  | ok r =>
    rw [read] at failed
    cases failed

/-- Only the version is converted into a byte, and only this can fail. -/
theorem encode_eq_error_iff : r.encode = .error failure ↔
    ¬(0 ≤ r.version ∧ r.version < 256) ∧ failure = .versionNotByte r.version := by
  by_cases byte : 0 ≤ r.version ∧ r.version < 256
  · simp [encode, byte]
  · simp [encode, byte, eq_comm]

end Record

end Readers

section Actions

open KeyExport.Action

theorem KeyDerivation.failsWithin_derive (material : Bytes) (salt : Option Bytes) (info : Bytes)
    (length : Int) : (derive material salt info length).FailsWithin fun failure =>
      failure.IsOwn ∨ 10 ^ 4300 ≤ length.natAbs ∧ failure = .tooManyDigits length := by
  rcases derive_cases material salt info length with ⟨named, -, -, refused⟩ |
    ⟨named, -, -, refused⟩ | ⟨digits, -, refused⟩ | ⟨positive, bounded⟩
  · rw [refused]
    exact failsWithin_fail (.inl (Failure.isOwn_of_not_isForeign id))
  · rw [refused]
    exact failsWithin_fail (.inl (Failure.isOwn_of_not_isForeign id))
  · rw [refused]
    exact failsWithin_fail (.inr ⟨digits, rfl⟩)
  · intro source failure events failed
    rw [(derive_of_bounds material salt info positive bounded).2] at failed
    cases failed

/-- Where all faults of a primitive are refusals, no fault is handed on. -/
theorem Settles.isOwn {size : Nat} {category : Category} {refusals : List GeneralCategory}
    {log : String → List LogEntry} {answer : Except Fault Bytes} {outcome : Outcome Bytes}
    {failure : Failure} (settles : Settles size category refusals log answer outcome)
    (own : category.Within .failure)
    (refusal : ∀ fault, answer = .error fault → fault.category ∈ refusals)
    (failed : outcome.result = .error failure) : failure.IsOwn := by
  rcases settles.category_cases failed with kind | ⟨fault, faulted, unlisted, -⟩
  · exact Failure.isOwn_of_category kind own
  · exact absurd (refusal fault faulted) unlisted

namespace KeyAgreement

/-- The exchange of a private key refuses, and has no other fault. -/
theorem category_of_exchange_eq_error {key : PrivateKey} {peer : Curve.p256.Point} {fault : Fault}
    (failed : key.exchange peer = .error fault) : fault.category = .invalidValue := by
  have refused : fault = refusedExchange := by
    by_cases own : key.curve = .p256
    · rcases key with ⟨curve, scalar⟩
      cases own
      simp only [PrivateKey.exchange] at failed
      split at failed <;> cases failed
      rfl
    · rw [PrivateKey.exchange_of_foreign own] at failed
      cases failed
      rfl
  rw [refused]
  rfl

theorem failsWithin_agree (key : PrivateKey) (point : Coordinates) :
    (agree key.exchange point).FailsWithin Failure.IsOwn := by
  intro source failure events failed
  rcases agree_cases key.exchange point source with ⟨other, refused, outcome⟩ | ⟨peer, -, -, outcome⟩
  · rw [outcome] at failed
    cases failed
    exact Coordinates.isOwn_of_check_eq_error refused
  · rw [outcome] at failed
    apply (settles_settle (key.exchange peer) source).isOwn (by decide) _
      (congrArg Outcome.result failed)
    intro fault refused
    exact List.mem_singleton.mpr (category_of_exchange_eq_error refused)

end KeyAgreement

namespace Sealing

/-- The cipher refuses what is too long, and has no other fault. -/
theorem category_of_aesGcm_eq_error {key nonce plaintext : Bytes} {fault : Fault}
    (failed : aesGcm key nonce plaintext = .error fault) : fault.category = .overflow := by
  unfold aesGcm at failed
  split at failed <;> cases failed
  rfl

theorem failsWithin_encrypt (key nonce plaintext : Bytes) :
    (encrypt aesGcm key nonce plaintext).FailsWithin Failure.IsOwn := by
  intro source failure events failed
  rcases encrypt_cases aesGcm key nonce plaintext source with
    ⟨-, outcome⟩ | ⟨-, -, outcome⟩ | ⟨-, -, outcome⟩
  · rw [outcome] at failed
    cases failed
    exact Failure.isOwn_of_not_isForeign id
  · rw [outcome] at failed
    cases failed
    exact Failure.isOwn_of_not_isForeign id
  · rw [outcome] at failed
    apply (settles_settle plaintext (aesGcm key nonce plaintext) source).isOwn (by decide) _
      (congrArg Outcome.result failed)
    intro fault refused
    rw [category_of_aesGcm_eq_error refused]
    decide

end Sealing

namespace Session

theorem failsWithin_establish (recipient : RecipientKey) (key : PrivateKey) :
    (establish recipient key).FailsWithin Failure.IsOwn := by
  refine (failsWithin_compute _ _).bind ?_
  intro ephemeral
  refine (failsWithin_ofExcept fun _ => Coordinates.isOwn_of_encode_eq_error).bind ?_
  intro token
  refine (KeyAgreement.failsWithin_agree key recipient.point).bind ?_
  intro secret
  refine (failsWithin_deriveSealingKey token secret).bind ?_
  intro sealingKey
  exact (failsWithin_log _).bind fun _ => failsWithin_pure _

theorem failsWithin_start (publicKey : Bytes) (given : Option PrivateKey) :
    (start publicKey given).FailsWithin Failure.IsOwn := by
  rw [start]
  refine (failsWithin_ofExcept fun _ => RecipientKey.isOwn_of_decode_eq_error).bind ?_
  intro recipient
  exact (failsWithin_chooseEphemeral given).bind (failsWithin_establish recipient)

theorem failsWithin_startHex (text : String) :
    (startHex text).FailsWithin Failure.IsOwn :=
  (failsWithin_ofExcept fun _ => Hex.isOwn_of_decode_eq_error).bind fun publicKey =>
    failsWithin_start publicKey none

theorem failsWithin_startFor (recipient : RecipientKey) (given : Option PrivateKey) :
    (startFor recipient given).FailsWithin Failure.IsOwn :=
  (failsWithin_ofExcept fun _ => RecipientKey.isOwn_of_encode_eq_error).bind fun publicKey =>
    failsWithin_start publicKey given

theorem failsWithin_encryptRecord (s : Session) (plaintext : Plaintext) :
    (s.encryptRecord plaintext).FailsWithin Failure.IsOwn := by
  refine (failsWithin_ofExcept fun _ => Plaintext.isOwn_of_toBytes_eq_error).bind ?_
  intro data
  refine failsWithin_drawNonce.bind ?_
  intro nonce
  exact (Sealing.failsWithin_encrypt _ _ _).bind fun _ => failsWithin_pure _

/-- A session writes the current version, whatever it holds. -/
theorem version_of_encryptRecord_eq_ok {s : Session} {plaintext : Plaintext} {source : Source}
    {r : Record} {events : List Event} (made : s.encryptRecord plaintext source = ⟨.ok r, events⟩) :
    r.version = 0 := by
  obtain ⟨data, -, made⟩ := ofExcept_bind_eq_ok made
  obtain ⟨nonce, _, _, -, made, -⟩ := exists_of_bind_ok made
  obtain ⟨ciphertext, _, _, -, made, -⟩ := exists_of_bind_ok made
  cases made
  rfl

theorem failsWithin_encrypt (s : Session) (plaintext : Plaintext) :
    (s.encrypt plaintext).FailsWithin Failure.IsOwn := by
  refine (failsWithin_encryptRecord s plaintext).bind_of ?_
  intro source r events made
  -- The session has set the version itself, so that no failure to write is left.
  have written : ∀ failure, r.encode = .error failure → failure.IsOwn := by
    intro failure failed
    have version := (Record.encode_eq_error_iff.mp failed).1
    rw [version_of_encryptRecord_eq_ok made] at version
    exact absurd (by decide) version
  exact (failsWithin_ofExcept written).bind fun _ =>
    (failsWithin_log _).bind fun _ => failsWithin_pure _

end Session

theorem failsWithin_encryptOnce (publicKey : PublicKeyInput) (plaintext : Plaintext) :
    (encryptOnce publicKey plaintext).FailsWithin Failure.IsOwn := by
  refine (failsWithin_ofExcept fun _ => RecipientKey.isOwn_of_toBytes_eq_error).bind ?_
  intro data
  exact (Session.failsWithin_start data none).bind fun s => s.failsWithin_encrypt plaintext

theorem Action.FailsWithin.ignore {α : Type} {allowed : Failure → Prop} {action : Action α}
    (fails : action.FailsWithin allowed) : action.ignore.FailsWithin allowed :=
  fails.bind fun _ => failsWithin_pure ()

end Actions

/-- The operations of the library with the primitives that it comes with: the entry points, where
only private keys take part in an exchange, and the steps that can be called on their own. -/
inductive Operation where
  | encodeNumber (value length : Int)
  | encodePoint (q : Coordinates)
  | decodePoint (data : Bytes)
  | checkPoint (q : Coordinates)
  | decodeHex (text : String)
  | sealBytes (key nonce plaintext : Bytes)
  | encodeRecord (r : Record)
  | describeRecord (data : Bytes)
  | call (entry : EntryPoint)
    (genuine : ∀ exchange point, entry = .agree exchange point →
      ∃ key : PrivateKey, exchange = key.exchange)

theorem EntryPoint.failsWithin_perform {entry : EntryPoint}
    (genuine : ∀ exchange point, entry = .agree exchange point →
      ∃ key : PrivateKey, exchange = key.exchange)
    (other : ∀ material salt info length, entry ≠ .derive material salt info length) :
    entry.perform.FailsWithin Failure.IsOwn := by
  cases entry with
  | derive material salt info length => exact absurd rfl (other material salt info length)
  | readKey input =>
    exact (Action.failsWithin_ofExcept fun _ => RecipientKey.isOwn_of_read_eq_error).ignore
  | decodePrivateKey data =>
    exact (Action.failsWithin_ofExcept fun _ => PrivateKey.isOwn_of_decode_eq_error).ignore
  | agree exchange point =>
    obtain ⟨key, rfl⟩ := genuine exchange point rfl
    exact (KeyAgreement.failsWithin_agree key point).ignore
  | decodeRecord data =>
    exact (Action.failsWithin_ofExcept fun _ => Record.isOwn_of_decode_eq_error).ignore
  | start publicKey given => exact (Session.failsWithin_start publicKey given).ignore
  | startHex text => exact (Session.failsWithin_startHex text).ignore
  | startFor recipient given => exact (Session.failsWithin_startFor recipient given).ignore
  | encrypt s plaintext => exact (s.failsWithin_encrypt plaintext).ignore
  | encryptRecord s plaintext => exact (s.failsWithin_encryptRecord plaintext).ignore
  | encryptOnce publicKey plaintext => exact (failsWithin_encryptOnce publicKey plaintext).ignore

namespace Operation

def perform : Operation → Action Unit
  | .encodeNumber value length =>
    (Action.ofExcept (FixedWidth.encodeWithin Sizes.maxBytes value length)).ignore
  | .encodePoint q => (Action.ofExcept q.encode).ignore
  | .decodePoint data => (Action.ofExcept (Coordinates.decode data)).ignore
  | .checkPoint q => (Action.ofExcept q.check).ignore
  | .decodeHex text => (Action.ofExcept (Hex.decode text)).ignore
  | .sealBytes key nonce plaintext => (Sealing.encrypt Sealing.aesGcm key nonce plaintext).ignore
  | .encodeRecord r => (Action.ofExcept r.encode).ignore
  | .describeRecord data => (Action.ofExcept (RecordInfo.ofBytes data)).ignore
  | .call entry _ => entry.perform

/-- The ways in which an operation fails with a failure that is not the library's own. -/
inductive Foreign : Operation → Failure → Prop
  /-- The version of a record is no byte. -/
  | version {r : Record} (noByte : ¬(0 ≤ r.version ∧ r.version < 256)) :
    Foreign (.encodeRecord r) (.versionNotByte r.version)
  /-- The length of a derived key is to be named and cannot be written. -/
  | derivedLength (material : Bytes) (salt : Option Bytes) (info : Bytes) {length : Int}
    (digits : 10 ^ 4300 ≤ length.natAbs) (genuine) :
    Foreign (.call (.derive material salt info length) genuine) (.tooManyDigits length)
  /-- A negative length of a code is to be named and cannot be written. -/
  | negativeLength (value : Int) {length : Int} (negative : length < 0)
    (digits : 10 ^ 4300 ≤ length.natAbs) :
    Foreign (.encodeNumber value length) (.tooManyDigits length)
  /-- A number fits its length, and no byte string has that length. -/
  | longCode {value length : Int} (nonneg : 0 ≤ value) (fits : value < 256 ^ length.toNat)
    (long : Sizes.maxBytes < length) :
    Foreign (.encodeNumber value length) (.tooManyBytes length.toNat)

variable {operation : Operation} {source : Source} {failure : Failure} {events : List Event}

theorem Foreign.not_isOwn (foreign : Foreign operation failure) : ¬failure.IsOwn := by
  cases foreign <;> exact Failure.isForeign_iff_not_isOwn.mp trivial

theorem perform_encodeNumber_eq_error {value length : Int}
    (refused : FixedWidth.encodeWithin Sizes.maxBytes value length = .error failure)
    (source : Source) :
    (encodeNumber value length).perform source = ⟨.error failure, []⟩ := by
  rw [perform, Action.ignore_eq_error_iff, refused]
  rfl

/-- In each of these ways nothing happens before the failure. -/
theorem Foreign.perform_eq (foreign : Foreign operation failure) (source : Source) :
    operation.perform source = ⟨.error failure, []⟩ := by
  cases foreign with
  | version noByte =>
    rw [perform, Action.ignore_eq_error_iff, Record.encode_eq_error_iff.mpr ⟨noByte, rfl⟩]
    rfl
  | derivedLength material salt info digits genuine =>
    rw [perform, EntryPoint.perform, Action.ignore_eq_error_iff]
    exact KeyDerivation.derive_eq_tooManyDigits_iff.mpr digits
  | negativeLength value negative digits =>
    exact perform_encodeNumber_eq_error (FixedWidth.encodeWithin_of_encode_eq_error
      (FixedWidth.encode_of_long value negative digits)) source
  | longCode nonneg fits long =>
    obtain ⟨data, written⟩ :=
      FixedWidth.exists_encode_iff.mpr ⟨(Int.natCast_nonneg _).trans long.le, nonneg, fits⟩
    apply perform_encodeNumber_eq_error
    rw [FixedWidth.encodeWithin_of_encode_eq_ok written, if_pos (Int.lt_toNat.mpr long)]

/-- Of what goes wrong with a number, the library reports all but this itself. -/
theorem isOwn_or_foreign_of_encodeWithin_eq_error {value length : Int}
    (failed : FixedWidth.encodeWithin Sizes.maxBytes value length = .error failure) :
    failure.IsOwn ∨ Foreign (encodeNumber value length) failure := by
  cases outcome : FixedWidth.encode value length with
  | error other =>
    rw [FixedWidth.encodeWithin_of_encode_eq_error outcome] at failed
    cases failed
    rcases FixedWidth.isOwn_or_of_encode_eq_error outcome with own | ⟨negative, digits, rfl⟩
    · exact .inl own
    · exact .inr (.negativeLength value negative digits)
  | ok data =>
    rw [FixedWidth.encodeWithin_of_encode_eq_ok outcome] at failed
    by_cases long : Sizes.maxBytes < length.toNat
    · rw [if_pos long] at failed
      cases failed
      obtain ⟨-, nonneg, fits⟩ := FixedWidth.exists_encode_iff.mp ⟨data, outcome⟩
      exact .inr (.longCode nonneg fits (Int.lt_toNat.mp long))
    · rw [if_neg long] at failed
      cases failed

theorem failsWithin_perform (operation : Operation) :
    operation.perform.FailsWithin fun failure => failure.IsOwn ∨ Foreign operation failure := by
  cases operation with
  | encodeNumber value length =>
    exact (Action.failsWithin_ofExcept fun _ => isOwn_or_foreign_of_encodeWithin_eq_error).ignore
  | encodePoint q =>
    exact (Action.failsWithin_ofExcept fun _ =>
      Coordinates.isOwn_of_encode_eq_error).ignore.mono fun _ => .inl
  | decodePoint data =>
    exact (Action.failsWithin_ofExcept fun _ =>
      Coordinates.isOwn_of_decode_eq_error).ignore.mono fun _ => .inl
  | checkPoint q =>
    exact (Action.failsWithin_ofExcept fun _ =>
      Coordinates.isOwn_of_check_eq_error).ignore.mono fun _ => .inl
  | decodeHex text =>
    exact (Action.failsWithin_ofExcept fun _ =>
      Hex.isOwn_of_decode_eq_error).ignore.mono fun _ => .inl
  | sealBytes key nonce plaintext =>
    exact (Sealing.failsWithin_encrypt key nonce plaintext).ignore.mono fun _ => .inl
  | encodeRecord r =>
    refine (Action.failsWithin_ofExcept fun _ failed => ?_).ignore
    obtain ⟨noByte, rfl⟩ := Record.encode_eq_error_iff.mp failed
    exact .inr (.version noByte)
  | describeRecord data =>
    exact (Action.failsWithin_ofExcept fun _ =>
      Record.isOwn_of_ofBytes_eq_error).ignore.mono fun _ => .inl
  | call entry genuine =>
    by_cases derives : ∃ material salt info length, entry = .derive material salt info length
    · obtain ⟨material, salt, info, length, rfl⟩ := derives
      refine (KeyDerivation.failsWithin_derive material salt info length).ignore.mono ?_
      rintro failure (own | ⟨digits, rfl⟩)
      · exact .inl own
      · exact .inr (.derivedLength material salt info digits genuine)
    · refine (EntryPoint.failsWithin_perform genuine ?_).mono fun _ => .inl
      exact fun material salt info length same => derives ⟨material, salt, info, length, same⟩

/-- The ways of `Foreign` are all in which a failure does not belong to the library, and nothing
happens before it. -/
theorem foreign_failure_iff (operation : Operation) (source : Source) (failure : Failure)
    (events : List Event) :
    operation.perform source = ⟨.error failure, events⟩ ∧ ¬failure.IsOwn ↔
      Foreign operation failure ∧ events = [] := by
  constructor
  · rintro ⟨failed, other⟩
    rcases failsWithin_perform operation source failure events failed with own | foreign
    · exact absurd own other
    · have silent := foreign.perform_eq source
      rw [failed] at silent
      exact ⟨foreign, congrArg Outcome.events silent⟩
  · rintro ⟨foreign, rfl⟩
    exact ⟨foreign.perform_eq source, foreign.not_isOwn⟩

/-- The version 256 is no byte. -/
theorem not_always_own : ¬∀ (operation : Operation) (source : Source) (failure : Failure)
    (events : List Event), operation.perform source = ⟨.error failure, events⟩ →
      failure.IsOwn := by
  intro own
  have foreign : Foreign (.encodeRecord ⟨256, [], [], [], []⟩) (.versionNotByte 256) :=
    .version (by decide)
  exact foreign.not_isOwn (own _ (.constant [] .one) _ _ (foreign.perform_eq _))

end Operation
end KeyExport
