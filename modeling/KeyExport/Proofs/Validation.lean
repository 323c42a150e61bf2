import KeyExport.Proofs.Failure
import KeyExport.Proofs.Guards
import KeyExport.Proofs.Session.Encryption

set_option autoImplicit false

/-!
# Input is checked first

An action that validates first blames malformed input before anything has happened, or not at all.
The rules follow the steps of an action: once something has happened, only blameless steps may
come.
-/

namespace KeyExport

namespace Action

variable {α β : Type}

/-- A failure that blames malformed input comes before anything has happened. -/
def ValidatesFirst (action : Action α) : Prop :=
  ∀ source failure events, action source = ⟨.error failure, events⟩ → failure.IsInput → events = []

/-- No failure blames malformed input. -/
abbrev Blameless (action : Action α) : Prop :=
  action.FailsWithin fun failure => ¬failure.IsInput

theorem Blameless.validatesFirst {action : Action α} (blameless : Blameless action) :
    ValidatesFirst action := by
  intro source failure events failed input
  exact absurd input (blameless source failure events failed)

theorem validatesFirst_ofExcept (result : Except Failure α) :
    ValidatesFirst (ofExcept result) := by
  intro source failure events failed _
  cases failed
  rfl

theorem validatesFirst_fail (failure : Failure) : ValidatesFirst (fail failure : Action α) := by
  intro source other events failed _
  cases failed
  rfl

theorem ValidatesFirst.bind {action : Action α} {next : α → Action β}
    (first : ValidatesFirst action) (rest : ∀ value, Blameless (next value)) :
    ValidatesFirst (action >>= next) := by
  intro source failure events failed input
  rcases cases_of_bind_error failed with failed | ⟨middle, before, after, -, failed, -⟩
  · exact first source failure events failed input
  · exact absurd input (rest middle _ failure after failed)

theorem validatesFirst_ofExcept_bind {result : Except Failure α} {next : α → Action β}
    (rest : ∀ value, result = .ok value → ValidatesFirst (next value)) :
    ValidatesFirst (ofExcept result >>= next) := by
  cases result with
  | error failure => exact validatesFirst_fail failure
  | ok value => exact rest value rfl

end Action

/-- What a primitive answers is never blamed on the input. -/
theorem Settles.not_isInput {size : Nat} {category : Category} {refusals : List GeneralCategory}
    {log : String → List LogEntry} {answer : Except Fault Bytes} {outcome : Outcome Bytes}
    {failure : Failure} (settles : Settles size category refusals log answer outcome)
    (elsewhere : ¬category.Within .input) (failed : outcome.result = .error failure) :
    ¬failure.IsInput := by
  rcases settles.category_cases failed with kind | ⟨fault, -, -, kind⟩
  · exact Failure.not_isInput _ kind elsewhere
  · exact Failure.not_isInput _ kind (Category.not_within_input _)

theorem Coordinates.category_of_encode_eq_error {q : Coordinates} {failure : Failure}
    (failed : q.encode = .error failure) : failure.category = .encoding := by
  rcases q.encode_cases with ⟨-, refused⟩ | ⟨-, -, refused⟩ | ⟨-, -, encoded⟩
  · rw [refused] at failed
    cases failed
    exact category_misfit _
  · rw [refused] at failed
    cases failed
    exact category_misfit _
  · rw [encoded] at failed
    cases failed

theorem Coordinates.blameless_encode (q : Coordinates) :
    (Action.ofExcept q.encode).Blameless := by
  apply Action.failsWithin_ofExcept
  intro failure failed
  exact Failure.not_isInput .encoding (category_of_encode_eq_error failed) (by decide)

namespace KeyAgreement

open KeyExport.Action

theorem blameless_settle (answer : Except Fault Bytes) : (settle answer).Blameless := by
  intro source failure events failed
  exact (settles_settle answer source).not_isInput (by decide) (congrArg Outcome.result failed)

theorem validatesFirst_agree (exchange : Exchange) (point : Coordinates) :
    (agree exchange point).ValidatesFirst := by
  rw [agree]
  exact (validatesFirst_ofExcept _).bind fun q =>
    (failsWithin_attempt exchange q).bind blameless_settle

theorem blameless_agree (exchange : Exchange) {point : Coordinates}
    (checked : point.check = .ok point) : (agree exchange point).Blameless := by
  rw [agree, checked, ofExcept_ok_bind]
  exact (failsWithin_attempt exchange point).bind blameless_settle

end KeyAgreement

namespace KeyDerivation

open KeyExport.Action

theorem validatesFirst_derive (material : Bytes) (salt : Option Bytes) (info : Bytes)
    (length : Int) : (derive material salt info length).ValidatesFirst := by
  unfold derive
  split
  · exact validatesFirst_fail _
  · split
    · exact validatesFirst_fail _
    · apply Blameless.validatesFirst
      exact (failsWithin_compute _ _).bind fun key =>
        (failsWithin_expand key info [] 1 _).bind fun _ => failsWithin_pure _

end KeyDerivation

theorem Record.blameless_encode (r : Record) : (Action.ofExcept r.encode).Blameless := by
  apply Action.failsWithin_ofExcept
  intro failure failed
  unfold encode at failed
  split at failed
  · cases failed
  · cases failed
    exact Failure.not_isInput _ rfl (Category.not_within_input _)

theorem Sealing.blameless_encrypt (cipher : Cipher) (key nonce plaintext : Bytes) :
    (encrypt cipher key nonce plaintext).Blameless := by
  intro source failure events failed
  rcases encrypt_cases cipher key nonce plaintext source with
    ⟨-, outcome⟩ | ⟨-, -, outcome⟩ | ⟨-, -, outcome⟩
  · rw [outcome] at failed
    cases failed
    exact Failure.not_isInput .encryption rfl (by decide)
  · rw [outcome] at failed
    cases failed
    exact Failure.not_isInput .encryption rfl (by decide)
  · rw [outcome] at failed
    exact (settles_settle plaintext _ source).not_isInput (by decide)
      (congrArg Outcome.result failed)

namespace Session

open KeyExport.Action

theorem blameless_establish {recipient : RecipientKey}
    (checked : recipient.point.check = .ok recipient.point) (key : PrivateKey) :
    (establish recipient key).Blameless := by
  refine (failsWithin_compute _ _).bind ?_
  intro ephemeral
  refine ephemeral.blameless_encode.bind ?_
  intro token
  refine (KeyAgreement.blameless_agree _ checked).bind ?_
  intro secret
  refine (failsWithin_deriveSealingKey token secret).bind ?_
  intro sealingKey
  exact (failsWithin_log _).bind fun _ => failsWithin_pure _

/-- A session that does not open for its public key has done nothing. -/
theorem validatesFirst_start (publicKey : Bytes) (given : Option PrivateKey) :
    (start publicKey given).ValidatesFirst := by
  rw [start]
  apply validatesFirst_ofExcept_bind
  intro recipient decoded
  apply Blameless.validatesFirst
  exact (failsWithin_chooseEphemeral given).bind
    (blameless_establish (RecipientKey.valid_of_decode_eq_ok decoded).point)

theorem validatesFirst_startHex (text : String) : (startHex text).ValidatesFirst :=
  validatesFirst_ofExcept_bind fun publicKey _ => validatesFirst_start publicKey none

theorem validatesFirst_startFor (recipient : RecipientKey) (given : Option PrivateKey) :
    (startFor recipient given).ValidatesFirst :=
  validatesFirst_ofExcept_bind fun publicKey _ => validatesFirst_start publicKey given

variable {plaintext : Plaintext} {data : Bytes}

/-- From the check of the plaintext's type on, encryption blames no input. -/
theorem blameless_encryptRecord (s : Session) (accepted : plaintext.toBytes = .ok data) :
    (s.encryptRecord plaintext).Blameless := by
  rw [encryptRecord, accepted, ofExcept_ok_bind]
  refine failsWithin_drawNonce.bind ?_
  intro nonce
  exact (Sealing.blameless_encrypt _ _ _ _).bind fun _ => failsWithin_pure _

theorem blameless_encrypt (s : Session) (accepted : plaintext.toBytes = .ok data) :
    (s.encrypt plaintext).Blameless := by
  refine (blameless_encryptRecord s accepted).bind ?_
  intro r
  refine r.blameless_encode.bind ?_
  intro data
  exact (failsWithin_log _).bind fun _ => failsWithin_pure _

theorem encrypt_of_toBytes_eq_error {failure : Failure} (s : Session)
    (refused : plaintext.toBytes = .error failure) : s.encrypt plaintext = .fail failure := by
  rw [encrypt, encryptRecord_of_toBytes_eq_error refused]
  rfl

theorem validatesFirst_encryptRecord (s : Session) (plaintext : Plaintext) :
    (s.encryptRecord plaintext).ValidatesFirst := by
  cases type : plaintext.toBytes with
  | ok data => exact (blameless_encryptRecord s type).validatesFirst
  | error failure =>
    rw [encryptRecord_of_toBytes_eq_error type]
    exact validatesFirst_fail failure

theorem validatesFirst_encrypt (s : Session) (plaintext : Plaintext) :
    (s.encrypt plaintext).ValidatesFirst := by
  cases type : plaintext.toBytes with
  | ok data => exact (blameless_encrypt s type).validatesFirst
  | error failure =>
    rw [encrypt_of_toBytes_eq_error s type]
    exact validatesFirst_fail failure

end Session
end KeyExport
