import KeyExport.Proofs.Recipient
import KeyExport.Proofs.Validation

set_option autoImplicit false

/-!
# Entry points

The calls that a user of the library can make. All but one validate first. Encrypting in one call
opens a session before it looks at the plaintext, so that a plaintext of the wrong type is blamed
only after an ephemeral key was drawn and used.
-/

namespace KeyExport

inductive EntryPoint where
  | derive (material : Bytes) (salt : Option Bytes) (info : Bytes) (length : Int)
  | readKey (input : PublicKeyInput)
  | decodePrivateKey (data : Bytes)
  | agree (exchange : Exchange) (point : Coordinates)
  | decodeRecord (data : Bytes)
  | start (publicKey : Bytes) (given : Option PrivateKey)
  | startHex (text : String)
  | startFor (recipient : RecipientKey) (given : Option PrivateKey)
  | encrypt (s : Session) (plaintext : Plaintext)
  | encryptRecord (s : Session) (plaintext : Plaintext)
  | encryptOnce (publicKey : PublicKeyInput) (plaintext : Plaintext)

namespace Action

/-- The same action, its value left aside. -/
def ignore {α : Type} (action : Action α) : Action Unit :=
  action >>= fun _ => pure ()

theorem ValidatesFirst.ignore {α : Type} {action : Action α} (first : ValidatesFirst action) :
    ValidatesFirst action.ignore :=
  first.bind fun _ => failsWithin_pure ()

theorem ignore_eq_error_iff {α : Type} {action : Action α} {source : Source} {failure : Failure}
    {events : List Event} : action.ignore source = ⟨.error failure, events⟩ ↔
      action source = ⟨.error failure, events⟩ := by
  constructor
  · intro failed
    rcases cases_of_bind_error failed with failed | ⟨value, before, after, -, failed, -⟩
    · exact failed
    · cases failed
  · intro failed
    exact bind_eq_of_error failed _

end Action

namespace EntryPoint

def perform : EntryPoint → Action Unit
  | .derive material salt info length => (KeyDerivation.derive material salt info length).ignore
  | .readKey input => (Action.ofExcept (RecipientKey.read input)).ignore
  | .decodePrivateKey data => (Action.ofExcept (PrivateKey.decode data)).ignore
  | .agree exchange point => (KeyAgreement.agree exchange point).ignore
  | .decodeRecord data => (Action.ofExcept (Record.decode data)).ignore
  | .start publicKey given => (Session.start publicKey given).ignore
  | .startHex text => (Session.startHex text).ignore
  | .startFor recipient given => (Session.startFor recipient given).ignore
  | .encrypt s plaintext => (s.encrypt plaintext).ignore
  | .encryptRecord s plaintext => (s.encryptRecord plaintext).ignore
  | .encryptOnce publicKey plaintext => (KeyExport.encryptOnce publicKey plaintext).ignore

theorem validatesFirst_perform {call : EntryPoint}
    (other : ∀ publicKey plaintext, call ≠ .encryptOnce publicKey plaintext) :
    call.perform.ValidatesFirst := by
  cases call with
  | derive material salt info length =>
    exact (KeyDerivation.validatesFirst_derive material salt info length).ignore
  | readKey input => exact (Action.validatesFirst_ofExcept _).ignore
  | decodePrivateKey data => exact (Action.validatesFirst_ofExcept _).ignore
  | agree exchange point => exact (KeyAgreement.validatesFirst_agree exchange point).ignore
  | decodeRecord data => exact (Action.validatesFirst_ofExcept _).ignore
  | start publicKey given => exact (Session.validatesFirst_start publicKey given).ignore
  | startHex text => exact (Session.validatesFirst_startHex text).ignore
  | startFor recipient given => exact (Session.validatesFirst_startFor recipient given).ignore
  | encrypt s plaintext => exact (s.validatesFirst_encrypt plaintext).ignore
  | encryptRecord s plaintext => exact (s.validatesFirst_encryptRecord plaintext).ignore
  | encryptOnce publicKey plaintext => exact absurd rfl (other publicKey plaintext)

end EntryPoint

theorem Plaintext.isInput_of_toBytes_eq_error {plaintext : Plaintext} {failure : Failure}
    (refused : plaintext.toBytes = .error failure) : failure.IsInput := by
  have input (typeName : String) : (Failure.plaintextType typeName).IsInput := by
    have within : Category.inputType.Within .input := by decide
    exact within
  cases plaintext with
  | bytes data => cases refused
  | text value =>
    cases refused
    exact input "str"
  | other typeName =>
    cases refused
    exact input typeName

theorem Session.mem_events_of_start_none_eq_ok {publicKey : Bytes} {source : Source} {s : Session}
    {log : List Event} (opened : start publicKey none source = ⟨.ok s, log⟩) :
    .drew .ephemeral ∈ log := by
  have parsed := opened
  rw [start] at parsed
  obtain ⟨recipient, decoded, -⟩ := Action.ofExcept_bind_eq_ok parsed
  rw [start_none_apply decoded] at opened
  have same := congrArg Outcome.events opened
  simp only at same
  rw [← same]
  exact List.mem_cons_self

section EncryptOnce

variable {publicKey : PublicKeyInput} {plaintext : Plaintext} {data : Bytes} {source : Source}
  {s : Session} {log events : List Event} {failure : Failure}

/-- A plaintext of the wrong type is blamed once the session is open. -/
theorem encryptOnce_of_refused (read : publicKey.toBytes = .ok data)
    (opened : Session.start data none source = ⟨.ok s, log⟩)
    (refused : plaintext.toBytes = .error failure) :
    encryptOnce publicKey plaintext source = ⟨.error failure, log⟩ := by
  rw [encryptOnce, read, Action.ofExcept_ok_bind, Action.bind_eq_of_ok opened,
    s.encrypt_of_toBytes_eq_error refused, Action.fail_apply, List.append_nil]

theorem exists_of_encryptOnce_eq_error
    (failed : encryptOnce publicKey plaintext source = ⟨.error failure, events⟩)
    (input : failure.IsInput) (happened : events ≠ []) :
    ∃ data s log, publicKey.toBytes = .ok data ∧
      Session.start data none source = ⟨.ok s, log⟩ ∧ plaintext.toBytes = .error failure := by
  cases read : publicKey.toBytes with
  | error other =>
    rw [encryptOnce, read] at failed
    cases failed
    exact absurd rfl happened
  | ok data =>
    rw [encryptOnce, read, Action.ofExcept_ok_bind] at failed
    rcases Action.cases_of_bind_error failed with failed | ⟨s, log, rest, opened, failed, -⟩
    · exact absurd (Session.validatesFirst_start data none source failure events failed input)
        happened
    · cases type : plaintext.toBytes with
      | ok bytes => exact absurd input (s.blameless_encrypt type _ failure rest failed)
      | error other =>
        rw [s.encrypt_of_toBytes_eq_error type] at failed
        cases failed
        exact ⟨data, s, log, rfl, opened, rfl⟩

end EncryptOnce

namespace EntryPoint

/-- Exactly one way leads to a failure that blames malformed input after something has happened:
encrypting in one call, with a key for which a session opens and a plaintext of the wrong type.
Then all has happened that opening the session takes. -/
theorem late_input_failure_iff (call : EntryPoint) (source : Source) (failure : Failure)
    (events : List Event) :
    call.perform source = ⟨.error failure, events⟩ ∧ failure.IsInput ∧ events ≠ [] ↔
      ∃ publicKey plaintext data s, call = .encryptOnce publicKey plaintext ∧
        publicKey.toBytes = .ok data ∧ Session.start data none source = ⟨.ok s, events⟩ ∧
        plaintext.toBytes = .error failure := by
  constructor
  · rintro ⟨failed, input, happened⟩
    -- The other ten calls validate first and cannot fail this way.
    by_cases once : ∃ publicKey plaintext, call = .encryptOnce publicKey plaintext
    · obtain ⟨publicKey, plaintext, rfl⟩ := once
      have failed := Action.ignore_eq_error_iff.mp failed
      obtain ⟨data, s, log, read, opened, refused⟩ :=
        exists_of_encryptOnce_eq_error failed input happened
      rw [encryptOnce_of_refused read opened refused] at failed
      cases failed
      exact ⟨publicKey, plaintext, data, s, rfl, read, opened, refused⟩
    · have first := validatesFirst_perform fun publicKey plaintext same =>
        once ⟨publicKey, plaintext, same⟩
      exact absurd (first source failure events failed input) happened
  · rintro ⟨publicKey, plaintext, data, s, rfl, read, opened, refused⟩
    have failed := encryptOnce_of_refused read opened refused
    refine ⟨Action.ignore_eq_error_iff.mpr failed,
      Plaintext.isInput_of_toBytes_eq_error refused, ?_⟩
    exact List.ne_nil_of_mem (Session.mem_events_of_start_none_eq_ok opened)

/-- A text in place of a byte string, sent to the key of the scalar one, is such a case. -/
theorem not_validatesFirst : ¬∀ (call : EntryPoint) (source : Source) (failure : Failure)
    (events : List Event), call.perform source = ⟨.error failure, events⟩ →
      failure.IsInput → events = [] := by
  intro silent
  have size : (Bytes.zeros 4).length = Sizes.keyId := rfl
  obtain ⟨point, s, events, -, -, opened, -⟩ := Session.exists_start_scalar .one size none
    (.constant (Bytes.zeros 12) .one)
  have read : (PublicKeyInput.bytes (Bytes.zeros 4 ++ point)).toBytes =
      .ok (Bytes.zeros 4 ++ point) := rfl
  have refused : (Plaintext.text "secret").toBytes = .error (.plaintextType "str") := rfl
  have failed := encryptOnce_of_refused read opened refused
  have nothing := silent (.encryptOnce _ _) _ _ _ (Action.ignore_eq_error_iff.mpr failed)
    (Plaintext.isInput_of_toBytes_eq_error refused)
  have drawn := Session.mem_events_of_start_none_eq_ok opened
  rw [nothing] at drawn
  cases drawn

end EntryPoint
end KeyExport
