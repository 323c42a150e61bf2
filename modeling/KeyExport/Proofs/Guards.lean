import KeyExport.Proofs.KeyAgreement
import KeyExport.Proofs.Sealing

set_option autoImplicit false

/-!
# Guarded primitives

Whatever the exchange and the cipher do, each is reached with checked arguments only and once at
most, and its answer is settled by one rule: an answer of the right size is returned, a refusal
becomes a failure in the words of the primitive, and any other fault is handed on as it came.
-/

namespace KeyExport

/-- How a call settles the answer of a primitive: its result, and what it has logged. -/
inductive Settles (size : Nat) (category : Category) (refusals : List GeneralCategory)
    (log : String → List LogEntry) : Except Fault Bytes → Outcome Bytes → Prop where
  | fits {data : Bytes} (right : data.length = size) :
    Settles size category refusals log (.ok data) ⟨.ok data, []⟩
  | misfits {data : Bytes} {failure : Failure} (wrong : data.length ≠ size)
    (kind : failure.category = category) :
    Settles size category refusals log (.ok data) ⟨.error failure, []⟩
  | refused {fault : Fault} {failure : Failure} (listed : fault.category ∈ refusals)
    (kind : failure.category = category)
    (worded : ∃ before, failure.report.message = some (before ++ fault.text)) :
    Settles size category refusals log (.error fault)
      ⟨.error failure, (log fault.text).map .logged⟩
  | handedOn {fault : Fault} {failure : Failure} (unlisted : fault.category ∉ refusals)
    (unchanged : failure.report = ⟨.general fault.category, some fault.text, none⟩) :
    Settles size category refusals log (.error fault) ⟨.error failure, []⟩

/-- A failure is worded by the call, or it is a fault that was handed on. -/
theorem Settles.category_cases {size : Nat} {category : Category} {refusals : List GeneralCategory}
    {log : String → List LogEntry} {answer : Except Fault Bytes} {outcome : Outcome Bytes}
    {failure : Failure} (settles : Settles size category refusals log answer outcome)
    (failed : outcome.result = .error failure) :
    failure.category = category ∨
      ∃ fault, answer = .error fault ∧ fault.category ∉ refusals ∧
        failure.category = .general fault.category := by
  cases settles with
  | fits right => cases failed
  | misfits wrong kind =>
    cases failed
    exact .inl kind
  | refused listed kind worded =>
    cases failed
    exact .inl kind
  | handedOn unlisted unchanged =>
    cases failed
    exact .inr ⟨_, rfl, unlisted, congrArg Report.category unchanged⟩

namespace KeyAgreement

theorem settles_settle (answer : Except Fault Bytes) (source : Source) :
    Settles Sizes.secret .keyAgreement [.invalidValue] (fun text => [.agreementRefused text]) answer
      (settle answer source) := by
  cases answer with
  | ok secret =>
    by_cases size : secret.length = Sizes.secret
    · rw [settle, if_pos size]
      exact .fits size
    · rw [settle, if_neg size]
      exact .misfits size rfl
  | error fault =>
    by_cases refused : fault.category = .invalidValue
    · rw [settle, if_pos refused]
      exact .refused (List.mem_singleton.mpr refused) rfl ⟨_, rfl⟩
    · rw [settle, if_neg refused]
      exact .handedOn (mt List.mem_singleton.mp refused) rfl

/-- An invalid point fails for every exchange alike. A valid one meets the exchange once. -/
theorem agree_cases (exchange : Exchange) (point : Coordinates) (source : Source) :
    (∃ failure, point.check = .error failure ∧
        agree exchange point source = ⟨.error failure, []⟩) ∨
      ∃ peer, point.check = .ok point ∧ point.toPoint = .ok peer ∧
        agree exchange point source = ⟨(settle (exchange peer) source).result,
          .computed .exchange :: (settle (exchange peer) source).events⟩ := by
  cases checked : point.check with
  | error failure =>
    exact .inl ⟨failure, rfl, by simp [agree_of_check_eq_error _ checked]⟩
  | ok q =>
    obtain ⟨x, y, rfl, onCurve⟩ := Coordinates.exists_val_of_check_eq_ok checked
    refine .inr ⟨.affine x y, ?_, Coordinates.toPoint_val onCurve, agree_apply _ onCurve _⟩
    rw [← checked, Coordinates.check_val onCurve]

end KeyAgreement

namespace Sealing

theorem settles_settle (plaintext : Bytes) (answer : Except Fault Bytes) (source : Source) :
    Settles (plaintext.length + Sizes.tag) .encryption [.invalidValue, .overflow] (fun _ => [])
      answer (settle plaintext answer source) := by
  cases answer with
  | ok data =>
    by_cases size : data.length = plaintext.length + Sizes.tag
    · rw [settle, if_pos size]
      exact .fits size
    · rw [settle, if_neg size]
      exact .misfits size rfl
  | error fault =>
    have listed : fault.category ∈ [GeneralCategory.invalidValue, .overflow] ↔
        fault.category = .invalidValue ∨ fault.category = .overflow := by simp
    by_cases refused : fault.category = .invalidValue ∨ fault.category = .overflow
    · rw [settle, if_pos refused]
      exact .refused (listed.mpr refused) rfl ⟨_, rfl⟩
    · rw [settle, if_neg refused]
      exact .handedOn (mt listed.mp refused) rfl

end Sealing

/-- For every behaviour of the exchange and of the cipher: an exchange is reached with a valid point
only, and returns 32 bytes or fails; a refusal leaves one warning behind, and nothing else does. A
cipher is reached once the key and then the nonce have their sizes, and returns what it was given
and sixteen bytes, or fails. -/
theorem primitives_guarded :
    (∀ (exchange : Exchange) (point : Coordinates) (source : Source),
      (∃ failure, point.check = .error failure ∧
          KeyAgreement.agree exchange point source = ⟨.error failure, []⟩) ∨
        ∃ peer settled, point.check = .ok point ∧ point.toPoint = .ok peer ∧
          KeyAgreement.agree exchange point source =
            ⟨settled.result, .computed .exchange :: settled.events⟩ ∧
          Settles 32 .keyAgreement [.invalidValue] (fun text => [.agreementRefused text])
            (exchange peer) settled) ∧
      (∀ text, (LogEntry.agreementRefused text).level = .warning) ∧
      ∀ (cipher : Cipher) (key nonce plaintext : Bytes) (source : Source),
        key.length ≠ 16 ∧ Sealing.encrypt cipher key nonce plaintext source =
            ⟨.error (.sealingKeySize key.length), []⟩ ∨
          key.length = 16 ∧ nonce.length ≠ 12 ∧
            Sealing.encrypt cipher key nonce plaintext source =
              ⟨.error (.nonceSize nonce.length), []⟩ ∨
          key.length = 16 ∧ nonce.length = 12 ∧ ∃ settled,
            Sealing.encrypt cipher key nonce plaintext source =
                ⟨settled.result, .computed .cipher :: settled.events⟩ ∧
              Settles (plaintext.length + 16) .encryption [.invalidValue, .overflow] (fun _ => [])
                (cipher key nonce plaintext) settled := by
  refine ⟨?_, fun _ => rfl, ?_⟩
  · intro exchange point source
    rcases KeyAgreement.agree_cases exchange point source with
      invalid | ⟨peer, valid, imported, outcome⟩
    · exact .inl invalid
    · exact .inr ⟨peer, _, valid, imported, outcome, KeyAgreement.settles_settle _ source⟩
  · intro cipher key nonce plaintext source
    rcases Sealing.encrypt_cases cipher key nonce plaintext source with
      wrongKey | wrongNonce | ⟨keySize, nonceSize, outcome⟩
    · exact .inl wrongKey
    · exact .inr (.inl wrongNonce)
    · exact .inr (.inr ⟨keySize, nonceSize, _, outcome, Sealing.settles_settle _ _ source⟩)

end KeyExport
