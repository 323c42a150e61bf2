import KeyExport.Proofs.Secrecy.Session
import KeyExport.Proofs.Workspace.Ledger
import KeyExport.Proofs.Workspace.Logs

set_option autoImplicit false

/-!
# Noninterference

Two runs of like commands give like replies and the same events. The relation between the two
workspaces that carries this says nothing of tokens and sealing keys but their sizes, and of the
records only what stands in front of the token. So no plaintext, nonce, ephemeral scalar, secret or
derived key reaches a log line or an error.
-/

namespace KeyExport

/-- Commands that differ at most in ephemeral scalars and in the contents of plaintexts. -/
inductive Command.Alike : Command → Command → Prop where
  | openSession (slot : String) {opening other : Opening} (openings : opening.Alike other) :
      Alike (.openSession slot opening) (.openSession slot other)
  | encrypt (slot : String) {plaintext other : Plaintext} (plaintexts : plaintext.Alike other) :
      Alike (.encrypt slot plaintext) (.encrypt slot other)
  | encryptRecord (slot : String) {plaintext other : Plaintext}
      (plaintexts : plaintext.Alike other) :
      Alike (.encryptRecord slot plaintext) (.encryptRecord slot other)
  | inspect (slot : String) : Alike (.inspect slot) (.inspect slot)
  | tamper (record : Nat) (tampering : Tampering) :
      Alike (.tamper record tampering) (.tamper record tampering)

/-- The same kind of reply, and the same failure. -/
inductive Reply.Alike : Reply → Reply → Prop where
  | session {s t : Session} (sessions : s.Alike t) : Alike (.session s) (.session t)
  | bytes {data other : Bytes} (wires : WireAlike data other) : Alike (.bytes data) (.bytes other)
  | record {r q : Record} (records : r.Alike q) (wires : ResultRel WireAlike r.encode q.encode) :
      Alike (.record r) (.record q)
  | state {s t : Session} (sessions : s.Alike t) : Alike (.state s) (.state t)
  | reading {r q : Record} {summary other : RecordSummary} (records : r.Alike q)
      (summaries : summary.Alike other) : Alike (.reading r summary) (.reading q other)
  | failed (failure : Failure) : Alike (.failed failure) (.failed failure)
  | noSession : Alike .noSession .noSession
  | noRecord : Alike .noRecord .noRecord

namespace Workspace

structure Alike (w v : Workspace) : Prop where
  sessions : ∀ slot, Option.Rel Session.Alike (w.session? slot) (v.session? slot)
  records : List.Forall₂ WireAlike w.records v.records

theorem alike_empty : empty.Alike empty where
  sessions _ := .none
  records := .nil

variable {w v : Workspace}

theorem Alike.putSession (alike : w.Alike v) (slot : String) {s t : Session}
    (sessions : s.Alike t) : (w.putSession slot s).Alike (v.putSession slot t) where
  sessions other := by
    by_cases same : other = slot
    · subst same
      simpa using Option.Rel.some sessions
    · rw [session?_putSession_of_ne w s same, session?_putSession_of_ne v t same]
      exact alike.sessions other
  records := alike.records

theorem Alike.addRecord (alike : w.Alike v) {data other : Bytes} (wires : WireAlike data other) :
    (w.addRecord data).Alike (v.addRecord other) where
  sessions := alike.sessions
  records := List.rel_append alike.records (.cons wires .nil)

theorem Alike.record? (alike : w.Alike v) (record : Nat) :
    Option.Rel WireAlike w.records[record]? v.records[record]? := by
  have records := alike.records
  generalize w.records = left at records
  generalize v.records = right at records
  induction records generalizing record with
  | nil => exact .none
  | cons wires rest ih =>
    cases record with
    | zero => exact .some wires
    | succ record => simpa using ih record

/-- The next workspaces and the replies to a command are alike. -/
def AnswerAlike (answer other : Workspace × Reply) : Prop :=
  answer.1.Alike other.1 ∧ answer.2.Alike other.2

theorem alike_readTampered {data other : Bytes} (wires : WireAlike data other)
    (tampering : Tampering) :
    ResultRel (fun x y => x.1.Alike y.1 ∧ x.2.Alike y.2) (readTampered data tampering)
      (readTampered other tampering) := by
  have changed := wires.tampered tampering
  apply changed.decode.bind
  intro r q records
  apply changed.summary.bind
  intro summary otherSummary summaries
  exact .ok ⟨records, summaries⟩

theorem alike_perform_openSession (alike : w.Alike v) (slot : String) {opening other : Opening}
    (openings : opening.Alike other) :
    Action.Alike AnswerAlike (w.perform (.openSession slot opening))
      (v.perform (.openSession slot other)) := by
  apply (Opening.alike_start openings).bind
  intro s t sessions
  exact Action.alike_pure ⟨alike.putSession slot sessions, .session sessions⟩

theorem alike_perform_encrypt (alike : w.Alike v) (slot : String) {plaintext other : Plaintext}
    (plaintexts : plaintext.Alike other) :
    Action.Alike AnswerAlike (w.perform (.encrypt slot plaintext))
      (v.perform (.encrypt slot other)) := by
  rcases optionRel_cases (alike.sessions slot) with ⟨left, right⟩ | ⟨s, t, left, right, sessions⟩
  · rw [perform_encrypt_of_none left, perform_encrypt_of_none right]
    exact Action.alike_pure ⟨alike, .noSession⟩
  · rw [perform_encrypt left, perform_encrypt right]
    apply (Session.alike_encrypt sessions plaintexts).bind
    intro data otherData wires
    exact Action.alike_pure ⟨alike.addRecord wires, .bytes wires⟩

theorem alike_perform_encryptRecord (alike : w.Alike v) (slot : String)
    {plaintext other : Plaintext} (plaintexts : plaintext.Alike other) :
    Action.Alike AnswerAlike (w.perform (.encryptRecord slot plaintext))
      (v.perform (.encryptRecord slot other)) := by
  rcases optionRel_cases (alike.sessions slot) with ⟨left, right⟩ | ⟨s, t, left, right, sessions⟩
  · rw [perform_encryptRecord_of_none left, perform_encryptRecord_of_none right]
    exact Action.alike_pure ⟨alike, .noSession⟩
  · rw [perform_encryptRecord left, perform_encryptRecord right]
    apply (Session.alike_encryptRecord sessions plaintexts).bind
    intro r q records
    apply (Action.alike_ofExcept records.encode).bind
    intro data otherData wires
    exact Action.alike_pure ⟨alike.addRecord wires, .record records records.encode⟩

theorem alike_perform_inspect (alike : w.Alike v) (slot : String) :
    Action.Alike AnswerAlike (w.perform (.inspect slot)) (v.perform (.inspect slot)) := by
  rcases optionRel_cases (alike.sessions slot) with ⟨left, right⟩ | ⟨s, t, left, right, sessions⟩
  · simp only [perform, left, right]
    exact Action.alike_pure ⟨alike, .noSession⟩
  · simp only [perform, left, right]
    exact Action.alike_pure ⟨alike, .state sessions⟩

theorem alike_perform_tamper (alike : w.Alike v) (record : Nat) (tampering : Tampering) :
    Action.Alike AnswerAlike (w.perform (.tamper record tampering))
      (v.perform (.tamper record tampering)) := by
  rcases optionRel_cases (alike.record? record) with ⟨left, right⟩ | ⟨data, other, left, right, wires⟩
  · simp only [perform, left, right]
    exact Action.alike_pure ⟨alike, .noRecord⟩
  · simp only [perform, left, right]
    apply (Action.alike_ofExcept (alike_readTampered wires tampering)).bind
    rintro ⟨r, summary⟩ ⟨q, otherSummary⟩ ⟨records, summaries⟩
    exact Action.alike_pure ⟨alike, .reading records summaries⟩

theorem Alike.perform (alike : w.Alike v) {command other : Command}
    (commands : command.Alike other) :
    Action.Alike AnswerAlike (w.perform command) (v.perform other) := by
  cases commands with
  | openSession slot openings => exact alike_perform_openSession alike slot openings
  | encrypt slot plaintexts => exact alike_perform_encrypt alike slot plaintexts
  | encryptRecord slot plaintexts => exact alike_perform_encryptRecord alike slot plaintexts
  | inspect slot => exact alike_perform_inspect alike slot
  | tamper record tampering => exact alike_perform_tamper alike record tampering

/-- What the two runs show of a step is alike, and the workspaces stay so. -/
structure StepAlike (step other : Workspace × Reply × List Event) : Prop where
  next : step.1.Alike other.1
  reply : step.2.1.Alike other.2.1
  events : step.2.2 = other.2.2

theorem Alike.step (alike : w.Alike v) {command other : Command} (commands : command.Alike other)
    {source otherSource : Source} (sources : source.Alike otherSource) :
    StepAlike (w.step command source) (v.step other otherSource) := by
  obtain ⟨result, events⟩ := alike.perform commands source otherSource sources
  rcases left : w.perform command source with ⟨leftResult, before⟩
  rcases right : v.perform other otherSource with ⟨rightResult, rightBefore⟩
  rw [left, right] at result events
  simp only at result events
  subst events
  cases result with
  | error failure =>
    rw [step_of_error left, step_of_error right]
    exact ⟨alike, .failed failure, rfl⟩
  | ok answers =>
    rw [step_of_ok left, step_of_ok right]
    exact ⟨answers.1, answers.2, rfl⟩

/-- Step by step, the same events keep the sources alike, and alike workspaces stay so. -/
theorem Alike.run (alike : w.Alike v) {commands others : List Command}
    (each : List.Forall₂ Command.Alike commands others) {source other : Source}
    (sources : source.Alike other) :
    List.Forall₂ (fun x y => x.1.Alike y.1 ∧ x.2 = y.2) (w.run commands source)
      (v.run others other) := by
  induction each generalizing w v source other with
  | nil => exact .nil
  | @cons command otherCommand _ _ first _ ih =>
    have step := alike.step first sources
    have later : (source.after (w.step command source).2.2).Alike
        (other.after (v.step otherCommand other).2.2) := by
      rw [step.events]
      exact sources.after _
    exact .cons ⟨step.reply, step.events⟩ (ih step.next later)

/-- Take two runs of the same commands with the same public keys, where plaintexts have the same
type and size, nonces the same sizes, and ephemeral keys are any scalars of P-256. At every step
both runs fail with the same failure or both succeed; they draw, compute and log the same, in the
same order; and the records that they produce have the same length and the same first five bytes.
What a step logs on success is one line for a session, one line for a record, and nothing for an
unserialized record. -/
theorem noninterference {commands others : List Command}
    (each : List.Forall₂ Command.Alike commands others) {source other : Source}
    (sources : ∀ i, (source.nonce i).length = (other.nonce i).length) :
    List.Forall₂ (fun x y => x.1.Alike y.1 ∧ x.2 = y.2) (run empty commands source)
        (run empty others other) ∧
      List.Forall₂ (fun command entry => Logged entry.1 entry.2 command) commands
        (run empty commands source) :=
  ⟨alike_empty.run each sources, sound_empty.logged_run commands source⟩

/-- One session with a scalar of its own and one with a given scalar, from the two ends of the
range. -/
theorem noninterference_one_last : ∃ point s events,
    (PrivateKey.ofScalar .one).publicCoordinates.encode = .ok point ∧
      Session.start (Bytes.zeros 4 ++ point) none (.constant (Bytes.zeros 12) .one) =
        ⟨.ok s, events⟩ ∧
      List.Forall₂ (fun x y => x.1.Alike y.1 ∧ x.2 = y.2)
        (run empty
          [.openSession "drawn" (.bytes (Bytes.zeros 4 ++ point) none),
            .openSession "given" (.bytes (Bytes.zeros 4 ++ point)
              (some (.serialized (Bytes.ofNat Sizes.scalar Curve.Scalar.one.value)))),
            .encrypt "drawn" (.bytes [1, 2, 3]), .encryptRecord "given" (.text "one")]
          (.constant (Bytes.zeros 12) .one))
        (run empty
          [.openSession "drawn" (.bytes (Bytes.zeros 4 ++ point) none),
            .openSession "given" (.bytes (Bytes.zeros 4 ++ point)
              (some (.serialized (Bytes.ofNat Sizes.scalar Curve.Scalar.last.value)))),
            .encrypt "drawn" (.bytes [4, 5, 6]), .encryptRecord "given" (.text "last")]
          (.constant (List.replicate 12 255) .last)) := by
  obtain ⟨point, s, events, -, serialized, opened, -, -, -⟩ := Session.exists_start_scalar .one
    (Bytes.length_zeros 4) none (.constant (Bytes.zeros 12) .one)
  have materials : KeyMaterial.Alike
      (.serialized (Bytes.ofNat Sizes.scalar Curve.Scalar.one.value))
      (.serialized (Bytes.ofNat Sizes.scalar Curve.Scalar.last.value)) :=
    ⟨.one, .last, PrivateKey.decode_ofNat .one, PrivateKey.decode_ofNat .last⟩
  refine ⟨point, s, events, serialized, opened, (noninterference ?_ ?_).1⟩
  · refine .cons (.openSession _ ⟨rfl, .none⟩) (.cons (.openSession _ ⟨rfl, .some materials⟩) ?_)
    exact .cons (.encrypt _ (.bytes rfl)) (.cons (.encryptRecord _ (.text _ _)) .nil)
  · intro i
    rfl

end Workspace
end KeyExport
